import Blockstor.Quorum.Tiebreaker
import Blockstor.Framework.Transition

namespace Blockstor.Quorum

open Framework Shell Options Store Option

section Writes

variable {s t : State} {value : String}

def Seen (s : State) (rd : Nat × Definition) : Prop :=
  rd.1 ≤ s.definition.rv ∧ s.definition.version rd.1=some rd.2

def Stamps (value : String) (s t : State) : Prop :=
  t=s ∨ ∃rd,s.definition.now=some rd ∧
    t={s with definition := s.definition.push (some (stampQuorum value rd))}

theorem serve_update {rd : Nat × Definition} (hseen : Seen s rd) :
    Stamps value s (serve s (.updateDefinition rd.1 (stampQuorum value rd.2))).2 := by
  simp only [serve]
  cases hnow : s.definition.now with
  | none => exact .inl rfl
  | some now =>
    dsimp only
    split
    · rename_i hrv
      have hsame : some rd.2=some now := by
        rw [← hseen.2,hrv]
        exact hnow
      refine .inr ⟨now,hnow,?_⟩
      rw [some.inj hsame]
    · exact .inl rfl

theorem update_conflict {rv : Nat} {rd : Definition}
    (h : Step s (.updateDefinition rv rd) (.error .conflict) t) : t=s := by
  rcases h with ⟨ha,ht⟩|⟨ha,_⟩
  · simp only [serve] at ha ht
    cases hnow : s.definition.now with
    | none =>
      rw [hnow] at ha
      cases ha
    | some now =>
      rw [hnow] at ha ht
      dsimp only at ha ht
      split at ha
      · cases ha
      · rename_i hrv
        rw [if_neg hrv] at ht
        exact ht
  · cases ha

theorem exec_setQuorumTry (attempts : Nat) {rd : Nat × Definition} {r : Except Err Unit}
    (hseen : Seen s rd) (h : Exec Step (setQuorumTry value attempts rd) s r t) :
    Stamps value s t := by
  induction attempts generalizing rd with
  | zero => exact .inl (exec_throw.mp h).2
  | succ attempts ih =>
    obtain ⟨rv,rd⟩ := rd
    unfold setQuorumTry at h
    split at h
    · exact .inl (exec_pure.mp h).2
    · obtain ⟨a,u,ha,hrest⟩ := exec_ask.mp h
      have hu : Stamps value s u := by
        rcases ha with ⟨_,hu⟩|⟨_,hu|hu⟩
        · rw [hu]
          exact serve_update hseen
        · exact .inl hu
        · rw [hu]
          exact serve_update hseen
      cases a with
      | ok a =>
        obtain ⟨_,rfl⟩ := exec_pure.mp hrest
        exact hu
      | error e =>
        dsimp only at hrest
        split at hrest
        · obtain ⟨_,rfl⟩ := exec_throw.mp hrest
          exact hu
        · rename_i hconflict
          obtain rfl := Decidable.not_not.mp hconflict
          obtain rfl := update_conflict ha
          rcases exec_bind.mp hrest with ⟨e,hread,_⟩|⟨fresh,v,hread,hnext⟩
          · exact .inl (exec_api.mp hread).1
          · obtain ⟨rfl,hlost|hlags⟩ := exec_api.mp hread
            · cases hlost
            · rcases hlags with hlags|⟨k,rd,hk,hversion,hlags⟩
              · cases hlags
              · cases hlags
                exact ih ⟨hk,hversion⟩ hnext

end Writes

section Effective

def scopeValue (s : Stored) : Option String :=
  (s.typed.bind (·.applied onNoQuorumKey)).or (s.plain onNoQuorumKey)

def effective (c : Cluster) (target : Object ResourceSpec) (rd : Definition) : Option String :=
  (resolve c (some target) (some rd)).find onNoQuorumKey

def above (c : Cluster) (target : Object ResourceSpec) (rd : Definition) : Option String :=
  (scopeValue (scopes c target (some rd)).group).or (scopeValue (scopes c target (some rd)).controller)

variable {c : Cluster} {target : Object ResourceSpec} {rd : Definition} {value : String}

theorem effective_eq : effective c target rd=
    (scopeValue target.spec.stored).or ((scopeValue rd.spec.stored).or (above c target rd)) := by
  have hdrbd : hasDRBDPrefix onNoQuorumKey=true := by decide
  have hdefinition : (scopes c target (some rd)).definition=rd.spec.stored := by
    unfold scopes scopeInputs
    dsimp only
    split
    · rfl
    · split <;> rfl
  unfold effective above
  rw [find_resolve,if_pos hdrbd]
  change [target.spec.stored,(scopes c target (some rd)).definition,(scopes c target (some rd)).group,
    (scopes c target (some rd)).controller].findSome? scopeValue=_
  rw [hdefinition]
  simp only [List.findSome?_cons,List.findSome?_nil]
  cases scopeValue target.spec.stored <;> cases scopeValue rd.spec.stored <;>
    cases scopeValue (scopes c target (some rd)).group <;>
    cases scopeValue (scopes c target (some rd)).controller <;> rfl

theorem scopeValue_eq : scopeValue rd.spec.stored=
    (nonempty (resourceOptions rd).onNoQuorum).or (rd.spec.stored.plain onNoQuorumKey) := by
  have hkey : onNoQuorumKey=Field.onNoQuorum.key := rfl
  unfold scopeValue resourceOptions
  congr 1
  change rd.spec.drbdOptions.bind (·.applied onNoQuorumKey)=_
  cases rd.spec.drbdOptions with
  | none => rfl
  | some o =>
    rw [bind_some,bind_some,DRBDOptions.applied,if_neg (by decide),hkey,value_key]
    change o.resource.bind (fun res => nonempty res.onNoQuorum)=_
    cases o.resource <;> rfl

theorem above_stamp : above c target (stampQuorum value rd)=above c target rd := by
  have hgroup : (scopes c target (some (stampQuorum value rd))).group=
      (scopes c target (some rd)).group := by
    change (scopeInputs c (some (stampQuorum value rd))).1=(scopeInputs c (some rd)).1
    unfold scopeInputs
    dsimp only [stampQuorum]
    split
    · rfl
    · split <;> rfl
  unfold above
  rw [hgroup]
  rfl

theorem resourceOptions_stamp :
    resourceOptions (stampQuorum value rd)=stampResource value (resourceOptions rd) := rfl

theorem plain_stamp (h : value≠quorumPolicyMajority) :
    (stampQuorum value rd).spec.stored.plain onNoQuorumKey=rd.spec.stored.plain onNoQuorumKey := by
  have hne : onNoQuorumKey≠quorumKey := by decide
  change (rd.spec.extraProps.find onNoQuorumKey).or
    ((seedOnNoQuorum value (rd.spec.props.set quorumKey value)).find onNoQuorumKey)=
      (rd.spec.extraProps.find onNoQuorumKey).or (rd.spec.props.find onNoQuorumKey)
  unfold seedOnNoQuorum
  rw [if_neg fun h' => h h'.1,Dict.find_set,if_neg hne]

/-- The value is set on the resource, or as the definition's option, or it is the one that would be
seeded. -/
def Pinned (target : Object ResourceSpec) (rd : Definition) (v : String) : Prop :=
  scopeValue target.spec.stored≠none ∨ (resourceOptions rd).onNoQuorum≠"" ∨ v=onNoQuorumSeed

theorem effective_stamp : effective c target (stampQuorum value rd)=
    if value=quorumPolicyMajority ∧ scopeValue target.spec.stored=none ∧
      (resourceOptions rd).onNoQuorum="" then some onNoQuorumSeed else effective c target rd := by
  rw [effective_eq,effective_eq,scopeValue_eq,scopeValue_eq,above_stamp,resourceOptions_stamp]
  unfold stampResource
  dsimp only
  by_cases hvalue : value=quorumPolicyMajority
  · by_cases htyped : (resourceOptions rd).onNoQuorum=""
    · rw [if_pos ⟨hvalue,htyped⟩]
      cases hres : scopeValue target.spec.stored with
      | none =>
        rw [if_pos ⟨hvalue,rfl,htyped⟩]
        rfl
      | some v =>
        rw [if_neg (by simp)]
        rfl
    · rw [if_neg fun h => htyped h.2,if_neg fun h => htyped h.2.2]
      have hsome : nonempty (resourceOptions rd).onNoQuorum=some (resourceOptions rd).onNoQuorum :=
        if_neg htyped
      rw [hsome]
      rfl
  · rw [if_neg fun h => hvalue h.1,if_neg fun h => hvalue h.1,plain_stamp hvalue]

end Effective

section Calls

variable {c : Cluster} {target : Object ResourceSpec} {rd : Definition} {s t : State}

/-- A call with the definition as it was read at some time, however the API server answers. -/
def Call (s : State) (x : (Nat × Definition) × String) (t : State) : Prop :=
  Seen s x.1 ∧ ∃r,Exec Step (setQuorum x.1 x.2) s r t

def State.effective (s : State) (c : Cluster) (target : Object ResourceSpec) : Option String :=
  s.definition.now.bind (Quorum.effective c target)

def Kept (c : Cluster) (target : Object ResourceSpec) (s : State) : Prop :=
  ∀v,s.effective c target=some v → ∀calls t,Run Call s calls t → t.effective c target=some v

def State.Pinned (s : State) (c : Cluster) (target : Object ResourceSpec) : Prop :=
  ∀v,s.effective c target=some v → ∃rd,s.definition.now=some rd ∧ Quorum.Pinned target rd v

def Holds (c : Cluster) (target : Object ResourceSpec) (v : String) (s : State) : Prop :=
  ∃rd,s.definition.now=some rd ∧ effective c target rd=some v ∧ Pinned target rd v

theorem Holds.step {v : String} {x : (Nat × Definition) × String} (h : Holds c target v s)
    (hcall : Call s x t) : Holds c target v t := by
  obtain ⟨hseen,r,hexec⟩ := hcall
  rcases exec_setQuorumTry 3 hseen hexec with rfl|⟨rd,hnow,rfl⟩
  · exact h
  · obtain ⟨rd',hnow',heffective,hpinned⟩ := h
    obtain rfl : rd=rd' := some.inj (hnow.symm.trans hnow')
    refine ⟨stampQuorum x.2 rd,Versioned.now_push _ _,?_,?_⟩
    · rw [effective_stamp]
      split
      · rename_i hseed
        rcases hpinned with hres|htyped|rfl
        · exact absurd hseed.2.1 hres
        · exact absurd hseed.2.2 htyped
        · rfl
      · exact heffective
    · rcases hpinned with hres|htyped|hseed
      · exact .inl hres
      · refine .inr (.inl ?_)
        rw [resourceOptions_stamp,stampResource,if_neg fun h => htyped h.2]
        exact htyped
      · exact .inr (.inr hseed)

theorem majority_call {rd : Definition} (hnow : s.definition.now=some rd)
    (htyped : (resourceOptions rd).onNoQuorum="") :
    Call s ((s.definition.rv,rd),quorumPolicyMajority) {s with
      definition := s.definition.push (some (stampQuorum quorumPolicyMajority rd))} := by
  refine ⟨⟨Nat.le_refl _,hnow⟩,.ok (),?_⟩
  have hopen : quorumPropsAlreadySet rd quorumPolicyMajority=false := by
    unfold quorumPropsAlreadySet
    unfold resourceOptions at htyped
    cases hres : rd.spec.drbdOptions.bind (·.resource) with
    | none => simp
    | some res =>
      rw [hres,getD_some] at htyped
      simp [htyped]
  unfold setQuorum setQuorumTry
  rw [hopen,if_neg Bool.false_ne_true]
  refine exec_ask.mpr ⟨.ok (),_,.inl ⟨?_,?_⟩,.done _ _⟩
  · simp only [serve,hnow,if_true]
  · simp only [serve,hnow,if_true]

/-- The definition without its options, and one of its properties. -/
def besides (k : String) (rd : Definition) : Definition × Option String :=
  ({rd with spec := {rd.spec with props := .empty, drbdOptions := none}},rd.spec.props.find k)

/-- No calls change anything but the two properties and the options of the definition. -/
theorem calls_frame {calls : List ((Nat × Definition) × String)} {k : String}
    (h : Run Call s calls t) (hq : k≠quorumKey) (hn : k≠onNoQuorumKey) :
    {t with definition := s.definition}=s ∧
      t.definition.now.map (besides k)=s.definition.now.map (besides k) := by
  refine h.invariant (fun u => {u with definition := s.definition}=s ∧
    u.definition.now.map (besides k)=s.definition.now.map (besides k)) ?_ ⟨rfl,rfl⟩
  intro u x v hu hcall
  obtain ⟨hseen,r,hexec⟩ := hcall
  rcases exec_setQuorumTry 3 hseen hexec with rfl|⟨rd,hnow,rfl⟩
  · exact hu
  · have hfind : (seedOnNoQuorum x.2 (rd.spec.props.set quorumKey x.2)).find k=rd.spec.props.find k := by
      unfold seedOnNoQuorum
      split <;> simp [Dict.find_set,hq,hn]
    rw [Versioned.now_push,← hu.2,hnow]
    exact ⟨hu.1,congrArg (fun v => some (_,v)) hfind⟩

/-- The value set by the operator is kept exactly where it is pinned: a value among the definition's
properties or at a scope above it is overruled by the option that goes with a majority. -/
theorem kept_iff_pinned (c : Cluster) (target : Object ResourceSpec) (s : State) :
    Kept c target s ↔ s.Pinned c target := by
  constructor
  · intro h v hv
    obtain ⟨rd,hnow,heffective⟩ := bind_eq_some_iff.mp hv
    refine ⟨rd,hnow,?_⟩
    by_cases hres : scopeValue target.spec.stored=none
    · by_cases htyped : (resourceOptions rd).onNoQuorum=""
      · have hafter := h v hv _ _ (.cons _ _ _ _ _ (majority_call hnow htyped) (.nil _))
        unfold State.effective at hafter
        rw [Versioned.now_push,bind_some,effective_stamp,if_pos ⟨rfl,hres,htyped⟩] at hafter
        exact .inr (.inr (some.inj hafter).symm)
      · exact .inr (.inl htyped)
    · exact .inl hres
  · intro h v hv calls t hrun
    obtain ⟨rd,hnow,hpinned⟩ := h v hv
    have heffective : effective c target rd=some v := by
      unfold State.effective at hv
      rw [hnow,bind_some] at hv
      exact hv
    obtain ⟨rd',hnow',heffective',_⟩ := hrun.invariant (Holds c target v)
      (fun _ _ _ hs hstep => hs.step hstep) ⟨rd,hnow,heffective,hpinned⟩
    unfold State.effective
    rw [hnow',bind_some]
    exact heffective'

end Calls

def ioErrorDefinition : Definition where
  name := "pvc-1"
  annotations := .empty
  deleting := false
  spec := ⟨"","",Dict.empty.set onNoQuorumKey "io-error",[],[],[],none,none,.empty,none,none⟩

def ioErrorState : State :=
  ⟨⟨[],List.nodup_nil⟩,⟨[],List.nodup_nil⟩,.empty,.start (some ioErrorDefinition),0⟩

def plainReplica : Object ResourceSpec where
  name := "pvc-1.n1"
  annotations := .empty
  deleting := false
  spec := ⟨"pvc-1","n1",.empty,[],none,.empty,"",[],false,none,none,none⟩

theorem majority_frame : ∃t,Call ioErrorState ((0,ioErrorDefinition),quorumPolicyMajority) t ∧
    t.definition.now.map (besides "x")=some (besides "x" ioErrorDefinition) :=
  ⟨_,majority_call rfl (by decide),(calls_frame (.cons _ _ _ _ _ (majority_call rfl (by decide))
    (.nil _)) (by decide) (by decide)).2⟩

/-- The seeded option takes the place of the operator's property. -/
theorem io_error_overruled : ¬Kept ⟨none,.empty⟩ plainReplica ioErrorState := by
  intro h
  have hafter := h "io-error" (by decide) _ _
    (.cons _ _ _ _ _ (majority_call rfl (by decide)) (.nil _))
  unfold State.effective at hafter
  rw [Versioned.now_push,bind_some,effective_stamp,if_pos ⟨rfl,by decide,by decide⟩] at hafter
  exact absurd hafter (by decide)

end Blockstor.Quorum
