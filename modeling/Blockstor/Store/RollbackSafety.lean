import Blockstor.Framework.Pool
import Blockstor.Store.RollbackProtocol

namespace Blockstor.Store

open Framework Shell Text Pool List

/-- Who works on the definition side by side: rollbacks of both doors, adoption claims and
take-overs of stale marks, any number of each. -/
inductive Party
  | rollback (n : Nat)
  | compensate (n : Nat) (scope : Rest.RollbackScope) (cascade : Rest.Cascade)
  | claim (n : Nat) (snap : Option (List VolumeDef))
  | takeOver (n : Nat)
  deriving DecidableEq

def Party.prog (rdName : String) : Party → Prog Unit
  | .rollback _ => rollbackRestore rdName
  | .compensate _ scope cascade => Rest.rollBackCompensating rdName scope cascade
  | .claim _ snap => claimAdoptedLeftover rdName snap
  | .takeOver _ => do
    let _ ← takeOverStaleRollback rdName
    pure ()

def Party.stage : Party → Stage
  | .rollback _ => .fresh
  | .compensate _ _ _ => .fresh
  | _ => .over

def rollbacks (rdName : String) : Workload State Party Answer Err Unit Stage Change where
  prog := Party.prog rdName
  protocol i := {holding rdName with start := i.stage}
  env := Step
  other := Changes

abbrev Rollbacks := Pool State Party Answer Err Unit Stage

section

variable {rdName : String} {s t : State}

theorem step_listed (c : Cmd) (a : Answer c) (h : Step s c a t) : Listed c a := by
  obtain ⟨ctx,op⟩ := c
  cases op with
  | listReplicas rd =>
    rcases h with ⟨_,rfl,_⟩|⟨hlag,_⟩|⟨hfail,_⟩
    · trivial
    · exact hlag.elim
    · cases hfail
      exact nofun
  | _ => trivial

theorem rollbacks_sound (rdName : String) : Sound (rollbacks rdName) where
  follows i := by
    have hstart {p : Prog Unit} {m : Stage} (h : p.Follows (holding rdName) m fun _ _ => True) :
        p.Follows {holding rdName with start := i.stage} m fun _ _ => True := by
      induction p generalizing m with
      | done a => trivial
      | fail e => trivial
      | ask c next ih => exact ⟨h.1,fun a ha => ih a (h.2 a ha)⟩
    refine hstart ?_
    cases i with
    | rollback n => exact rollbackRestore_follows
    | compensate n scope cascade => exact rollBackCompensating_follows scope cascade
    | claim n snap => exact free_claimAdoptedLeftover snap _
    | takeOver n => exact (free_takeOverStaleRollback.bind fun _ => free_pure _) _
  answers _ s c a t h := step_listed c a h

/-- Every definition has a uid of its own, and one with a standing claim shows that it is adopted. -/
structure Ledger (s : State) : Prop where
  known : ∀d∈s.definitions,d.uid<s.uids
  single : ∀a∈s.definitions,∀b∈s.definitions,a.uid=b.uid → a=b
  claimed : ∀c∈s.claims,c.1<s.uids
  adopted : ∀d∈s.definitions,∀token,(d.uid,token)∈s.claims → d.props.restoreAdopted≠none

variable (rdName) in
def Exposed (s : State) : Prop := ∃d,s.definition rdName=some d ∧
  (∃token,(d.uid,token)∈s.claims) ∧ d.props.rollbackAbandoned=some .inProgress

theorem definition_modify (s : State) (rd name : String) (f : Definition → Definition)
    (hf : ∀d,(f d).key=d.key) : (s.modifyDefinition name f hf).definition rd=
      (s.definition rd).map fun d => if d.key=fold name then f d else d :=
  s.definitions.get?_modify (fold name) (fold rd) f hf

theorem Ledger.modify (h : Ledger s) (name : String) (f : Definition → Definition)
    (hf : ∀d,(f d).key=d.key) (huid : ∀d,(f d).uid=d.uid) (claims : List (Nat × Nat))
    (hclaims : ∀c∈claims,c∈s.claims ∨ ∃d,s.definition name=some d ∧ c.1=d.uid)
    (hadopted : ∀d,s.definition name=some d → ∀token,(d.uid,token)∈claims →
      (f d).props.restoreAdopted≠none) :
    Ledger {s.modifyDefinition name f hf with claims} where
  known x hx := by
    rcases (s.definitions.mem_modify _ f hf x).mp hx with ⟨b,hb,_,rfl⟩|⟨hx,_⟩
    · rw [huid]
      exact h.known b hb
    · exact h.known x hx
  single x hx y hy heq := by
    have hback (z : Definition) (hz : z∈(s.definitions.modify (fold name) f hf)) :
        ∃b∈s.definitions,b.uid=z.uid ∧ z=if b.key=fold name then f b else b := by
      rcases (s.definitions.mem_modify _ f hf z).mp hz with ⟨b,hb,hk,rfl⟩|⟨hz,hk⟩
      · exact ⟨b,hb,(huid b).symm,by rw [if_pos hk]⟩
      · exact ⟨z,hz,rfl,by rw [if_neg hk]⟩
    obtain ⟨a,ha,hau,rfl⟩ := hback x hx
    obtain ⟨b,hb,hbu,rfl⟩ := hback y hy
    rw [h.single a ha b hb (hau.trans (heq.trans hbu.symm))]
  claimed c hc := by
    rcases hclaims c hc with hc|⟨d,hd,heq⟩
    · exact h.claimed c hc
    · rw [heq]
      exact h.known d ((s.definitions.get?_eq_some _ d).mp hd).1
  adopted x hx token htoken := by
    rcases (s.definitions.mem_modify _ f hf x).mp hx with ⟨b,hb,hk,rfl⟩|⟨hx,hk⟩
    · rw [huid] at htoken
      exact hadopted b ((s.definitions.get?_eq_some _ b).mpr ⟨hb,hk⟩) token htoken
    · rcases hclaims _ htoken with hc|⟨d,hd,heq⟩
      · exact h.adopted x hx token hc
      · have hdd := (s.definitions.get?_eq_some _ d).mp hd
        rw [h.single x hx d hdd.1 heq] at hk
        exact absurd hdd.2 hk

theorem Ledger.same (h : Ledger s) (hdefs : t.definitions=s.definitions) (huids : t.uids=s.uids)
    (hclaims : t.claims=s.claims) : Ledger t where
  known d hd := by
    rw [huids]
    exact h.known d (hdefs ▸ hd)
  single a ha b hb := h.single a (hdefs ▸ ha) b (hdefs ▸ hb)
  claimed c hc := by
    rw [huids]
    exact h.claimed c (hclaims ▸ hc)
  adopted d hd token ht := h.adopted d (hdefs ▸ hd) token (hclaims ▸ ht)

theorem Ledger.erase (h : Ledger s) (name : String) :
    Ledger {s with definitions := s.definitions.erase (fold name)} where
  known d hd := h.known d ((s.definitions.mem_erase _ d).mp hd).1
  single a ha b hb :=
    h.single a ((s.definitions.mem_erase _ a).mp ha).1 b ((s.definitions.mem_erase _ b).mp hb).1
  claimed := h.claimed
  adopted d hd := h.adopted d ((s.definitions.mem_erase _ d).mp hd).1

theorem Ledger.create (h : Ledger s) (name : String) (props : DefinitionProps) :
    Ledger (serve s (.createDefinition name props)).2 := by
  rcases serve_create s name props with ⟨hfree,heq⟩|heq
  · rw [heq]
    have hfree' := (s.definitions.get?_eq_none _).mp hfree
    have hmem (d : Definition) (hd : d∈(s.create ⟨name,s.uids,props,false,[]⟩ hfree).definitions) :
        d∈s.definitions ∨ d=⟨name,s.uids,props,false,[]⟩ :=
      (s.definitions.mem_insert _ hfree' d).mp hd
    refine ⟨fun d hd => ?_,fun a ha b hb heq => ?_,fun c hc => Nat.lt_succ_of_lt (h.claimed c hc),
      fun d hd token htoken => ?_⟩
    · rcases hmem d hd with hd|rfl
      · exact Nat.lt_succ_of_lt (h.known d hd)
      · exact Nat.lt_succ_self _
    · rcases hmem a ha with ha|rfl
      · rcases hmem b hb with hb|rfl
        · exact h.single a ha b hb heq
        · exact absurd heq (Nat.ne_of_lt (h.known a ha))
      · rcases hmem b hb with hb|rfl
        · exact absurd heq.symm (Nat.ne_of_lt (h.known b hb))
        · rfl
    · rcases hmem d hd with hd|rfl
      · exact h.adopted d hd token htoken
      · exact absurd (h.claimed _ htoken) (Nat.lt_irrefl _)
  · rw [heq]
    exact h

variable (name : String)

theorem serve_patch (patch : DefinitionPatch) :
    (∃e,serve s (.patchDefinition name patch)=(.error e,s)) ∨
    ∃d props kept,s.definition name=some d ∧ patch.mutate s.now d.props=.ok (props,kept) ∧
      serve s (.patchDefinition name patch)=(.ok kept,s.writeProps name props (patch.claims d.uid)) := by
  simp only [serve]
  split
  · exact .inl ⟨_,rfl⟩
  · rename_i d hd
    split
    · exact .inl ⟨_,rfl⟩
    · rename_i props kept hmutate
      exact .inr ⟨d,props,kept,hd,hmutate,rfl⟩

variable {props props' : DefinitionProps} {patch : DefinitionPatch} {now : Nat} {kept : Bool}

theorem adopted_mutate (h : patch.mutate now props=.ok (props',kept))
    (hwas : props.restoreAdopted≠none ∨ ∃token snap,patch=.claim token snap) :
    props'.restoreAdopted≠none := by
  cases patch with
  | claim token snap =>
    simp only [DefinitionPatch.mutate] at h
    split at h
    · cases h
    · cases h
      exact nofun
  | setRollbackMark step =>
    have hprops := hwas.resolve_right fun ⟨_,_,h⟩ => by cases h
    cases step <;> cases h <;> exact hprops
  | _ =>
    have hprops := hwas.resolve_right fun ⟨_,_,h⟩ => by cases h
    simp only [DefinitionPatch.mutate] at h
    split at h <;> cases h <;> exact hprops

theorem inProgress_mutate (h : patch.mutate now props=.ok (props',kept))
    (hset : patch≠.setRollbackMark (some .inProgress)) (henter : patch≠.enterDestructive .inProgress)
    (hmark : props'.rollbackAbandoned=some .inProgress) :
    props.rollbackAbandoned=some .inProgress ∧ ∀token snap,patch≠.claim token snap := by
  cases patch with
  | claim token snap =>
    simp only [DefinitionPatch.mutate] at h
    split at h
    · cases h
    · rename_i hfree
      cases h
      exact absurd (show props.rollbackAbandoned≠none by rw [hmark]; nofun) hfree
  | setRollbackMark step =>
    cases step with
    | none =>
      cases h
      cases hmark
    | some step =>
      cases h
      exact absurd (congrArg (fun x => DefinitionPatch.setRollbackMark x) hmark) hset
  | enterDestructive step =>
    simp only [DefinitionPatch.mutate] at h
    split at h
    · cases h
    · cases h
      exact absurd (congrArg DefinitionPatch.enterDestructive (Option.some.inj hmark)) henter
  | _ =>
    simp only [DefinitionPatch.mutate] at h
    split at h <;> cases h <;> first | exact ⟨hmark,nofun⟩ | cases hmark

theorem claims_other (hclaim : ∀token snap,patch≠.claim token snap) (uid : Nat) :
    patch.claims uid=[] := by
  cases patch with
  | claim token snap => exact absurd rfl (hclaim token snap)
  | _ => rfl

theorem Ledger.patched (h : Ledger s) (name : String) (patch : DefinitionPatch) :
    Ledger (serve s (.patchDefinition name patch)).2 := by
  rcases serve_patch (s := s) name patch with ⟨_,heq⟩|⟨d,props,kept,hd,hmutate,heq⟩
  · rw [heq]
    exact h
  · rw [heq]
    have hclaims (c : Nat × Nat) (hc : c∈patch.claims d.uid) :
        c.1=d.uid ∧ ∃token snap,patch=.claim token snap := by
      cases patch with
      | claim token snap =>
        obtain rfl := mem_singleton.mp hc
        exact ⟨rfl,token,snap,rfl⟩
      | _ => cases hc
    refine h.modify name (fun d => {d with props}) (fun _ => rfl) (fun _ => rfl) _ (fun c hc => ?_)
      fun x hx token htoken => ?_
    · rcases mem_append.mp hc with hc|hc
      · exact .inr ⟨d,hd,(hclaims c hc).1⟩
      · exact .inl hc
    · obtain rfl := Option.some.inj (hd.symm.trans hx)
      refine adopted_mutate hmutate ?_
      rcases mem_append.mp htoken with hc|hc
      · exact .inr (hclaims _ hc).2
      · exact .inl (h.adopted d ((s.definitions.get?_eq_some _ d).mp hd).1 token hc)

theorem Ledger.serve (h : Ledger s) (op : Op) : Ledger (serve s op).2 := by
  cases op with
  | patchDefinition name patch => exact h.patched name patch
  | createDefinition name props => exact h.create name props
  | deleteDefinition name =>
    simp only [Store.serve]
    split
    · exact h
    · exact h.erase name
  | patchSnapshotProps rd sn patch =>
    simp only [Store.serve]
    split
    · exact h
    · split
      · exact h
      · exact h.same rfl rfl rfl
  | deleteSnapshot rd sn =>
    simp only [Store.serve]
    split
    · exact h
    · exact h.same rfl rfl rfl
  | _ => exact h.same rfl rfl rfl

theorem Ledger.step (h : Ledger s) (c : Cmd) (a : Answer c) (hstep : Step s c a t) : Ledger t := by
  rcases hstep with ⟨_,_,rfl⟩|⟨_,rfl⟩|⟨_,rfl|⟨_,rfl⟩⟩
  · exact h.serve c.op
  · exact h
  · exact h
  · exact h.serve c.op

theorem Ledger.edit (h : Ledger s) (name : String) (f : Definition → Definition)
    (hf : ∀d,(f d).key=d.key) (huid : ∀d,(f d).uid=d.uid)
    (hadopted : ∀d,(f d).props.restoreAdopted=d.props.restoreAdopted) :
    Ledger (s.modifyDefinition name f hf) := by
  refine h.modify name f hf huid s.claims (fun c hc => .inl hc) fun d hd token htoken => ?_
  rw [hadopted]
  exact h.adopted d ((s.definitions.get?_eq_some _ d).mp hd).1 token htoken

theorem Ledger.change (h : Ledger s) (e : Change) (hstep : Changes s e t) : Ledger t := by
  cases e with
  | tick now =>
    obtain ⟨_,rfl⟩ := hstep
    exact h.same rfl rfl rfl
  | create name props =>
    cases hstep
    exact h.create name props
  | flagDefinition name =>
    cases hstep
    exact h.edit name _ _ (fun _ => rfl) fun _ => rfl
  | removeDefinition name =>
    cases hstep
    exact h.erase name
  | writeVolumes name volumes =>
    cases hstep
    exact h.edit name _ _ (fun _ => rfl) fun _ => rfl
  | writeReplicas replicas =>
    cases hstep
    exact h.same rfl rfl rfl
  | clearRestoreMarker name =>
    cases hstep
    exact h.edit name _ _ (fun _ => rfl) fun _ => rfl
  | clearRollbackMark name =>
    obtain ⟨_,rfl⟩ := hstep
    exact h.edit name _ _ (fun _ => rfl) fun _ => rfl
  | giveUp name =>
    cases hstep
    refine h.modify name (fun d => {d with props := {d.props with restoreAdopted := none}})
      (fun _ => rfl) (fun _ => rfl) _ (fun c hc => .inl (mem_filter.mp hc).1)
      fun d hd token htoken => ?_
    have hgone := (mem_filter.mp htoken).2
    simp [hd] at hgone
  | removeSnapshot rd sn =>
    obtain ⟨_,rfl⟩ := hstep
    exact h.same rfl rfl rfl

theorem definition_writeProps (s : State) (rd name : String) (props : DefinitionProps)
    (claims : List (Nat × Nat)) : (s.writeProps name props claims).definition rd=
      (s.definition rd).map fun d => if d.key=fold name then {d with props} else d :=
  definition_modify s rd name (fun d => {d with props}) fun _ => rfl

theorem definition_key (d : Definition) (h : s.definition rdName=some d) :
    d∈s.definitions ∧ d.key=fold rdName := (s.definitions.get?_eq_some _ d).mp h

theorem exposed_patch (hs : Ledger s) (name : String)
    (hset : patch≠.setRollbackMark (some .inProgress)) (henter : patch≠.enterDestructive .inProgress)
    (h : Exposed rdName (serve s (.patchDefinition name patch)).2) : Exposed rdName s := by
  rcases serve_patch (s := s) name patch with ⟨_,heq⟩|⟨d,props,kept,hd,hmutate,heq⟩
  · rw [heq] at h
    exact h
  · rw [heq] at h
    obtain ⟨y,hy,⟨token,htoken⟩,hmark⟩ := h
    have hmap := (definition_writeProps s rdName name props _).symm.trans hy
    obtain ⟨x,hx,rfl⟩ := Option.map_eq_some_iff.mp hmap
    by_cases hk : x.key=fold name
    · rw [if_pos hk] at htoken hmark
      obtain rfl : d=x := s.definitions.eq_of_key (definition_key d hd).1 (definition_key x hx).1
        ((definition_key d hd).2.trans hk.symm)
      obtain ⟨hwas,hclaim⟩ := inProgress_mutate hmutate hset henter hmark
      have hclaims : (s.writeProps name props (patch.claims d.uid)).claims=s.claims := by
        rw [claims_other hclaim]
        rfl
      rw [hclaims] at htoken
      exact ⟨d,hx,⟨token,htoken⟩,hwas⟩
    · rw [if_neg hk] at htoken hmark
      refine ⟨x,hx,⟨token,?_⟩,hmark⟩
      rcases mem_append.mp htoken with hc|hc
      · exfalso
        cases patch with
        | claim token' snap =>
          have huid : x.uid=d.uid := congrArg Prod.fst (mem_singleton.mp hc)
          rw [hs.single x (definition_key x hx).1 d (definition_key d hd).1 huid] at hk
          exact hk (definition_key d hd).2
        | _ => cases hc
      · exact hc

theorem Exposed.same (h : Exposed rdName t) (hdefs : t.definitions=s.definitions)
    (hclaims : t.claims=s.claims) : Exposed rdName s := by
  obtain ⟨d,hd,⟨token,htoken⟩,hmark⟩ := h
  exact ⟨d,by rw [State.definition,← hdefs]; exact hd,⟨token,hclaims ▸ htoken⟩,hmark⟩

theorem exposed_erase
    (h : Exposed rdName {s with definitions := s.definitions.erase (fold name)}) :
    Exposed rdName s := by
  obtain ⟨d,hd,hclaim,hmark⟩ := h
  have hmem := (Keyed.get?_eq_some _ _ d).mp hd
  exact ⟨d,(s.definitions.get?_eq_some _ d).mpr
    ⟨((s.definitions.mem_erase _ d).mp hmem.1).1,hmem.2⟩,hclaim,hmark⟩

theorem exposed_create (hs : Ledger s) (name : String) (props : DefinitionProps)
    (h : Exposed rdName (serve s (.createDefinition name props)).2) : Exposed rdName s := by
  rcases serve_create s name props with ⟨hfree,heq⟩|heq
  · rw [heq] at h
    obtain ⟨d,hd,⟨token,htoken⟩,hmark⟩ := h
    have hmem := (Keyed.get?_eq_some _ _ d).mp hd
    rcases (s.definitions.mem_insert _ ((s.definitions.get?_eq_none _).mp hfree) d).mp hmem.1
      with hold|rfl
    · exact ⟨d,(s.definitions.get?_eq_some _ d).mpr ⟨hold,hmem.2⟩,⟨token,htoken⟩,hmark⟩
    · exact absurd (hs.claimed _ htoken) (Nat.lt_irrefl _)
  · rw [heq] at h
    exact h

theorem exposed_serve (hs : Ledger s) (op : Op)
    (hset : ∀name,op≠.patchDefinition name (.setRollbackMark (some .inProgress)))
    (henter : ∀name,op≠.patchDefinition name (.enterDestructive .inProgress))
    (h : Exposed rdName (serve s op).2) : Exposed rdName s := by
  cases op with
  | patchDefinition name patch =>
    exact exposed_patch hs name (fun hp => hset name (by rw [hp]))
      (fun hp => henter name (by rw [hp])) h
  | createDefinition name props => exact exposed_create hs name props h
  | deleteDefinition name =>
    simp only [serve] at h
    split at h
    · exact h
    · exact exposed_erase name h
  | patchSnapshotProps rd sn patch =>
    simp only [serve] at h
    split at h
    · exact h
    · split at h <;> exact h.same rfl rfl
  | deleteSnapshot rd sn =>
    simp only [serve] at h
    split at h
    · exact h
    · exact h.same rfl rfl
  | _ => exact h.same rfl rfl

theorem exposed_edit (f : Definition → Definition) (hf : ∀d,(f d).key=d.key)
    (huid : ∀d,(f d).uid=d.uid)
    (hmark : ∀d,(f d).props.rollbackAbandoned=some .inProgress →
      d.props.rollbackAbandoned=some .inProgress) (claims : List (Nat × Nat))
    (hclaims : ∀c∈claims,c∈s.claims)
    (h : Exposed rdName {s.modifyDefinition name f hf with claims}) : Exposed rdName s := by
  obtain ⟨y,hy,⟨token,htoken⟩,hinProgress⟩ := h
  have hmap := (definition_modify s rdName name f hf).symm.trans hy
  obtain ⟨x,hx,rfl⟩ := Option.map_eq_some_iff.mp hmap
  have htoken' := hclaims _ htoken
  by_cases hk : x.key=fold name
  · rw [if_pos hk] at htoken' hinProgress
    rw [huid] at htoken'
    exact ⟨x,hx,⟨token,htoken'⟩,hmark x hinProgress⟩
  · rw [if_neg hk] at htoken' hinProgress
    exact ⟨x,hx,⟨token,htoken'⟩,hinProgress⟩

theorem exposed_change (hs : Ledger s) (e : Change) (hstep : Changes s e t)
    (h : Exposed rdName t) : Exposed rdName s := by
  cases e with
  | tick now =>
    obtain ⟨_,rfl⟩ := hstep
    exact h.same rfl rfl
  | create name props =>
    cases hstep
    exact exposed_create hs name props h
  | flagDefinition name =>
    cases hstep
    exact exposed_edit name (fun d => {d with deleting := true}) (fun _ => rfl)
      (fun _ => rfl) (fun _ => id) s.claims (fun _ => id) h
  | removeDefinition name =>
    cases hstep
    exact exposed_erase name h
  | writeVolumes name volumes =>
    cases hstep
    exact exposed_edit name (fun d => {d with volumes}) (fun _ => rfl)
      (fun _ => rfl) (fun _ => id) s.claims (fun _ => id) h
  | writeReplicas replicas =>
    cases hstep
    exact h.same rfl rfl
  | clearRestoreMarker name =>
    cases hstep
    exact exposed_edit name (fun d => {d with props := {d.props with restoreFromSnapshot := ""}}) (fun _ => rfl)
      (fun _ => rfl) (fun _ => id) s.claims (fun _ => id) h
  | clearRollbackMark name =>
    obtain ⟨_,rfl⟩ := hstep
    exact exposed_edit name (fun d => {d with props := unmarkRollback d.props}) (fun _ => rfl)
      (fun _ => rfl) (fun _ => nofun) s.claims (fun _ => id) h
  | giveUp name =>
    cases hstep
    exact exposed_edit name (fun d => {d with props := {d.props with restoreAdopted := none}})
      (fun _ => rfl) (fun _ => rfl) (fun _ => id) _ (fun c hc => (mem_filter.mp hc).1) h
  | removeSnapshot rd sn =>
    obtain ⟨_,rfl⟩ := hstep
    exact h.same rfl rfl

/-- No rollback writes its in-progress mark on a definition with a standing claim while another one
has read it as not adopted and has neither started nor stood down. -/
def Unmingled (p : Rollbacks) : PoolEvent Party Answer Change → Prop
  | .call _ ⟨_,.patchDefinition name (.setRollbackMark (some .inProgress))⟩ _ =>
      (∃i,p.notes i=some .held) →
        ∀d,p.shared.definition name=some d → ∀token,(d.uid,token)∉p.shared.claims
  | _ => True

variable {p q : Rollbacks} {e : PoolEvent Party Answer Change} {m : Stage} {op : Op}
  {ctx : Option Nat}

theorem exposed_mark (hfree : ∀d,s.definition name=some d → ∀token,(d.uid,token)∉s.claims)
    (h : Exposed rdName
      (serve s (.patchDefinition name (.setRollbackMark (some .inProgress)))).2) :
    Exposed rdName s := by
  rcases serve_patch (s := s) name (.setRollbackMark (some .inProgress)) with
    ⟨_,heq⟩|⟨d,props,kept,hd,_,heq⟩
  · rw [heq] at h
    exact h
  · rw [heq] at h
    obtain ⟨y,hy,⟨token,htoken⟩,hmark⟩ := h
    have hmap := (definition_writeProps s rdName name props _).symm.trans hy
    obtain ⟨x,hx,rfl⟩ := Option.map_eq_some_iff.mp hmap
    by_cases hk : x.key=fold name
    · rw [if_pos hk] at htoken
      have hxname : s.definition name=some x :=
        (s.definitions.get?_eq_some _ x).mpr ⟨(definition_key x hx).1,hk⟩
      exact absurd htoken (hfree x hxname token)
    · rw [if_neg hk] at htoken hmark
      exact ⟨x,hx,⟨token,htoken⟩,hmark⟩

theorem exposed_step (hs : Ledger s) (a : OpAnswer op) (hmay : m.may rdName ⟨ctx,op⟩)
    (hguard : ∀name,op=.patchDefinition name (.setRollbackMark (some .inProgress)) →
      ∀d,s.definition name=some d → ∀token,(d.uid,token)∉s.claims)
    (hstep : Step s ⟨ctx,op⟩ a t) (h : Exposed rdName t) : Exposed rdName s := by
  have henter (name : String) : op≠.patchDefinition name (.enterDestructive .inProgress) := by
    rintro rfl
    exact hmay.2.2 rfl
  have hserve (h : Exposed rdName (serve s op).2) : Exposed rdName s := by
    by_cases hset : ∃name,op=.patchDefinition name (.setRollbackMark (some .inProgress))
    · obtain ⟨name,rfl⟩ := hset
      exact exposed_mark name (hguard name rfl) h
    · exact exposed_serve hs op (fun name heq => hset ⟨name,heq⟩) henter h
  rcases hstep with ⟨_,_,rfl⟩|⟨_,rfl⟩|⟨_,rfl|⟨_,rfl⟩⟩
  · exact hserve h
  · exact h
  · exact h
  · exact hserve h

theorem unexposed_of_held (hs : Ledger s) (a : OpAnswer op) (hstep : Step s ⟨ctx,op⟩ a t)
    (hnext : m.next rdName ⟨ctx,op⟩ a=.held) (hm : m≠.held) : t=s ∧ ¬Exposed rdName s := by
  cases op with
  | getDefinition name =>
    change (if fold name=fold rdName then m.reads a else m)=.held at hnext
    split at hnext
    · rename_i hname
      rcases hstep with ⟨_,ha,ht⟩|⟨hlag,_⟩|⟨hfail,_⟩
      · refine ⟨ht,fun ⟨d,hd,⟨token,htoken⟩,_⟩ => ?_⟩
        have hfound : a=found (s.definition rdName) := by
          rw [State.definition,← hname]
          exact ha
        rw [hd] at hfound
        subst hfound
        change (if m=.fresh ∧ d.props.restoreAdopted=none then Stage.held else m)=.held at hnext
        split at hnext
        · rename_i hread
          exact hs.adopted d (definition_key d hd).1 token htoken hread.2
        · exact hm hnext
      · exact hlag.elim
      · cases hfail
        exact absurd hnext hm
    · exact absurd hnext hm
  | patchDefinition name patch =>
    cases patch with
    | enterDestructive step => cases hnext
    | releaseInProgress => cases hnext
    | setRollbackMark step =>
      change (if step=some .inProgress then m else .over)=.held at hnext
      split at hnext
      · exact absurd hnext hm
      · cases hnext
    | _ => exact absurd hnext hm
  | _ => exact absurd hnext hm

variable (rdName) in
/-- While a rollback holds, no definition with a standing claim carries an in-progress mark. -/
structure Spared (p : Rollbacks) : Prop where
  ledger : Ledger p.shared
  spared : ∀i m,p.notes i=some m → m=.held → ¬Exposed rdName p.shared

theorem ledger_step (h : Ledger p.shared) (hstep : NoteStep (rollbacks rdName) p e q) :
    Ledger q.shared := by
  cases hstep with
  | start _ _ _ hs _ => exact hs ▸ h
  | stop _ _ hs _ => exact hs ▸ h
  | call i c a m _ _ _ henv _ => exact h.step c a henv
  | other c _ he _ => exact h.change c he

theorem spared_step (h : Spared rdName p) (hg : Unmingled p e)
    (hstep : NoteStep (rollbacks rdName) p e q) : Spared rdName q where
  ledger := ledger_step h.ledger hstep
  spared := by
    refine hstep.each (fun u _ n => n=.held → ¬Exposed rdName u) h.spared ?_ ?_ ?_
    · intro i hi
      cases i <;> cases hi
    · intro i c a m he hi hmay henv
      obtain ⟨ctx,op⟩ := c
      have hkeep (j : Party) (n : Stage) (hj : p.notes j=some n) (hn : n=.held) :
          ¬Exposed rdName q.shared := by
        subst hn he
        refine fun hex => h.spared j _ hj rfl (exposed_step h.ledger a hmay ?_ henv hex)
        rintro name rfl
        exact hg ⟨j,hj⟩
      refine ⟨fun hnext => ?_,fun j n _ hj hn => hkeep j n hj hn⟩
      by_cases hm : m=.held
      · exact hkeep i m hi hm
      · obtain ⟨hs,hex⟩ := unexposed_of_held h.ledger a henv hnext hm
        exact hs ▸ hex
    · intro c _ he j n hj hn hex
      exact h.spared j n hj hn (exposed_change h.ledger c he hex)

/-- The step write of a rollback is answered with success while a claim that has returned success
stands on the definition. -/
def DestroysAdopted (p : Rollbacks) : PoolEvent Party Answer Change → Prop
  | .call _ ⟨_,.patchDefinition name (.enterDestructive _)⟩ (.ok _) =>
      ∃d token,p.shared.definition name=some d ∧ (d.uid,token)∈p.shared.claims ∧
        .claimSucceeded token∈p.shared.reached
  | _ => False

theorem Spared.keeps (h : Spared rdName p) (hstep : NoteStep (rollbacks rdName) p e q) :
    ¬DestroysAdopted p e := by
  intro hbad
  cases hstep with
  | call i c a m _ hi hmay henv _ =>
    obtain ⟨ctx,op⟩ := c
    cases op with
    | patchDefinition name patch =>
      cases patch with
      | enterDestructive step =>
        obtain ⟨hname,rfl,_⟩ := hmay
        rcases a with _|kept
        · exact hbad
        · obtain ⟨d,token,hd,htoken,_⟩ := hbad
          have hserved : serve p.shared (.patchDefinition name (.enterDestructive step))=
              (.ok kept,q.shared) := by
            rcases henv with ⟨_,ha,ht⟩|⟨hlag,_⟩|⟨hfail,_⟩
            · exact (Prod.ext ha ht).symm
            · exact hlag.elim
            · cases hfail
          rcases serve_patch (s := p.shared) name (.enterDestructive step) with
            ⟨_,heq⟩|⟨d',props,kept',hd',hmutate,_⟩
          · rw [heq] at hserved
            cases hserved
          · obtain rfl := Option.some.inj (hd.symm.trans hd')
            have hmark : d.props.rollbackAbandoned=some .inProgress := by
              simp only [DefinitionPatch.mutate] at hmutate
              split at hmutate
              · cases hmutate
              · rename_i hmark
                exact not_not.mp hmark
            have hrd : p.shared.definition rdName=some d := by
              rw [State.definition,← hname]
              exact hd
            exact h.spared i _ hi rfl ⟨d,hrd,⟨token,htoken⟩,hmark⟩
      | _ => exact hbad
    | _ => exact hbad
  | _ => exact hbad

end

structure Unclaimed (s : State) : Prop where
  known : ∀d∈s.definitions,d.uid<s.uids
  single : ∀a∈s.definitions,∀b∈s.definitions,a.uid=b.uid → a=b
  claims : s.claims=[]

theorem spared_start (rdName : String) (s : State) (h : Unclaimed s) :
    Spared rdName (idle s) where
  ledger := by
    refine ⟨h.known,h.single,fun c hc => ?_,fun d _ token htoken => ?_⟩
    · change c∈s.claims at hc
      rw [h.claims] at hc
      cases hc
    · change (d.uid,token)∈s.claims at htoken
      rw [h.claims] at htoken
      cases htoken
  spared i m hi := by cases hi

/-- Where rollbacks do not mingle their marks, none destroys a definition that a claim has been
answered for. -/
theorem rollback_spares_adopted (rdName : String) (s : State) (hs : Unclaimed s)
    (es : List (PoolEvent Party Answer Change)) (p : Rollbacks)
    (hrun : Run (guarded Unmingled (Pool.Step (rollbacks rdName))) (Pool.idle s) es p)
    (e : PoolEvent Party Answer Change) (q : Rollbacks)
    (hstep : Pool.Step (rollbacks rdName) p e q) : ¬DestroysAdopted p e := by
  obtain ⟨hF,hp⟩ := (following_idle s).invariant (rollbacks_sound rdName) Unmingled
    (Spared rdName) (fun _ _ _ h hg hstep => spared_step h hg hstep) (spared_start rdName s hs) hrun
  exact hp.keeps (hF.noteStep e hstep)

section Concrete

def leftover : State where
  now := 1000*second
  tokens := 0
  uids := 1
  definitions := ⟨[⟨"pvc-2",0,⟨"pvc-1:snap",some "",none,none,none⟩,false,[]⟩],by decide⟩
  replicas := []
  snapshots := .empty
  claims := []
  reached := []

theorem unclaimed_leftover : Unclaimed leftover where
  known d hd := by
    obtain rfl := mem_singleton.mp hd
    decide
  single a ha b hb _ := (mem_singleton.mp ha).trans (mem_singleton.mp hb).symm
  claims := rfl

def clearByHand (s : State) : Change → Option State
  | .clearRollbackMark name =>
    if (s.definition name).all fun d => !rollbackMarkClearRefusal d.props.rollbackAbandoned
    then some (s.editProps name unmarkRollback) else none
  | _ => none

theorem changes_clearByHand (s : State) (e : Change) (t : State) (h : clearByHand s e=some t) :
    Changes s e t := by
  cases e with
  | clearRollbackMark name =>
    simp only [clearByHand] at h
    split at h
    · rename_i hall
      cases h
      refine ⟨fun d hd => ?_,rfl⟩
      rw [Option.mem_def.mp hd] at hall
      simpa using hall
    · cases h
  | _ => cases h

def rollbacksOn (xs : List (Party ⊕ Change)) : List (PoolEvent Party Answer Change) × Rollbacks :=
  turns (rollbacks "pvc-2") inTime clearByHand (idle leftover) xs

theorem run_rollbacks (guard : Rollbacks → PoolEvent Party Answer Change → Prop)
    (check : Rollbacks → Party ⊕ Change → Bool) (hguard : ∀p e x,check p x=true → guard p e)
    (xs : List (Party ⊕ Change)) (hcheck : turnsAll (rollbacks "pvc-2") inTime clearByHand
      check (idle leftover) xs=true) :
    Run (guarded guard (Pool.Step (rollbacks "pvc-2"))) (Pool.idle leftover) (rollbacksOn xs).1
      (rollbacksOn xs).2 :=
  run_turns guard check (fun s c r h => step_inTime s c r h)
    (fun s e t h => changes_clearByHand s e t h) (fun p x e _ hx _ => hguard p e x hx) xs _ hcheck

def entersDestructive : PoolEvent Party Answer Change → Bool
  | .call _ ⟨_,.patchDefinition name (.enterDestructive _)⟩ (.ok _) => name="pvc-2"
  | _ => false

/-- The first rollback has read that nobody adopted the definition; its mark is cleared by hand, a
claim adopts the definition, and a second rollback marks it. -/
def mingledMarks : List (Party ⊕ Change) :=
  replicate 7 (.inl (.rollback 0))++.inr (.clearRollbackMark "pvc-2")::
    (replicate 4 (.inl (.claim 0 none))++replicate 3 (.inl (.rollback 1)))

/-- The first rollback then takes the second one's mark for its own. -/
theorem rollback_destroys_adopted : ∃s,Unclaimed s ∧ ∃es p e q,
    Run (Pool.Step (rollbacks "pvc-2")) (Pool.idle s) es p ∧
      Pool.Step (rollbacks "pvc-2") p e q ∧ DestroysAdopted p e := by
  have hrun := (run_rollbacks (fun _ _ => True) (fun _ _ => true) (fun _ _ _ _ => trivial)
    mingledMarks (by decide +kernel)).mono fun _ _ _ h => h.2
  let p := (rollbacksOn mingledMarks).2
  have hclaimed : (p.shared.definition "pvc-2").any (fun d => (d.uid,0)∈p.shared.claims ∧
      .claimSucceeded 0∈p.shared.reached)=true := by decide +kernel
  have henters : (turn (rollbacks "pvc-2") inTime clearByHand p (.inl (.rollback 0))).any
      (fun r => entersDestructive r.1)=true := by decide +kernel
  obtain ⟨d,hd,htest⟩ := (Option.any_eq_true ..).mp hclaimed
  obtain ⟨hclaim,hreached⟩ := of_decide_eq_true htest
  obtain ⟨⟨e,q⟩,hturn,henter⟩ := (Option.any_eq_true ..).mp henters
  refine ⟨leftover,unclaimed_leftover,_,p,e,q,hrun,step_turn (fun s c r h => step_inTime s c r h)
    (fun s e t h => changes_clearByHand s e t h) _ e hturn,?_⟩
  dsimp only at henter
  unfold entersDestructive at henter
  split at henter
  · obtain rfl := of_decide_eq_true henter
    exact ⟨d,0,hd,hclaim,hreached⟩
  · cases henter

/-- One rollback alone starts on a definition that nobody has claimed. -/
theorem lone_rollback_spares_adopted : Unclaimed leftover ∧ ∃es p e q,
    Run (guarded Unmingled (Pool.Step (rollbacks "pvc-2"))) (Pool.idle leftover) es p ∧
      Pool.Step (rollbacks "pvc-2") p e q ∧ entersDestructive e=true ∧ ¬DestroysAdopted p e := by
  let xs : List (Party ⊕ Change) := replicate 7 (.inl (.rollback 0))
  have hnone (p : Rollbacks) (e : PoolEvent Party Answer Change) (x : Party ⊕ Change)
      (h : p.shared.claims.isEmpty=true) : Unmingled p e := by
    unfold Unmingled
    split
    · intro _ d _ token htoken
      rw [isEmpty_iff.mp h] at htoken
      cases htoken
    · trivial
  have hrun := run_rollbacks Unmingled (fun p _ => p.shared.claims.isEmpty) hnone xs
    (by decide +kernel)
  have henters : (turn (rollbacks "pvc-2") inTime clearByHand (rollbacksOn xs).2
      (.inl (.rollback 0))).any (fun r => entersDestructive r.1)=true := by decide +kernel
  obtain ⟨⟨e,q⟩,hturn,henter⟩ := (Option.any_eq_true ..).mp henters
  have hstep : Pool.Step (rollbacks "pvc-2") (rollbacksOn xs).2 e q :=
    step_turn (fun s c r h => step_inTime s c r h)
      (fun s e t h => changes_clearByHand s e t h) _ e hturn
  exact ⟨unclaimed_leftover,_,_,e,q,hrun,hstep,henter,
    rollback_spares_adopted "pvc-2" leftover unclaimed_leftover _ _ hrun e q hstep⟩

end Concrete

end Blockstor.Store
