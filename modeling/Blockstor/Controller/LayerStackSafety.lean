import Blockstor.Controller.LayerStack
import Blockstor.Framework.Transition

namespace Blockstor.Controller.LayerStack

open Framework Shell Store

variable {rd' x y z : ResourceDefinition} {r : Except Err Unit}

def holdsDataNamed (s : State) (rd : ResourceDefinition) : Bool :=
  s.resources.any fun res => res.resourceDefinitionName=rd.name && res.onDisk

/-- The definition holds data: it is marked so, or a replica has gone to disk whose definition has
the same name under the store's folding. -/
def HoldsData (s : State) (rd : ResourceDefinition) : Prop :=
  rdInitialized rd=true ∨ ∃res∈s.resources,K8s.name res.resourceDefinitionName=
    K8s.name (K8s.originalName rd.name rd.linstorName) ∧ res.onDisk=true

def decided (s : State) (rd : ResourceDefinition) (groupStack : List String) : List String :=
  if rdInitialized rd || holdsDataNamed s rd then defaultLayerStack else groupStack

variable {s t : State} {rd : ResourceDefinition} {name : String}

theorem step_read {op : Op} {a : OpAnswer op} (h : Step s op a t)
    (hop : ∀rd,op≠.patch rd) (hserve : (serve s op).2=s) :
    t=s ∧ (a=(serve s op).1 ∨ Fails op a) := by
  rcases h with ⟨ha,ht⟩|⟨hfail,ht|⟨⟨rd,hrd⟩,_⟩⟩
  · exact ⟨ht.trans hserve,.inl ha⟩
  · exact ⟨ht,.inr hfail⟩
  · exact absurd hrd (hop rd)

theorem exec_readGroup {r : Except Err (Option ResourceGroup)}
    (h : Exec Step (readGroup rd) s r t) :
    t=s ∧ ∀g,r=.ok g → g=s.groups.get? (K8s.name rd.resourceGroupName) := by
  obtain ⟨a,u,ha,h⟩ := exec_ask.mp h
  obtain ⟨rfl,hserve|hfail⟩ := step_read ha (fun _ => nofun) rfl
  · change a=found _ at hserve
    cases hg : u.groups.get? (K8s.name rd.resourceGroupName) with
    | none =>
      rw [hg] at hserve
      subst hserve
      obtain ⟨rfl,rfl⟩ := exec_pure.mp h
      exact ⟨rfl,fun g hr => by cases hr; rfl⟩
    | some rg =>
      rw [hg] at hserve
      subst hserve
      obtain ⟨rfl,rfl⟩ := exec_pure.mp h
      exact ⟨rfl,fun g hr => by cases hr; rfl⟩
  · obtain rfl : a=.error .unavailable := hfail
    obtain ⟨rfl,rfl⟩ := exec_throw.mp h
    exact ⟨rfl,fun g hr => by cases hr⟩

theorem exec_lift {α β : Type} {a : Except Err α} {f : α → Prog β} {r : Except Err β}
    (h : Exec Step (lift a >>= f) s r t) :
    (∃x,a=.ok x ∧ Exec Step (f x) s r t) ∨ ∃e,a=.error e ∧ r=.error e ∧ t=s := by
  cases a with
  | ok x => exact .inl ⟨x,rfl,h⟩
  | error e =>
    obtain ⟨rfl,rfl⟩ := exec_throw.mp h
    exact .inr ⟨e,rfl,rfl,rfl⟩

theorem exec_stackToPin {g : List String} {r : Except Err (List String)}
    (h : Exec Step (stackToPin rd g) s r t) : t=s ∧ ∀v,r=.ok v → v=decided s rd g := by
  unfold stackToPin at h
  unfold decided
  by_cases hinit : rdInitialized rd=true
  · rw [if_pos hinit] at h
    obtain ⟨rfl,rfl⟩ := exec_pure.mp h
    exact ⟨rfl,fun v hv => by cases hv; simp [hinit]⟩
  · rw [if_neg hinit] at h
    obtain ⟨a,u,ha,h⟩ := exec_ask.mp h
    obtain ⟨rfl,hserve|hfail⟩ := step_read ha (fun _ => nofun) rfl
    · subst hserve
      change Exec Step (if holdsDataNamed u rd then pure defaultLayerStack else pure g) u r t at h
      split at h
      · rename_i hdata
        obtain ⟨rfl,rfl⟩ := exec_pure.mp h
        exact ⟨rfl,fun v hv => by cases hv; simp [hdata]⟩
      · rename_i hdata
        obtain ⟨rfl,rfl⟩ := exec_pure.mp h
        exact ⟨rfl,fun v hv => by cases hv; simp [hinit,hdata]⟩
    · obtain rfl : a=.error .unavailable := hfail
      obtain ⟨rfl,rfl⟩ := exec_throw.mp h
      exact ⟨rfl,fun v hv => by cases hv⟩

theorem exec_patch {p : Prog Unit} (hp : ∀u v x,Exec Step p u x v → v=u)
    (h : Exec Step (ask (.patch rd') >>= fun a => lift a >>= fun _ => p) s r t) :
    t=s ∨ t=s.write rd' := by
  obtain ⟨a,u,ha,h⟩ := exec_ask.mp h
  have hu : u=s ∨ u=s.write rd' := by
    have hserve : (serve s (.patch rd')).2=s ∨ (serve s (.patch rd')).2=s.write rd' := by
      simp only [serve]
      split
      · exact .inl rfl
      · split
        · exact .inr rfl
        · exact .inl rfl
    rcases ha with ⟨_,ht⟩|⟨_,ht|⟨_,ht⟩⟩
    · rw [ht]
      exact hserve
    · exact .inl ht
    · rw [ht]
      exact hserve
  have ht : t=u := by
    rcases exec_lift h with ⟨_,_,h⟩|⟨_,_,_,ht⟩
    · exact hp u t r h
    · exact ht
  rw [ht]
  exact hu

theorem exec_event {c : Prop} [Decidable c] {rd reason action note : String}
    (u v : State) (x : Except Err Unit)
    (h : Exec Step (if c then ask (.event rd reason action note) else pure ()) u x v) : v=u := by
  split at h
  · obtain ⟨a,ha,_⟩ := exec_call.mp h
    rcases ha with ⟨_,ht⟩|⟨hfail,_⟩
    · exact ht
    · exact hfail.elim
  · exact (exec_pure.mp h).2

inductive Reconciled (s : State) (name : String) : State → Prop
  | same : Reconciled s name s
  | refreshed (rd : ResourceDefinition) (note : Option String) (hrd : s.get? name=some rd)
      (hstack : rd.layerStack≠[]) :
      Reconciled s name (s.write {rd with unappliedGroupLayerStack := note})
  | pinned (rd : ResourceDefinition) (rg : ResourceGroup) (note : Option String)
      (hrd : s.get? name=some rd) (hlive : rd.deleting=false) (hstack : rd.layerStack=[])
      (hgroup : s.groupOf rd=some rg) (hne : rg.layerStack≠[]) :
      Reconciled s name (s.write {rd with
        layerStack := decided s rd rg.layerStack, unappliedGroupLayerStack := note})

theorem exec_recordUnappliedStack {want : String}
    (h : Exec Step (recordUnappliedStack rd want) s r t) :
    t=s ∨ ∃note,t=s.write {rd with unappliedGroupLayerStack := note} := by
  unfold recordUnappliedStack at h
  dsimp only at h
  split at h
  · exact .inl (exec_pure.mp h).2
  · exact (exec_patch (fun u v x h => exec_event u v x h) h).imp id fun ht => ⟨_,ht⟩

theorem exec_refresh (h : Exec Step (refreshUnappliedGroupStack rd) s r t) :
    t=s ∨ ∃note,t=s.write {rd with unappliedGroupLayerStack := note} := by
  unfold refreshUnappliedGroupStack at h
  split at h
  · exact exec_recordUnappliedStack h
  · rcases exec_bind.mp h with ⟨_,hread,_⟩|⟨rg,u,hread,hrest⟩
    · exact .inl (exec_readGroup hread).1
    · obtain ⟨rfl,_⟩ := exec_readGroup hread
      exact exec_recordUnappliedStack hrest

theorem reconcile_spec (h : Exec Step (reconcile name) s r t) : Reconciled s name t := by
  obtain ⟨a,u,ha,h⟩ := exec_ask.mp h
  obtain ⟨rfl,hserve|hfail⟩ := step_read ha (fun _ => nofun) rfl
  · change a=found _ at hserve
    cases hrd : u.get? name with
    | none =>
      rw [hrd] at hserve
      subst hserve
      obtain ⟨_,rfl⟩ := exec_pure.mp h
      exact .same
    | some rd =>
      rw [hrd] at hserve
      subst hserve
      change Exec Step (if rd.deleting then pure () else pinLayerStack rd) u r t at h
      by_cases hlive : rd.deleting=true
      · rw [if_pos hlive] at h
        obtain ⟨_,rfl⟩ := exec_pure.mp h
        exact .same
      · rw [if_neg hlive] at h
        unfold pinLayerStack at h
        split at h
        · rename_i hstack
          rcases exec_refresh h with rfl|⟨note,rfl⟩
          · exact .same
          · exact .refreshed rd note hrd hstack
        · rename_i hstack
          split at h
          · obtain ⟨_,rfl⟩ := exec_pure.mp h
            exact .same
          · rename_i hname
            rcases exec_bind.mp h with ⟨_,hread,_⟩|⟨g,v,hread,h⟩
            · obtain ⟨rfl,_⟩ := exec_readGroup hread
              exact .same
            · obtain ⟨rfl,hg⟩ := exec_readGroup hread
              have hg := hg g rfl
              cases g with
              | none =>
                obtain ⟨_,rfl⟩ := exec_pure.mp h
                exact .same
              | some rg =>
                dsimp only at h
                split at h
                · obtain ⟨_,rfl⟩ := exec_pure.mp h
                  exact .same
                · rename_i hne
                  rcases exec_bind.mp h with ⟨_,hpick,_⟩|⟨stack,w,hpick,hpin⟩
                  · obtain ⟨rfl,_⟩ := exec_stackToPin hpick
                    exact .same
                  · obtain ⟨rfl,hstack'⟩ := exec_stackToPin hpick
                    obtain rfl := hstack' stack rfl
                    rcases exec_patch (fun u v x h => exec_event u v x h) hpin with rfl|rfl
                    · exact .same
                    · refine .pinned rd rg _ hrd (by simpa using hlive) (by simpa using hstack) ?_ hne
                      rw [State.groupOf,if_neg hname,hg]
  · obtain rfl : a=.error .unavailable := hfail
    obtain ⟨_,rfl⟩ := exec_throw.mp h
    exact .same

theorem step_serve (s : State) (op : Op) : Step s op (serve s op).1 (serve s op).2 :=
  .inl ⟨rfl,rfl⟩

theorem exec_ask_serve {β : Type} {op : Op} {f : OpAnswer op → Prog β} {r : Except Err β}
    (h : Exec Step (f (serve s op).1) (serve s op).2 r t) : Exec Step (ask op >>= f) s r t :=
  exec_ask.mpr ⟨_,_,step_serve s op,h⟩

theorem stackToPin_serve (s : State) (rd : ResourceDefinition) {g : List String} :
    Exec Step (stackToPin rd g) s (.ok (decided s rd g)) s := by
  unfold stackToPin decided
  by_cases hinit : rdInitialized rd=true
  · rw [if_pos hinit,hinit]
    exact .done _ _
  · rw [if_neg hinit]
    refine exec_ask_serve ?_
    change Exec Step (if holdsDataNamed s rd then pure defaultLayerStack else pure g) s _ s
    cases hdata : holdsDataNamed s rd with
    | true =>
      rw [Bool.or_true]
      exact .done _ _
    | false =>
      rw [Bool.or_false,if_neg hinit]
      exact .done _ _

theorem pin_serve (rg : ResourceGroup) (stack : List String) (hrd : s.get? rd.name=some rd) :
    ∃note,Exec Step (pin rd rg stack) s (.ok ())
      (s.write {rd with layerStack := stack, unappliedGroupLayerStack := note}) := by
  let rd' : ResourceDefinition := {rd with
    layerStack := stack
    unappliedGroupLayerStack := if lacksLayerOf stack rg.layerStack then some (joined rg.layerStack)
      else rd.unappliedGroupLayerStack}
  have hserve : serve s (.patch rd')=(.ok (),s.write rd') := by
    have h : s.get? rd'.name=some rd := hrd
    simp only [serve,h]
    exact if_pos rfl
  refine ⟨rd'.unappliedGroupLayerStack,?_⟩
  change Exec Step (ask (.patch rd') >>= fun a => lift a >>= fun _ => _) s _ _
  refine exec_ask_serve ?_
  rw [hserve]
  change Exec Step (if _ then _ else _) (s.write rd') _ (s.write rd')
  split
  · exact exec_call.mpr ⟨(),step_serve _ _,rfl⟩
  · exact .done _ _

theorem reconcile_pins {rg : ResourceGroup} (hrd : s.get? name=some rd) (hlive : rd.deleting=false)
    (hstack : rd.layerStack=[]) (hgroup : s.groupOf rd=some rg) (hne : rg.layerStack≠[]) :
    ∃note,Exec Step (reconcile name) s (.ok ()) (s.write {rd with
      layerStack := decided s rd rg.layerStack, unappliedGroupLayerStack := note}) := by
  obtain rfl : rd.name=name := ((s.definitions.get?_eq_some _ _).mp hrd).2
  obtain ⟨note,hpin⟩ := pin_serve rg (decided s rd rg.layerStack) hrd
  refine ⟨note,exec_ask_serve ?_⟩
  simp only [serve,hrd,found]
  rw [if_neg (by simp [hlive])]
  have hname : rd.resourceGroupName≠"" := by
    intro h
    simp [State.groupOf,h] at hgroup
  have hget : s.groups.get? (K8s.name rd.resourceGroupName)=some rg := by
    simpa [State.groupOf,hname] using hgroup
  have hread : Exec Step (readGroup rd) s (.ok (some rg)) s := by
    refine exec_ask_serve ?_
    simp only [serve,hget,found]
    exact .done _ _
  unfold pinLayerStack
  rw [if_neg (by simp [hstack]),if_neg hname]
  refine exec_bind.mpr (.inr ⟨_,s,hread,?_⟩)
  dsimp only
  rw [if_neg hne]
  exact exec_bind.mpr (.inr ⟨_,s,stackToPin_serve s rd,hpin⟩)

theorem get?_write (s : State) (x : ResourceDefinition) (n : String) :
    (s.write x).get? n=(s.get? n).map fun a => if a.name=x.name then {a with
      layerStack := x.layerStack
      unappliedGroupLayerStack := x.unappliedGroupLayerStack
      resourceVersion := s.revision} else a := by
  unfold State.get? State.write
  rw [s.definitions.get?_modify]

def Alike (rd rd' : ResourceDefinition) : Prop :=
  rd'.name=rd.name ∧ rd'.linstorName=rd.linstorName ∧ rd'.initialized=rd.initialized

theorem HoldsData.alike (h : HoldsData s rd) (halike : Alike rd rd')
    (hres : t.resources=s.resources) : HoldsData t rd' := by
  obtain ⟨hname,horiginal,hinit⟩ := halike
  rcases h with h|⟨res,hmem,hres'⟩
  · left
    unfold rdInitialized at h ⊢
    rw [hinit]
    exact h
  · right
    rw [hres,hname,horiginal]
    exact ⟨res,hmem,hres'⟩

theorem Reconciled.get? (h : Reconciled s name t) {n : String} (hrd : s.get? n=some rd) :
    ∃rd',t.get? n=some rd' ∧ Alike rd rd' ∧ (rd'.layerStack=rd.layerStack ∨ n=name ∧
      rd.deleting=false ∧ rd.layerStack=[] ∧ ∃rg,s.groupOf rd=some rg ∧ rg.layerStack≠[] ∧
        rd'.layerStack=decided s rd rg.layerStack) := by
  have hkey : rd.name=n := ((s.definitions.get?_eq_some _ _).mp hrd).2
  cases h with
  | same => exact ⟨rd,hrd,⟨rfl,rfl,rfl⟩,.inl rfl⟩
  | refreshed x note hx _ =>
    have hname : x.name=name := ((s.definitions.get?_eq_some _ _).mp hx).2
    rw [get?_write,hrd]
    refine ⟨_,rfl,?_⟩
    dsimp only
    split
    · rename_i hsame
      obtain rfl : x=rd := by
        rw [show n=name from hkey.symm.trans (hsame.trans hname)] at hrd
        exact Option.some.inj (hx.symm.trans hrd)
      exact ⟨⟨rfl,rfl,rfl⟩,.inl rfl⟩
    · exact ⟨⟨rfl,rfl,rfl⟩,.inl rfl⟩
  | pinned x rg note hx hlive hstack hgroup hne =>
    have hname : x.name=name := ((s.definitions.get?_eq_some _ _).mp hx).2
    rw [get?_write,hrd]
    refine ⟨_,rfl,?_⟩
    dsimp only
    split
    · rename_i hsame
      have hn : n=name := hkey.symm.trans (hsame.trans hname)
      obtain rfl : x=rd := by
        rw [hn] at hrd
        exact Option.some.inj (hx.symm.trans hrd)
      exact ⟨⟨rfl,rfl,rfl⟩,.inr ⟨hn,hlive,hstack,rg,hgroup,hne,rfl⟩⟩
    · exact ⟨⟨rfl,rfl,rfl⟩,.inl rfl⟩

theorem Reconciled.resources (h : Reconciled s name t) : t.resources=s.resources := by
  cases h <;> rfl

/-- The stack is the one the data was built under; an empty stack was built as the default one. -/
def SameStack (rd rd' : ResourceDefinition) : Prop :=
  rd'.layerStack=rd.layerStack ∨ rd.layerStack=[] ∧ rd'.layerStack=defaultLayerStack

/-- Reconciling a definition never changes the stack under data: it writes a group's stack only
where nothing is on disk, and keeps a stack that is decided or in use. -/
structure KeepsStack (s : State) (name : String) : Prop where
  fresh : ∀r t,Exec Step (reconcile name) s r t → ∀rd rg rd',s.get? name=some rd →
    s.groupOf rd=some rg → t.get? name=some rd' → ¬SameStack rd rd' →
    rd'.layerStack=rg.layerStack → ¬HoldsData s rd
  kept : ∀r t,Exec Step (reconcile name) s r t → ∀rd rd',s.get? name=some rd →
    t.get? name=some rd' → HoldsData s rd ∨ rd.layerStack≠[] → SameStack rd rd'

/-- Where a stack is still to be decided and a replica of the definition has gone to disk, the
replica names the definition as its object is named. -/
def NamedAlike (s : State) (name : String) : Prop :=
  ∀rd rg,s.get? name=some rd → rd.deleting=false → rd.layerStack=[] → s.groupOf rd=some rg →
    rg.layerStack≠[] → rg.layerStack≠defaultLayerStack → HoldsData s rd →
    rdInitialized rd=true ∨ holdsDataNamed s rd=true

theorem decided_of_named {g : List String} (h : rdInitialized rd=true ∨ holdsDataNamed s rd=true) :
    decided s rd g=defaultLayerStack := by
  unfold decided
  rw [if_pos ((Bool.or_eq_true _ _).mpr h)]

theorem NamedAlike.kept (halike : NamedAlike s name) (h : Reconciled s name t)
    (hrd : s.get? name=some rd) (hrd' : t.get? name=some rd')
    (hdata : HoldsData s rd ∨ rd.layerStack≠[]) : SameStack rd rd' := by
  obtain ⟨x,hx,_,hsame|⟨_,hlive,hstack,rg,hgroup,hne,hdecided⟩⟩ := h.get? hrd
  · rw [hrd'] at hx
    cases hx
    exact .inl hsame
  · rw [hrd'] at hx
    cases hx
    refine .inr ⟨hstack,?_⟩
    have hdata : HoldsData s rd := hdata.resolve_right fun h => h hstack
    by_cases hdefault : rg.layerStack=defaultLayerStack
    · rw [hdecided,hdefault]
      unfold decided
      exact ite_self _
    · rw [hdecided,decided_of_named (halike rd rg hrd hlive hstack hgroup hne hdefault hdata)]

theorem keepsStack_iff (s : State) (name : String) : KeepsStack s name ↔ NamedAlike s name := by
  constructor
  · intro h rd rg hrd hlive hstack hgroup hne hdefault hdata
    by_contra hnamed
    obtain ⟨note,hexec⟩ := reconcile_pins hrd hlive hstack hgroup hne
    obtain ⟨rd',hrd',_⟩ := (reconcile_spec hexec).get? hrd
    have hwritten : rd'.layerStack=decided s rd rg.layerStack := by
      rw [get?_write,hrd] at hrd'
      cases hrd'
      dsimp only
      rw [if_pos rfl]
    have hgroupStack : decided s rd rg.layerStack=rg.layerStack := by
      unfold decided
      rw [if_neg fun h => hnamed ((Bool.or_eq_true _ _).mp h)]
    rw [hgroupStack] at hwritten
    rcases h.kept _ _ hexec rd rd' hrd hrd' (.inl hdata) with h|⟨_,h⟩
    · exact hne (hwritten.symm.trans (h.trans hstack))
    · exact hdefault (hwritten.symm.trans h)
  · intro h
    have hkept : ∀r t,Exec Step (reconcile name) s r t → ∀rd rd',s.get? name=some rd →
        t.get? name=some rd' → HoldsData s rd ∨ rd.layerStack≠[] → SameStack rd rd' :=
      fun r t hexec rd rd' hrd hrd' hdata => h.kept (reconcile_spec hexec) hrd hrd' hdata
    exact ⟨fun r t hexec rd rg rd' hrd _ hrd' hchanged _ hdata =>
      hchanged (hkept r t hexec rd rd' hrd hrd' (.inl hdata)),hkept⟩

inductive Event
  | reconcile (name : String)
  | change
  deriving DecidableEq

inductive Moves (s : State) : Event → State → Prop
  | reconcile (name : String) (r : Except Err Unit) (t : State)
      (h : Exec Step (LayerStack.reconcile name) s r t) : Moves s (.reconcile name) t
  | change (t : State) (h : t.definitions=s.definitions)
      (hdata : ∀rd∈s.definitions,HoldsData s rd → HoldsData t rd) : Moves s .change t

def namedAlike (s : State) : Event → Prop
  | .reconcile name => NamedAlike s name
  | .change => True

def Holding (rd : ResourceDefinition) (s : State) : Prop :=
  ∃rd',s.get? rd.name=some rd' ∧ SameStack rd rd' ∧ (HoldsData s rd' ∨ rd'.layerStack≠[])

theorem SameStack.trans (h : SameStack x y) (h' : SameStack y z) : SameStack x z := by
  rcases h' with hz|⟨hy,hz⟩
  · rcases h with hy|⟨hx,hy⟩
    · exact .inl (hz.trans hy)
    · exact .inr ⟨hx,hz.trans hy⟩
  · rcases h with hx|⟨hx,hdefault⟩
    · exact .inr ⟨hx.symm.trans hy,hz⟩
    · rw [hdefault] at hy
      cases hy

theorem holding_step (rd : ResourceDefinition) (s : State) (e : Event) (t : State)
    (h : Holding rd s) (hstep : guarded namedAlike Moves s e t) : Holding rd t := by
  obtain ⟨x,hx,hsame,hdata⟩ := h
  obtain ⟨hguard,hstep⟩ := hstep
  cases hstep with
  | reconcile name r t hexec =>
    have hspec := reconcile_spec hexec
    obtain ⟨y,hy,halike,hstack⟩ := hspec.get? hx
    have hxy : SameStack x y := by
      rcases hstack with hstack|⟨hname,_⟩
      · exact .inl hstack
      · rw [hname] at hx hy
        exact NamedAlike.kept hguard hspec hx hy hdata
    refine ⟨y,hy,hsame.trans hxy,?_⟩
    rcases hdata with hdata|hne
    · exact .inl (hdata.alike halike hspec.resources)
    · right
      rcases hxy with h|⟨h,_⟩
      · rw [h]
        exact hne
      · exact absurd h hne
  | change t hdefs hkeeps =>
    refine ⟨x,?_,hsame,?_⟩
    · unfold State.get?
      rw [hdefs]
      exact hx
    · exact hdata.imp (hkeeps x ((s.definitions.get?_eq_some _ _).mp hx).1) id

/-- A reconcile keeps the stack under data exactly where the replicas on disk name the definition
as its object is named, and a stack that is decided or in use outlives every sequence of such
reconciles. -/
theorem layerStack_kept_under_data (s : State) : (∀name,KeepsStack s name ↔ NamedAlike s name) ∧
      ∀t es,Run (guarded namedAlike Moves) s es t → ∀rd,s.get? rd.name=some rd →
        HoldsData s rd ∨ rd.layerStack≠[] → ∃rd',t.get? rd.name=some rd' ∧ SameStack rd rd' := by
  refine ⟨keepsStack_iff s,?_⟩
  intro t es hrun rd hrd hdata
  obtain ⟨rd',hrd',hsame,_⟩ :=
    hrun.invariant (Holding rd) (holding_step rd) ⟨rd,hrd,.inl rfl,hdata⟩
  exact ⟨rd',hrd',hsame⟩

section Spelling

/-- A group that encrypts, and a definition in it that has no stack yet. The definition was created
under the name `PVC-1`. -/
def encrypting : ResourceGroup := ⟨"secure",["DRBD","LUKS","STORAGE"]⟩

def undecided : ResourceDefinition where
  name := "pvc-1"
  resourceVersion := 1
  deleting := false
  linstorName := some "PVC-1"
  unappliedGroupLayerStack := none
  resourceGroupName := "secure"
  layerStack := []
  initialized := none

def written (rdName : String) : State where
  revision := 2
  definitions := ⟨[undecided],by decide⟩
  groups := ⟨[encrypting],by decide⟩
  resources := [⟨rdName,[],["/dev/drbd1000"]⟩]

/-- The name a replica carries is the one its definition was created under. -/
theorem layerStack_changed_under_data :
    HoldsData (written "PVC-1") undecided ∧ ¬KeepsStack (written "PVC-1") "pvc-1" := by
  have hdata : HoldsData (written "PVC-1") undecided := .inr ⟨_,.head _,by decide⟩
  refine ⟨hdata,fun h => ?_⟩
  rcases (keepsStack_iff _ _).mp h undecided encrypting rfl rfl rfl rfl nofun (by decide) hdata
    with h|h
  · exact absurd h (by decide)
  · exact absurd h (by decide)

theorem layerStack_kept_after_reconcile :
    ∃t,Run (guarded namedAlike Moves) (written "pvc-1") [.reconcile "pvc-1"] t ∧
      ∃rd',t.get? "pvc-1"=some rd' ∧ SameStack undecided rd' := by
  have halike : NamedAlike (written "pvc-1") "pvc-1" := by
    intro rd rg hrd _ _ _ _ _ _
    obtain rfl : undecided=rd := Option.some.inj hrd
    exact .inr rfl
  have hrun : Run (guarded namedAlike Moves) (written "pvc-1") [.reconcile "pvc-1"] _ :=
    .cons _ _ _ _ _ ⟨halike,.reconcile _ _ _
      (exec_simulate serve step_serve (reconcile "pvc-1") (written "pvc-1"))⟩ (.nil _)
  exact ⟨_,hrun,(layerStack_kept_under_data _).2 _ _ hrun undecided rfl
    (.inl (.inr ⟨_,.head _,by decide⟩))⟩

end Spelling

end Blockstor.Controller.LayerStack
