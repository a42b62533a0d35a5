import Blockstor.Evacuation.Prune

namespace Blockstor.Evacuation.Migration

open Framework Shell Placer

def migratingFromProp : String := "BlockstorMigratingFrom"

def pruneSrc (srcName : String) : Prog Unit := do
  match ← ask (.getResource srcName) with
  | .error e => if e.is .notFound then pure () else throw e
  | .ok _ =>
    match ← ask (.delete srcName) with
    | .ok () => pure ()
    | .error e => if e.is .notFound then pure () else throw e

def clearMigratingFrom (name : String) (dst : Resource) : Prog Unit := do
  if (dst.props.lookup migratingFromProp).isNone then pure ()
  else run (.update name {dst with props := dst.props.unset migratingFromProp})

def reconcile (name : String) : Prog Bool := do
  match ← ask (.getResource name) with
  | .error e => if e.is .notFound then pure false else throw e
  | .ok dst =>
    let srcNode := dst.props.get migratingFromProp
    if srcNode="" then pure false
    else if dst.deleting then pure false
    else if !allVolumesUpToDate dst then pure true
    else
      pruneSrc (resourceCRDName dst.name srcNode)
      clearMigratingFrom name dst
      pure false

variable {s t u : State} {name n : String}

def srcName (dst : Resource) : String := resourceCRDName dst.name (dst.props.get migratingFromProp)

def finishes (dst : Resource) : Bool :=
  dst.props.get migratingFromProp≠"" && !dst.deleting && allVolumesUpToDate dst

theorem exec_pruneSrc {src : String} {r : Except Err Unit} (h : Exec Step (pruneSrc src) s r t) :
    t=s ∨ t=(serve s (.delete src)).2 := by
  rcases (yields_ask rfl).exec_bind h with ⟨_,_,ht⟩|⟨a,_,h⟩
  · exact .inl ht
  · cases a with
    | error e =>
      dsimp only at h
      split at h
      · exact .inl (exec_pure.mp h).2
      · exact .inl (exec_throw.mp h).2
    | ok x =>
      obtain ⟨b,v,hb,h⟩ := exec_ask.mp h
      have ht : t=v := by
        cases b with
        | ok x => exact (exec_pure.mp h).2
        | error e =>
          dsimp only at h
          split at h
          · exact (exec_pure.mp h).2
          · exact (exec_throw.mp h).2
      rw [ht]
      exact hb.state

theorem exec_clear {dst : Resource} {r : Except Err Unit}
    (h : Exec Step (clearMigratingFrom name dst) s r t) : Live t n ↔ Live s n := by
  unfold clearMigratingFrom at h
  split at h
  · rw [(exec_pure.mp h).2]
  · obtain ⟨b,v,hb,h⟩ := exec_ask.mp h
    have ht : t=v := by
      cases b with
      | ok x => exact (exec_pure.mp h).2
      | error e => exact (exec_throw.mp h).2
    rw [ht]
    rcases hb.state with hv|hv
    · rw [hv]
    · rw [hv]
      exact live_update s

theorem reconcile_deletes {r : Except Err Bool} (h : Exec Step (reconcile name) s r t)
    (hdeleted : Deleted s t n) :
    ∃dst,s.resources.get? name=some dst ∧ finishes dst=true ∧ n=srcName dst := by
  rcases (yields_ask rfl).exec_bind h with ⟨_,_,rfl⟩|⟨a,ha,h⟩
  · exact absurd hdeleted not_deleted_self
  · cases a with
    | error e =>
      have ht : t=s := by
        dsimp only at h
        split at h
        · exact (exec_pure.mp h).2
        · exact (exec_throw.mp h).2
      rw [ht] at hdeleted
      exact absurd hdeleted not_deleted_self
    | ok dst =>
      have hdst : s.resources.get? name=some dst := by
        rcases ha with ha|ha
        · exact found_eq_ok.mp ha.symm
        · cases ha
      have hsame : t≠s := fun ht => not_deleted_self (ht ▸ hdeleted)
      dsimp only at h
      split at h
      · exact absurd (exec_pure.mp h).2 hsame
      · rename_i hsrc
        split at h
        · exact absurd (exec_pure.mp h).2 hsame
        · rename_i hlive
          split at h
          · exact absurd (exec_pure.mp h).2 hsame
          · rename_i hready
            have hfinishes : finishes dst=true := by
              simp only [finishes,Bool.and_eq_true,decide_eq_true_eq]
              exact ⟨⟨by simpa using hsrc,by simpa using hlive⟩,by simpa using hready⟩
            refine ⟨dst,hdst,hfinishes,?_⟩
            by_contra hne
            -- no other object changes between life and death
            have hprune : ∀v x,Exec Step (pruneSrc (srcName dst)) s x v → (Live v n ↔ Live s n) := by
              intro v x hx
              rcases exec_pruneSrc hx with rfl|rfl
              · rfl
              · unfold Live
                rw [get?_delete_other s hne]
            apply hdeleted.2
            rcases exec_bind.mp h with ⟨_,hfail,_⟩|⟨_,v,hpruned,h⟩
            · exact (hprune _ _ hfail).mpr hdeleted.1
            · rcases exec_bind.mp h with ⟨_,hclear,_⟩|⟨_,w,hclear,h⟩
              · exact (exec_clear hclear).mpr ((hprune _ _ hpruned).mpr hdeleted.1)
              · rw [(exec_pure.mp h).2]
                exact (exec_clear hclear).mpr ((hprune _ _ hpruned).mpr hdeleted.1)

theorem pruneSrc_serve {src : String} {x : Resource} (h : s.resources.get? src=some x) :
    Exec Step (pruneSrc src) s (.ok ()) (serve s (.delete src)).2 := by
  have hget : (serve s (.getResource src)).1=.ok x := by simp only [serve,h,found]
  refine exec_ask.mpr ⟨.ok x,s,.inl ⟨hget.symm,rfl⟩,?_⟩
  refine exec_ask.mpr ⟨.ok (),_,.inl ⟨(delete_ok h).symm,rfl⟩,?_⟩
  exact .done _ _

theorem reconcile_prunes {dst : Resource} (hdst : s.resources.get? name=some dst)
    (hfinishes : finishes dst=true) (hlive : Live s (srcName dst)) :
    ∃r t,Exec Step (reconcile name) s r t ∧ Deleted s t (srcName dst) := by
  obtain ⟨src,hsrc,_⟩ := hlive
  have hclear := exec_simulate serve step_serve (clearMigratingFrom name dst)
    (serve s (.delete (srcName dst))).2
  have hgone : ¬Live (simulate serve (clearMigratingFrom name dst)
      (serve s (.delete (srcName dst))).2).2 (srcName dst) :=
    fun h => not_live_delete s ((exec_clear hclear).mp h)
  have hrest : ∃r,Exec Step (clearMigratingFrom name dst >>= fun _ => pure false)
      (serve s (.delete (srcName dst))).2 r (simulate serve (clearMigratingFrom name dst)
        (serve s (.delete (srcName dst))).2).2 := by
    cases hr : (simulate serve (clearMigratingFrom name dst)
        (serve s (.delete (srcName dst))).2).1 with
    | error e =>
      rw [hr] at hclear
      exact ⟨.error e,exec_bind.mpr (.inl ⟨e,hclear,rfl⟩)⟩
    | ok x =>
      rw [hr] at hclear
      exact ⟨.ok false,exec_bind.mpr (.inr ⟨x,_,hclear,.done _ _⟩)⟩
  obtain ⟨r,hrest⟩ := hrest
  have hget : (serve s (.getResource name)).1=.ok dst := by simp only [serve,hdst,found]
  refine ⟨r,_,exec_ask.mpr ⟨.ok dst,s,.inl ⟨hget.symm,rfl⟩,?_⟩,
    ⟨src,hsrc,by assumption⟩,hgone⟩
  obtain ⟨⟨hfrom,hnot⟩,hready⟩ : (dst.props.get migratingFromProp≠"" ∧ dst.deleting=false) ∧
      allVolumesUpToDate dst=true := by
    simpa [finishes] using hfinishes
  dsimp only
  rw [if_neg hfrom,if_neg (by simp [hnot]),if_neg (by simp [hready])]
  exact exec_bind.mpr (.inr ⟨(),_,pruneSrc_serve hsrc,hrest⟩)

/-- The source goes only when the destination has a disk, stays, and is up to date on every volume
of the definition. -/
def PrunesSafely (s : State) (name : String) : Prop :=
  ∀r t,Exec Step (reconcile name) s r t → ∀dst,s.resources.get? name=some dst →
    ∀n,Deleted s t n → n=srcName dst ∧ dst.diskful=true ∧ dst.deleting=false ∧
      ∀rd,s.getDefinition dst.name=some rd → completeFor rd.volumeDefinitions dst=true

/-- A destination with a live source whose reported volumes are all up to date has a disk, and
every volume of the definition is among them. -/
def Reported (s : State) (name : String) : Prop :=
  ∀dst,s.resources.get? name=some dst → finishes dst=true → Live s (srcName dst) →
    dst.diskful=true ∧
      ∀rd,s.getDefinition dst.name=some rd → covers rd.volumeDefinitions dst=true

theorem source_pruned_last (s : State) (name : String) : PrunesSafely s name ↔ Reported s name := by
  constructor
  · intro h dst hdst hfinishes hlive
    obtain ⟨r,t,hexec,hdeleted⟩ := reconcile_prunes hdst hfinishes hlive
    obtain ⟨_,hdiskful,_,hcomplete⟩ := h r t hexec dst hdst _ hdeleted
    exact ⟨hdiskful,fun rd hrd => covers_of_completeFor (hcomplete rd hrd)⟩
  · intro h r t hexec dst hdst n hdeleted
    obtain ⟨dst',hdst',hfinishes,rfl⟩ := reconcile_deletes hexec hdeleted
    obtain rfl : dst=dst' := Option.some.inj (hdst.symm.trans hdst')
    obtain ⟨hdiskful,hcovers⟩ := h dst hdst hfinishes hdeleted.1
    have hready : dst.deleting=false ∧ allVolumesUpToDate dst=true := by
      simp only [finishes,Bool.and_eq_true] at hfinishes
      exact ⟨by simpa using hfinishes.1.2,hfinishes.2⟩
    exact ⟨rfl,hdiskful,hready.1,fun rd hrd => completeFor_of_covers hready.2 (hcovers rd hrd)⟩

section Partial

/-- A definition with two volumes that moves from `n1` to `n2`, where only the first volume is
reported. -/
def halfReported : State where
  nodes := ⟨[⟨"n1",[],[]⟩,⟨"n2",[],[]⟩],by decide⟩
  pools := .empty
  resources := ⟨[⟨"pvc-1","n1",[],[],true,false,[⟨0,"UpToDate"⟩,⟨1,"UpToDate"⟩]⟩,
    ⟨"pvc-1","n2",[],[(migratingFromProp,"n1")],true,false,[⟨0,"UpToDate"⟩]⟩],by decide⟩
  definitions := ⟨[⟨"pvc-1","rg",[],none,[⟨0,1024⟩,⟨1,1024⟩]⟩],by decide⟩
  groups := .empty
  controllerProps := []

theorem source_pruned_before_second_volume : ¬PrunesSafely halfReported "pvc-1.n2" := by
  intro h
  obtain ⟨r,t,hexec,hdeleted⟩ := reconcile_prunes
    (rfl : halfReported.resources.get? "pvc-1.n2"=some _) (by decide) ⟨_,rfl,by decide⟩
  obtain ⟨_,_,_,hcomplete⟩ := h r t hexec _ rfl _ hdeleted
  exact absurd (hcomplete _ rfl) (by decide)

end Partial

end Blockstor.Evacuation.Migration
