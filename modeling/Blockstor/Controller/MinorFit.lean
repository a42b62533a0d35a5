import Blockstor.Controller.MinorSafety

namespace Blockstor.Controller

open Drbd Framework Shell

abbrev minorRangeOf (c : Cluster) (node : String) : Except RangeErr (Int32 × Int32) :=
  rangeIn node NodeSpec.drbdMinorRange "DrbdOptions/MinorNrRange" "MinorNrAutoRange"
    (defaultMinorMin,defaultMinorMax) c

def InRange (r : Int32 × Int32) (m : Int32) : Prop := r.1 ≤ m ∧ m ≤ r.2

/-- A range is the intersection of those of the nodes, the default one when there are none. -/
structure FitsHosts (c : Cluster) (hosts : List String) (r : Int32 × Int32) : Prop where
  none : hosts=[] → r=(defaultMinorMin,defaultMinorMax)
  valid : ∀node∈hosts,∃q,minorRangeOf c node=.ok q
  exact : hosts≠[] → ∀m,InRange r m ↔ ∀node∈hosts,∃q,minorRangeOf c node=.ok q ∧ InRange q m

section Intersection

variable {range : String → Except RangeErr (Int32 × Int32)} {default : Int32 × Int32}

theorem inRange_narrowed (r q : Int32 × Int32) (m : Int32) :
    InRange (if q.1>r.1 then q.1 else r.1,if q.2<r.2 then q.2 else r.2) m ↔
      InRange r m ∧ InRange q m := by
  unfold InRange
  grind

theorem intersectIn_some {nodes : List String} {acc r : Int32 × Int32}
    (h : intersectIn range default nodes (some acc)=.ok r) :
    (∀node∈nodes,∃q,range node=.ok q) ∧
      ∀m,InRange r m ↔ InRange acc m ∧ ∀node∈nodes,∃q,range node=.ok q ∧ InRange q m := by
  induction nodes generalizing acc with
  | nil =>
    cases h
    exact ⟨nofun,fun m => ⟨fun hm => ⟨hm,nofun⟩,And.left⟩⟩
  | cons node nodes ih =>
    rw [intersectIn] at h
    cases hq : range node with
    | error e =>
      rw [hq] at h
      cases h
    | ok q =>
      rw [hq] at h
      obtain ⟨hvalid,hexact⟩ := ih h
      simp only [List.forall_mem_cons,hq,Except.ok.injEq,exists_eq_left',exists_eq',true_and]
      refine ⟨hvalid,fun m => ?_⟩
      rw [hexact,inRange_narrowed,and_assoc]

theorem fitsHosts_of_ok {c : Cluster} {hosts : List String} {r : Int32 × Int32}
    (h : intersectIn (minorRangeOf c) (defaultMinorMin,defaultMinorMax) hosts none=.ok r) :
    FitsHosts c hosts r := by
  cases hosts with
  | nil =>
    cases h
    exact ⟨fun _ => rfl,fun _ hn => (by cases hn),fun hne => absurd rfl hne⟩
  | cons node nodes =>
    rw [intersectIn] at h
    cases hq : minorRangeOf c node with
    | error e =>
      rw [hq] at h
      cases h
    | ok q =>
      rw [hq] at h
      obtain ⟨hvalid,hexact⟩ := intersectIn_some h
      refine ⟨fun hnil => (by cases hnil),?_,fun _ m => ?_⟩
      · simp only [List.forall_mem_cons,hq,Except.ok.injEq,exists_eq',true_and]
        exact hvalid
      · simp only [List.forall_mem_cons,hq,Except.ok.injEq,exists_eq_left']
        exact hexact m

end Intersection

section Fill

variable {low high : Int32}

/-- A volume without a minor gets one of the range; a full range up to the last value of the type
goes on with the first one. -/
def Fitted (low high : Int32) (v vd : VolumeDefinition) : Prop :=
  v.drbdMinor=none → ∃m,vd.drbdMinor=some m ∧
    (InRange (low,high) m ∨ high=Int32.maxValue ∧ m=Int32.minValue)

theorem fillMinors_fitted {vds out : List VolumeDefinition} {taken : List Int32}
    (h : fillMinors low high taken vds=some out) : List.Forall₂ (Fitted low high) vds out := by
  refine fillMinors_forall₂ (fun v hv hnone => ?_) (fun v m _ _ hpick _ => ⟨m,rfl,?_⟩) h
  · rw [hnone] at hv
    cases hv
  · rcases hpick with ⟨hlo,hhi,_⟩|⟨hmax,hmin,_⟩
    · exact .inl ⟨hlo,hhi⟩
    · exact .inr ⟨hmax,hmin⟩

theorem fillMinors_full {vds : List VolumeDefinition} {taken : List Int32}
    (hfull : ∀m,InRange (low,high) m → m∈taken) (hhigh : high≠Int32.maxValue)
    (hvd : ∃vd∈vds,vd.drbdMinor=none) : fillMinors low high taken vds=none := by
  induction vds with
  | nil =>
    obtain ⟨_,hvd,_⟩ := hvd
    cases hvd
  | cons v vds ih =>
    rw [fillMinors]
    cases hv : v.drbdMinor with
    | some m =>
      have hrest : ∃vd∈vds,vd.drbdMinor=none := by
        simpa [hv] using hvd
      rw [ih hrest]
      rfl
    | none =>
      cases hm : lowestFreeMinor taken low high with
      | none => rfl
      | some m =>
        rcases lowestFree_picked _ _ _ _ hm with ⟨hlo,hhi,hfree,_⟩|⟨hmax,_⟩
        · exact absurd (hfull m ⟨hlo,hhi⟩) hfree
        · exact absurd hmax hhigh

end Fill

variable (c : Cluster) (rd : ResourceDefinition)

def takenFor : List Int32 :=
  takenMinorsCluster rd.name c.definitions.items++
    (backfillRDMinorsFromStatus rd).1.filterMap VolumeDefinition.drbdMinor

def ownRange : Cluster where
  resources := .empty
  definitions := .empty
  nodes := fun _ => some {drbdMinorRange := some ⟨40000,40010⟩}
  extraProps := some fun _ => "30000-30010"

end Blockstor.Controller
