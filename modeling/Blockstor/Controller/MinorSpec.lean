import Blockstor.Controller.AllocateSpec

namespace Blockstor.Controller

open Drbd Framework Shell

section

variable {c t : Cluster}

def intersectIn (range : String → Except RangeErr (Int32 × Int32)) (default : Int32 × Int32) :
    List String → Option (Int32 × Int32) → Except RangeErr (Int32 × Int32)
  | [],acc => .ok (acc.getD default)
  | node::nodes,acc =>
    (range node).bind fun (nLow,nHigh) =>
      let next := match acc with
        | none => (nLow,nHigh)
        | some (low,high) => (if nLow>low then nLow else low,if nHigh<high then nHigh else high)
      intersectIn range default nodes (some next)

variable (rdName : String) (rd : ResourceDefinition)

def minorRangeIn (c : Cluster) : Except RangeErr (Int32 × Int32) :=
  intersectIn (fun node => rangeIn node NodeSpec.drbdMinorRange "DrbdOptions/MinorNrRange"
    "MinorNrAutoRange" (defaultMinorMin,defaultMinorMax) c) (defaultMinorMin,defaultMinorMax)
    (hostingNodesForRD rdName c.resources.items) none

theorem intersectRange_looks (range : String → Prog (Int32 × Int32))
    (hrange : ∀node,Looks (range node)) (default : Int32 × Int32) (nodes : List String)
    (acc : Option (Int32 × Int32)) : Looks (intersectRange range default nodes acc) := by
  induction nodes generalizing acc with
  | nil => trivial
  | cons node nodes ih => exact (hrange node).bind fun _ => ih _

theorem intersectRange_ok (range : String → Prog (Int32 × Int32))
    (rangeOf : String → Except RangeErr (Int32 × Int32))
    (hlooks : ∀node,Looks (range node))
    (hrange : ∀node r t,Exec Step (range node) c (.ok r) t → rangeOf node=.ok r)
    (default : Int32 × Int32) (nodes : List String) (acc : Option (Int32 × Int32))
    (r : Int32 × Int32) (h : Exec Step (intersectRange range default nodes acc) c (.ok r) t) :
    intersectIn rangeOf default nodes acc=.ok r := by
  induction nodes generalizing acc with
  | nil =>
    obtain ⟨he,_⟩ := exec_pure.mp h
    rw [Except.ok.inj he]
    rfl
  | cons node nodes ih =>
    obtain ⟨⟨nLow,nHigh⟩,u,hn,h1⟩ := exec_bind_ok.mp h
    have hu := (hlooks node).stays _ _ _ hn
    rw [hu] at h1
    rw [intersectIn,hrange node _ _ hn]
    exact ih _ h1

theorem intersectMinorRange_looks {nodes : List String} : Looks (intersectMinorRange nodes) :=
  intersectRange_looks _ (fun _ => nodeRangeWithClusterFallback_looks _ _ _ _ _) _ _ _

def Minted (c : Cluster) (rd : ResourceDefinition) (vds : List VolumeDefinition) : Prop :=
  ∃low high,minorRangeIn rd.name c=.ok (low,high) ∧
    fillMinors low high (takenMinorsCluster rd.name c.definitions.items++
      (backfillRDMinorsFromStatus rd).1.filterMap VolumeDefinition.drbdMinor)
      (backfillRDMinorsFromStatus rd).1=some vds

theorem allocateRDVolumeMinors_looks :
    Looks (allocateRDVolumeMinors rd) := by
  refine (api_looks rfl).bind fun list => ?_
  refine intersectMinorRange_looks.bind fun range => ?_
  refine (api_looks rfl).bind fun definitions => ?_
  dsimp only
  split <;> trivial

theorem allocateRDVolumeMinors_ok {r : List VolumeDefinition × Bool}
    (h : Exec Step (allocateRDVolumeMinors rd) c (.ok r) t) : Minted c rd r.1 := by
  obtain ⟨list,u,hl,h1⟩ := exec_bind_ok.mp h
  obtain rfl := listResources_ok hl
  obtain rfl := (api_looks rfl).stays _ _ _ hl
  obtain ⟨⟨low,high⟩,v,hr,h2⟩ := exec_bind_ok.mp h1
  obtain rfl := intersectMinorRange_looks.stays _ _ _ hr
  obtain ⟨definitions,w,hd,h3⟩ := exec_bind_ok.mp h2
  obtain rfl := listDefinitions_ok hd
  refine ⟨low,high,intersectRange_ok _ _
    (fun _ => nodeRangeWithClusterFallback_looks _ _ _ _ _)
    (fun _ _ _ h => nodeRangeWithClusterFallback_ok _ _ _ _ _ _ h) _ _ _ _ hr,?_⟩
  dsimp only at h3
  split at h3
  · cases h3
  · rename_i filled hfill
    obtain ⟨he,_⟩ := exec_pure.mp h3
    rw [Except.ok.inj he]
    exact hfill

theorem ensureRDVolumeMinors_effect (r : Except AllocErr (Bool × Option Int32))
    (h : Exec Step (ensureRDVolumeMinors rdName) c r t) :
    t=c ∨ ∃rd vds,c.definitions.get? rdName=some rd ∧ Minted c rd vds ∧
      t=c.patchVolumes rdName vds := by
  obtain ⟨a,u,ha,h1⟩ := exec_ask.mp h
  obtain rfl := step_read _ rfl _ ha
  rcases a with e|rd
  · left
    cases e with
    | notFound => exact (exec_pure.mp h1).2
    | conflict => exact (exec_throw.mp h1).2
    | other => exact (exec_throw.mp h1).2
  have hrd := found_ok ha
  dsimp only at h1
  split at h1
  · exact .inl (exec_pure.mp h1).2
  split at h1
  · exact .inl (exec_pure.mp h1).2
  rcases exec_bind.mp h1 with ⟨e,he,_⟩|⟨⟨vds,mutated⟩,v,hm,h2⟩
  · exact .inl ((allocateRDVolumeMinors_looks rd).stays _ _ _ he)
  obtain rfl := (allocateRDVolumeMinors_looks rd).stays _ _ _ hm
  have hminted := allocateRDVolumeMinors_ok rd hm
  dsimp only at h2
  split at h2
  · exact .inl (exec_pure.mp h2).2
  obtain ⟨a,w,hw,h3⟩ := exec_ask.mp h2
  have ht : t=w := by
    rcases a with e|u
    · cases e with
      | notFound => exact (exec_throw.mp h3).2
      | other => exact (exec_throw.mp h3).2
      | conflict =>
        obtain ⟨b,x,hx,h4⟩ := exec_ask.mp h3
        obtain rfl := step_read _ rfl _ hx
        cases b with
        | ok fresh => exact (exec_pure.mp h4).2
        | error e => exact (exec_throw.mp h4).2
    · exact (exec_pure.mp h3).2
  subst ht
  rcases hw with ⟨_,rfl⟩|⟨_,rfl|rfl⟩
  · exact .inr ⟨rd,vds,hrd,hminted,rfl⟩
  · exact .inl rfl
  · exact .inr ⟨rd,vds,hrd,hminted,rfl⟩

end

end Blockstor.Controller
