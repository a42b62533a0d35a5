import Blockstor.Drbd.PromoteSafety

namespace Blockstor.Drbd.Kernel

open Disks

variable {N : Nat}

/-- A fully connected cluster that is wedged: nobody is primary, a node is up to date on all volumes,
and a volume of some node is inconsistent while no other node is resyncing it. -/
structure Stalled (N : Nat) where
  disks : Disks N
  links : Links N
  quiet : Quiet links
  source : ∃i,∀v∈disks.volumes,disks.disk i v=.upToDate
  stuck : ∃j,∃v∈disks.volumes,disks.disk j v=.inconsistent ∧ ∀i,i≠j → syncing links i j v=false

namespace Stalled

variable (w : Stalled N)

def Full (i : Fin N) : Prop := ∀v∈w.disks.volumes,w.disks.disk i v=.upToDate

def Partly (i : Fin N) : Prop := ∃v∈w.disks.volumes,w.disks.disk i v=.upToDate

def Resolved : Prop :=
  ∃i,(∀j,needsRecoveryPromote (w.disks.status w.links j)=true ↔ j=i) ∧ w.Full i

/-- No node that is up to date on some volume only has a lower id than the nodes that are up to date
on all of them. -/
def Unrivalled : Prop :=
  ∃i,w.Full i ∧ ∀j,j≠i → w.Partly j → ¬w.links.nodeID j<w.links.nodeID i

theorem stuck_elsewhere {i : Fin N} (hi : w.Full i) :
    ∃j,j≠i ∧ ∃v∈w.disks.volumes,w.disks.disk j v=.inconsistent ∧ syncing w.links i j v=false := by
  obtain ⟨j,v,hv,hinc,hidle⟩ := w.stuck
  have hji : j≠i := by
    rintro rfl
    have hup := hi v hv
    rw [hinc] at hup
    cases hup
  exact ⟨j,hji,v,hv,hinc,hidle i (Ne.symm hji)⟩

theorem volumes_ne_nil : w.disks.volumes≠[] := by
  obtain ⟨_,v,hv,_⟩ := w.stuck
  exact List.ne_nil_of_mem hv

theorem needsRecovery_iff (i : Fin N) : needsRecoveryPromote (w.disks.status w.links i)=true ↔
      w.Full i ∧ ∀j,j≠i → w.Partly j → ¬w.links.nodeID j<w.links.nodeID i := by
  rw [recovery_iff]
  constructor
  · rintro ⟨_,⟨_,hfull⟩,_,hlowest⟩
    exact ⟨hfull,fun j hj ⟨v,hv,hup⟩ => hlowest j hj v hv hup⟩
  · rintro ⟨hfull,hlowest⟩
    exact ⟨w.quiet,⟨w.volumes_ne_nil,hfull⟩,w.stuck_elsewhere hfull,
      fun j hj v hv hup => hlowest j hj ⟨v,hv,hup⟩⟩

theorem unrivalled_unique {i j : Fin N} (hi : w.Full i)
    (hil : ∀k,k≠i → w.Partly k → ¬w.links.nodeID k<w.links.nodeID i) (hj : w.Full j)
    (hjl : ∀k,k≠j → w.Partly k → ¬w.links.nodeID k<w.links.nodeID j) : j=i := by
  obtain ⟨v,hv⟩ := List.exists_mem_of_ne_nil _ w.volumes_ne_nil
  by_contra hji
  have hlt := hil j hji ⟨v,hv,hj v hv⟩
  have hgt := hjl i (Ne.symm hji) ⟨v,hv,hi v hv⟩
  exact hji (w.links.distinct (Int.le_antisymm (Int.not_lt.mp hgt) (Int.not_lt.mp hlt)))

/-- The wedge is resolved exactly when no partly up to date node outranks the full ones. -/
theorem resolved_iff (w : Stalled N) : w.Resolved ↔ w.Unrivalled := by
  constructor
  · rintro ⟨i,honly,_⟩
    exact ⟨i,(w.needsRecovery_iff i).mp ((honly i).mpr rfl)⟩
  · rintro ⟨i,hfull,hlowest⟩
    refine ⟨i,fun j => ⟨fun hj => ?_,fun hj => ?_⟩,hfull⟩
    · obtain ⟨hjfull,hjlowest⟩ := (w.needsRecovery_iff j).mp hj
      exact w.unrivalled_unique hfull hlowest hjfull hjlowest
    · rw [hj]
      exact (w.needsRecovery_iff i).mpr ⟨hfull,hlowest⟩

end Stalled

/-- Two nodes with three volumes: one of them is inconsistent on the first node, and all are up to date
on the second. -/
def outranked : Stalled 2 where
  disks := mixed [.upToDate,.inconsistent,.upToDate] [.upToDate,.upToDate,.upToDate]
  links := ordered 0 1
  quiet := nofun
  source := ⟨1,by decide⟩
  stuck := ⟨0,1,by decide⟩

/-- The first node defers to the second and is deferred to by it. -/
theorem wedge_stays : ¬outranked.Resolved := by
  rintro ⟨i,honly,_⟩
  have hnone : ∀j,needsRecoveryPromote (outranked.disks.status outranked.links j)=false := by decide
  have hi := (honly i).mpr rfl
  rw [hnone i] at hi
  cases hi

end Blockstor.Drbd.Kernel
