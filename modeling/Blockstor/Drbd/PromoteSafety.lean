import Blockstor.Drbd.Promote

namespace Blockstor.Drbd.Kernel

open List

/-- The disks of one resource on `N` nodes. -/
structure Disks (N : Nat) where
  volumes : List Int
  disk : Fin N → Int → DiskState

structure Links (N : Nat) where
  nodeID : Fin N → Int
  distinct : Function.Injective nodeID
  role : Fin N → Role
  replication : Fin N → Fin N → Int → ReplicationState × ResyncSuspended

variable {N : Nat}

namespace Disks

variable (D : Disks N) (L : Links N) (i : Fin N)

def devices : List Device := D.volumes.map fun v => ⟨v,D.disk i v⟩

def peers : List (Fin N) := (finRange N).filter fun j => j≠i

/-- What `i` sees of `j`: its disks, and the resync between the two. -/
def peerDevices (j : Fin N) : List PeerDevice :=
  D.volumes.map fun v => ⟨v,D.disk j v,(L.replication i j v).1,(L.replication i j v).2⟩

def connection (j : Fin N) : Connection :=
  ⟨L.nodeID j,.connected,L.role j,D.peerDevices L i j⟩

def status : Status :=
  some [⟨some (L.nodeID i),L.role i,D.devices i,(peers i).map (D.connection L i)⟩]

def promotes : Bool :=
  needsRecoveryPromote (D.status L i) || needsSoloPromote (D.status L i) ||
    needsLateAddPromote (D.status L i)

theorem mem_peers {i j : Fin N} : j∈peers i ↔ j≠i := by
  simp [peers,mem_finRange]

end Disks

open Disks

section Spec

variable {D : Disks N} {L : Links N} {i : Fin N}

def syncing (L : Links N) (i j : Fin N) (v : Int) : Bool :=
  peerDeviceActivelySyncing ⟨v,.inconsistent,(L.replication i j v).1,(L.replication i j v).2⟩

def Quiet (L : Links N) : Prop := ∀j,L.role j≠.primary

theorem any_connections (P : Connection → Bool) :
    ((peers i).map (D.connection L i)).any P=true ↔ ∃j,j≠i ∧ P (D.connection L i j)=true := by
  simp [mem_peers]

theorem all_connections (P : Connection → Bool) :
    ((peers i).map (D.connection L i)).all P=true ↔ ∀j,j≠i → P (D.connection L i j)=true := by
  simp [mem_peers]

theorem quiet_iff : (!(L.role i).isPrimary && !(((peers i).map (D.connection L i)).any fun conn =>
    conn.peerRole.isPrimary))=true ↔ Quiet L := by
  simp only [Bool.and_eq_true,Bool.not_eq_true',← Bool.not_eq_true,any_connections,Role.isPrimary,
    connection,decide_eq_true_eq]
  constructor
  · intro h j hj
    by_cases hji : j=i
    · exact h.1 (hji ▸ hj)
    · exact h.2 ⟨j,hji,decide_eq_true hj⟩
  · intro h
    exact ⟨h i,fun hj => hj.elim fun j hj => h j (of_decide_eq_true hj.2)⟩

theorem stuck_iff : (((peers i).map (D.connection L i)).any fun conn => conn.peerDevices.any fun pd =>
      pd.peerDiskState=.inconsistent && !peerDeviceActivelySyncing pd)=true ↔
    ∃j,j≠i ∧ ∃v∈D.volumes,D.disk j v=.inconsistent ∧ syncing L i j v=false := by
  rw [any_connections]
  simp only [connection,peerDevices,any_map,any_eq_true,
    Function.comp_apply,Bool.and_eq_true,decide_eq_true_eq,Bool.not_eq_true']
  refine exists_congr fun j => and_congr_right fun _ => exists_congr fun v =>
    and_congr_right fun _ => and_congr_right fun hv => ?_
  rw [syncing,← hv]

theorem lowest_iff : (((peers i).map (D.connection L i)).all fun conn => conn.peerDevices.all fun pd =>
      !(pd.peerDiskState=.upToDate && decide (conn.peerNodeID<L.nodeID i)))=true ↔
    ∀j,j≠i → ∀v∈D.volumes,D.disk j v=.upToDate → ¬L.nodeID j<L.nodeID i := by
  rw [all_connections]
  refine forall_congr' fun j => imp_congr_right fun _ => ?_
  change ((D.peerDevices L i j).all fun pd =>
    !(decide (pd.peerDiskState=.upToDate) && decide (L.nodeID j<L.nodeID i)))=true ↔ _
  simp only [peerDevices,all_map,all_eq_true,Function.comp_apply,Bool.not_eq_true',
    Bool.and_eq_false_iff,decide_eq_false_iff_not]
  exact forall_congr' fun v => imp_congr_right fun _ => imp_iff_not_or.symm

theorem localIsUpToDate_iff : localIsUpToDate (D.devices i)=true ↔
    D.volumes≠[] ∧ ∀v∈D.volumes,D.disk i v=.upToDate := by
  simp [localIsUpToDate,devices]

theorem recovery_iff : needsRecoveryPromote (D.status L i)=true ↔
    Quiet L ∧ (D.volumes≠[] ∧ ∀v∈D.volumes,D.disk i v=.upToDate) ∧
    (∃j,j≠i ∧ ∃v∈D.volumes,D.disk j v=.inconsistent ∧ syncing L i j v=false) ∧
    ∀j,j≠i → ∀v∈D.volumes,D.disk j v=.upToDate → ¬L.nodeID j<L.nodeID i := by
  rw [← @quiet_iff N D L i,← localIsUpToDate_iff,← stuck_iff,← lowest_iff]
  simp only [needsRecoveryPromote,probe,status,Option.any_some,scanRecoveryPromotePeers,
    Bool.and_eq_true]
  tauto

theorem solo_alone (h : needsSoloPromote (D.status L i)=true) (j : Fin N) : j=i := by
  simp only [needsSoloPromote,probe,status,Option.any_some,Bool.and_eq_true,List.isEmpty_map,
    List.isEmpty_iff] at h
  by_contra hj
  have := mem_peers.mpr hj
  rw [h.1.1] at this
  cases this

def Concedes (D : Disks N) (L : Links N) (i : Fin N) (v : Int) : Prop :=
  ∀j,j≠i → (D.disk j v).hasData=false ∧ (rival (D.disk j v)=true → ¬L.nodeID j<L.nodeID i) ∧
    (D.disk j v=.inconsistent → syncing L i j v=false)

theorem lateAddVolume_iff {v : Int} (hv : v∈D.volumes) :
    lateAddVolumeNeedsLocalPromote ((peers i).map (D.connection L i)) v (L.nodeID i)=true ↔
      Concedes D L i v := by
  unfold lateAddVolumeNeedsLocalPromote
  rw [all_connections]
  simp only [connection,peerDevices,all_map,all_eq_true,Function.comp_apply]
  refine forall_congr' fun j => imp_congr_right fun _ => ?_
  constructor
  · intro h
    have h := h v hv
    simp only [concedes,ne_eq,not_true_eq_false,decide_false,Bool.false_or,Bool.and_eq_true,
      Bool.not_eq_true',Bool.and_eq_false_iff,decide_eq_false_iff_not] at h
    refine ⟨h.1.1,fun hrival => ?_,fun hinc => ?_⟩
    · rcases h.1.2 with h|h
      · rw [hrival] at h
        cases h
      · exact h
    · rcases h.2 with h|h
      · exact absurd hinc h
      · rw [hinc] at h
        exact h
  · intro h w _
    by_cases hw : w=v
    · subst hw
      simp only [concedes,ne_eq,not_true_eq_false,decide_false,Bool.false_or,Bool.and_eq_true,
        Bool.not_eq_true',Bool.and_eq_false_iff,decide_eq_false_iff_not]
      refine ⟨⟨h.1,?_⟩,?_⟩
      · cases hrival : rival (D.disk j w) with
        | false => exact .inl rfl
        | true => exact .inr (h.2.1 hrival)
      · by_cases hinc : D.disk j w=.inconsistent
        · right
          rw [hinc]
          exact h.2.2 hinc
        · exact .inl hinc
    · simp [hw]

theorem allPeersConnected_iff : allPeersConnected ((peers i).map (D.connection L i))=true ↔
    ∃j,j≠i := by
  rw [allPeersConnected,Bool.and_eq_true,all_connections]
  simp only [List.isEmpty_map,Bool.not_eq_true',connection,decide_true,implies_true,and_true]
  rw [← Bool.not_eq_true,List.isEmpty_iff]
  exact ⟨fun h => (List.exists_mem_of_ne_nil _ h).imp fun j hj => mem_peers.mp hj,
    fun ⟨j,hj⟩ => List.ne_nil_of_mem (mem_peers.mpr hj)⟩

theorem mem_localInconsistent {v : Int} : v∈localInconsistentVolumes (D.devices i) ↔
    v∈D.volumes ∧ D.disk i v=.inconsistent := by
  simp [localInconsistentVolumes,devices]

theorem lateAdd_iff : needsLateAddPromote (D.status L i)=true ↔
    Quiet L ∧ (∃u∈D.volumes,D.disk i u=.upToDate) ∧ (∃j,j≠i) ∧
    (∃v∈D.volumes,D.disk i v=.inconsistent) ∧
    ∀v∈D.volumes,D.disk i v=.inconsistent → Concedes D L i v := by
  have hupToDate : localHasUpToDateVolume (D.devices i)=true ↔
      ∃u∈D.volumes,D.disk i u=.upToDate := by
    simp [localHasUpToDateVolume,devices]
  have hwedged : (!(localInconsistentVolumes (D.devices i)).isEmpty)=true ↔
      ∃v∈D.volumes,D.disk i v=.inconsistent := by
    rw [Bool.not_eq_true',← Bool.not_eq_true,List.isEmpty_iff]
    exact ⟨fun h => (exists_mem_of_ne_nil _ h).imp fun v hv => mem_localInconsistent.mp hv,
      fun ⟨v,hv⟩ => ne_nil_of_mem (mem_localInconsistent.mpr hv)⟩
  have hall : ((localInconsistentVolumes (D.devices i)).all fun vol =>
      lateAddVolumeNeedsLocalPromote ((peers i).map (D.connection L i)) vol (L.nodeID i))=true ↔
      ∀v∈D.volumes,D.disk i v=.inconsistent → Concedes D L i v := by
    rw [all_eq_true]
    constructor
    · exact fun h v hv hinc => (lateAddVolume_iff hv).mp (h v (mem_localInconsistent.mpr ⟨hv,hinc⟩))
    · intro h v hv
      obtain ⟨hv,hinc⟩ := mem_localInconsistent.mp hv
      exact (lateAddVolume_iff hv).mpr (h v hv hinc)
  rw [← @quiet_iff N D L i,← hupToDate,← @allPeersConnected_iff N D L i,← hwedged,← hall]
  simp only [needsLateAddPromote,probe,status,Option.any_some,Bool.and_eq_true]
  tauto

end Spec

section Safety

variable {D : Disks N} {L : Links N} {i j : Fin N}

def Safe (D : Disks N) (L : Links N) : Prop :=
  (∀i j,D.promotes L i=true → D.promotes L j=true → i=j) ∧
    ∀i,D.promotes L i=true → ∀j,j≠i → ∀v∈D.volumes,(D.disk j v).hasData=true →
      D.disk i v=.upToDate

structure Wedged (D : Disks N) (i : Fin N) : Prop where
  upToDate : ∃u∈D.volumes,D.disk i u=.upToDate
  inconsistent : ∃v∈D.volumes,D.disk i v=.inconsistent
  noData : ∀v∈D.volumes,D.disk i v=.inconsistent → ∀j,j≠i → (D.disk j v).hasData=false

/-- On a wedged node every volume some other node has data for is up, and of two wedged nodes each
has a disk for an inconsistent volume of the other. -/
structure Settled (D : Disks N) : Prop where
  data : ∀i,Wedged D i → ∀j,j≠i → ∀v∈D.volumes,(D.disk j v).hasData=true → D.disk i v=.upToDate
  rivals : ∀i j,i≠j → Wedged D i → Wedged D j →
    ∃v∈D.volumes,D.disk j v=.inconsistent ∧ rival (D.disk i v)=true

theorem wedged_of_lateAdd (h : needsLateAddPromote (D.status L i)=true) : Wedged D i := by
  obtain ⟨_,hup,_,hinc,hconcedes⟩ := lateAdd_iff.mp h
  exact ⟨hup,hinc,fun v hv hinc j hj => (hconcedes v hv hinc j hj).1⟩

theorem promotes_cases (h : D.promotes L i=true) : needsRecoveryPromote (D.status L i)=true ∨
    needsSoloPromote (D.status L i)=true ∨ needsLateAddPromote (D.status L i)=true := by
  simpa only [promotes,Bool.or_eq_true,or_assoc] using h

theorem recovery_unique (hi : needsRecoveryPromote (D.status L i)=true)
    (hj : needsRecoveryPromote (D.status L j)=true) : i=j := by
  obtain ⟨_,⟨hne,hupi⟩,_,hlowi⟩ := recovery_iff.mp hi
  obtain ⟨_,⟨_,hupj⟩,_,hlowj⟩ := recovery_iff.mp hj
  obtain ⟨v,hv⟩ := exists_mem_of_ne_nil _ hne
  by_contra hij
  have h₁ := hlowi j (Ne.symm hij) v hv (hupj v hv)
  have h₂ := hlowj i hij v hv (hupi v hv)
  exact hij (L.distinct (le_antisymm (not_lt.mp h₁) (not_lt.mp h₂)))

theorem recovery_lateAdd (hi : needsRecoveryPromote (D.status L i)=true)
    (hj : needsLateAddPromote (D.status L j)=true) : i=j := by
  by_contra hij
  obtain ⟨_,⟨_,hup⟩,_⟩ := recovery_iff.mp hi
  obtain ⟨_,⟨v,hv,hinc⟩,hnone⟩ := wedged_of_lateAdd hj
  have hdata := hnone v hv hinc i hij
  rw [hup v hv] at hdata
  cases hdata

theorem lateAdd_unique (h : Settled D) (hi : needsLateAddPromote (D.status L i)=true)
    (hj : needsLateAddPromote (D.status L j)=true) (hlt : L.nodeID i<L.nodeID j) : False := by
  have hij : i≠j := fun heq => lt_irrefl _ (heq ▸ hlt)
  obtain ⟨v,hv,hinc,hrival⟩ := h.rivals i j hij (wedged_of_lateAdd hi) (wedged_of_lateAdd hj)
  obtain ⟨_,_,_,_,hconcedes⟩ := lateAdd_iff.mp hj
  exact (hconcedes v hv hinc i hij).2.1 hrival hlt

theorem safe_of_settled (h : Settled D) (L : Links N) : Safe D L := by
  refine ⟨fun i j hi hj => ?_,fun i hi j hj v hv hdata => ?_⟩
  · rcases promotes_cases hi with hi|hi|hi
    · rcases promotes_cases hj with hj|hj|hj
      · exact recovery_unique hi hj
      · exact solo_alone hj i
      · exact recovery_lateAdd hi hj
    · exact (solo_alone hi j).symm
    · rcases promotes_cases hj with hj|hj|hj
      · exact (recovery_lateAdd hj hi).symm
      · exact solo_alone hj i
      · by_contra hij
        rcases lt_trichotomy (L.nodeID i) (L.nodeID j) with hlt|heq|hlt
        · exact lateAdd_unique h hi hj hlt
        · exact hij (L.distinct heq)
        · exact lateAdd_unique h hj hi hlt
  · rcases promotes_cases hi with hi|hi|hi
    · exact (recovery_iff.mp hi).2.1.2 v hv
    · exact absurd (solo_alone hi j) hj
    · exact h.data i (wedged_of_lateAdd hi) j hj v hv hdata

/-- All nodes are secondary, no resync runs, and `i` and `j` have the lowest ids. -/
def ordered (i j : Fin N) : Links N where
  nodeID := fun k => if k=i then 0 else if k=j then 1 else k.val+2
  distinct := by
    intro k l h
    dsimp only at h
    split at h <;> split at h <;> (try split at h) <;> (try split at h) <;> simp_all <;> omega
  role := fun _ => .secondary
  replication := fun _ _ _ => (.other,.suspended)

theorem quiet_ordered : Quiet (ordered i j) := fun _ => nofun

theorem syncing_ordered {k l : Fin N} {v : Int} : syncing (ordered i j) k l v=false := rfl

theorem first_lowest (k : Fin N) : ¬(ordered i j).nodeID k<(ordered i j).nodeID i := by
  unfold ordered
  dsimp only
  rw [if_pos rfl]
  split
  · omega
  · split <;> omega

theorem second_lowest {k : Fin N} (hk : k≠i) (hij : i≠j) :
    ¬(ordered i j).nodeID k<(ordered i j).nodeID j := by
  unfold ordered
  dsimp only
  rw [if_neg hk,if_neg hij.symm,if_pos rfl]
  split <;> omega

theorem first_promotes (hi : Wedged D i) {k : Fin N} (hk : k≠i) :
    D.promotes (ordered i j) i=true := by
  refine Bool.or_eq_true_iff.mpr (.inr (lateAdd_iff.mpr ⟨quiet_ordered,hi.upToDate,⟨k,hk⟩,
    hi.inconsistent,fun v hv hinc l hl => ⟨hi.noData v hv hinc l hl,fun _ => first_lowest l,
      fun _ => syncing_ordered⟩⟩))

theorem second_promotes (hij : i≠j) (hj : Wedged D j)
    (hnone : ∀v∈D.volumes,D.disk j v=.inconsistent → rival (D.disk i v)=false) :
    D.promotes (ordered i j) j=true := by
  refine Bool.or_eq_true_iff.mpr (.inr (lateAdd_iff.mpr ⟨quiet_ordered,hj.upToDate,⟨i,hij⟩,
    hj.inconsistent,fun v hv hinc l hl => ⟨hj.noData v hv hinc l hl,fun hrival => ?_,
      fun _ => syncing_ordered⟩⟩))
  by_cases hli : l=i
  · rw [hli,hnone v hv hinc] at hrival
    cases hrival
  · exact second_lowest hli hij

theorem settled_of_safe (h : ∀L,Safe D L) : Settled D := by
  constructor
  · intro i hi j hj v hv hdata
    exact (h (ordered i i)).2 i (first_promotes hi hj) j hj v hv hdata
  · intro i j hij hi hj
    by_contra hnone
    have hrival : ∀v∈D.volumes,D.disk j v=.inconsistent → rival (D.disk i v)=false := by
      intro v hv hinc
      rw [← Bool.not_eq_true]
      exact fun hrival => hnone ⟨v,hv,hinc,hrival⟩
    exact hij ((h (ordered i j)).1 i j (first_promotes hi hij.symm) (second_promotes hij hj hrival))

end Safety

section Mixed

def mixed (first second : List DiskState) : Disks 2 where
  volumes := [0,1,2]
  disk := fun i v => (if i.val=0 then first else second).getD v.toNat .diskless

def apart : Disks 2 := mixed [.upToDate,.inconsistent,.diskless] [.upToDate,.diskless,.inconsistent]

def outdated : Disks 2 := mixed [.upToDate,.inconsistent,.outdated] [.upToDate,.inconsistent,.upToDate]

end Mixed

end Blockstor.Drbd.Kernel
