import Blockstor.Dispatch.Snapshot

namespace Blockstor.Dispatch

open Framework List

structure NumberedSnapshot extends Snapshot where
  distinct : ∀r∈replicas,∀r'∈replicas,nodeIDOf r=nodeIDOf r' → r=r'

variable (low : Int32) (r : Resource)

theorem consider_le : consider low r ≤ low := by
  unfold consider
  split_ifs with _ _ h
  · exact Int32.le_refl low
  · exact Int32.le_refl low
  · exact Int32.le_of_lt h
  · exact Int32.le_refl low

theorem consider_le_id (hdisk : r.diskless=false)
    (hid : 0 ≤ nodeIDOf r) : consider low r ≤ nodeIDOf r := by
  unfold consider
  rw [hdisk,if_neg Bool.false_ne_true,if_neg (Int32.not_lt.mpr hid)]
  split_ifs with h
  · exact Int32.le_refl _
  · exact Int32.not_lt.mp h

theorem consider_eq : consider low r=low ∨ r.diskless=false ∧ consider low r=nodeIDOf r := by
  unfold consider
  split_ifs with hdisk
  · exact .inl rfl
  · exact .inl rfl
  · exact .inr ⟨Bool.eq_false_iff.mpr hdisk,rfl⟩
  · exact .inl rfl

theorem foldl_consider (l : List Resource) (low : Int32) (h : ∀r∈l,0 ≤ nodeIDOf r) :
    l.foldl consider low ≤ low ∧ (∀r∈l,r.diskless=false → l.foldl consider low ≤ nodeIDOf r) ∧
      (l.foldl consider low=low ∨
        ∃r∈l,r.diskless=false ∧ l.foldl consider low=nodeIDOf r) := by
  induction l generalizing low with
  | nil => exact ⟨Int32.le_refl low,(fun _ hr => by cases hr),.inl rfl⟩
  | cons a l ih =>
    obtain ⟨hle,hall,hex⟩ := ih (consider low a) fun r hr => h r (.tail _ hr)
    rw [foldl_cons]
    refine ⟨Int32.le_trans hle (consider_le low a),fun r hr hdisk => ?_,?_⟩
    · rcases mem_cons.mp hr with rfl|hr
      · exact Int32.le_trans hle (consider_le_id low r hdisk (h r (.head _)))
      · exact hall r hr hdisk
    · rcases hex with heq|⟨r,hr,hdisk,heq⟩
      · rw [heq]
        exact (consider_eq low a).imp_right fun ⟨hdisk,ha⟩ => ⟨a,.head _,hdisk,ha⟩
      · exact .inr ⟨r,.tail _ hr,hdisk,heq⟩

namespace Snapshot

variable (s : Snapshot)

structure Lowest (r : Resource) : Prop where
  stored : r∈s.replicas
  diskful : r.diskless=false
  lowest : ∀r'∈s.replicas,r'.diskless=false → nodeIDOf r ≤ nodeIDOf r'

def NoData : Prop :=
  ∀r∈s.replicas,r.diskless=false → ∀vol∈r.statusVolumes,vol.diskState.hasData=true →
    vol.currentGI=Drbd.day0GIFor r.resourceDefinitionName vol.volumeNumber.toInt

variable {s} {target : Resource}

theorem lowestDiskfulID_spec (ht : target∈s.replicas) :
    lowestDiskfulID target s.replicas.items ≤ sentinel ∧
    (∀r∈s.replicas,r.diskless=false →
      lowestDiskfulID target s.replicas.items ≤ nodeIDOf r) ∧
    (lowestDiskfulID target s.replicas.items=sentinel ∨ ∃r∈s.replicas,r.diskless=false ∧
      lowestDiskfulID target s.replicas.items=nodeIDOf r) := by
  have hstored : ∀r∈target::s.replicas.items,r∈s.replicas := by
    intro r hr
    rcases mem_cons.mp hr with rfl|hr
    · exact ht
    · exact hr
  have hall : diskfulPeersAllocated target s.replicas.items=true := by
    refine all_eq_true.mpr fun r hr => ?_
    simp [s.allocated r (hstored r hr)]
  rw [lowestDiskfulID,hall,Bool.not_true,if_neg Bool.false_ne_true]
  obtain ⟨hle,hlow,hex⟩ := foldl_consider (target::s.replicas.items) sentinel
    fun r hr => s.allocated r (hstored r hr)
  refine ⟨hle,fun r hr => hlow r (.tail _ hr),hex.imp_right fun ⟨r,hr,h⟩ => ⟨r,hstored r hr,h⟩⟩

theorem eq_lowestDiskfulID_iff (ht : target∈s.replicas) (hdisk : target.diskless=false) :
    nodeIDOf target=lowestDiskfulID target s.replicas.items ↔
      s.Lowest target ∧ nodeIDOf target ≤ sentinel := by
  obtain ⟨hle,hlow,hex⟩ := lowestDiskfulID_spec ht
  constructor
  · intro h
    rw [← h] at hle hlow
    exact ⟨⟨ht,hdisk,hlow⟩,hle⟩
  · rintro ⟨hlowest,hsentinel⟩
    refine Int32.le_antisymm ?_ (hlow target ht hdisk)
    rcases hex with h|⟨r,hr,hr',h⟩
    · rw [h]
      exact hsentinel
    · rw [h]
      exact hlowest.lowest r hr hr'

def Stamped (s : Snapshot) (env : Reading) (r : Resource) : Prop :=
  (s.desired env r).drbdOptions.find "auto-primary"=some boolPropTrue

theorem stamped_iff (env : Reading) (ht : target∈s.replicas) : s.Stamped env target ↔
    s.Lowest target ∧ nodeIDOf target ≤ sentinel ∧ rdInitialized s.rd=false ∧
      anyDiskfulPeerHasData s.replicas.items=false := by
  have helects : electsSelf target s.replicas.items s.rd=true ↔ target.diskless=false ∧
      nodeIDOf target=lowestDiskfulID target s.replicas.items ∧ rdInitialized s.rd=false ∧
        anyDiskfulPeerHasData s.replicas.items=false := by
    rw [electsSelf,idOf_self,if_pos (s.allocated target ht)]
    simp [and_assoc]
  rw [Stamped,desired,drbdOptions_autoPrimary]
  constructor
  · intro h
    split at h
    · rename_i he
      obtain ⟨hdisk,hid,hrest⟩ := helects.mp he
      obtain ⟨hlow,hle⟩ := (eq_lowestDiskfulID_iff ht hdisk).mp hid
      exact ⟨hlow,hle,hrest⟩
    · cases h
  · rintro ⟨hlow,hle,hrest⟩
    have he := helects.mpr ⟨hlow.diskful,(eq_lowestDiskfulID_iff ht hlow.diskful).mpr ⟨hlow,hle⟩,hrest⟩
    rw [if_pos he]

theorem NoData.none (h : s.NoData) : anyDiskfulPeerHasData s.replicas.items=false := by
  refine any_eq_false.mpr fun r hr hdata => ?_
  obtain ⟨hdisk,hvol⟩ := (Bool.and_eq_true _ _).mp hdata
  obtain ⟨vol,hmem,hvol⟩ := any_eq_true.mp hvol
  obtain ⟨hstate,hday0⟩ := (Bool.and_eq_true _ _).mp hvol
  have hgi := h r hr (by simpa using hdisk) vol hmem hstate
  have hne := Drbd.day0GIFor_ne_empty r.resourceDefinitionName vol.volumeNumber.toInt
  rw [isDay0SeededVolume,hgi,Text.equalFold_refl] at hday0
  simp [hne] at hday0

open Classical in
theorem exists_min {P : Resource → Prop} {r : Resource} (hr : r∈s.replicas) (hP : P r) :
    ∃r∈s.replicas,P r ∧ ∀r'∈s.replicas,P r' → nodeIDOf r ≤ nodeIDOf r' := by
  have hmem {x : Resource} : x∈s.replicas.items.filter (P ·) ↔ x∈s.replicas ∧ P x := by
    rw [mem_filter,decide_eq_true_eq]
    rfl
  cases hmin : (s.replicas.items.filter (P ·)).argmin fun x => (nodeIDOf x).toInt with
  | none =>
    have hnil := hmem.mpr ⟨hr,hP⟩
    rw [argmin_eq_none.mp hmin] at hnil
    cases hnil
  | some low =>
    obtain ⟨hlow,hPlow⟩ := hmem.mp (argmin_mem hmin)
    refine ⟨low,hlow,hPlow,fun x hx hPx => Int32.le_iff_toInt_le.mpr ?_⟩
    exact le_of_mem_argmin (f := fun x => (nodeIDOf x).toInt) (hmem.mpr ⟨hx,hPx⟩) hmin

theorem exists_lowest {r : Resource} (hr : r∈s.replicas) (hdisk : r.diskless=false) :
    ∃r,s.Lowest r := by
  obtain ⟨low,hlow,hdisk,hall⟩ := exists_min (P := fun r => r.diskless=false) hr hdisk
  exact ⟨low,hlow,hdisk,hall⟩

structure Fresh (s : Snapshot) : Prop where
  uninitialized : rdInitialized s.rd=false
  noData : s.NoData
  active : ∃r∈s.replicas,r.diskless=false ∧ r.inactive=false

/-- At most one replica is told to become primary, and when the definition is fresh one is, a diskful
and active one. -/
structure SinglePrimary (s : Snapshot) (env : Reading) : Prop where
  atMostOne : ∀r∈s.replicas,∀r'∈s.replicas,s.Stamped env r → s.Stamped env r' → r=r'
  one : s.Fresh → ∃r∈s.replicas,s.Stamped env r ∧ r.diskless=false ∧ r.inactive=false

end Snapshot

namespace NumberedSnapshot

theorem lowest_unique (s : NumberedSnapshot) {r r' : Resource} (h : s.Lowest r)
    (h' : s.Lowest r') : r=r' :=
  s.distinct r h.stored r' h'.stored (Int32.le_antisymm (h.lowest r' h'.stored h'.diskful)
    (h'.lowest r h.stored h.diskful))

/-- The election of a fresh definition succeeds exactly if the diskful replica with the lowest id is
active, and its id is not above the sentinel. -/
theorem singlePrimary_iff (s : NumberedSnapshot) (env : Reading) : s.SinglePrimary env ↔
    (s.Fresh → ∀r,s.Lowest r → r.inactive=false ∧ nodeIDOf r ≤ sentinel) := by
  constructor
  · intro h hfresh r hlow
    obtain ⟨r',hr',hstamped,_,hactive⟩ := h.one hfresh
    obtain ⟨hlow',hle,_⟩ := (Snapshot.stamped_iff env hr').mp hstamped
    obtain rfl := s.lowest_unique hlow hlow'
    exact ⟨hactive,hle⟩
  · intro h
    refine ⟨fun r hr r' hr' hs hs' => ?_,fun hfresh => ?_⟩
    · exact s.lowest_unique ((Snapshot.stamped_iff env hr).mp hs).1
        ((Snapshot.stamped_iff env hr').mp hs').1
    · obtain ⟨r,hr,hdisk,_⟩ := hfresh.active
      obtain ⟨low,hlow⟩ := Snapshot.exists_lowest hr hdisk
      obtain ⟨hactive,hle⟩ := h hfresh low hlow
      refine ⟨low,hlow.stored,(Snapshot.stamped_iff env hlow.stored).mpr ?_,hlow.diskful,hactive⟩
      exact ⟨hlow,hle,hfresh.uninitialized,hfresh.noData.none⟩

end NumberedSnapshot

section Concrete

/-- A replica of `pvc-1` with a node-id and nothing else. -/
def replica (nodeName : String) (flags : List String) (id : Int32) : Resource where
  resourceDefinitionName := "pvc-1"
  nodeName := nodeName
  flags := flags
  props := .empty
  storagePool := ""
  drbdNodeID := some id
  drbdPort := none
  seedFromGI := []
  skipInitialSync := none
  statusDRBDNodeID := none
  statusDRBDPort := none
  statusDRBDMinor := none
  statusVolumes := []

def emptyDefinition : ResourceDefinition := ⟨[],.empty,⟨[],nodup_nil⟩,none⟩

def twoReplicas (flags flags' : List String) : NumberedSnapshot where
  rd := emptyDefinition
  replicas := ⟨[replica "n1" flags 0,replica "n2" flags' 1],show ["n1","n2"].Nodup by decide⟩
  nodes := []
  pools := []
  allocated := by
    intro r hr
    rcases mem_pair.mp hr with rfl|rfl
    · exact show (0 : Int32) ≤ 0 by decide
    · exact show (0 : Int32) ≤ 1 by decide
  distinct := by
    intro r hr r' hr'
    rcases mem_pair.mp hr with rfl|rfl <;> rcases mem_pair.mp hr' with rfl|rfl
    · exact fun _ => rfl
    · exact fun h => absurd h (show (0 : Int32)≠1 by decide)
    · exact fun h => absurd h (show (1 : Int32)≠0 by decide)
    · exact fun _ => rfl

/-- The replica with the lowest id was deactivated, and nobody else becomes primary. -/
theorem inactive_replica_elected : ¬∀(s : NumberedSnapshot) (env : Reading),s.SinglePrimary env := by
  intro h
  have hfresh : (twoReplicas ["INACTIVE"] []).Fresh := by
    refine ⟨rfl,?_,replica "n2" [] 1,.tail _ (.head _),by decide,by decide⟩
    intro r hr _ vol hvol
    rcases mem_pair.mp hr with rfl|rfl <;> cases hvol
  obtain ⟨r,hr,hstamped,_,hactive⟩ := (h _ ⟨fun _ => none,fun _ => none⟩).one hfresh
  have hlow := ((Snapshot.stamped_iff _ hr).mp hstamped).1
  rcases mem_pair.mp hr with rfl|rfl
  · exact absurd hactive (by decide)
  · exact absurd (hlow.lowest (replica "n1" ["INACTIVE"] 0) (.head _) (by decide)) (by decide)

end Concrete

end Blockstor.Dispatch
