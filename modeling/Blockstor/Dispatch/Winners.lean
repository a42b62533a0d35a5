import Blockstor.Dispatch.Election

namespace Blockstor.Dispatch

open Framework Text Int32

def DesiredResource.forSeeding (dr : DesiredResource) : Satellite.DesiredResource where
  name := dr.name
  nodeName := dr.nodeName
  volumes := dr.volumes.map fun v =>
    {volumeNumber := v.volumeNumber.toInt
     sizeKib := v.sizeKib
     storagePool := v.storagePool
     sourceSnapshot := v.sourceSnapshot
     seedFromGI := v.seedFromGI
     observedGI := v.observedGI}
  peers := dr.peers.map fun p => ⟨p.name,p.nodeID.map toInt⟩
  drbdOptions := dr.drbdOptions.find
  peerHasData := dr.peerHasData
  skipInitialSync := dr.skipInitialSync
  distinct := by
    have h := dr.distinct.map (f := toInt) fun a b => toInt_inj.mp
    rw [List.map_map] at h ⊢
    exact h

def peerNotBelow (opts : Props) (selfID : Int) (peer : String) : Bool :=
  opts.get (peerKey peer ".diskless")=boolPropTrue ||
  match parseInt64 (opts.get (peerKey peer ".node-id")) with
  | none => false
  | some peerID => !(peerID<selfID)

def isLowestDiskfulNodeID (dr : DesiredResource) : Bool :=
  match parseInt64 (dr.drbdOptions.get "node-id") with
  | none => false
  | some selfID => dr.peers.all fun peer => peerNotBelow dr.drbdOptions selfID peer.name

namespace Snapshot

variable {s : Snapshot} {env : Reading} {target p : Resource}

theorem int32_bounds {n : Int32} : -2^63 ≤ n.toInt ∧ n.toInt < 2^63 := by
  have hlow := n.le_toInt
  have hhigh := n.toInt_lt
  omega

theorem isLowestDiskfulNodeID_iff (ht : target∈s.replicas) :
    isLowestDiskfulNodeID (s.desired env target)=true ↔
      ∀p∈s.replicas,p≠target → p.inactive=false → p.diskless=false →
        nodeIDOf target ≤ nodeIDOf p := by
  have hcheck (p : Resource) (hp : p∈s.replicas) (hne : p≠target) (hactive : p.inactive=false) :
      peerNotBelow (s.desired env target).drbdOptions (nodeIDOf target).toInt p.nodeName=true ↔
      (p.diskless=false → nodeIDOf target ≤ nodeIDOf p) := by
    rw [peerNotBelow,options_peer_nodeID ht hp hne hactive,
      parseInt64_formatInt int32_bounds]
    simp only [options_peer_diskless ht hp hne hactive,Bool.or_eq_true,decide_eq_true_eq,
      le_iff_toInt_le]
    cases p.diskless <;> simp
  rw [isLowestDiskfulNodeID,options_nodeID ht,parseInt64_formatInt int32_bounds]
  dsimp only
  rw [List.all_eq_true]
  constructor
  · intro h p hp hne hactive
    have hpeer := h ⟨p.nodeName,some (nodeIDOf p)⟩ ((mem_peers ht).mpr ⟨p,hp,hne,hactive,rfl⟩)
    exact (hcheck p hp hne hactive).mp hpeer
  · intro h peer hpeer
    obtain ⟨p,hp,hne,hactive,rfl⟩ := (mem_peers ht).mp hpeer
    exact (hcheck p hp hne hactive).mpr (h p hp hne hactive)

theorem isLateAddWinner_iff (ht : target∈s.replicas) :
    Satellite.isLateAddWinner (s.desired env target).forSeeding=true ↔
      ∀p∈s.replicas,p≠target → p.inactive=false → nodeIDOf target < nodeIDOf p := by
  have hlocal : Satellite.localNodeIDFromOpts (s.desired env target).forSeeding=
      some (nodeIDOf target).toInt := by
    have hlow := (nodeIDOf target).le_toInt
    have hhigh := (nodeIDOf target).toInt_lt
    have hfind : (s.desired env target).forSeeding.drbdOptions "node-id"=
        some (formatInt (nodeIDOf target).toInt) := drbdOptions_nodeID _ _ (s.allocated target ht)
    rw [Satellite.localNodeIDFromOpts,hfind]
    dsimp only
    rw [if_neg (formatInt_ne_empty _),parseInt32_formatInt ⟨by omega,by omega⟩]
  rw [Satellite.isLateAddWinner,hlocal]
  change (((s.desired env target).peers.map fun p =>
    (⟨p.name,p.nodeID.map toInt⟩ : Satellite.DesiredPeer)).all _)=true ↔ _
  rw [List.all_map,List.all_eq_true]
  constructor
  · intro h p hp hne hactive
    have := h _ ((mem_peers ht).mpr ⟨p,hp,hne,hactive,rfl⟩)
    rw [lt_iff_toInt_lt]
    simpa using this
  · intro h peer hpeer
    obtain ⟨p,hp,hne,hactive,rfl⟩ := (mem_peers ht).mp hpeer
    have := lt_iff_toInt_lt.mp (h p hp hne hactive)
    simpa using this

def OneWinner (s : Snapshot) (env : Reading) : Prop :=
  ∃r∈s.replicas,r.diskless=false ∧ ∀x∈s.replicas,
    (nodeIDOf x=lowestDiskfulID x s.replicas.items ↔ x=r) ∧
    (isLowestDiskfulNodeID (s.desired env x)=true ↔ x=r) ∧
    (Satellite.isLateAddWinner (s.desired env x).forSeeding=true ↔ x=r)

end Snapshot

namespace NumberedSnapshot

variable {s : NumberedSnapshot}

open Snapshot

theorem eq_of_le {r x : Resource} (hr : r∈s.replicas) (hx : x∈s.replicas)
    (hall : ∀x∈s.replicas,nodeIDOf r ≤ nodeIDOf x) (hle : nodeIDOf x ≤ nodeIDOf r) : x=r :=
  s.distinct x hx r hr (Int32.le_antisymm hle (hall x hx))

/-- While some diskful replica is active, the elections agree exactly if the replica with the lowest
id of all is active and diskful, and its id is not above the sentinel. -/
theorem oneWinner_iff (s : NumberedSnapshot) (env : Reading) :
    ((∃r∈s.replicas,r.diskless=false ∧ r.inactive=false) → s.OneWinner env) ↔
    ((∃r∈s.replicas,r.diskless=false ∧ r.inactive=false) →
      ∃r∈s.replicas,r.diskless=false ∧ r.inactive=false ∧ nodeIDOf r ≤ sentinel ∧
        ∀x∈s.replicas,nodeIDOf r ≤ nodeIDOf x) := by
  refine imp_congr_right fun ⟨a,ha,hserves⟩ => ?_
  constructor
  · rintro ⟨r,hr,hdisk,h⟩
    obtain ⟨_,hle⟩ := (eq_lowestDiskfulID_iff hr hdisk).mp ((h r hr).1.mpr rfl)
    -- the lowest of the active diskful replicas wins the election of the filesystem
    obtain ⟨low,hlow,⟨hlowdisk,hlowactive⟩,hlowest⟩ :=
      exists_min (P := fun r => r.diskless=false ∧ r.inactive=false) ha hserves
    have hwins : isLowestDiskfulNodeID (s.desired env low)=true :=
      (isLowestDiskfulNodeID_iff hlow).mpr fun p hp _ hactive hdisk => hlowest p hp ⟨hdisk,hactive⟩
    obtain rfl := (h low hlow).2.1.mp hwins
    have hlate := (isLateAddWinner_iff hlow).mp ((h low hlow).2.2.mpr rfl)
    refine ⟨low,hlow,hlowdisk,hlowactive,hle,fun x hx => Int32.not_lt.mp fun hlt => ?_⟩
    -- a replica with a lower id would win it too
    have hwins' : isLowestDiskfulNodeID (s.desired env x)=true := by
      refine (isLowestDiskfulNodeID_iff hx).mpr fun p hp hne hactive _ => ?_
      by_cases hpl : p=low
      · rw [hpl]
        exact Int32.le_of_lt hlt
      · exact Int32.le_of_lt (Int32.lt_trans hlt (hlate p hp hpl hactive))
    obtain rfl := (h x hx).2.1.mp hwins'
    exact Int32.lt_irrefl hlt
  · rintro ⟨r,hr,hdisk,hactive,hle,hall⟩
    refine ⟨r,hr,hdisk,fun x hx => ⟨⟨fun h => ?_,?_⟩,⟨fun h => ?_,?_⟩,⟨fun h => ?_,?_⟩⟩⟩
    · refine eq_of_le hr hx hall ?_
      rw [h]
      exact (lowestDiskfulID_spec hx).2.1 r hr hdisk
    · rintro rfl
      exact (eq_lowestDiskfulID_iff hr hdisk).mpr ⟨⟨hr,hdisk,fun x hx _ => hall x hx⟩,hle⟩
    · by_contra hne
      exact hne (eq_of_le hr hx hall
        ((isLowestDiskfulNodeID_iff hx).mp h r hr (Ne.symm hne) hactive hdisk))
    · rintro rfl
      exact (isLowestDiskfulNodeID_iff hr).mpr fun p hp _ _ _ => hall p hp
    · by_contra hne
      exact hne (eq_of_le hr hx hall
        (Int32.le_of_lt ((isLateAddWinner_iff hx).mp h r hr (Ne.symm hne) hactive)))
    · rintro rfl
      refine (isLateAddWinner_iff hr).mpr fun p hp hne _ => ?_
      exact Int32.not_le.mp fun hle => hne (eq_of_le hr hp hall hle)

end NumberedSnapshot

/-- A diskless replica with the lowest id counts itself as the winner. -/
theorem diskless_replica_wins : ¬∀(s : NumberedSnapshot) (env : Reading),
    (∃r∈s.replicas,r.diskless=false ∧ r.inactive=false) → s.OneWinner env := by
  intro h
  obtain ⟨r,hr,hdisk,hone⟩ := h (twoReplicas ["DISKLESS"] []) ⟨fun _ => none,fun _ => none⟩
    ⟨replica "n2" [] 1,.tail _ (.head _),by decide,by decide⟩
  have hfirst : replica "n1" ["DISKLESS"] 0∈(twoReplicas ["DISKLESS"] []).replicas := .head _
  have hwins := (hone _ hfirst).2.2.mp ((Snapshot.isLateAddWinner_iff hfirst).mpr ?_)
  · rw [← hwins] at hdisk
    exact absurd hdisk (by decide)
  · intro p hp hne _
    rcases List.mem_pair.mp hp with rfl|rfl
    · exact absurd rfl hne
    · decide

end Blockstor.Dispatch
