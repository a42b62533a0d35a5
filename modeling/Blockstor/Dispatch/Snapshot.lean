import Blockstor.Dispatch.Lookup

namespace Blockstor.Dispatch

open Framework

/-- The stored replicas of a definition, with their node-ids. A replica is stored under the names of
the definition and of its node. -/
structure Snapshot where
  rd : ResourceDefinition
  replicas : Keyed Resource.nodeName
  nodes : List Node
  pools : List StoragePool
  allocated : ∀r∈replicas,0 ≤ nodeIDOf r

/-- What the satellite of a replica reads besides the snapshot: how it decodes the stored paths, and
the resolved properties of each replica. -/
structure Reading where
  unmarshal : String → Option (List Props)
  effectiveProps : Resource → Option Props

def Snapshot.desired (s : Snapshot) (env : Reading) (target : Resource) : DesiredResource :=
  BuildDesired env.unmarshal target s.replicas.items s.nodes s.pools s.rd (env.effectiveProps target)

namespace Snapshot

variable {s : Snapshot} {env : Reading} {target p : Resource}

theorem mem_dropped (ht : target∈s.replicas) {name : String} :
    name∈dropped target s.replicas.items ↔
      ∃p∈s.replicas,p≠target ∧ p.inactive=false ∧ p.nodeName=name := by
  rw [dropped,List.mem_mergeSort,List.mem_filter,decide_eq_true_eq]
  constructor
  · rintro ⟨hmem,hne⟩
    obtain ⟨⟨_,id⟩,hx,rfl⟩ := List.mem_map.mp hmem
    obtain ⟨p,hp,hname,hactive,_⟩ := (idOf_other hne).mp (Dict.find_eq_some.mpr hx)
    exact ⟨p,hp,fun h => hne (hname.symm.trans (congrArg Resource.nodeName h)),hactive,hname⟩
  · rintro ⟨p,hp,hne,hactive,rfl⟩
    have hname : p.nodeName≠target.nodeName := fun h => hne (s.replicas.eq_of_key hp ht h)
    have hfind : (idOf target s.replicas.items).find p.nodeName=some (nodeIDOf p) :=
      (idOf_other hname).mpr ⟨p,hp,rfl,hactive,s.allocated p hp,rfl⟩
    exact ⟨List.mem_map.mpr ⟨_,Dict.find_eq_some.mp hfind,rfl⟩,hname⟩

theorem byName_of_mem (hp : p∈s.replicas) :
    (peerByName s.replicas.items).find p.nodeName=some p := by
  rw [peerByName_find]
  exact (s.replicas.get?_eq_some _ p).mpr ⟨hp,rfl⟩

theorem mem_peers (ht : target∈s.replicas) {peer : DesiredPeer} :
    peer∈(s.desired env target).peers ↔ ∃p∈s.replicas,p≠target ∧ p.inactive=false ∧
      peer=⟨p.nodeName,some (nodeIDOf p)⟩ := by
  change peer∈buildDesiredPeers (dropped target s.replicas.items) s.replicas.items ↔ _
  rw [buildDesiredPeers,List.mem_map]
  have hpeer {p : Resource} (hp : p∈s.replicas) :
      (((peerByName s.replicas.items).find p.nodeName).bind fun p =>
        if 0 ≤ nodeIDOf p then some (nodeIDOf p) else none)=some (nodeIDOf p) := by
    rw [byName_of_mem hp,Option.bind_some,if_pos (s.allocated p hp)]
  constructor
  · rintro ⟨name,hname,rfl⟩
    obtain ⟨p,hp,hne,hactive,rfl⟩ := (mem_dropped ht).mp hname
    exact ⟨p,hp,hne,hactive,by rw [hpeer hp]⟩
  · rintro ⟨p,hp,hne,hactive,rfl⟩
    exact ⟨p.nodeName,(mem_dropped ht).mpr ⟨p,hp,hne,hactive,rfl⟩,by rw [hpeer hp]⟩

theorem options_peer (ht : target∈s.replicas) (hp : p∈s.replicas) (hne : p≠target)
    (hactive : p.inactive=false) {field : String} (hfield : field∈peerFields) :
    (s.desired env target).drbdOptions.find (peerKey p.nodeName field)=
      ([(".port",Text.formatInt (peerPortOf p (readDRBDPort target))),
        (".node-id",Text.formatInt (nodeIDOf p).toInt),
        (".address",peerAddressWithPrefNic s.nodes s.pools p.nodeName (targetPoolName p))]++
        if p.diskless then [(".diskless",boolPropTrue)] else []).lookup field := by
  have hname : p.nodeName≠target.nodeName := fun h => hne (s.replicas.eq_of_key hp ht h)
  have hid : (idOf target s.replicas.items).find p.nodeName=some (nodeIDOf p) :=
    (idOf_other hname).mpr ⟨p,hp,rfl,hactive,s.allocated p hp,rfl⟩
  rw [desired,drbdOptions_peer _ _ _ _ _ ((mem_dropped ht).mpr ⟨p,hp,hne,hactive,rfl⟩) hfield,
    peerEntries,byName_of_mem hp,hid]
  rfl

section

variable (ht : target∈s.replicas) (hp : p∈s.replicas) (hne : p≠target) (hactive : p.inactive=false)

include ht hp hne hactive

theorem options_peer_port : (s.desired env target).drbdOptions.get (peerKey p.nodeName ".port")=
      Text.formatInt (peerPortOf p (readDRBDPort target)) := by
  rw [Props.get,options_peer ht hp hne hactive (by decide)]
  rfl

theorem options_peer_nodeID :
    (s.desired env target).drbdOptions.get (peerKey p.nodeName ".node-id")=
      Text.formatInt (nodeIDOf p).toInt := by
  rw [Props.get,options_peer ht hp hne hactive (by decide)]
  rfl

theorem options_peer_address :
    (s.desired env target).drbdOptions.get (peerKey p.nodeName ".address")=
      peerAddressWithPrefNic s.nodes s.pools p.nodeName (targetPoolName p) := by
  rw [Props.get,options_peer ht hp hne hactive (by decide)]
  rfl

theorem options_peer_diskless :
    (s.desired env target).drbdOptions.get (peerKey p.nodeName ".diskless")=boolPropTrue ↔
      p.diskless=true := by
  rw [Props.get,options_peer ht hp hne hactive (by decide)]
  cases p.diskless
  · exact iff_of_false (show ""≠boolPropTrue by decide) Bool.false_ne_true
  · exact iff_of_true rfl rfl

end

theorem options_nodeID (ht : target∈s.replicas) : (s.desired env target).drbdOptions.get "node-id"=
      Text.formatInt (nodeIDOf target).toInt := by
  rw [Props.get,desired,drbdOptions_nodeID _ _ (s.allocated target ht)]
  rfl

end Snapshot

end Blockstor.Dispatch
