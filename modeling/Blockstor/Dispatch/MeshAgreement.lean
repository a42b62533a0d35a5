import Blockstor.Dispatch.Mesh

namespace Blockstor.Dispatch

open Framework Text List

structure MeshSnapshot extends Snapshot where
  ported : ∀r∈replicas,(r.drbdPort.or r.statusDRBDPort).isSome
  minored : ∀vd∈rd.volumeDefinitions,vd.drbdMinor.isSome

structure Devices where
  path : Int32 → String
  named : ∀n,path n≠"none"

/-- The file that the satellite of a replica renders; its own address is the endpoint of its node. -/
def Snapshot.resFile (s : Snapshot) (env : Reading) (devices : Resource → Devices) (x : Resource) :
    ResFile :=
  buildResFile (s.desired env x) (peerAddress s.nodes x.nodeName) (devices x).path

variable (b : OnBlock) (r : Resource)

/-- What an `on` block says of its host. -/
def OnBlock.line : String × Int × String × Int :=
  (b.nodeName,b.nodeID,b.address,b.port)

def OnBlock.minors : List (Int × Int) := b.volumes.map fun v => (v.number,v.minor)

def OnBlock.missing : List (Int × Bool) :=
  b.volumes.map fun v => (v.number,v.disk=="none")

def ResFile.names (f : ResFile) : List String := f.hosts.map OnBlock.nodeName

structure ResFile.Closed (f : ResFile) : Prop where
  names : f.names.Nodup
  joins : ∀c∈f.connections,c.hostA∈f.names ∧ c.hostB∈f.names ∧ c.hostA≠c.hostB

/-- Two files describe one mesh: the same hosts and volumes, no disk in the same places, and for each
pair of hosts one connection, with the same ends. -/
structure ResFile.Agrees (f g : ResFile) : Prop where
  closed : f.Closed ∧ g.Closed
  hosts : ∀l,l∈f.hosts.map OnBlock.line ↔ l∈g.hosts.map OnBlock.line
  minors : ∀b∈f.hosts,∀b'∈g.hosts,b.minors=b'.minors
  missing : ∀b∈f.hosts,∀b'∈g.hosts,b.nodeName=b'.nodeName → b.missing=b'.missing
  connections : ∀a∈f.names,∀b∈f.names,a≠b → ∃l,
    f.connections.filterMap (Connection.seenFrom a b)=[l] ∧
    g.connections.filterMap (Connection.seenFrom a b)=[l]

theorem atoi_formatInt {n : Int} (h : -2^63 ≤ n ∧ n < 2^63) : atoi (formatInt n)=n := by
  rw [atoi,parseInt64_formatInt h]
  rfl

theorem atoi_int32 (n : Int32) : atoi (formatInt n.toInt)=n.toInt := by
  have hlow := n.le_toInt
  have hhigh := n.toInt_lt
  exact atoi_formatInt (by omega)

def reportedMinor : Int :=
  (r.statusDRBDMinor.map Int32.toInt).getD (deriveMinor r.resourceDefinitionName)

theorem deriveMinor_bounds (name : String) : 0 ≤ deriveMinor name ∧ deriveMinor name < 2^31 := by
  unfold deriveMinor
  omega

theorem atoi_readDRBDMinor (rd : ResourceDefinition) :
    atoi (formatInt (readDRBDMinor r rd))=readDRBDMinor r rd := by
  unfold readDRBDMinor
  dsimp only
  generalize (rd.volumeDefinitions.items.findSome? _).or r.statusDRBDMinor=minor
  cases minor with
  | some n => exact atoi_int32 n
  | none =>
    have h := deriveMinor_bounds r.resourceDefinitionName
    exact atoi_formatInt (by simp only [Option.map_none,Option.getD_none]; omega)

theorem peerAddress_ne_empty (nodes : List Node) (name : String) : peerAddress nodes name≠"" := by
  unfold peerAddress
  dsimp only
  split_ifs with hendpoint
  · decide
  · split
    · split_ifs with hhost
      · exact hendpoint
      · exact hhost
    · exact hendpoint

namespace Snapshot

variable (s : Snapshot) (env : Reading)

variable (r : Resource)

/-- The interface that a replica is to use is known by the address that stands for every interface,
and the endpoint of its node is not. -/
def Unpinned : Prop :=
  pinnedAddress s.nodes s.pools r.nodeName (targetPoolName r)=drbdAddrAny ∧
    peerAddress s.nodes r.nodeName≠drbdAddrAny

def ownAddress : String :=
  resolveAddr (prefNicAddress s.nodes s.pools r.nodeName (targetPoolName r))
    (peerAddress s.nodes r.nodeName)

def addressOf : String :=
  peerAddressWithPrefNic s.nodes s.pools r.nodeName (targetPoolName r)

theorem ownAddress_eq : s.ownAddress r=s.addressOf r ↔ ¬s.Unpinned r := by
  have hne := peerAddress_ne_empty s.nodes r.nodeName
  have hany : drbdAddrAny≠"" := by decide
  unfold ownAddress addressOf resolveAddr prefNicAddress peerAddressWithPrefNic Unpinned
  dsimp only
  generalize pinnedAddress s.nodes s.pools r.nodeName (targetPoolName r)=pinned
  by_cases hempty : pinned=""
  · subst hempty
    simp [hne,hany.symm]
  · by_cases hp : pinned=drbdAddrAny
    · subst hp
      simp [hne,hany,eq_comm]
    · simp [hempty,hp]

def seen (x p : Resource) : Host where
  nodeName := p.nodeName
  address := if p.nodeName=x.nodeName then s.ownAddress p else s.addressOf p
  port := peerPortOf p 0
  nodeID := (nodeIDOf p).toInt
  isLocal := p.nodeName=x.nodeName
  diskless := p.diskless

variable {s env} {x p : Resource}

theorem options_own (key : String) (hkey : key∈["port","address","minor"]) :
    (s.desired env x).drbdOptions.get key=
      (([("port",formatInt (readDRBDPort x)),
        ("address",prefNicAddress s.nodes s.pools x.nodeName (targetPoolName x)),
        ("minor",formatInt (readDRBDMinor x s.rd))] : List (String × String)).lookup key).getD "" := by
  simp only [mem_cons,not_mem_nil,or_false] at hkey
  rcases hkey with rfl|rfl|rfl <;>
    (rw [Props.get,desired,drbdOptions_own _ _ _ _ _ _ _ (by decide) (by decide),ownOptions]
     cases (idOf x s.replicas.items).find x.nodeName <;>
       cases electsSelf x s.replicas.items s.rd <;> simp [Dict.setAll,lookup])

theorem buildDesiredPeers_names (peerNames : List String) (peers : List Resource) :
    (buildDesiredPeers peerNames peers).map DesiredPeer.name=peerNames := by
  unfold buildDesiredPeers
  rw [map_map]
  exact map_id peerNames

theorem hostsOf_names (addr : String) : (hostsOf (s.desired env x) addr).map Host.nodeName=
    x.nodeName::dropped x s.replicas.items := by
  unfold hostsOf
  rw [map_cons,map_map]
  exact congrArg _ (buildDesiredPeers_names _ s.replicas.items)

theorem hostsOf_nodup (addr : String) :
    ((hostsOf (s.desired env x) addr).map Host.nodeName).Nodup := by
  rw [hostsOf_names]
  unfold dropped
  refine nodup_cons.mpr ⟨fun h => ?_,?_⟩
  · have h := (mem_filter.mp (mem_mergeSort.mp h)).2
    exact of_decide_eq_true h rfl
  · exact (mergeSort_perm _ _).nodup_iff.mpr ((idOf x s.replicas.items).nodup.filter _)

end Snapshot

namespace MeshSnapshot

variable {s : MeshSnapshot} {env : Reading} {x p : Resource}

theorem port_eq (hp : p∈s.replicas) (fallback : Int) :
    atoi (formatInt (peerPortOf p fallback))=peerPortOf p 0 := by
  obtain ⟨port,hport⟩ := Option.isSome_iff_exists.mp (s.ported p hp)
  unfold peerPortOf
  rw [hport]
  exact atoi_int32 port

theorem localHost_eq (hx : x∈s.replicas) :
    localHost (s.desired env x) (peerAddress s.nodes x.nodeName)=s.seen x x := by
  unfold localHost Snapshot.seen
  rw [Snapshot.options_own "port" (by decide),Snapshot.options_own "address" (by decide),
    Snapshot.options_nodeID hx,atoi_int32,if_pos rfl,decide_eq_true rfl]
  exact congrArg (fun port => Host.mk _ _ port _ _ _) (port_eq hx _)

theorem peerHost_eq (hx : x∈s.replicas) (hp : p∈s.replicas) (hne : p≠x)
    (hactive : p.inactive=false) : peerHost (s.desired env x) p.nodeName=s.seen x p := by
  have hname : p.nodeName≠x.nodeName := fun h => hne (s.replicas.eq_of_key hp hx h)
  have hdiskless : decide ((s.desired env x).drbdOptions.get (peerKey p.nodeName ".diskless")=
      boolPropTrue)=p.diskless := by
    rw [Bool.eq_iff_iff,decide_eq_true_eq]
    exact Snapshot.options_peer_diskless hx hp hne hactive
  unfold peerHost Snapshot.seen
  rw [hdiskless,Snapshot.options_peer_port hx hp hne hactive,
    Snapshot.options_peer_nodeID hx hp hne hactive,
    Snapshot.options_peer_address hx hp hne hactive,atoi_int32,port_eq hp,if_neg hname,
    decide_eq_false hname]
  exact congrArg (fun addr => Host.mk _ addr _ _ _ _) (if_neg fun h => h.2 rfl)

theorem mem_hosts (hx : x∈s.replicas) (hactive : x.inactive=false) {h : Host} :
    h∈hostsOf (s.desired env x) (peerAddress s.nodes x.nodeName) ↔
      ∃p∈s.replicas,p.inactive=false ∧ h=s.seen x p := by
  rw [hostsOf,mem_cons,mem_map,localHost_eq hx]
  constructor
  · rintro (rfl|⟨peer,hpeer,rfl⟩)
    · exact ⟨x,hx,hactive,rfl⟩
    · obtain ⟨p,hp,hne,hp',rfl⟩ := (Snapshot.mem_peers hx).mp hpeer
      exact ⟨p,hp,hp',peerHost_eq hx hp hne hp'⟩
  · rintro ⟨p,hp,hp',rfl⟩
    by_cases hne : p=x
    · exact .inl (hne ▸ rfl)
    · exact .inr ⟨_,(Snapshot.mem_peers hx).mpr ⟨p,hp,hne,hp',rfl⟩,peerHost_eq hx hp hne hp'⟩

theorem readDRBDMinor_eq_iff {x y : Resource} : readDRBDMinor x s.rd=readDRBDMinor y s.rd ↔
      (∃vd∈s.rd.volumeDefinitions,vd.volumeNumber=0) ∨ reportedMinor x=reportedMinor y := by
  unfold readDRBDMinor reportedMinor
  dsimp only
  by_cases h : ∃vd∈s.rd.volumeDefinitions,vd.volumeNumber=0
  · obtain ⟨vd,hvd,hzero⟩ := h
    have hsome : (s.rd.volumeDefinitions.items.findSome? fun vd =>
        if vd.volumeNumber=0 then vd.drbdMinor else none).isSome := by
      refine findSome?_isSome_iff.mpr ⟨vd,hvd,?_⟩
      rw [if_pos hzero]
      exact s.minored vd hvd
    obtain ⟨minor,hminor⟩ := Option.isSome_iff_exists.mp hsome
    simp only [hminor,Option.some_or,Option.map_some,Option.getD_some]
    exact iff_of_true trivial (.inl ⟨vd,hvd,hzero⟩)
  · have hnone : (s.rd.volumeDefinitions.items.findSome? fun vd =>
        if vd.volumeNumber=0 then vd.drbdMinor else none)=none :=
      findSome?_eq_none_iff.mpr fun vd hvd => if_neg fun hzero => h ⟨vd,hvd,hzero⟩
    rw [hnone,or_iff_right h]
    rfl

def minorIn (base : Int) (vd : VolumeDefinition) : Int :=
  if (vd.drbdMinor.getD 0).toInt≠0 then (vd.drbdMinor.getD 0).toInt else base+vd.volumeNumber.toInt

variable (devices : Resource → Devices)

theorem mem_blocks (hx : x∈s.replicas) (hactive : x.inactive=false) {b : OnBlock} :
    b∈(s.resFile env devices x).hosts ↔ ∃p∈s.replicas,p.inactive=false ∧
      b=onBlock (buildResVolumes (s.desired env x) (devices x).path (readDRBDMinor x s.rd))
        (s.seen x p) := by
  have hminor : atoi ((s.desired env x).drbdOptions.get "minor")=readDRBDMinor x s.rd := by
    rw [Snapshot.options_own "minor" (by decide)]
    exact atoi_readDRBDMinor x s.rd
  simp only [Snapshot.resFile,buildResFile,mem_map,mem_hosts hx hactive,hminor]
  constructor
  · rintro ⟨_,⟨p,hp,hp',rfl⟩,rfl⟩
    exact ⟨p,hp,hp',rfl⟩
  · rintro ⟨p,hp,hp',rfl⟩
    exact ⟨_,⟨p,hp,hp',rfl⟩,rfl⟩

theorem minors_onBlock (path : Int32 → String) (base : Int) (h : Host) :
    (onBlock (buildResVolumes (s.desired env x) path base) h).minors=
      s.rd.volumeDefinitions.items.map fun vd => (vd.volumeNumber.toInt,minorIn base vd) := by
  change map _ (map _ (map _ (map _ _)))=_
  rw [map_map,map_map,map_map]
  rfl

theorem diskField_eq (h : Host) {vol : ResVolume} (hvol : vol.disk≠"none") :
    (diskField h vol=="none")=h.diskless := by
  unfold diskField
  cases h.diskless
  · cases h.isLocal
    · exact show (peerDiskPlaceholder=="none")=false by decide
    · exact beq_eq_false_iff_ne.mpr hvol
  · rfl

theorem devicePath_ne (pool name : String) (number : Int32) : devicePath pool name number≠"none" := by
  intro h
  have hlist := congrArg String.toList h
  simp [devicePath] at hlist

theorem missing_onBlock (d : Devices) (base : Int) (h : Host) :
    (onBlock (buildResVolumes (s.desired env x) d.path base) h).missing=
      s.rd.volumeDefinitions.items.map fun vd => (vd.volumeNumber.toInt,h.diskless) := by
  have hdisk (vol : ResVolume) (hvol : vol∈buildResVolumes (s.desired env x) d.path base) :
      (diskField h vol=="none")=h.diskless := by
    refine diskField_eq h ?_
    obtain ⟨v,_,rfl⟩ := mem_map.mp hvol
    dsimp only
    split_ifs
    · exact devicePath_ne _ _ _
    · exact d.named _
  change map _ (map _ _)=_
  rw [map_map]
  refine (map_congr_left fun vol hvol => congrArg (Prod.mk vol.number) (hdisk vol hvol)).trans ?_
  change map _ (map _ (map _ _))=_
  rw [map_map,map_map]
  rfl

theorem names_eq : (s.resFile env devices x).names=
    (hostsOf (s.desired env x) (peerAddress s.nodes x.nodeName)).map Host.nodeName := by
  change map _ (map _ _)=_
  rw [map_map]
  rfl

theorem resFile_closed : (s.resFile env devices x).Closed := by
  have hnodup : ((hostsOf (s.desired env x) (peerAddress s.nodes x.nodeName)).map
      Host.nodeName).Nodup := Snapshot.hostsOf_nodup _
  refine ⟨names_eq devices ▸ hnodup,fun c hc => ?_⟩
  obtain ⟨A,hA,B,hB,rfl,hsub⟩ := mem_mesh hc
  rw [names_eq]
  refine ⟨mem_map_of_mem hA,mem_map_of_mem hB,fun hAB => ?_⟩
  have hpair := hnodup.sublist (hsub.map Host.nodeName)
  exact (nodup_cons.mp hpair).1 (mem_singleton.mpr hAB)

theorem resFile_seen (hx : x∈s.replicas) (hactive : x.inactive=false) {p q : Resource}
    (hp : p∈s.replicas) (hp' : p.inactive=false) (hq : q∈s.replicas) (hq' : q.inactive=false)
    (hne : p.nodeName≠q.nodeName) :
    (s.resFile env devices x).connections.filterMap (Connection.seenFrom p.nodeName q.nodeName)=
      [link (connectionsFromRD env.unmarshal s.rd) (s.seen x p) (s.seen x q)] :=
  mesh_seen (Snapshot.hostsOf_nodup _) ((mem_hosts hx hactive).mpr ⟨p,hp,hp',rfl⟩)
    ((mem_hosts hx hactive).mpr ⟨q,hq,hq',rfl⟩) hne

def OneMesh (s : MeshSnapshot) (env : Reading) (devices : Resource → Devices) : Prop :=
  ∀x∈s.replicas,∀y∈s.replicas,x.inactive=false → y.inactive=false →
    (s.resFile env devices x).Agrees (s.resFile env devices y)

theorem OneMesh.readDRBDMinor_eq {devices : Resource → Devices} (h : s.OneMesh env devices)
    {vd : VolumeDefinition} (hvd : vd∈s.rd.volumeDefinitions) (hzero : vd.drbdMinor=some 0)
    {x y : Resource} (hx : x∈s.replicas) (hx' : x.inactive=false) (hy : y∈s.replicas)
    (hy' : y.inactive=false) : readDRBDMinor x s.rd=readDRBDMinor y s.rd := by
  have hminors := (h x hx y hy hx' hy').minors _ ((mem_blocks devices hx hx').mpr ⟨x,hx,hx',rfl⟩)
    _ ((mem_blocks devices hy hy').mpr ⟨y,hy,hy',rfl⟩)
  rw [minors_onBlock,minors_onBlock] at hminors
  have hvd' := (Prod.mk.inj (map_inj_left.mp hminors vd hvd)).2
  simpa [minorIn,hzero] using hvd'

theorem seen_address {x y p : Resource} (hx : x∈s.replicas) (hy : y∈s.replicas) (hp : p∈s.replicas)
    (h : x≠y → ¬s.Unpinned x ∧ ¬s.Unpinned y) : (s.seen x p).address=(s.seen y p).address := by
  by_cases hxy : x=y
  · rw [hxy]
  · obtain ⟨hx',hy'⟩ := h hxy
    have hown (z : Resource) (hz : z∈s.replicas) (hz' : ¬s.Unpinned z) :
        (s.seen z p).address=s.addressOf p := by
      unfold Snapshot.seen
      dsimp only
      split_ifs with hname
      · rw [s.replicas.eq_of_key hp hz hname]
        exact (s.ownAddress_eq z).mpr hz'
      · rfl
    rw [hown x hx hx',hown y hy hy']

theorem link_congr (conns : List DesiredConnection) {x y p q : Resource}
    (hp : (s.seen x p).address=(s.seen y p).address)
    (hq : (s.seen x q).address=(s.seen y q).address) :
    link conns (s.seen x p) (s.seen x q)=link conns (s.seen y p) (s.seen y q) := by
  unfold link writeOneConnection
  rw [hp,hq]
  rfl

theorem oneMesh_iff (s : MeshSnapshot) (env : Reading) (devices : Resource → Devices) :
    s.OneMesh env devices ↔
      (∀x∈s.replicas,∀y∈s.replicas,x.inactive=false → y.inactive=false → x≠y →
        ¬s.Unpinned x) ∧
      ((∃vd∈s.rd.volumeDefinitions,vd.drbdMinor=some 0) →
        (∃vd∈s.rd.volumeDefinitions,vd.volumeNumber=0) ∨
        ∀x∈s.replicas,∀y∈s.replicas,x.inactive=false → y.inactive=false →
          reportedMinor x=reportedMinor y) := by
  constructor
  · intro h
    constructor
    · intro x hx y hy hx' hy' hne
      have hline := ((h x hx y hy hx' hy').hosts _).mp
        (mem_map_of_mem ((mem_blocks devices hx hx').mpr ⟨x,hx,hx',rfl⟩))
      obtain ⟨b,hb,hline⟩ := mem_map.mp hline
      obtain ⟨p,hp,hp',rfl⟩ := (mem_blocks devices hy hy').mp hb
      obtain rfl := s.replicas.eq_of_key hp hx (congrArg Prod.fst hline)
      have hname : p.nodeName≠y.nodeName := fun hn => hne (s.replicas.eq_of_key hp hy hn)
      have haddr : (s.seen y p).address=(s.seen p p).address := congrArg (fun l => l.2.2.1) hline
      refine (s.ownAddress_eq p).mp ?_
      simpa [Snapshot.seen,hname] using haddr.symm
    · rintro ⟨vd,hvd,hzero⟩
      refine or_iff_not_imp_left.mpr fun hnone x hx y hy hx' hy' => ?_
      exact (readDRBDMinor_eq_iff.mp (h.readDRBDMinor_eq hvd hzero hx hx' hy hy')).resolve_left hnone
  · rintro ⟨haddr,hminor⟩ x hx y hy hx' hy'
    have hseen {p : Resource} (hp : p∈s.replicas) : (s.seen x p).address=(s.seen y p).address :=
      seen_address hx hy hp fun hne =>
        ⟨haddr x hx y hy hx' hy' hne,haddr y hy x hx hy' hx' hne.symm⟩
    refine ⟨⟨resFile_closed devices,resFile_closed devices⟩,fun l => ?_,fun b hb b' hb' => ?_,
      fun b hb b' hb' hname => ?_,fun a ha b hb hab => ?_⟩
    · simp only [mem_map,mem_blocks devices hx hx',mem_blocks devices hy hy']
      constructor
      · rintro ⟨_,⟨p,hp,hp',rfl⟩,rfl⟩
        exact ⟨_,⟨p,hp,hp',rfl⟩,by rw [OnBlock.line,OnBlock.line,onBlock,onBlock,hseen hp]; rfl⟩
      · rintro ⟨_,⟨p,hp,hp',rfl⟩,rfl⟩
        exact ⟨_,⟨p,hp,hp',rfl⟩,by rw [OnBlock.line,OnBlock.line,onBlock,onBlock,hseen hp]; rfl⟩
    · obtain ⟨p,_,_,rfl⟩ := (mem_blocks devices hx hx').mp hb
      obtain ⟨q,_,_,rfl⟩ := (mem_blocks devices hy hy').mp hb'
      rw [minors_onBlock,minors_onBlock]
      refine map_congr_left fun vd hvd => congrArg (Prod.mk _) ?_
      unfold minorIn
      split_ifs with hzero
      · rfl
      · have hsome : vd.drbdMinor=some 0 := by
          obtain ⟨minor,hm⟩ := Option.isSome_iff_exists.mp (s.minored vd hvd)
          rw [hm,Option.getD_some,not_not] at hzero
          rw [hm,Int32.toInt_inj.mp (hzero.trans Int32.toInt_zero.symm)]
        rw [readDRBDMinor_eq_iff.mpr
          ((hminor ⟨vd,hvd,hsome⟩).imp_right fun h => h x hx y hy hx' hy')]
    · obtain ⟨p,hp,_,rfl⟩ := (mem_blocks devices hx hx').mp hb
      obtain ⟨q,hq,_,rfl⟩ := (mem_blocks devices hy hy').mp hb'
      obtain rfl := s.replicas.eq_of_key hp hq hname
      rw [missing_onBlock,missing_onBlock]
      rfl
    · obtain ⟨_,hA,rfl⟩ := mem_map.mp ha
      obtain ⟨p,hp,hp',rfl⟩ := (mem_blocks devices hx hx').mp hA
      obtain ⟨_,hB,rfl⟩ := mem_map.mp hb
      obtain ⟨q,hq,hq',rfl⟩ := (mem_blocks devices hx hx').mp hB
      refine ⟨_,resFile_seen devices hx hx' hp hp' hq hq' hab,?_⟩
      rw [link_congr _ (hseen hp) (hseen hq)]
      exact resFile_seen devices hy hy' hp hp' hq hq' hab

end MeshSnapshot

/-- A replica of `pvc-1` whose device was reported under a minor. -/
def reporting (nodeName : String) (id minor : Int32) : Resource where
  resourceDefinitionName := "pvc-1"
  nodeName := nodeName
  flags := []
  props := .empty
  storagePool := ""
  drbdNodeID := some id
  drbdPort := some 7000
  seedFromGI := []
  skipInitialSync := none
  statusDRBDNodeID := none
  statusDRBDPort := none
  statusDRBDMinor := some minor
  statusVolumes := []

theorem twoNodes_nodup : ["n1","n2"].Nodup := by decide

/-- Two replicas that report different minors, of a definition whose only volume has the number 1
and the minor 0. -/
def minorZero : MeshSnapshot where
  rd := ⟨[],.empty,⟨[⟨1,1024,.empty,some 0⟩],show [(1 : Int32)].Nodup by decide⟩,none⟩
  replicas := ⟨[reporting "n1" 0 1000,reporting "n2" 1 1001],twoNodes_nodup⟩
  nodes := []
  pools := []
  allocated := by
    intro r hr
    rcases mem_pair.mp hr with rfl|rfl
    · exact show (0 : Int32) ≤ 0 by decide
    · exact show (0 : Int32) ≤ 1 by decide
  ported := by
    intro r hr
    rcases mem_pair.mp hr with rfl|rfl <;> rfl
  minored := by
    intro vd hvd
    obtain rfl := mem_singleton.mp hvd
    rfl

/-- One volume, two minors. -/
theorem minor_zero_rendered_twice : ¬∀(s : MeshSnapshot) (env : Reading)
    (devices : Resource → Devices),s.OneMesh env devices := by
  intro h
  have hmesh := h minorZero ⟨fun _ => none,fun _ => none⟩ fun _ => ⟨fun _ => "",fun _ => by decide⟩
  have hminor := hmesh.readDRBDMinor_eq (.head _) rfl (x := reporting "n1" 0 1000)
    (y := reporting "n2" 1 1001) (.head _) (by decide) (.tail _ (.head _)) (by decide)
  exact absurd hminor (show (1000 : Int32).toInt≠(1001 : Int32).toInt by decide)

end Blockstor.Dispatch
