import Blockstor.Dispatch.Objects

namespace Blockstor.Dispatch

open Framework Text

variable (target : Resource) (peers : List Resource) (nodes : List Node) (rd : ResourceDefinition)
  (pools : List StoragePool)

def addID (ids : Dict String Int32) (p : Resource) : Dict String Int32 :=
  if p.nodeName=target.nodeName then ids
  else if p.inactive then ids
  else if 0 ≤ nodeIDOf p then ids.set p.nodeName (nodeIDOf p)
  else ids

def idOf : Dict String Int32 :=
  peers.foldl (addID target)
    (if 0 ≤ nodeIDOf target then Dict.empty.set target.nodeName (nodeIDOf target) else .empty)

def dropped : List String :=
  (((idOf target peers).items.map Prod.fst).filter fun name => name≠target.nodeName).mergeSort
    fun a b => a ≤ b

def peerByName : Dict String Resource :=
  Dict.empty.setAll (peers.map fun p => (p.nodeName,p))

section Address

variable (nodes : List Node) (pools : List StoragePool)

def targetPoolName (r : Resource) : String :=
  if r.storagePool≠"" then r.storagePool else r.props.get "StorPoolName"

variable (nodeName poolName : String)

def nodeNamed : Option Node := nodes.find? fun n => n.name=nodeName

def lookupPrefNic : String :=
  let ofPool :=
    if poolName≠"" then
      match pools.find? fun p => p.nodeName=nodeName ∧ p.poolName=poolName with
      | some p => p.props.get "PrefNic"
      | none => ""
    else ""
  if ofPool≠"" then ofPool
  else
    match nodeNamed nodes nodeName with
    | some n => n.props.get "PrefNic"
    | none => ""

def lookupNetInterfaceAddress (ifaceName : String) : String :=
  match nodeNamed nodes nodeName with
  | none => ""
  | some n =>
    match n.netInterfaces.find? fun i => i.name=ifaceName with
    | some i => i.address
    | none => ""

def pinnedAddress : String :=
  let prefNic := lookupPrefNic nodes pools nodeName poolName
  if prefNic="" then "" else lookupNetInterfaceAddress nodes nodeName prefNic

def prefNicAddress : String :=
  let addr := pinnedAddress nodes pools nodeName poolName
  if addr="" then drbdAddrAny else addr

def preferredNetInterfaceAddress (ifaces : List NetInterface) : String :=
  let named := ["k8s-internal","default"].findSome? fun name =>
    ifaces.find? fun i => i.name=name ∧ i.address≠""
  match named.or (ifaces.find? fun i => i.address≠"") with
  | some i => i.address
  | none => ""

def lookupEndpoint : String :=
  match nodeNamed nodes nodeName with
  | none => ""
  | some n =>
    if n.satelliteEndpoint≠"" then n.satelliteEndpoint
    else if n.props.get "SatelliteEndpoint"≠"" then n.props.get "SatelliteEndpoint"
    else preferredNetInterfaceAddress n.netInterfaces

def peerAddress : String :=
  let endpoint := lookupEndpoint nodes nodeName
  if endpoint="" then drbdAddrAny
  else
    match cutLast ':' endpoint with
    | some (host,_) => if host="" then endpoint else host
    | none => endpoint

def peerAddressWithPrefNic : String :=
  let addr := pinnedAddress nodes pools nodeName poolName
  if addr≠"" then addr else peerAddress nodes nodeName

end Address

def peerKey (peer field : String) : String := "peer."++peer++field

def peerEntries (byName : Dict String Resource)
    (ids : Dict String Int32) (fallbackPort : Int) (peer : String) : List (String × String) :=
  let p := byName.find peer
  [(".port",formatInt ((p.map (peerPortOf · fallbackPort)).getD fallbackPort)),
   (".node-id",formatInt ((ids.find peer).getD 0).toInt),
   (".address",peerAddressWithPrefNic nodes pools peer ((p.map targetPoolName).getD ""))]++
  if p.any Resource.diskless then [(".diskless",boolPropTrue)] else []

def addPeerEntries (drbdOpts : Props) (peerNames : List String) (peers : List Resource)
    (nodes : List Node) (pools : List StoragePool) (fallbackPort : Int)
    (ids : Dict String Int32) : Props :=
  peerNames.foldl (fun opts peer =>
    opts.setAll ((peerEntries nodes pools (peerByName peers) ids fallbackPort peer).map fun x =>
      (peerKey peer x.1,x.2))) drbdOpts

def buildDesiredPeers (peerNames : List String) (peers : List Resource) : List DesiredPeer :=
  peerNames.map fun name => ⟨name,((peerByName peers).find name).bind fun p =>
    if 0 ≤ nodeIDOf p then some (nodeIDOf p) else none⟩

def propNamespace : String := "DrbdOptions/"

def mergeEffectiveProps (targetProps : Props) (effectiveProps : Option Props) (drbdOpts : Props) :
    Props × Props :=
  match effectiveProps with
  | none => (targetProps,drbdOpts)
  | some props =>
    (props.keep fun key => (cutPrefix propNamespace key).isNone,
     drbdOpts.copy (props.keep fun key => (cutPrefix propNamespace key).isSome))

def isPlaintextPropKey (key : String) : Bool :=
  ["DrbdOptions/EncryptPassphrase","DrbdOptions/Encryption/passphrase",
    "DrbdOptions/Encrypt/Passphrase","LuksPassphrase"].any (equalFold key)

def dropPlaintextProps (props : Props) : Props := props.keep fun key => !isPlaintextPropKey key

def seedFromGI (target : Resource) (number : Int32) : String :=
  (target.seedFromGI.lookup number).getD ""

def observedGI (number : Int32) : String :=
  match target.statusVolumes.find? fun vol => vol.volumeNumber=number with
  | some vol => vol.currentGI
  | none => ""

def firstNonEmpty (values : List String) : String := (values.find? fun v => v≠"").getD ""

def buildVolumes (target : Resource) : List DesiredVolume :=
  let rdPool := firstNonEmpty ([target.storagePool,target.props.get "StorPoolName"]++
    if target.diskless then [] else [rd.props.get "StorPoolName"])
  let metaPool := if target.diskless then ""
    else firstNonEmpty [target.props.get "StorPoolNameDrbdMeta",rd.props.get "StorPoolNameDrbdMeta"]
  rd.volumeDefinitions.items.map fun vd =>
    {volumeNumber := vd.volumeNumber
     sizeKib := vd.sizeKib
     storagePool := if target.diskless then rdPool else firstNonEmpty [vd.props.get "StorPoolName",rdPool]
     seedFromGI := seedFromGI target vd.volumeNumber
     observedGI := observedGI target vd.volumeNumber
     sourceSnapshot := rd.props.get "BlockstorRestoreFromSnapshot"
     metaPool := metaPool
     minor := vd.drbdMinor.getD 0}

theorem buildVolumes_distinct (target : Resource) :
    ((buildVolumes rd target).map DesiredVolume.volumeNumber).Nodup := by
  unfold buildVolumes
  rw [List.map_map]
  exact rd.volumeDefinitions.nodup

section Connections

-- decoding the stored list of paths as JSON, `none` when it is malformed
variable (unmarshal : String → Option (List Props))

def decodePathList (raw : String) : List DesiredConnectionPath :=
  if raw="" then []
  else ((unmarshal raw).getD []).map fun entry =>
    ⟨entry.get "name",entry.get "node_a_address",entry.get "node_b_address"⟩

/-- The two nodes of a key `Cozystack/ResourceConnectionPaths/<a>/<b>`. -/
def splitConnectionKey (propKey : String) : Option (String × String) :=
  (cutPrefix "Cozystack/ResourceConnectionPaths/" propKey).bind fun rest =>
    (cut '/' rest).filter fun pair => pair.2≠""

def connectionsFromRD (rd : ResourceDefinition) : List DesiredConnection :=
  let groups := rd.props.items.filterMap fun x =>
    (splitConnectionKey x.1).bind fun pair =>
      let paths := decodePathList unmarshal x.2
      if paths=[] then none
      else some (⟨pair.1,pair.2,paths.mergeSort fun p q => p.name ≤ q.name⟩ : DesiredConnection)
  groups.mergeSort fun c d => c.nodeA<d.nodeA ∨ c.nodeA=d.nodeA ∧ c.nodeB ≤ d.nodeB

end Connections

/-- The replica that is to become primary once, so that the others have a source: the diskful one
with the lowest node-id, while no replica has data. -/
def electsSelf : Bool :=
  match (idOf target peers).find target.nodeName with
  | none => false
  | some selfID => !target.diskless && selfID=lowestDiskfulID target peers && !rdInitialized rd &&
      !anyDiskfulPeerHasData peers

def ownOptions (rd : ResourceDefinition) : List (String × String) :=
  [("port",formatInt (readDRBDPort target)),
   ("address",prefNicAddress nodes pools target.nodeName (targetPoolName target)),
   ("minor",formatInt (readDRBDMinor target rd))]++
  (match (idOf target peers).find target.nodeName with
   | none => []
   | some id => [("node-id",formatInt id.toInt)])++
  if electsSelf target peers rd then [("auto-primary",boolPropTrue)] else []

def assembleDesired (unmarshal : String → Option (List Props)) (target : Resource)
    (peers : List Resource) (rd : ResourceDefinition) (peerNames : List String) (drbdOpts : Props)
    (effectiveProps : Option Props) : DesiredResource :=
  let (wireProps,drbdOpts) := mergeEffectiveProps target.props effectiveProps drbdOpts
  let pass := drbdOpts.get "DrbdOptions/EncryptPassphrase"
  let wireProps := dropPlaintextProps wireProps
  {name := target.resourceDefinitionName
   nodeName := target.nodeName
   flags := target.flags
   props := if pass≠"" then wireProps.set "LuksPassphrase" pass else wireProps
   volumes := buildVolumes rd target
   peers := buildDesiredPeers peerNames peers
   drbdOptions := dropPlaintextProps drbdOpts
   layerStack := rd.layerStack
   connections := connectionsFromRD unmarshal rd
   peerHasData := anyDiskfulPeerHasData peers
   skipInitialSync := target.skipInitialSync
   distinct := buildVolumes_distinct rd target}

def BuildDesired (unmarshal : String → Option (List Props)) (target : Resource)
    (peers : List Resource) (nodes : List Node) (pools : List StoragePool)
    (rd : ResourceDefinition) (effectiveProps : Option Props) : DesiredResource :=
  let peerNames := dropped target peers
  let drbdOpts := Dict.empty.setAll (ownOptions target peers nodes pools rd)
  let drbdOpts := addPeerEntries drbdOpts peerNames peers nodes pools (readDRBDPort target)
    (idOf target peers)
  assembleDesired unmarshal target peers rd peerNames drbdOpts effectiveProps

end Blockstor.Dispatch
