import Blockstor.Dispatch.Snapshot
import Blockstor.Storage.Provider

namespace Blockstor.Dispatch

open Framework

structure Host where
  nodeName : String
  address : String
  port : Int
  nodeID : Int
  isLocal : Bool
  diskless : Bool

structure ResVolume where
  number : Int
  device : String
  disk : String
  metaDisk : String
  minor : Int

/-- One `volume` of an `on` block. -/
structure VolumeBlock where
  number : Int
  device : String
  minor : Int
  disk : String
  metaDisk : String

/-- An `on` block. -/
structure OnBlock where
  nodeName : String
  address : String
  port : Int
  nodeID : Int
  volumes : List VolumeBlock

structure Endpoint where
  address : String
  port : Int

/-- A `connection` block: the two hosts, and the two ends of each `path` in it, or of the connection
itself when it has none. -/
structure Connection where
  hostA : String
  hostB : String
  explicitPaths : Bool
  ends : List (Endpoint × Endpoint)

/-- The blocks of a `.res` file that name hosts. -/
structure ResFile where
  hosts : List OnBlock
  connections : List Connection

/-- `strconv.Atoi` with its error ignored. -/
def atoi (s : String) : Int := (Text.parseInt64 s).getD 0

def resolveAddr (supplied fallback : String) : String :=
  if (supplied="" ∨ supplied=drbdAddrAny) ∧ fallback≠"" then fallback else supplied

variable (dr : DesiredResource)

variable (localAddr : String)

def localHost : Host where
  nodeName := dr.nodeName
  address := resolveAddr (dr.drbdOptions.get "address") localAddr
  port := atoi (dr.drbdOptions.get "port")
  nodeID := atoi (dr.drbdOptions.get "node-id")
  isLocal := true
  diskless := dr.flags.contains "DISKLESS"

def peerHost (peer : String) : Host where
  nodeName := peer
  address := resolveAddr (dr.drbdOptions.get (peerKey peer ".address")) ""
  port := atoi (dr.drbdOptions.get (peerKey peer ".port"))
  nodeID := atoi (dr.drbdOptions.get (peerKey peer ".node-id"))
  isLocal := false
  diskless := dr.drbdOptions.get (peerKey peer ".diskless")=boolPropTrue

def hostsOf : List Host :=
  localHost dr localAddr::dr.peers.map fun peer => peerHost dr peer.name

def volMinorOrBase (vol : DesiredVolume) (base : Int) : Int :=
  if vol.minor.toInt≠0 then vol.minor.toInt else base+vol.volumeNumber.toInt

def devicePath (pool name : String) (number : Int32) : String :=
  "/dev/"++pool++"/"++name++"_"++Storage.fiveDigits number.toInt

def buildResVolumes (devices : Int32 → String) (minor : Int) : List ResVolume :=
  dr.volumes.map fun vol =>
    {number := vol.volumeNumber.toInt
     device := "/dev/drbd"++Text.formatInt (volMinorOrBase vol minor)
     disk := if devices vol.volumeNumber="" then devicePath vol.storagePool dr.name vol.volumeNumber
       else devices vol.volumeNumber
     metaDisk := if vol.metaPool="" then ""
       else devicePath vol.metaPool dr.name vol.volumeNumber++"_meta"
     minor := volMinorOrBase vol minor}

def peerDiskPlaceholder : String := "/dev/drbd/this/is/not/used"

def diskField (host : Host) (vol : ResVolume) : String :=
  if host.diskless then "none" else if host.isLocal then vol.disk else peerDiskPlaceholder

def metaField (host : Host) (vol : ResVolume) : String :=
  if host.isLocal ∧ !host.diskless ∧ vol.metaDisk≠"" then vol.metaDisk else "internal"

def onBlock (vols : List ResVolume) (host : Host) : OnBlock where
  nodeName := host.nodeName
  address := host.address
  port := host.port
  nodeID := host.nodeID
  volumes := vols.map fun vol =>
    ⟨vol.number,vol.device,vol.minor,diskField host vol,metaField host vol⟩

def swapPathSides (paths : List DesiredConnectionPath) : List DesiredConnectionPath :=
  paths.map fun p => ⟨p.name,p.addressB,p.addressA⟩

/-- The paths of a pair of hosts, turned so that the first address is that of the first host. -/
def lookupPaths : List DesiredConnection → String → String → List DesiredConnectionPath
  | [],_,_ => []
  | c::conns,a,b =>
    if c.nodeA=a ∧ c.nodeB=b then c.paths
    else if c.nodeA=b ∧ c.nodeB=a then swapPathSides c.paths
    else lookupPaths conns a b

def writeOneConnection (conns : List DesiredConnection) (hostA hostB : Host) : Connection :=
  let paths := lookupPaths conns hostA.nodeName hostB.nodeName
  {hostA := hostA.nodeName
   hostB := hostB.nodeName
   explicitPaths := paths≠[]
   ends := if paths≠[] then paths.map fun p => (⟨p.addressA,hostA.port⟩,⟨p.addressB,hostB.port⟩)
     else [(⟨hostA.address,hostA.port⟩,⟨hostB.address,hostB.port⟩)]}

def writeConnectionMesh (conns : List DesiredConnection) : List Host → List Connection
  | [] => []
  | h::hosts => hosts.map (writeOneConnection conns h)++writeConnectionMesh conns hosts

def buildResFile (devices : Int32 → String) : ResFile :=
  let hosts := hostsOf dr localAddr
  let vols := buildResVolumes dr devices (atoi (dr.drbdOptions.get "minor"))
  ⟨hosts.map (onBlock vols),writeConnectionMesh dr.connections hosts⟩

end Blockstor.Dispatch
