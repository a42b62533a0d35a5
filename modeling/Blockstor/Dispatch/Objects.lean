import Blockstor.Framework.Dict
import Blockstor.Satellite.Seed

namespace Blockstor.Dispatch

open Framework Drbd

/-- A `map[string]string`. -/
abbrev Props := Dict String String

def Props.get (props : Props) (key : String) : String := (props.find key).getD ""

structure VolumeStatus where
  volumeNumber : Int32
  diskState : DiskState
  currentGI : String
  deriving DecidableEq

structure Resource where
  resourceDefinitionName : String
  nodeName : String
  flags : List String
  props : Props
  storagePool : String
  drbdNodeID : Option Int32
  drbdPort : Option Int32
  seedFromGI : List (Int32 × String)
  skipInitialSync : Option Bool
  statusDRBDNodeID : Option Int32
  statusDRBDPort : Option Int32
  statusDRBDMinor : Option Int32
  statusVolumes : List VolumeStatus

structure NetInterface where
  name : String
  address : String
  deriving DecidableEq

structure Node where
  name : String
  satelliteEndpoint : String
  props : Props
  netInterfaces : List NetInterface

structure StoragePool where
  nodeName : String
  poolName : String
  props : Props

structure VolumeDefinition where
  volumeNumber : Int32
  sizeKib : Int
  props : Props
  drbdMinor : Option Int32

structure ResourceDefinition where
  layerStack : List String
  props : Props
  volumeDefinitions : Keyed VolumeDefinition.volumeNumber
  initialized : Option Bool

structure DesiredVolume where
  volumeNumber : Int32
  sizeKib : Int
  storagePool : String
  seedFromGI : String
  observedGI : String
  sourceSnapshot : String
  metaPool : String
  minor : Int32

structure DesiredPeer where
  name : String
  nodeID : Option Int32
  deriving DecidableEq

structure DesiredConnectionPath where
  name : String
  addressA : String
  addressB : String
  deriving DecidableEq

structure DesiredConnection where
  nodeA : String
  nodeB : String
  paths : List DesiredConnectionPath
  deriving DecidableEq

structure DesiredResource where
  name : String
  nodeName : String
  flags : List String
  props : Props
  volumes : List DesiredVolume
  peers : List DesiredPeer
  drbdOptions : Props
  layerStack : List String
  connections : List DesiredConnection
  peerHasData : Bool
  skipInitialSync : Option Bool
  distinct : (volumes.map DesiredVolume.volumeNumber).Nodup

variable (target r : Resource)

def Resource.diskless : Bool := r.flags.contains "DISKLESS"

def Resource.inactive : Bool := r.flags.contains "INACTIVE"

def boolPropTrue : String := "true"

def drbdAddrAny : String := "0.0.0.0"

def nodeIDOf : Int32 := (r.drbdNodeID.or r.statusDRBDNodeID).getD (-1)

def peerPortOf (fallback : Int) : Int :=
  ((r.drbdPort.or r.statusDRBDPort).map Int32.toInt).getD fallback

variable (rd : String) (peers : List Resource)

/-- Sixteen bits of the digest of a name, for the values used before the allocator has run. -/
def derive (offset : Nat) : Nat :=
  let digest := Sha256.sum256 rd.toUTF8.data.toList
  (digest.getD offset 0).toNat*256+(digest.getD (offset+1) 0).toNat

def derivePort : Int := 20000+derive rd 0%1000

def deriveMinor : Int := 20000+derive rd 2%9000

def readDRBDPort : Int :=
  peerPortOf target (derivePort target.resourceDefinitionName)

def readDRBDMinor (rd : ResourceDefinition) : Int :=
  let base := rd.volumeDefinitions.items.findSome? fun vd =>
    if vd.volumeNumber=0 then vd.drbdMinor else none
  ((base.or target.statusDRBDMinor).map Int32.toInt).getD (deriveMinor target.resourceDefinitionName)

def rdInitialized (rd : ResourceDefinition) : Bool := rd.initialized=some true

def isDay0SeededVolume (rdName : String) (vol : VolumeStatus) : Bool :=
  vol.currentGI≠"" && Text.equalFold vol.currentGI (day0GIFor rdName vol.volumeNumber.toInt)

def Resource.hasData (r : Resource) : Bool :=
  !r.diskless && r.statusVolumes.any fun vol =>
    vol.diskState.hasData && !isDay0SeededVolume r.resourceDefinitionName vol

def anyDiskfulPeerHasData : Bool := peers.any Resource.hasData

def diskfulPeersAllocated : Bool :=
  (target::peers).all fun r => r.diskless || 0 ≤ nodeIDOf r

def consider (low : Int32) (r : Resource) : Int32 :=
  if r.diskless then low
  else if nodeIDOf r<0 then low
  else if nodeIDOf r<low then nodeIDOf r else low

def sentinel : Int32 := 2^30

def lowestDiskfulID : Int32 :=
  if !diskfulPeersAllocated target peers then sentinel
  else (target::peers).foldl consider sentinel

end Blockstor.Dispatch
