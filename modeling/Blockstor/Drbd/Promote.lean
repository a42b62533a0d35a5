import Blockstor.Drbd.Status

namespace Blockstor.Drbd.Kernel

inductive Role
  | primary
  | secondary
  | other
  deriving DecidableEq

def Role.isPrimary (r : Role) : Bool := r=.primary

/-- Replication states; `other` is any token the code does not tell apart. -/
inductive ReplicationState
  | syncSource
  | wfBitMapS
  | other
  deriving DecidableEq

/-- Why a resync is suspended: `omitted` where the field is not reported. -/
inductive ResyncSuspended
  | no
  | omitted
  | suspended
  deriving DecidableEq

structure Device where
  volumeNumber : Int
  diskState : DiskState
  deriving DecidableEq

structure PeerDevice where
  volumeNumber : Int
  peerDiskState : DiskState
  replicationState : ReplicationState
  resyncSuspended : ResyncSuspended
  deriving DecidableEq

structure Connection where
  peerNodeID : Int
  connectionState : ConnectionState
  peerRole : Role
  peerDevices : List PeerDevice
  deriving DecidableEq

structure Resource where
  nodeID : Option Int
  role : Role
  devices : List Device
  connections : List Connection
  deriving DecidableEq

/-- One `drbdsetup status` snapshot: `none` when the command failed or its output did not
parse. -/
abbrev Status := Option (List Resource)

def probe (status : Status) (check : Resource → Int → Bool) : Bool :=
  match status with
  | some (res::_) => res.nodeID.any fun myID => check res myID
  | _ => false

section Code

variable (devices : List Device)

def localIsUpToDate : Bool :=
  !devices.isEmpty && devices.all fun d => d.diskState=.upToDate

def belowUpToDate : DiskState → Bool
  | .inconsistent => true
  | .consistent => true
  | .outdated => true
  | _ => false

def localIsDiskfulBelowUpToDate : Bool :=
  !devices.isEmpty && devices.all fun d => belowUpToDate d.diskState

def peerDeviceActivelySyncing (pd : PeerDevice) : Bool :=
  (pd.replicationState=.syncSource || pd.replicationState=.wfBitMapS) &&
    (pd.resyncSuspended=.no || pd.resyncSuspended=.omitted)

variable (conns : List Connection) (status : Status)

/-- Whether a peer is stuck, whether no peer that is up to date has a lower id, and whether a peer
is primary. -/
def scanRecoveryPromotePeers (myID : Int) : Bool × Bool × Bool :=
  (conns.any fun conn => conn.peerDevices.any fun pd =>
      pd.peerDiskState=.inconsistent && !peerDeviceActivelySyncing pd,
    conns.all fun conn => conn.peerDevices.all fun pd =>
      !(pd.peerDiskState=.upToDate && decide (conn.peerNodeID < myID)),
    conns.any fun conn => conn.peerRole.isPrimary)

def needsRecoveryPromote : Bool :=
  probe status fun res myID =>
    let (anyPeerInconsistent,weAreLowestUpToDate,peerPrimary) :=
      scanRecoveryPromotePeers res.connections myID
    localIsUpToDate res.devices && !res.role.isPrimary && !peerPrimary &&
      anyPeerInconsistent && weAreLowestUpToDate

def needsSoloPromote : Bool :=
  probe status fun res _ =>
    res.connections.isEmpty && !res.role.isPrimary && localIsDiskfulBelowUpToDate res.devices

def localHasUpToDateVolume : Bool :=
  devices.any fun d => d.diskState=.upToDate

def allPeersConnected : Bool :=
  !conns.isEmpty && conns.all fun conn => conn.connectionState=.connected

def localInconsistentVolumes : List Int :=
  (devices.filter fun d => d.diskState=.inconsistent).map (·.volumeNumber)

def rival : DiskState → Bool
  | .inconsistent => true
  | .attaching => true
  | .negotiating => true
  | .dUnknown => true
  | _ => false

def concedes (conn : Connection) (myID : Int) (pd : PeerDevice) : Bool :=
  !pd.peerDiskState.hasData &&
    !(rival pd.peerDiskState && decide (conn.peerNodeID < myID)) &&
    !(pd.peerDiskState=.inconsistent && peerDeviceActivelySyncing pd)

def lateAddVolumeNeedsLocalPromote (vol myID : Int) : Bool :=
  conns.all fun conn => conn.peerDevices.all fun pd =>
    pd.volumeNumber≠vol || concedes conn myID pd

def needsLateAddPromote : Bool :=
  probe status fun res myID =>
    !res.role.isPrimary && !(res.connections.any fun conn => conn.peerRole.isPrimary) &&
      localHasUpToDateVolume res.devices && allPeersConnected res.connections &&
      !(localInconsistentVolumes res.devices).isEmpty &&
      (localInconsistentVolumes res.devices).all fun vol =>
        lateAddVolumeNeedsLocalPromote res.connections vol myID

end Code

end Blockstor.Drbd.Kernel
