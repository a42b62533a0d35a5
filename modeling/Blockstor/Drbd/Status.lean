import Mathlib

namespace Blockstor.Drbd

/-- Kernel disk states; `other` is any token the code does not know. -/
inductive DiskState
  | diskless
  | attaching
  | detaching
  | failed
  | negotiating
  | inconsistent
  | outdated
  | dUnknown
  | consistent
  | upToDate
  | other
  deriving DecidableEq

def DiskState.hasData : DiskState → Bool
  | .upToDate => true
  | .consistent => true
  | .outdated => true
  | _ => false

inductive ConnectionState
  | standAlone
  | disconnecting
  | unconnected
  | timeout
  | brokenPipe
  | networkFailure
  | protocolError
  | tearDown
  | connecting
  | connected
  | other
  deriving DecidableEq

/-- The part of `drbdsetup status --json` the seeding gate reads. -/
structure PeerDevice where
  volumeNumber : Int
  peerDiskState : DiskState
  deriving DecidableEq

structure Connection where
  connectionState : ConnectionState
  peerDevices : List PeerDevice
  deriving DecidableEq

structure StatusResource where
  connections : List Connection
  deriving DecidableEq

/-- One `drbdsetup status` snapshot: `none` when the command failed or its output did not
parse. -/
abbrev Status := Option (List StatusResource)

def anyConnectedPeerHasDataForVolume : Status → Int → Bool
  | some (res::_),vol => res.connections.any fun conn =>
      conn.peerDevices.any fun pd => pd.volumeNumber=vol && pd.peerDiskState.hasData
  | _,_ => false

def ConnectedPeerHasData (status : Status) (vol : Int) : Prop :=
  ∃res rest,status=some (res::rest) ∧ ∃conn∈res.connections,conn.connectionState=.connected ∧
    ∃pd∈conn.peerDevices,pd.volumeNumber=vol ∧ pd.peerDiskState.hasData=true

theorem ConnectedPeerHasData.gate {status : Status} {vol : Int}
    (h : ConnectedPeerHasData status vol) :
    anyConnectedPeerHasDataForVolume status vol=true := by
  obtain ⟨res,rest,rfl,conn,hconn,_,pd,hpd,hvol,hdata⟩ := h
  apply List.any_eq_true.mpr
  refine ⟨conn,hconn,?_⟩
  apply List.any_eq_true.mpr
  exact ⟨pd,hpd,by simp [hvol,hdata]⟩

end Blockstor.Drbd
