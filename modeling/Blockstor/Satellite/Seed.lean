import Blockstor.Drbd.Gi
import Blockstor.Drbd.Status

namespace Blockstor.Satellite

open Drbd

inductive ProviderKind
  | lvm
  | lvmThin
  | zfs
  | zfsThin
  | file
  | fileThin
  | diskless
  deriving DecidableEq

def isThinOrZFS : ProviderKind → Bool
  | .lvmThin => true
  | .zfsThin => true
  | .zfs => true
  | .fileThin => true
  | _ => false

structure DesiredVolume where
  volumeNumber : Int
  sizeKib : Int := 0
  storagePool : String := ""
  sourceSnapshot : String := ""
  seedFromGI : String := ""
  observedGI : String := ""
  deriving DecidableEq

structure DesiredPeer where
  name : String
  nodeID : Option Int
  deriving DecidableEq

/-- A desired resource. Volume numbers are the keys of the definition's volume list, so two
volumes never share one. -/
structure DesiredResource where
  name : String
  nodeName : String
  volumes : List DesiredVolume
  peers : List DesiredPeer
  drbdOptions : String → Option String
  peerHasData : Bool
  skipInitialSync : Option Bool
  distinct : (volumes.map DesiredVolume.volumeNumber).Nodup

variable (dr : DesiredResource)

theorem DesiredResource.eq_of_number {u v : DesiredVolume}
    (hu : u∈dr.volumes) (hv : v∈dr.volumes) (h : u.volumeNumber=v.volumeNumber) : u=v :=
  List.inj_on_of_nodup_map dr.distinct hu hv h

structure Reconciler where
  adm : Bool
  metadataCreatedStamper : Bool
  providers : String → Option ProviderKind
  restoreBlankFallback : String → Int → Bool

def drbdBoolPropTrue : String := "true"

/-- The initial-activation election: the controller's choice, on the first activation only. -/
def isInitialUpToDateWinner (firstActivation : Bool) : Bool :=
  firstActivation && dr.drbdOptions "auto-primary"==some drbdBoolPropTrue && !dr.peerHasData

def localNodeIDFromOpts : Option Int :=
  match dr.drbdOptions "node-id" with
  | none => none
  | some raw => if raw="" then none else Framework.Text.parseInt32 raw

def isLateAddWinner : Bool :=
  match localNodeIDFromOpts dr with
  | none => false
  | some localID => dr.peers.all fun peer =>
      match peer.nodeID with
      | none => true
      | some id => !(id ≤ localID)

/-- Whether the volume may skip its initial sync: the controller's stamp, unless the restore of
this volume fell back to a blank one. -/
def skipAllowed (r : Reconciler) (resourceName : String) (vol : DesiredVolume)
    (skipInitialSync : Option Bool) : Bool :=
  let skip := skipInitialSync==some true
  if skip ∧ vol.sourceSnapshot≠"" ∧ r.restoreBlankFallback resourceName vol.volumeNumber then false
  else skip

/-- The seed of one volume, `none` when the replica has to sync. -/
def resolveVolumeSeed (r : Reconciler) (status : Status) (resourceName : String)
    (vol : DesiredVolume) (peerHasData isWinner : Bool) (skipInitialSync : Option Bool) :
    Option GISeed :=
  if peerHasData then none else
  let skip := skipAllowed r resourceName vol skipInitialSync
  let day0 := day0GIFor resourceName vol.volumeNumber
  if vol.seedFromGI≠"" then some {current := vol.seedFromGI,bitmapBase := vol.seedFromGI}
  else if isWinner && skip then some {current := day0,consistent := true,upToDate := true}
  else match r.providers vol.storagePool with
    | none => none
    | some kind =>
      if !isThinOrZFS kind then none
      else if !skip then none
      else if anyConnectedPeerHasDataForVolume status vol.volumeNumber then none
      else some {current := day0,wasUpToDate := true}

section

variable (r : Reconciler) (status : Status) (resourceName : String) (vol : DesiredVolume)
  (peerHasData isWinner : Bool) (skipInitialSync : Option Bool)

theorem resolveVolumeSeed_isSome : (resolveVolumeSeed r status resourceName vol peerHasData
    isWinner skipInitialSync).isSome=true ↔ peerHasData=false ∧ (vol.seedFromGI≠"" ∨
      skipAllowed r resourceName vol skipInitialSync=true ∧ (isWinner=true ∨
        (∃kind,r.providers vol.storagePool=some kind ∧ isThinOrZFS kind=true) ∧
          anyConnectedPeerHasDataForVolume status vol.volumeNumber=false)) := by
  unfold resolveVolumeSeed
  cases peerHasData
  case true => simp
  by_cases hs : vol.seedFromGI=""
  case neg => simp [hs]
  cases hk : skipAllowed r resourceName vol skipInitialSync <;> cases isWinner <;>
    cases hp : r.providers vol.storagePool with
    | none => simp [hs]
    | some kind => cases ht : isThinOrZFS kind <;> simp [hs,ht]

theorem resolveVolumeSeed_validate (seed : GISeed) (h : resolveVolumeSeed r status resourceName
    vol peerHasData isWinner skipInitialSync=some seed) : seed.validate=.ok () := by
  have hd := day0GIFor_ne_empty resourceName vol.volumeNumber
  unfold resolveVolumeSeed at h
  dsimp only at h
  split at h
  · cases h
  split at h
  · cases h
    exact GISeed.validate_ok ‹_› (by simp)
  split at h
  · cases h
    exact GISeed.validate_ok hd (by simp)
  split at h
  · cases h
  split at h
  · cases h
  split at h
  · cases h
  split at h
  · cases h
  cases h
  exact GISeed.validate_ok hd (by simp)

end

end Blockstor.Satellite
