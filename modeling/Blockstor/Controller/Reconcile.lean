import Blockstor.Controller.Allocate
import Blockstor.Drbd.Gi

namespace Blockstor.Controller

open Drbd Framework Shell

def resourceFinalizer : String := "blockstor.cozystack.io/resource"

def satelliteResourceFinalizer : String := "blockstor.cozystack.io/satellite-resource"

def resourceAnnotationVolumeNumbers : String := "blockstor.io/volume-numbers"

def resourceFlagDiskless : String := "DISKLESS"

def resourceFlagTieBreaker : String := "TIE_BREAKER"

def storagePoolKindDiskless : String := "DISKLESS"

def isDay0SeededDiskfulVolume (rdName : String) (vol : ResourceVolumeStatus) : Bool :=
  vol.currentGI≠"" && Text.equalFold vol.currentGI (day0GIFor rdName vol.volumeNumber.toInt)

variable (target : Resource) (peers : List Resource) (targetName : String) (volumeNumber : Int32)

/-- Some diskful replica other than the target holds data past day0. A data state whose identifier
is not observed yet counts unless `requireObservedGI`. -/
def scanDataBearingDiskfulPeers (requireObservedGI : Bool) : Bool :=
  peers.any fun peer => peer.name≠targetName && !peer.spec.flags.contains resourceFlagDiskless &&
    peer.status.volumes.any fun vol => vol.diskState.hasData &&
      !(requireObservedGI && vol.currentGI=="") &&
      !isDay0SeededDiskfulVolume peer.spec.resourceDefinitionName vol

def anyDataBearingDiskfulPeer : Bool :=
  scanDataBearingDiskfulPeers peers targetName false

def anyProvenDataBearingDiskfulPeer : Bool :=
  scanDataBearingDiskfulPeers peers targetName true

def volumeCurrentGI (res : Resource) (volumeNumber : Int32) : String :=
  ((res.status.volumes.find? fun v => v.volumeNumber=volumeNumber).map
    ResourceVolumeStatus.currentGI).getD ""

def volumeDiskState (res : Resource) (volumeNumber : Int32) : Option DiskState :=
  (res.status.volumes.find? fun v => v.volumeNumber=volumeNumber).map
    ResourceVolumeStatus.diskState

def seedAlreadySet : Bool :=
  target.spec.volumes.any fun v => v.volumeNumber=volumeNumber && v.seedFromGI≠""

def pickSeedFromPeers : String :=
  let candidates := peers.filter fun peer => peer.name≠targetName &&
    volumeCurrentGI peer volumeNumber≠"" && volumeDiskState peer volumeNumber=some .upToDate
  match candidates.mergeSort fun a b => a.name ≤ b.name with
  | [] => ""
  | first::_ => volumeCurrentGI first volumeNumber

def setSeed (volumeNumber : Int32) (seed : String) : List ResourceVolumeSpec → List ResourceVolumeSpec
  | [] => [⟨volumeNumber,seed⟩]
  | v::vs =>
    if v.volumeNumber=volumeNumber then {v with seedFromGI := seed}::vs
    else v::setSeed volumeNumber seed vs

def Resource.withVolumes (volumes : List ResourceVolumeSpec) (r : Resource) : Resource :=
  {r with spec := {r.spec with volumes := volumes}}

def setSeedFromGI (seed : String) : Resource :=
  target.withVolumes (setSeed volumeNumber seed target.spec.volumes)

def pruneStaleResourceVolumes : Option ResourceDefinition → Prog Bool
  | none => pure false
  | some rd =>
    if rd.volumeDefinitions=[] ∨ target.spec.volumes=[] then pure false
    else
      let survivors := target.spec.volumes.filter fun v =>
        rd.volumeDefinitions.any fun vd => vd.volumeNumber=v.volumeNumber
      if survivors.length=target.spec.volumes.length then pure false
      else do
        let _ ← api (.updateResource target (target.withVolumes survivors))
        pure true

def seedVolumes (peers : List Resource) : List VolumeDefinition → Resource → Resource
  | [],target => target
  | vd::vds,target =>
    let seed := pickSeedFromPeers peers target.name vd.volumeNumber
    if seedAlreadySet target vd.volumeNumber || seed=="" then seedVolumes peers vds target
    else seedVolumes peers vds (setSeedFromGI target vd.volumeNumber seed)

def anySeedMissing (target : Resource) (vds : List VolumeDefinition) : Bool :=
  vds.any fun vd => !seedAlreadySet target vd.volumeNumber &&
    pickSeedFromPeers peers target.name vd.volumeNumber≠""

def ensureSeedFromGI : Option ResourceDefinition → Prog Bool
  | none => pure false
  | some rd =>
    if rd.volumeDefinitions=[] ∨ target.spec.flags.contains resourceFlagDiskless ∨
      anyDataBearingDiskfulPeer peers target.name then pure false
    else if !anySeedMissing peers target rd.volumeDefinitions then pure false
    else do
      let _ ← api (.updateResource target (seedVolumes peers rd.volumeDefinitions target))
      pure true

def ensureVolumeProjection (rd : Option ResourceDefinition) : Prog Bool := do
  if ← pruneStaleResourceVolumes target rd then pure true
  else ensureSeedFromGI target peers rd

/-- Set the latch of the definition once data is proven; else stamp the target if it has no stamp.
Returns whether anything was written, and the target as it stands in memory afterwards. -/
def ensureSkipInitSyncDecision : Option ResourceDefinition → Prog (Bool × Resource)
  | none => pure (false,target)
  | some rd =>
    if !rdInitialized rd && anyProvenDataBearingDiskfulPeer peers "" then do
      match ← ask (.patchInitialized rd.name) with
      | .ok () => pure (true,target)
      | .error .notFound => pure (false,target)
      | .error e => throw (.api e)
    else if target.spec.skipInitialSync.isSome then pure (false,target)
    else do
      let skip := !rdInitialized rd
      match ← ask (.patchSkipInitialSync target.name skip) with
      | .ok () => pure (true,target.withSkip skip)
      | .error .notFound => pure (false,target.withSkip skip)
      | .error e => throw (.api e)

def firstAvailablePool (nodeName : String) (pools : List StoragePool) : String :=
  ((pools.find? fun p => p.nodeName=nodeName && p.providerKind≠storagePoolKindDiskless).map
    StoragePool.storagePoolName).getD ""

def Resource.promoted (pool : String) (r : Resource) : Resource :=
  {r with spec := {r.spec with flags := r.spec.flags.filter (·≠resourceFlagDiskless),
                               storagePool := pool}}

/-- Give a disk to a diskless replica in use; `seen` is the revision the target was read at. -/
def maybeAutoDiskful (seen target : Resource) : Prog Bool :=
  if !target.spec.flags.contains resourceFlagDiskless || !target.status.inUse ||
    target.spec.flags.contains resourceFlagTieBreaker then pure false
  else do
    let pools ← api .listStoragePools
    let pool := firstAvailablePool target.spec.nodeName pools
    if pool="" then pure false
    else
      let _ ← api (.updateResource seen (target.promoted pool))
      pure true

def lookupRD (name : String) : Prog (Option ResourceDefinition) := do
  match ← ask (.cachedDefinition name) with
  | .ok rd => pure (some rd)
  | .error .notFound => pure none
  | .error e => throw (.api e)

def runApply : Prog Bool := do
  let list ← api .cachedResources
  let peers := list.filter fun r =>
    r.spec.resourceDefinitionName=target.spec.resourceDefinitionName
  let _ ← api .cachedNodes
  let rd ← lookupRD target.spec.resourceDefinitionName
  if ← ensureVolumeProjection target peers rd then pure true
  else
    let (stamped,current) ← ensureSkipInitSyncDecision target peers rd
    if stamped then pure true else maybeAutoDiskful target current

def resourceWasApplied : Bool :=
  target.finalizers.contains satelliteResourceFinalizer ||
    target.annotations.contains resourceAnnotationVolumeNumbers

def handleOrphan : Prog Bool :=
  if !resourceWasApplied target then pure false
  else do
    match ← ask (.cachedDefinition target.spec.resourceDefinitionName) with
    | .ok _ => pure false
    | .error .notFound =>
      match ← ask (.deleteResource target.name) with
      | .ok () => pure true
      | .error .notFound => pure true
      | .error e => throw (.api e)
    | .error e => throw (.api e)

def Resource.withoutLegacyFinalizer (r : Resource) : Resource :=
  {r with finalizers := r.finalizers.filter (·≠resourceFinalizer)}

def stripLegacyFinalizer : Prog Bool :=
  if !target.finalizers.contains resourceFinalizer then pure false
  else do
    let _ ← api (.updateResource target target.withoutLegacyFinalizer)
    pure false

def reconcile (name : String) : Prog Bool := do
  match ← ask (.cachedResource name) with
  | .error .notFound => pure false
  | .error e => throw (.api e)
  | .ok target =>
    if target.deleting then stripLegacyFinalizer target
    else if target.finalizers.contains resourceFinalizer then
      let _ ← api (.updateResource target target.withoutLegacyFinalizer)
      pure true
    else if target.spec.resourceDefinitionName="" then pure false
    else if ← handleOrphan target then pure false
    else if ← ensureDRBDIDs target.name then pure true
    else runApply target

end Blockstor.Controller
