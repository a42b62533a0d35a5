import Blockstor.Framework.Shell
import Blockstor.Satellite.Seed

namespace Blockstor.Satellite

open Drbd Framework Shell

/-- How `drbdadm dump-md` reads: metadata that is there, none, metadata whose activity log needs
applying, or a probe that failed for another reason. -/
inductive HasMD
  | present
  | absent
  | unclean
  | failed
  deriving DecidableEq

/-- `create-md` fails with the minor in its message when the kernel holds the device. -/
inductive CreateMD
  | ok
  | failed (configuredMinor : Option Int)
  deriving DecidableEq

inductive Cmd
  | hasMD (rd : String) (vol : Int)
  | recordedGIs (rd : String) (vol : Int)
  | applyAL (rd : String) (vol : Int)
  | metadataUUIDs (rd : String) (vol : Int)
  | createMD (rd : String) (vol : Int)
  | resourceOwningMinor (minor : Int)
  | setupDown (rd : String)
  | renderResFile (rd : String)
  | writeMarker (path : String)
  | stampMetadataCreated (resource : String)
  | setGI (rd : String) (vol : Int) (device : String) (nodeID : Nat) (gi : String)
  deriving DecidableEq

/-- The answer to a command; `none` and `false` stand for an error. -/
@[reducible] def Answer : Cmd → Type
  | .hasMD _ _ => HasMD
  | .recordedGIs _ _ => Option (List String)
  | .applyAL _ _ => Bool
  | .metadataUUIDs _ _ => Option (List String)
  | .createMD _ _ => CreateMD
  | .resourceOwningMinor _ => Option String
  | .setupDown _ => Bool
  | .renderResFile _ => Bool
  | .writeMarker _ => Bool
  | .stampMetadataCreated _ => Bool
  | .setGI _ _ _ _ _ => Bool

inductive Err
  | dumpMD (rd : String) (vol : Int)
  | createMD (rd : String) (vol : Int)
  | renderResFile (rd : String)
  | writeMarker (path : String)
  | validateSeed (vol : Int) (e : GIError)
  | setGI (vol : Int) (nodeID : Nat)
  deriving DecidableEq

abbrev Prog := Shell Answer Err
abbrev Log := List (Entry Answer)

abbrev run (c : Cmd) : Prog (Answer c) := call c

def anySameGeneration (onDisk known : List String) : Bool :=
  onDisk.any fun a => known.any fun b => sameGeneration a b

variable (rd : String) (vol : DesiredVolume)

def knownGIs (recorded : List String) : List String :=
  if vol.observedGI≠"" then recorded++[vol.observedGI] else recorded

/-- Whether unclean metadata is this volume's own; it is then repaired and counts as there. -/
def repairUncleanMetadata : Prog Bool := do
  match ← run (.recordedGIs rd vol.volumeNumber) with
  | none => throw (.dumpMD rd vol.volumeNumber)
  | some recorded =>
    let known := knownGIs vol recorded
    if known.isEmpty then pure false
    else
      match ← run (.applyAL rd vol.volumeNumber) with
      | false => throw (.dumpMD rd vol.volumeNumber)
      | true =>
        match ← run (.metadataUUIDs rd vol.volumeNumber) with
        | none => throw (.dumpMD rd vol.volumeNumber)
        | some onDisk => pure (anySameGeneration onDisk known)

def probeMetadata : Prog Bool := do
  match ← run (.hasMD rd vol.volumeNumber) with
  | .present => pure true
  | .absent => pure false
  | .unclean => repairUncleanMetadata rd vol
  | .failed => throw (.dumpMD rd vol.volumeNumber)

def createMDWithCollisionRecovery (selfRD : String) (vol : Int) : Prog Unit := do
  match ← run (.createMD selfRD vol) with
  | .ok => pure ()
  | .failed none => throw (.createMD selfRD vol)
  | .failed (some minor) =>
    match ← run (.resourceOwningMinor minor) with
    | none => throw (.createMD selfRD vol)
    | some owner =>
      if owner="" ∨ owner=selfRD then throw (.createMD selfRD vol)
      else
        match ← run (.setupDown owner) with
        | false => throw (.createMD selfRD vol)
        | true =>
          match ← run (.createMD selfRD vol) with
          | .ok => pure ()
          | .failed _ => throw (.createMD selfRD vol)

/-- One volume of the loop both metadata paths open with: probe, and create what is missing.
Answers whether it created. -/
def createIfMissing : Prog Bool := do
  let hasMD ← probeMetadata rd vol
  if hasMD then pure false
  else
    createMDWithCollisionRecovery rd vol.volumeNumber
    pure true

def createMissing (rd : String) : List DesiredVolume → Prog (List Int)
  | [] => pure []
  | vol::rest => do
    let created ← createIfMissing rd vol
    let fresh ← createMissing rd rest
    pure (if created then vol.volumeNumber::fresh else fresh)

def nodeIDMax : Nat := 31

def setGIEach (rd : String) (vol : Int) (device gi : String) : List Nat → Prog Unit
  | [] => pure ()
  | nodeID::rest => do
    match ← run (.setGI rd vol device nodeID gi) with
    | false => throw (.setGI vol nodeID)
    | true => setGIEach rd vol device gi rest

def seedPerPeerGI (vol : Int) (device : String) (seed : GISeed) : Prog Unit :=
  match seed.validate with
  | .error e => throw (.validateSeed vol e)
  | .ok () => setGIEach rd vol device seed.string (List.range (nodeIDMax+1))

section

variable (r : Reconciler) (status : Status) (dr : DesiredResource) (devices : Int → String)

def seedVolume (isWinner : Bool) (vol : DesiredVolume) : Prog Unit :=
  let device := devices vol.volumeNumber
  if device="" then pure ()
  else
    match resolveVolumeSeed r status dr.name vol dr.peerHasData isWinner dr.skipInitialSync with
    | none => pure ()
    | some seed => seedPerPeerGI dr.name vol.volumeNumber device seed

def seedEach (isWinner : Bool) : List DesiredVolume → Prog Unit
  | [] => pure ()
  | vol::rest => do
    seedVolume r status dr devices isWinner vol
    seedEach isWinner rest

def seedInitialGI (isWinner : Bool) : Prog Unit :=
  seedEach r status dr devices isWinner dr.volumes

def seedFreshVolumes (fresh : List Int) : Prog Unit :=
  seedEach r status dr devices (isLateAddWinner dr)
    (dr.volumes.filter fun vol => fresh.contains vol.volumeNumber)

def stampMetadataCreated : Prog Unit :=
  if r.metadataCreatedStamper then do
    -- A failed stamp is only logged.
    let _ ← run (.stampMetadataCreated (dr.name++"."++dr.nodeName))
    pure ()
  else pure ()

def ensureMetadata (mdMarkerPath : String) (firstActivation : Bool) : Prog Unit := do
  let fresh ← createMissing dr.name dr.volumes
  match ← run (.writeMarker mdMarkerPath) with
  | false => throw (.writeMarker mdMarkerPath)
  | true =>
    stampMetadataCreated r dr
    if !firstActivation && fresh.isEmpty then pure ()
    else seedInitialGI r status dr devices (isInitialUpToDateWinner dr firstActivation)

def ensurePerVolumeMetadata (diskless : Bool) : Prog Unit :=
  if diskless then pure ()
  else if !r.adm then pure ()
  else do
    match ← run (.renderResFile dr.name) with
    | false => throw (.renderResFile dr.name)
    | true =>
      let fresh ← createMissing dr.name dr.volumes
      if fresh.isEmpty then pure ()
      else seedFreshVolumes r status dr devices fresh

end

end Blockstor.Satellite
