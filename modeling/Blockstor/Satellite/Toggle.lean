import Blockstor.Dispatch.Objects
import Blockstor.Framework.Fields
import Blockstor.Framework.Machine

namespace Blockstor.Toggle

open Drbd Dispatch Framework Shell Text

inductive Cmd
  | status (resource : String)
  | statusVerbose (resource : String)
  | detach (resource : String)
  | luksClose (mapper : String)
  | deleteVolume (pool resource : String) (number : Int32)

/-- The answer to a command; `none` and `false` stand for a failure. -/
@[reducible] def Answer : Cmd → Type
  | .status _ => Option String
  | .statusVerbose _ => Option String
  | .detach _ => Bool
  | .luksClose _ => Bool
  | .deleteVolume _ _ _ => Bool

inductive Err
  | detach (resource : String)
  | reclaim (resource : String) (number : Int32)

abbrev Prog := Shell Answer Err

abbrev run (c : Cmd) : Prog (Answer c) := call c

structure Config where
  adm : Bool
  cryptsetup : Bool
  providers : List String

structure Applied where
  devices : List (Int32 × String)
  resized : Bool
  cloned : Bool

def isLoaded (resource : String) : Prog Bool := do
  match ← run (.status resource) with
  | none => pure false
  | some out => pure (trimSpace out≠"")

def notAttached : List String := ["disk:Diskless","disk:Detaching","disk:Failed"]

def showsToken (line token : String) : Bool :=
  contains line token &&
    !(contains line ("peer-"++token) && !contains line (" "++token))

def showsDetached (out : String) : Bool :=
  (split '\n' out).any fun line => notAttached.any (showsToken line)

def hasDisklessVolume (resource : String) : Prog Bool := do
  match ← run (.statusVerbose resource) with
  | none => pure false
  | some out => pure (showsDetached out)

variable (cfg : Config) (dr : DesiredResource)

def detachIfStillAttached : Prog Unit :=
  if cfg.adm then do
    let loaded ← isLoaded dr.name
    if loaded then
      let disklessVol ← hasDisklessVolume dr.name
      if disklessVol then pure ()
      else
        match ← run (.detach dr.name) with
        | true => pure ()
        | false => throw (.detach dr.name)
    else pure ()
  else pure ()

def needsLUKS (stack : List String) : Bool := stack.any fun s => equalFold s "LUKS"

def luksMapperName (rdName : String) (vol : Int32) : String :=
  rdName++"-"++formatInt vol.toInt++"-luks"

def closeMappers (rdName : String) : List DesiredVolume → Prog Unit
  | [] => pure ()
  | vol::vols => do
    let _ ← run (.luksClose (luksMapperName rdName vol.volumeNumber))
    closeMappers rdName vols

def closeLUKS : Prog Unit :=
  if cfg.cryptsetup && needsLUKS dr.layerStack then closeMappers dr.name dr.volumes else pure ()

def reclaimVolumesForDiskless (cfg : Config) (rdName : String) : List DesiredVolume → Prog Unit
  | [] => pure ()
  | vol::vols =>
    if vol.storagePool="" then reclaimVolumesForDiskless cfg rdName vols
    else if vol.storagePool∈cfg.providers then do
      match ← run (.deleteVolume vol.storagePool rdName vol.volumeNumber) with
      | true => reclaimVolumesForDiskless cfg rdName vols
      | false => throw (.reclaim rdName vol.volumeNumber)
    else reclaimVolumesForDiskless cfg rdName vols

def applyStorageIfDiskful (diskless : Bool) (applyStorage : Prog Applied) : Prog Applied :=
  if diskless then do
    detachIfStillAttached cfg dr
    closeLUKS cfg dr
    reclaimVolumesForDiskless cfg dr.name dr.volumes
    pure ⟨[],false,false⟩
  else applyStorage

end Blockstor.Toggle
