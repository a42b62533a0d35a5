import Blockstor.Storage.Pool

namespace Blockstor.Storage

open Framework Shell

inductive Provider
  | zfs (thin : Bool)
  | lvmThin
  | lvmThick
  deriving DecidableEq

structure Volume where
  resourceName : String
  volumeNumber : Int
  sizeKib : Int := 0
  deriving DecidableEq

structure Snapshot where
  resourceName : String
  snapshotName : String
  deriving DecidableEq

inductive Err
  | notFound (name : String)
  | command (verb name : String)
  deriving DecidableEq

abbrev Prog (α : Type) := Shell (@Answer α) Err

def leftPad (width : Nat) (s : String) : String :=
  String.ofList (List.replicate (width-s.length) '0' ++ s.toList)

/-- `%05d`. -/
def fiveDigits (n : Int) : String :=
  if 0 ≤ n then leftPad 5 (toString n.toNat) else "-"++leftPad 4 (toString (-n).toNat)

def volumeName (vol : Volume) : String := vol.resourceName++"_"++fiveDigits vol.volumeNumber

def snapshotName : Provider → Snapshot → String
  | .zfs _,snap => snap.resourceName++"_00000@"++snap.snapshotName
  | _,snap => snap.resourceName++"_"++snap.snapshotName++"_00000"

def freshLVName (final : String) : String := final++".bsnew"

def mibPerKib : Int := 1024

/-- `max(sizeKib/1024,1)` with the division of the source, which truncates. -/
def sizeMiBOf (sizeKib : Int) : Int := max (sizeKib.tdiv mibPerKib) 1

section

variable {α : Type}

def run (c : Cmd α) : Prog α (Answer c) := call c

def must (p : Prog α Bool) (e : Err) : Prog α Unit := do
  let ok ← p
  if ok then pure () else throw e

def ensureRefreservation (thin : Bool) (dataset : String) : Prog α Unit :=
  if thin then pure ()
  else do
    match ← run (.volsize dataset) with
    | none => throw (.command "zfs get volsize" dataset)
    | some volsizeBytes =>
      match ← run (.refreservation dataset) with
      | none => throw (.command "zfs get refreservation" dataset)
      | some currentRefres =>
        if currentRefres ≥ volsizeBytes then pure ()
        else
          must (run (.setRefreservation dataset volsizeBytes))
            (.command "zfs set refreservation" dataset)

def dropLeftover (leftover : Bool) (fresh : String) : Prog α Unit :=
  if leftover then must (run (.remove fresh)) (.command "lvremove" fresh) else pure ()

variable (provider : Provider)

def createVolume (vol : Volume) : Prog α Unit :=
  let name := volumeName vol
  match provider with
  | .zfs thin => do
    if ← run (.lookup name) then ensureRefreservation thin name
    else
      must (run (.create name (sizeMiBOf vol.sizeKib) false)) (.command "zfs create" name)
      ensureRefreservation thin name
  | .lvmThin => do
    if ← run (.lookup name) then pure ()
    else must (run (.create name (sizeMiBOf vol.sizeKib) false)) (.command "lvcreate" name)
  | .lvmThick => do
    let fresh := freshLVName name
    match ← run .names with
    | none => throw (.command "lvs" "")
    | some names =>
      if names name then pure ()
      else
        dropLeftover (names fresh) fresh
        must (run (.create fresh (sizeMiBOf vol.sizeKib) false)) (.command "lvcreate" fresh)
        must (run (.wipefs fresh)) (.command "wipefs" fresh)
        must (run (.rename fresh name)) (.command "lvrename" fresh)

def createSnapshot (snap : Snapshot) : Prog α Unit := do
  let name := snapshotName provider snap
  if ← run (.lookup name) then pure ()
  else must (run (.snapshot (volumeName ⟨snap.resourceName,0,0⟩) name)) (.command "snapshot" name)

def copyAndClearSentinel (srcName tgtName : String) : Prog α Unit := do
  must (run (.copy srcName tgtName)) (.command "dd" tgtName)
  must (run (.untag tgtName)) (.command "lvchange" tgtName)

variable (target : Volume) (stream : α)

def restoreVolumeFromSnapshot (src : Snapshot) : Prog α Unit :=
  let tgtName := volumeName target
  let srcName := snapshotName provider src
  match provider with
  | .zfs thin => do
    if ← run (.lookup tgtName) then ensureRefreservation thin tgtName
    else if ← run (.lookup srcName) then do
      must (run (.snapshot srcName tgtName)) (.command "zfs clone" tgtName)
      ensureRefreservation thin tgtName
    else throw (.notFound srcName)
  | .lvmThin => do
    if ← run (.lookup tgtName) then pure ()
    else if ← run (.lookup srcName) then
      must (run (.snapshot srcName tgtName)) (.command "lvcreate -s" tgtName)
    else throw (.notFound srcName)
  | .lvmThick => do
    if ← run (.lookup tgtName) then
      -- An allocation still tagged is one whose copy did not finish.
      if ← run (.tagged tgtName) then
        if ← run (.lookup srcName) then copyAndClearSentinel srcName tgtName
        else throw (.notFound srcName)
      else pure ()
    else if ← run (.lookup srcName) then
      match ← run (.status srcName) with
      | none => throw (.command "lvs" srcName)
      | some usableKib =>
        must (run (.create tgtName (sizeMiBOf usableKib) true)) (.command "lvcreate" tgtName)
        copyAndClearSentinel srcName tgtName
    else throw (.notFound srcName)

def Provider.isShipper : Provider → Bool
  | .lvmThick => false
  | _ => true

def ddRecvAndClearSentinel : Prog α Unit := do
  let name := volumeName target
  if ← run (.receive name stream) then
    must (run (.untag name)) (.command "lvchange" name)
  else
    -- The rollback is best effort: its own failure is not reported.
    if ← run (.lookup name) then
      let _ ← run (.remove name)
    throw (.command "dd recv" name)

def recvSnapshot : Prog α Unit :=
  let name := volumeName target
  match provider with
  | .zfs thin => do
    if ← run (.lookup name) then ensureRefreservation thin name
    else if ← run (.receive name stream) then ensureRefreservation thin name
    else
      let _ ← run (.remove name)
      throw (.command "zfs recv" name)
  | .lvmThin => do
    if ← run (.lookup name) then
      if ← run (.tagged name) then ddRecvAndClearSentinel target stream
      else pure ()
    else
      must (run (.create name (sizeMiBOf target.sizeKib) true)) (.command "lvcreate" name)
      ddRecvAndClearSentinel target stream
  | .lvmThick => throw (.command "recv" name)

end

end Blockstor.Storage
