import Blockstor.Satellite.Restore

namespace Blockstor.Provision

open Framework Shell Satellite Function

abbrev KiB := {n : Int // 0<n}

/-- The calls of `applyStorage`: into the restore path and the provider, and the wait for the device
to appear. `extend` is `lvextend --size` or `zfs set volsize`. -/
inductive Cmd
  | materializeVolume (provider : Storage.Provider) (vol : DesiredVolume)
  | volumeStatus (pool name : String)
  | extend (pool name : String) (sizeMiB : Int)
  | ensureRefreservation (thin : Bool) (pool name : String)
  | waitForBlockDevice (device : String)

structure VolumeStatus where
  usableKib : Int
  devicePath : String

@[reducible] def Answer : Cmd → Type
  | .materializeVolume _ _ => Except RestoreErr Unit
  | .volumeStatus _ _ => Option VolumeStatus
  | .extend _ _ _ => Bool
  | .ensureRefreservation _ _ _ => Except Storage.Err Unit
  | .waitForBlockDevice _ => Bool

inductive Err
  | unknownPool (pool : String)
  | materialize (vol : Int) (e : RestoreErr)
  | status (vol : Int)
  | extend (name : String)
  | refreservation (e : Storage.Err)
  | device (vol : Int)

abbrev Prog := Shell Answer Err

abbrev run (c : Cmd) : Prog (Answer c) := call c

structure Applied where
  devices : List (Int × String)
  resized : Bool
  cloned : Bool

/-- The resource, its volumes, and the provider of each pool. The API server accepts no other sizes,
and keys the volumes by their numbers. -/
structure Request where
  name : String
  volumes : List DesiredVolume
  providers : String → Option Storage.Provider
  distinct : (volumes.map DesiredVolume.volumeNumber).Nodup
  accepted : ∀vol∈volumes,4096 ≤ vol.sizeKib ∧ vol.sizeKib ≤ 1099511627776

variable (provider : Storage.Provider) (rd : String) (vol : DesiredVolume)

def lvName : String :=
  Storage.volumeName ⟨rd,vol.volumeNumber,0⟩

def resizeVolume : Prog Unit := do
  match ← run (.extend vol.storagePool (lvName rd vol) (Storage.sizeMiBOf vol.sizeKib)) with
  | false => throw (.extend (lvName rd vol))
  | true =>
    match provider with
    | .zfs thin =>
      match ← run (.ensureRefreservation thin vol.storagePool (lvName rd vol)) with
      | .ok () => pure ()
      | .error e => throw (.refreservation e)
    | _ => pure ()

def growVolume (status : VolumeStatus) : Prog Bool :=
  if vol.sizeKib>status.usableKib ∧ status.usableKib>0 then do
    resizeVolume provider rd vol
    pure true
  else pure false

def applyVolume (providers : String → Option Storage.Provider) (vol : DesiredVolume) :
    Prog (String × Bool) :=
  match providers vol.storagePool with
  | none => throw (.unknownPool vol.storagePool)
  | some provider => do
    match ← run (.materializeVolume provider vol) with
    | .error e => throw (.materialize vol.volumeNumber e)
    | .ok () =>
      match ← run (.volumeStatus vol.storagePool (lvName rd vol)) with
      | none => throw (.status vol.volumeNumber)
      | some status =>
        let resized ← growVolume provider rd vol status
        match ← run (.waitForBlockDevice status.devicePath) with
        | false => throw (.device vol.volumeNumber)
        | true => pure (status.devicePath,resized)

def applyVolumes (rd : String) (providers : String → Option Storage.Provider) :
    List DesiredVolume → Prog Applied
  | [] => pure ⟨[],false,false⟩
  | vol::vols => do
    let (device,resized) ← applyVolume rd providers vol
    let rest ← applyVolumes rd providers vols
    pure ⟨(vol.volumeNumber,device)::rest.devices,resized || rest.resized,
      vol.sourceSnapshot≠"" || rest.cloned⟩

def applyStorage (req : Request) : Prog Applied := applyVolumes req.name req.providers req.volumes

abbrev Sizes := String → Option KiB

variable (p : Sizes)

/-- What a command does to the sizes when it works: the tools give exactly what is asked for. A
stream is known by the size of the volume it carries; it is received into the volume that is there,
or makes one. -/
def SizeEffect (c : Storage.Cmd KiB) (q : Sizes) : Prop :=
  match c with
  | .create name sizeMiB _ => p name=none ∧ ∃e : KiB,e.val=1024*sizeMiB ∧
      q=update p name (some e)
  | .snapshot origin name => p name=none ∧ ∃e,p origin=some e ∧ q=update p name (some e)
  | .remove name => q=update p name none
  | .rename source target => p target=none ∧ ∃e,p source=some e ∧
      q=update (update p source none) target (some e)
  | .receive name stream => q=update p name (some ((p name).getD stream))
  | _ => q=p

def SizeStep (c : Storage.Cmd KiB) (answer : Storage.Answer c) (q : Sizes) : Prop :=
  match c,answer with
  | .lookup name,answer => q=p ∧ answer=(p name).isSome
  | .names,answer => q=p ∧ (answer=some (fun name => (p name).isSome) ∨ answer=none)
  | .tagged _,_ => q=p
  | .status name,answer => q=p ∧ (answer=some ((p name).elim 0 Subtype.val) ∨ answer=none)
  | .volsize _,_ => q=p
  | .refreservation _,_ => q=p
  | .setRefreservation _ _,_ => q=p
  | .create name sizeMiB tagged,answer => SizeEffect p (.create name sizeMiB tagged) q ∨
      answer=false ∧ q=p
  | .snapshot origin name,answer => SizeEffect p (.snapshot origin name) q ∨ answer=false ∧ q=p
  | .copy _ _,_ => q=p
  | .untag _,_ => q=p
  | .remove name,answer => SizeEffect p (.remove name) q ∨ answer=false ∧ q=p
  | .rename source target,answer => SizeEffect p (.rename source target) q ∨ answer=false ∧ q=p
  | .wipefs _,_ => q=p
  | .receive name stream,answer => SizeEffect p (.receive name stream) q ∨ answer=false ∧ q=p

structure Disk where
  sizes : String → Sizes
  resizes : List String

/-- How the restore path is answered in one pool. The counter of the missing snapshot and what the
peers send are arbitrary. -/
def PoolStep (c : NodeCmd KiB) (answer : NodeAnswer c) (q : Sizes) : Prop :=
  match c,answer with
  | .createVolume vol,answer => Exec SizeStep (Storage.createVolume provider vol) p answer q
  | .restoreVolumeFromSnapshot target src,answer =>
      Exec SizeStep (Storage.restoreVolumeFromSnapshot provider target src) p answer q
  | .recvSnapshot target stream,answer =>
      Exec SizeStep (Storage.recvSnapshot provider target stream) p answer q
  | .fetch _ _ _,_ => q=p
  | .recordRestoreBlankFallback _ _ _,_ => q=p
  | .bumpRestoreSnapshotMissing _ _,_ => q=p
  | .clearRestoreSnapshotMissing _ _,_ => q=p

/-- How a node with these tools answers `applyStorage`. -/
def Step (crossNodeFetcher : Bool) (s : Disk) (c : Cmd) (answer : Answer c) (t : Disk) : Prop :=
  match c,answer with
  | .materializeVolume provider vol,answer => ∃q,
      Exec (PoolStep provider) (materializeVolume provider crossNodeFetcher rd vol)
        (s.sizes vol.storagePool) answer q ∧
      t={s with sizes := update s.sizes vol.storagePool q}
  | .volumeStatus pool name,answer => t=s ∧ ∀status,answer=some status →
      status.usableKib=(s.sizes pool name).elim 0 Subtype.val
  | .extend pool name sizeMiB,answer => t.resizes=name::s.resizes ∧
      (t.sizes=s.sizes ∧ answer=false ∨ ∃e : KiB,e.val=1024*sizeMiB ∧ (s.sizes pool name).isSome ∧
        t.sizes=update s.sizes pool (update (s.sizes pool) name (some e)))
  | .ensureRefreservation _ _ _,_ => t=s
  | .waitForBlockDevice _,_ => t=s

end Blockstor.Provision
