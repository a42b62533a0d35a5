import Blockstor.Satellite.Toggle
import Blockstor.Storage.LvmGroup
import Blockstor.Storage.Zfs

namespace Blockstor.Teardown

open Framework Shell Storage

inductive Cmd
  | resumeIo (resource : String)
  | down (resource : String)
  | setupDown (resource : String)
  | luksClose (mapper : String)
  | deleteVolume (provider : Provider) (vol : Volume)
  | removeFile (path : String)
  | forgetGIHistory (resource : String)

/-- The answer to a command; `false` stands for a failure. A file that is not there is no failure. -/
@[reducible] def Answer : Cmd → Type
  | .resumeIo _ => Bool
  | .down _ => Bool
  | .setupDown _ => Bool
  | .luksClose _ => Bool
  | .deleteVolume _ _ => Except Storage.Err Unit
  | .removeFile _ => Bool
  | .forgetGIHistory _ => Bool

structure DeleteResourceResponse where
  ok : Bool

abbrev Prog := Shell Answer Empty

abbrev run (c : Cmd) : Prog (Answer c) := call c

/-- Whether drbdadm and cryptsetup are wired up, the provider of each pool, and where the state files
are. -/
structure Config where
  adm : Bool
  cryptsetup : Bool
  providers : String → Option Provider
  stateDir : String

/-- A request that names the pool of the volumes; the name of an API object has no at sign. -/
structure DeleteResourceRequest where
  name : String
  storagePool : String
  volumeNumbers : List Int32
  named : storagePool≠""
  valid : '@' ∉name.toList

variable (cfg : Config)

def takeDown (resource : String) : Prog Unit :=
  if cfg.adm then do
    let _ ← run (.resumeIo resource)
    match ← run (.down resource) with
    | true => pure ()
    | false =>
      let _ ← run (.setupDown resource)
      pure ()
  else pure ()

def closeEach (resource : String) : List Int32 → Prog Unit
  | [] => pure ()
  | n::numbers => do
    let _ ← run (.luksClose (Toggle.luksMapperName resource n))
    closeEach resource numbers

variable (req : DeleteResourceRequest)

def closeMappers : Prog Unit :=
  if cfg.cryptsetup then closeEach req.name req.volumeNumbers else pure ()

def deleteVolumes (provider : Provider) (resource : String) : List Int32 → Prog Bool
  | [] => pure true
  | n::numbers => do
    match ← run (.deleteVolume provider ⟨resource,n.toInt,0⟩) with
    | .error _ => pure false
    | .ok () => deleteVolumes provider resource numbers

def stateSuffixes : List String := [".res",".md-created",".mkfs.done",".owned"]

def removeFiles (stateDir resource : String) : List String → Prog Bool
  | [] => pure true
  | suffix::suffixes => do
    match ← run (.removeFile (stateDir++"/"++resource++suffix)) with
    | false => pure false
    | true => removeFiles stateDir resource suffixes

def forgetState (resource : String) : Prog Bool :=
  if cfg.stateDir="" then pure true
  else do
    match ← removeFiles cfg.stateDir resource stateSuffixes with
    | false => pure false
    | true => run (.forgetGIHistory resource)

def deleteStorage : Prog Bool :=
  match cfg.providers req.storagePool with
  | none => pure true
  | some provider => deleteVolumes provider req.name req.volumeNumbers

def deleteResource : Prog DeleteResourceResponse := do
  takeDown cfg req.name
  closeMappers cfg req
  match ← deleteStorage cfg req with
  | false => pure ⟨false⟩
  | true =>
    match ← forgetState cfg req.name with
    | false => pure ⟨false⟩
    | true => pure ⟨true⟩

section Tools

variable {α : Type}

abbrev Faults := String → Bool

variable (fails : Faults) (p : Pool α)

/-- The tools over a pool: an existence probe that fails reads as absent, and every other command may
fail before, in the middle of or after its work. -/
def ToolStep (c : Storage.Cmd α) (answer : Storage.Answer c) (q : Pool α) : Prop :=
  Storage.Step (fun _ => True) p c answer q ∧
    match c,answer with
    | .lookup name,answer => answer=(!fails name && (p name).isSome)
    | _,_ => True

/-- The ZFS commands over a pool. A destroy may also take other datasets, and a promote moves
snapshots. -/
def ZfsStep (c : Zfs.Cmd) (answer : Zfs.Answer c) (q : Pool α) : Prop :=
  match c,answer with
  | .list dataset,answer => q=p ∧
      if fails dataset then answer=none
      else match p dataset with
        | none => ∀out,answer=some out → Text.trimSpace out=""
        | some _ => ∃out,answer=some out ∧ Text.trimSpace out≠""
  | .origin _,_ => q=p
  | .origins,_ => q=p
  | .promote _,_ => ∀n,'@' ∉n.toList → q n=p n
  | .destroy _ dataset,answer => (answer=.ok → q dataset=none) ∧ ∀n,q n=p n ∨ q n=none
  | .rename source target,answer => (answer=true → q source=none) ∧
      ∀n,n≠target → q n=p n ∨ q n=none

def VolumeDeleted (provider : Provider) (vol : Volume) (p : Pool α)
    (r : Except Storage.Err Unit) (q : Pool α) : Prop :=
  match provider with
  | .zfs _ => Exec (ZfsStep fails) (Zfs.deleteVolume vol) p r q
  | .lvmThin => Exec (ToolStep fails) (Storage.deleteVolume true vol) p r q
  | .lvmThick => Exec (ToolStep fails) (Storage.deleteVolume false vol) p r q

def SnapshotDeleted (provider : Provider) (now : Int) (snap : Snapshot)
    (p : Pool α) (r : Except Storage.Err Unit) (q : Pool α) : Prop :=
  match provider with
  | .zfs _ => Exec (ZfsStep fails) (Zfs.deleteSnapshot now snap) p r q
  | _ => Exec (ToolStep fails) (Storage.deleteSnapshot snap) p r q

def Step (c : Cmd) (answer : Answer c) (q : Pool α) : Prop :=
  match c,answer with
  | .deleteVolume provider vol,answer => VolumeDeleted fails provider vol p answer q
  | _,_ => q=p

end Tools

end Blockstor.Teardown
