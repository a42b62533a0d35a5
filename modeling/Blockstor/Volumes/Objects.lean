import Blockstor.Controller.Allocate
import Blockstor.Framework.Pool
import Blockstor.Framework.Versioned

namespace Blockstor.Volumes

open Framework Shell

structure VolumeDefinition where
  volumeNumber : Int32
  sizeKib : Int
  props : List (String × String)
  flags : List String
  deriving DecidableEq

structure ResourceDefinitionVolume extends VolumeDefinition where
  drbdMinor : Option Int32
  deriving DecidableEq

def crdToWireVD (vd : ResourceDefinitionVolume) : VolumeDefinition := vd.toVolumeDefinition

variable (apiReader : Bool) (vd : VolumeDefinition) (number : Int32)
  (vds : List ResourceDefinitionVolume)

def wireToCRDVD : ResourceDefinitionVolume := ⟨vd,none⟩

def wireToCRDVDPreserving (prev : ResourceDefinitionVolume) (wire : VolumeDefinition) :
    ResourceDefinitionVolume := {wireToCRDVD wire with drbdMinor := prev.drbdMinor}

abbrev VolumeList := Keyed fun vd : ResourceDefinitionVolume => vd.volumeNumber

inductive Err
  | notFound
  | alreadyExists
  | conflict
  | invalid
  | unavailable
  | minorPoolExhausted
  | refused (text : String)
  deriving DecidableEq

/-- What the allocation of minors reads besides the list: the legacy base of the definition, the
minors of other definitions, and the range. -/
structure MinorPool where
  base : Option Int32
  taken : List Int32
  low : Int32
  high : Int32

inductive Cmd
  | get (live : Bool)
  | write (rv : Nat) (vds : List ResourceDefinitionVolume)
  | minorPool

@[reducible] def Result : Cmd → Type
  | .get _ => Nat × List ResourceDefinitionVolume
  | .write _ _ => Unit
  | .minorPool => MinorPool

variable (c : Cmd) (s : Versioned VolumeList)

@[reducible] def Answer : Type := Except Err (Result c)

abbrev Prog := Shell Answer Err

def ask : Prog (Answer c) := call c

def api : Prog (Result c) := do
  match ← ask c with
  | .ok a => pure a
  | .error e => throw e

/-- The optimistic lock: only the latest version can be replaced. A list with two volumes of one
number is refused, and one that is the same makes no new version. -/
def write (rv : Nat) (vds : List ResourceDefinitionVolume) :
    Except Err Unit × Versioned VolumeList :=
  if rv≠s.rv then (.error .conflict,s)
  else if h : (vds.map fun vd => vd.volumeNumber).Nodup then
    if vds=s.now.items then (.ok (),s) else (.ok (),s.push ⟨vds,h⟩)
  else (.error .invalid,s)

/-- How the API server answers. A cache may lag behind by any number of versions, and may not know
the definition yet; an answer may be lost, and the write may have landed then. -/
def Step : (c : Cmd) → Answer c → Versioned VolumeList → Prop
  | .get live,a,t => t=s ∧ (a=.error .unavailable ∨ live=false ∧ a=.error .notFound ∨
      ∃k,k ≤ s.rv ∧ (live=true → k=s.rv) ∧ a=.ok (k,(s.version k).items))
  | .write rv vds,a,t => a=(write s rv vds).1 ∧ t=(write s rv vds).2 ∨
      a=.error .unavailable ∧ (t=s ∨ t=(write s rv vds).2)
  | .minorPool,_,t => t=s

section Retry

variable {α : Type}

/-- `retry.OnError` with `steps+1` attempts. -/
def retryOnError (retriable : Err → Bool) (fn : Prog α) : Nat → Prog α
  | 0 => fn
  | steps+1 => do
    match ← attempt fn with
    | .ok a => pure a
    | .error e => if retriable e then retryOnError retriable fn steps else throw e

def isConflict (e : Err) : Bool := e=.conflict

def isConflictOrNotFound (e : Err) : Bool := e=.conflict || e=.notFound

/-- `retry.DefaultRetry` has five steps. -/
def defaultRetry : Nat := 4

def autoNumberRetry : Nat := 11

def patchRetryBackoff : Nat := 19

end Retry

def fetchRD : Prog (Nat × List ResourceDefinitionVolume) := api (.get false)

def fetchRDLive : Prog (Nat × List ResourceDefinitionVolume) :=
  api (.get apiReader)

def hasVolume (number : Int32) : Bool :=
  vds.any fun vd => vd.volumeNumber=number

def create : Prog (Option Int32) :=
  retryOnError isConflictOrNotFound (do
    let (rv,vds) ← fetchRD
    if hasVolume vds vd.volumeNumber then throw .alreadyExists
    else
      api (.write rv (vds++[wireToCRDVD vd]))
      pure none) defaultRetry

/-- The scan over the numbers of an `int32` from zero on. -/
def smallestFreeFrom (used : Int32 → Bool) : Nat → Int32 → Int32
  | 0,_ => 0
  | n+1,candidate => if used candidate then smallestFreeFrom used n (candidate+1) else candidate

def smallestFreeVolumeNumber : Int32 :=
  smallestFreeFrom (hasVolume vds) (2^31) 0

def verifyVolumeLanded (assigned : Int32) : Prog Unit := do
  let (_,vds) ← fetchRDLive apiReader
  if hasVolume vds assigned then pure () else throw .conflict

def createAutoNumbered : Prog (Option Int32) :=
  retryOnError isConflictOrNotFound (do
    let (rv,vds) ← fetchRDLive apiReader
    let assigned := smallestFreeVolumeNumber vds
    api (.write rv (vds++[wireToCRDVD {vd with volumeNumber := assigned}]))
    if apiReader then verifyVolumeLanded apiReader assigned
    pure (some assigned)) autoNumberRetry

def modifyVolume (number : Int32)
    (f : ResourceDefinitionVolume → Except Err ResourceDefinitionVolume) :
    List ResourceDefinitionVolume → Except Err (List ResourceDefinitionVolume)
  | [] => .error .notFound
  | vd::vds =>
    if vd.volumeNumber=number then (f vd).map (·::vds)
    else (modifyVolume number f vds).map (vd::·)

def lift {α : Type} : Except Err α → Prog α
  | .ok a => pure a
  | .error e => throw e

def rewrite (f : ResourceDefinitionVolume → Except Err ResourceDefinitionVolume) (steps : Nat) :
    Prog (Option Int32) :=
  retryOnError isConflict (do
    let (rv,vds) ← fetchRD
    let vds ← lift (modifyVolume number f vds)
    api (.write rv vds)
    pure none) steps

def update : Prog (Option Int32) :=
  rewrite vd.volumeNumber (fun prev => .ok (wireToCRDVDPreserving prev vd)) defaultRetry

def patchVolumeDefinitionSpec
    (mutate : VolumeDefinition → Except Err VolumeDefinition) : Prog (Option Int32) :=
  rewrite number (fun prev => (mutate (crdToWireVD prev)).map (wireToCRDVDPreserving prev))
    patchRetryBackoff

def delete : Prog (Option Int32) :=
  retryOnError isConflict (do
    let (rv,vds) ← fetchRD
    if hasVolume vds number then
      api (.write rv (vds.eraseP fun vd => vd.volumeNumber=number))
      pure none
    else throw .notFound) defaultRetry

def withMinors (filled : List Controller.VolumeDefinition) : List ResourceDefinitionVolume :=
  List.zipWith (fun vd m => {vd with drbdMinor := m.drbdMinor}) vds filled

def identities (base : Option Int32) (vds : List ResourceDefinitionVolume) :
    Controller.ResourceDefinition where
  name := ""
  volumeDefinitions := vds.map fun vd => ⟨vd.volumeNumber,vd.drbdMinor⟩
  statusDRBDMinor := base

def allocateRDVolumeMinors (pool : MinorPool) (vds : List ResourceDefinitionVolume) :
    Option (List ResourceDefinitionVolume × Bool) :=
  let (seeded,mutated) := Controller.backfillRDMinorsFromStatus (identities pool.base vds)
  (Controller.fillMinors pool.low pool.high
      (pool.taken++seeded.filterMap Controller.VolumeDefinition.drbdMinor) seeded).map fun filled =>
    (withMinors vds filled,mutated || seeded.any fun vd => vd.drbdMinor.isNone)

def ensureRDVolumeMinors : Prog (Option Int32) := do
  match ← ask (.get apiReader) with
  | .error .notFound => pure none
  | .error e => throw e
  | .ok (rv,vds) =>
    if vds=[] ∨ vds.all fun vd => vd.drbdMinor.isSome then pure none
    else
      let pool ← api .minorPool
      match allocateRDVolumeMinors pool vds with
      | none => throw .minorPoolExhausted
      | some (stamped,mutated) =>
        if !mutated then pure none
        else
          match ← ask (.write rv stamped) with
          | .ok () => pure none
          | .error .conflict =>
            match ← ask (.get apiReader) with
            | .ok _ => pure none
            | .error _ => throw .conflict
          | .error e => throw e

inductive Call
  | create (vd : VolumeDefinition)
  | createAutoNumbered (vd : VolumeDefinition)
  | update (vd : VolumeDefinition)
  | patch (number : Int32) (mutate : VolumeDefinition → Except Err VolumeDefinition)
  | delete (number : Int32)
  | stampMinors

def Call.prog : Call → Prog (Option Int32)
  | .create vd => Volumes.create vd
  | .createAutoNumbered vd => Volumes.createAutoNumbered apiReader vd
  | .update vd => Volumes.update vd
  | .patch number mutate => patchVolumeDefinitionSpec number mutate
  | .delete number => Volumes.delete number
  | .stampMinors => ensureRDVolumeMinors apiReader

end Blockstor.Volumes
