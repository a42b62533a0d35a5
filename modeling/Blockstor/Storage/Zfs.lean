import Blockstor.Framework.Fields
import Blockstor.Storage.Provider

namespace Blockstor.Storage.Zfs

open Framework Shell

/-- What removing datasets runs: `zfs list`, `zfs get origin`, the listing of all origins, `zfs
promote`, `zfs destroy` and `zfs rename`. -/
inductive Cmd
  | list (dataset : String)
  | origin (dataset : String)
  | origins
  | promote (clone : String)
  | destroy (recursive : Bool) (dataset : String)
  | rename (source target : String)

/-- How `zfs destroy` ends. -/
inductive Destroyed
  | ok
  | dependentClones
  | failed
  deriving DecidableEq

/-- `none` and `false` stand for a failure; the listing of the origins is read row by row. -/
@[reducible] def Answer : Cmd → Type
  | .list _ => Option String
  | .origin _ => Option String
  | .origins => Option (List (String × String))
  | .promote _ => Bool
  | .destroy _ _ => Destroyed
  | .rename _ _ => Bool

abbrev Prog := Shell Answer Err

abbrev run (c : Cmd) : Prog (Answer c) := call c

variable (dataset : String)

def datasetExists : Prog Bool := do
  match ← run (.list dataset) with
  | none => pure false
  | some out => pure (Text.trimSpace out≠"")

def volumeOrigin : Prog String := do
  match ← run (.origin dataset) with
  | none => pure ""
  | some out =>
    let value := Text.trimSpace out
    pure (if value="" ∨ value="-" then "" else value)

def dependentClones : Prog (List String) := do
  match ← run .origins with
  | none => pure []
  | some rows => pure ((rows.filter fun row =>
      row.1≠dataset ∧ (Text.cutPrefix (dataset++"@") row.2).isSome).map Prod.fst)

def promoteEach : List String → Prog Unit
  | [] => pure ()
  | clone::clones => do
    match ← run (.promote clone) with
    | false => throw (.command "zfs promote" clone)
    | true => promoteEach clones

def promoteDependentClones : Prog Unit := do
  let clones ← dependentClones dataset
  promoteEach clones

def sweepOrigin (origin : String) : Prog Unit :=
  if origin≠"" ∧ Text.contains origin "__DELETED__" then do
    let _ ← run (.destroy false origin)
  else pure ()

def deleteVolume (vol : Volume) : Prog Unit := do
  let tgtDS := volumeName vol
  let found ← datasetExists tgtDS
  if found then
    let origin ← volumeOrigin tgtDS
    promoteDependentClones tgtDS
    match ← run (.destroy true tgtDS) with
    | .ok => sweepOrigin origin
    | _ => throw (.command "zfs destroy" tgtDS)
  else pure ()

/-- A snapshot that still has clones is renamed; `now` is the time in seconds. -/
def deleteSnapshot (now : Int) (snap : Snapshot) : Prog Unit := do
  let src := snapshotName (.zfs true) snap
  let found ← datasetExists src
  if found then
    match ← run (.destroy false src) with
    | .ok => pure ()
    | .failed => throw (.command "zfs destroy" src)
    | .dependentClones =>
      match ← run (.rename src (src++"__DELETED__"++Text.formatInt now)) with
      | true => pure ()
      | false => throw (.command "zfs rename" src)
  else pure ()

end Blockstor.Storage.Zfs
