import Blockstor.Drbd.Generation
import Blockstor.Framework.Dict
import Blockstor.Framework.Fields

namespace Blockstor.GiHistory

open Drbd Framework Text

def giHistoryPerVolume : Nat := 32

def maxScanTokenSize : Nat := 65536

abbrev History := Dict Int32 (List String)

def listed (history : History) (vol : Int32) : List String := (history.find vol).getD []

inductive Err
  | damaged (line : String)
  | tooLong

/-- One line of the file; `none` for a line that was not written here. -/
def parseRecord (line : String) : Option (Int32 × String) :=
  match cut ' ' line with
  | none => none
  | some (volField,generation) =>
    match parseInt32 volField with
    | none => none
    | some vol => if isGenerationUUID generation then some (Int32.ofInt vol,generation) else none

def addRecord (out : History) (x : Int32 × String) : History := out.set x.1 (listed out x.1++[x.2])

def readLines (out : History) : List String → Except Err History
  | [] => .ok out
  | raw::rest =>
    if maxScanTokenSize ≤ byteLength raw then .error .tooLong
    else if trimSpace raw="" then readLines out rest
    else
      match parseRecord (trimSpace raw) with
      | none => .error (.damaged (trimSpace raw))
      | some x => readLines (addRecord out x) rest

def readGIHistory : Option String → Except Err History
  | none => .ok .empty
  | some data => readLines .empty (split '\n' data)

def sortedVolumes (history : History) : List Int32 :=
  (history.items.map Prod.fst).mergeSort fun a b => a ≤ b

def records (history : History) : List (Int32 × String) :=
  (sortedVolumes history).flatMap fun vol => (listed history vol).map fun gi => (vol,gi)

def renderRecord (x : Int32 × String) : String := formatInt x.1.toInt++" "++x.2

def renderHistory (history : History) : String :=
  String.join ((records history).map fun x => renderRecord x++"\n")

/-- Where a durable write fails: while the temporary file is written, at the rename, or when the
directory is opened or synced after it. -/
inductive WriteFault
  | write
  | rename
  | openDir
  | syncDir
  deriving DecidableEq

def WriteFault.renamed : WriteFault → Bool
  | .write => false
  | .rename => false
  | .openDir => true
  | .syncDir => true

/-- The file afterwards, and whether the write reports success. The temporary file is never read. -/
def writeFileDurably (fault : Option WriteFault) (file : Option String) (data : String) : Option String × Bool :=
  match fault with
  | none => (some data,true)
  | some fault => (if fault.renamed then some data else file,false)

def writeGIHistory (fault : Option WriteFault) (file : Option String) (history : History) : Option String × Bool :=
  writeFileDurably fault file (renderHistory history)

structure Record where
  file : Option String
  lastRecordedGI : String → Option String

variable (r : Record) (rdName : String) (vol : Int32) (fault : Option WriteFault)

def giKey : String := rdName++"/"++formatInt vol.toInt

def appendGI (history : History) (vol : Int32) (generation : String) : History :=
  let all := listed history vol++[generation]
  history.set vol (all.drop (all.length-giHistoryPerVolume))

/-- How a call ends: the value is no generation, the generation is on file, or it could not be
recorded. -/
inductive Recorded
  | ignored
  | onFile
  | failed
  deriving DecidableEq

def remember (generation : String) : Record :=
  {r with lastRecordedGI := Function.update r.lastRecordedGI (giKey rdName vol) (some generation)}

def recordObservedGI (generation : String) (fault : Option WriteFault) : Record × Recorded :=
  if generation="" then (r,.ignored)
  else if isGenerationUUID generation=false then (r,.ignored)
  else
    let generation := toUpper generation
    if r.lastRecordedGI (giKey rdName vol)=some generation then (r,.onFile)
    else
      match readGIHistory r.file with
      | .error _ => (r,.failed)
      | .ok history =>
        if generation∈listed history vol then (remember r rdName vol generation,.onFile)
        else
          match writeGIHistory fault r.file (appendGI history vol generation) with
          | (file,false) => ({r with file := file},.failed)
          | (file,true) => (remember {r with file := file} rdName vol generation,.onFile)

def forgetVolumes (history : History) (vols : List Int32) (rdName : String)
    (cache : String → Option String) (key : String) : Option String :=
  if history.items.any fun x => !vols.contains x.1 && giKey rdName x.1==key then none else cache key

def keepGIHistoryOf (vols : List Int32) (fault : Option WriteFault) : Record :=
  match readGIHistory r.file with
  | .error _ => r
  | .ok history =>
    if history.items.any fun x => !vols.contains x.1 then
      ⟨(writeGIHistory fault r.file (history.keep vols.contains)).1,
        forgetVolumes history vols rdName r.lastRecordedGI⟩
    else r

/-- `false` stands for an error; a file that is not there is none. -/
def forgetGIHistory (fails : Bool) : Record × Bool :=
  let cache := fun key => if (cutPrefix (rdName++"/") key).isSome then none
    else r.lastRecordedGI key
  if fails && r.file.isSome then (⟨r.file,cache⟩,false) else (⟨none,cache⟩,true)

end Blockstor.GiHistory
