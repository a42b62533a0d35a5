import Blockstor.Drbd.Generation
import Blockstor.Framework.Fields

namespace Blockstor.Drbd.DumpMd

open Framework Text

def dumpLineMax : Nat := 16777216

def dumpKeyCurrent : String := "current-uuid"

def dumpKeyV08 : String := "uuid"

def uuidStatement (statement : String) : Option String :=
  match cutPrefix "0x" (trimSpace statement) with
  | none => none
  | some digits => if isGenerationUUID digits then some (toUpper digits) else none

def appendUUIDStatements (out : List String) (text : String) : List String :=
  out++(split ';' text).filterMap uuidStatement

def firstStatement (text : String) : Option String :=
  ((split ';' text).map trimSpace).find? fun statement => statement≠""

/-- What has been read so far: the UUIDs, whether a block is open, whether a current UUID was named,
and whether the block still owes it. -/
@[ext] structure UuidDump where
  out : List String
  block : Bool
  current : Bool
  v08Lead : Bool

/-- `strings.Cut`; without the separator everything stands in front of it. -/
def cutAt (sep : Char) (s : String) : String × String × Bool :=
  match cut sep s with
  | none => (s,"",false)
  | some (front,back) => (front,back,true)

namespace UuidDump

variable (d : UuidDump) (text : String)

def lead : UuidDump :=
  match firstStatement text with
  | none => d
  | some first =>
    if d.v08Lead then
      {d with current := d.current || (uuidStatement first).isSome,v08Lead := false}
    else d

def blockText (closed : Bool) : UuidDump :=
  ⟨appendUUIDStatements (d.lead text).out text,!closed,(d.lead text).current,
    (d.lead text).v08Lead && !closed⟩

def line : UuidDump :=
  if d.block then d.blockText (cutAt '\x7d' text).1 (cutAt '\x7d' text).2.2
  else
    let key := (cutAt ' ' text).1
    let rest := (cutAt ' ' text).2.1
    if key=dumpKeyCurrent ∨ key="bitmap-uuid" then
      let out := appendUUIDStatements d.out rest
      {d with out := out,
              current := d.current || (key=dumpKeyCurrent && decide (d.out.length < out.length))}
    else if key="history-uuids" ∨ key=dumpKeyV08 then
      let d' := {d with v08Lead := decide (key=dumpKeyV08)}
      match cutPrefix "\x7b" (trimSpace rest) with
      | none => d'.blockText rest true
      | some body => d'.blockText (cutAt '\x7d' body).1 (cutAt '\x7d' body).2.2
    else d

end UuidDump

inductive ParseErr
  | tooLong
  | unreadable
  deriving DecidableEq

def scanLines (d : UuidDump) : List String → Option UuidDump
  | [] => some d
  | raw::rest =>
    if dumpLineMax ≤ byteLength raw then none else scanLines (d.line (trimSpace raw)) rest

def parseMetadataUUIDs (dump : String) : Except ParseErr (List String) :=
  match scanLines ⟨[],false,false,false⟩ (split '\n' dump) with
  | none => .error .tooLong
  | some parsed =>
    if !parsed.current || parsed.out.isEmpty then .error .unreadable else .ok parsed.out

structure Uuid where
  digits : String
  length : digits.length=generationUUIDDigits
  hex : isHex digits=true

def Uuid.isZero (u : Uuid) : Bool := u.digits.toList.all fun c => c= '0'

def nonZero (us : List Uuid) : List String :=
  (us.filter fun u => !u.isZero).map fun u => toUpper u.digits

structure Blank where
  text : String
  blank : ∀c∈text.toList,c= ' ' ∨ c= '\t'

structure Row where
  indent : Blank
  first : Uuid
  more : List (Blank × Uuid)

def Row.uuids (r : Row) : List Uuid := r.first::r.more.map Prod.snd

def Row.body (r : Row) : String :=
  String.join ((("0x"++r.first.digits)::r.more.map fun x => x.1.text++"0x"++x.2.digits).map
    fun l => l++";")

def Row.text (r : Row) : String := r.indent.text++r.body

def keywords : List String := [dumpKeyCurrent,"bitmap-uuid","history-uuids",dumpKeyV08]

structure Other where
  text : String
  oneLine : '\n' ∉text.toList
  plain : (cutAt ' ' (trimSpace text)).1∉keywords

inductive Line
  | other (l : Other)
  | bitmap (indent : Blank) (u : Uuid)

def Line.text : Line → String
  | .other l => l.text
  | .bitmap indent u => indent.text++"bitmap-uuid 0x"++u.digits++";"

def Line.uuids : Line → List Uuid
  | .other _ => []
  | .bitmap _ u => [u]

structure Flags where
  indent : Blank
  digits : String
  hex : isHex digits=true

def Flags.text (f : Flags) : String := f.indent.text++"flags 0x"++f.digits++";"

/-- What drbdmeta prints: in the v09 format the current UUID and the bitmap UUIDs as statements and
the history as a block; in the v08 format one block of the current UUID, the bitmap UUID and the
history, and then the flags. -/
inductive Dump
  | v09 (head : List Line) (current : Uuid) (peers : List Line) (history : List Row)
      (tail : List Line)
  | v08 (head : List Other) (lead : Row) (more : List Row) (flags : Flags) (tail : List Other)

namespace Dump

def lines : Dump → List String
  | .v09 head current peers history tail => head.map Line.text++
      ["current-uuid 0x"++current.digits++";"]++peers.map Line.text++
      ["history-uuids \x7b"]++history.map Row.text++["\x7d"]++tail.map Line.text
  | .v08 head lead more flags tail => head.map Other.text++
      ["uuid \x7b"]++(lead::more).map Row.text++[flags.text,"\x7d"]++tail.map Other.text

def current : Dump → Uuid
  | .v09 _ current _ _ _ => current
  | .v08 _ lead _ _ _ => lead.first

def uuids : Dump → List Uuid
  | .v09 head current peers history tail => head.flatMap Line.uuids++[current]++
      peers.flatMap Line.uuids++history.flatMap Row.uuids++tail.flatMap Line.uuids
  | .v08 _ lead more _ _ => (lead::more).flatMap Row.uuids

end Dump

structure WellFormed where
  dump : Dump
  fits : ∀l∈dump.lines,byteLength l < dumpLineMax

def WellFormed.text (w : WellFormed) : String := String.join (w.dump.lines.map fun l => l++"\n")

end Blockstor.Drbd.DumpMd
