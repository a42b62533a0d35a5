import Blockstor.Framework.Sha256
import Blockstor.Framework.Text

namespace Blockstor.Drbd

open Framework

inductive GIError
  | upToDateNoCurrent
  | upToDateNotConsistent
  deriving DecidableEq

def GIError.message : GIError → String
  | .upToDateNoCurrent => "invalid GI seed: up-to-date set with empty current-UUID"
  | .upToDateNotConsistent => "invalid GI seed: up-to-date set without consistent"

/-- The generation-identifier tuple `drbdmeta set-gi` writes into one peer slot. -/
@[ext] structure GISeed where
  current : String := ""
  bitmapBase : String := ""
  consistent : Bool := false
  upToDate : Bool := false
  wasUpToDate : Bool := false
  deriving DecidableEq

namespace GISeed

def validate (s : GISeed) : Except GIError Unit :=
  if s.upToDate ∧ s.current="" then .error .upToDateNoCurrent
  else if s.upToDate ∧ ¬s.consistent then .error .upToDateNotConsistent
  else if s.wasUpToDate ∧ s.current="" then .error .upToDateNoCurrent
  else .ok ()

def string (s : GISeed) : String :=
  let current := if s.current="" then "0" else s.current
  let base := if s.bitmapBase="" then "0" else s.bitmapBase
  let giStr := current++":"++base++":0:0"
  if s.upToDate then giStr++":1:1"
  else if s.consistent then giStr++":1"
  else if s.wasUpToDate then giStr++":0:1"
  else giStr

theorem validate_ok {s : GISeed} (hc : s.current≠"") (hu : s.upToDate=true → s.consistent=true) :
    s.validate=.ok () := by
  unfold validate
  have h1 : ¬(s.upToDate=true ∧ s.current="") := fun h => hc h.2
  have h2 : ¬(s.upToDate=true ∧ ¬s.consistent=true) := fun h => h.2 (hu h.1)
  have h3 : ¬(s.wasUpToDate=true ∧ s.current="") := fun h => hc h.2
  rw [if_neg h1,if_neg h2,if_neg h3]

end GISeed

def evenGeneration (bs : List UInt8) : List UInt8 := bs.modify 7 fun b => b&&&0xFE

variable (resourceName : String) (volumeNumber : Int)

def day0GIFor : String :=
  let h := Sha256.sum256
    ("blockstor-day0:"++resourceName++"/"++toString volumeNumber).toUTF8.data.toList
  Text.upperHex ((evenGeneration h).take 8)

theorem day0GIFor_length : (day0GIFor resourceName volumeNumber).length=16 := by
  simp [day0GIFor,Text.upperHex_length,evenGeneration,Sha256.sum256_length]

theorem day0GIFor_ne_empty : day0GIFor resourceName volumeNumber≠"" := by
  intro h
  have hl := day0GIFor_length resourceName volumeNumber
  rw [h] at hl
  simp at hl

def trimHexPrefix : List Char → List Char
  | '0' :: 'x' :: '0' :: 'X' :: cs => cs
  | '0' :: 'x' :: cs => cs
  | '0' :: 'X' :: cs => cs
  | cs => cs

/-- Digits of an identifier with the primary bit cleared; a last character that is no hexadecimal
digit stays. -/
def clearPrimaryBit (uuid : String) : List Char :=
  let cs := (trimHexPrefix uuid.toList).map Char.toUpper
  match cs.getLast? with
  | none => []
  | some last =>
    let hex := "0123456789ABCDEF".toList
    let idx := hex.idxOf last
    if idx<16 then cs.dropLast++[hex.getD (idx-idx%2) '0'] else cs

def sameGeneration (a b : String) : Bool :=
  (clearPrimaryBit a).map Text.foldChar=(clearPrimaryBit b).map Text.foldChar

example : sameGeneration "0x0645F42071DB0459" "0645f42071db0458"=true := by
  decide

set_option maxRecDepth 4000 in
example : day0GIFor "pvc-1" 0="0645F42071DB0458" := by
  decide +kernel

end Blockstor.Drbd
