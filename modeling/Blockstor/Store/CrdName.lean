import Blockstor.Framework.Sha256
import Blockstor.Framework.Text

namespace Blockstor.Store.K8s

open Framework String List

/-- `strings.ToLower`. It is exact where the lower case is ASCII; what any other character becomes
is allowed in a name as little as the character itself. -/
def lowerRune (c : Char) : Char :=
  if c.toNat=0x212A then 'k' else if c.toNat=0x130 then 'i' else c.toLower

def maxK8sName : Nat := 253

def hashPrefixBytes : Nat := 4

def alphanumeric (c : Char) : Bool := decide ('a' ≤ c ∧ c ≤ 'z' ∨ '0' ≤ c ∧ c ≤ '9')

variable (cs : List Char) (objectName : String)

def label : Bool :=
  cs.head?.any alphanumeric && cs.getLast?.any alphanumeric &&
    cs.all fun c => alphanumeric c || decide (c= '-')

def rfc1123 : Bool := (Text.splitList '.' cs).all label

/-- Runs of characters that are not allowed become one dash; `prevDash` is set after one. -/
def dashed : Bool → List Char → List Char
  | _,[] => []
  | prevDash,c::cs =>
    if alphanumeric c then c::dashed false cs
    else if prevDash then dashed true cs
    else '-'::dashed true cs

def trimDashes : List Char :=
  ((cs.dropWhile fun c => c= '-').reverse.dropWhile fun c => c= '-').reverse

def lowerHex (bs : List UInt8) : List Char := (Text.upperHex bs).toList.map Char.toLower

/-- The name an object is stored under. A name that is one up to case is lowercased, any other is
spelled out as far as possible behind a part of its hash. -/
def name (s : String) : String :=
  let lower := s.toList.map lowerRune
  if lower≠[] ∧ lower.length ≤ maxK8sName ∧ rfc1123 lower=true then ofList lower
  else
    let slug := trimDashes (dashed true lower)
    let digest := Sha256.sum256 s.toUTF8.data.toList
    ofList ((lowerHex (digest.take hashPrefixBytes)++ '-'::slug).take maxK8sName)

theorem lowerRune_alphanumeric {c : Char} (h : alphanumeric c=true) : lowerRune c=c := by
  have hrange : 48 ≤ c.toNat ∧ c.toNat ≤ 57 ∨ 97 ≤ c.toNat ∧ c.toNat ≤ 122 := by
    rcases of_decide_eq_true h with ⟨h₁,h₂⟩|⟨h₁,h₂⟩
    · exact .inr ⟨h₁,h₂⟩
    · exact .inl ⟨h₁,h₂⟩
  unfold lowerRune
  rw [if_neg (by omega),if_neg (by omega)]
  unfold Char.toLower
  rw [dif_neg]
  intro hupper
  have h₁ : 65 ≤ c.toNat := hupper.1
  have h₂ : c.toNat ≤ 90 := hupper.2
  omega

theorem rfc1123_mem {cs : List Char} (h : rfc1123 cs=true) {c : Char} (hc : c∈cs) :
    c= '.' ∨ c= '-' ∨ alphanumeric c=true := by
  rcases Text.mem_splitList hc with hdot|⟨part,hpart,hc⟩
  · exact .inl hdot
  · right
    have hlabel := all_eq_true.mp h part hpart
    obtain ⟨_,hall⟩ := (Bool.and_eq_true _ _).mp hlabel
    have := all_eq_true.mp hall c hc
    simp only [Bool.or_eq_true,decide_eq_true_eq] at this
    exact this.symm

theorem dashed_mem {prev : Bool} {cs : List Char} {c : Char} (h : c∈dashed prev cs) :
    alphanumeric c=true ∨ c= '-' := by
  induction cs generalizing prev with
  | nil => cases h
  | cons d cs ih =>
    unfold dashed at h
    split at h
    · rename_i hd
      rcases mem_cons.mp h with rfl|h
      · exact .inl hd
      · exact ih h
    · split at h
      · exact ih h
      · rcases mem_cons.mp h with rfl|h
        · exact .inr rfl
        · exact ih h

theorem trimDashes_mem {cs : List Char} {c : Char} (h : c∈trimDashes cs) : c∈cs := by
  unfold trimDashes at h
  have h := (dropWhile_sublist _).mem (mem_reverse.mp h)
  exact (dropWhile_sublist _).mem (mem_reverse.mp h)

theorem lowerHex_mem {bs : List UInt8} {c : Char} (h : c∈lowerHex bs) : alphanumeric c=true := by
  have hdigit : ∀n<16,alphanumeric (Text.upperHexDigit n).toLower=true := by decide
  obtain ⟨d,hd,rfl⟩ := mem_map.mp h
  unfold Text.upperHex at hd
  rw [toList_ofList] at hd
  obtain ⟨b,_,hd⟩ := mem_flatMap.mp hd
  have hb := b.toNat_lt
  rcases mem_cons.mp hd with rfl|hd
  · exact hdigit _ (by omega)
  · obtain rfl := mem_singleton.mp hd
    exact hdigit _ (by omega)

theorem name_cases (s : String) :
    (s.toList.map lowerRune≠[] ∧ (s.toList.map lowerRune).length ≤ maxK8sName ∧
      rfc1123 (s.toList.map lowerRune)=true) ∧ name s=ofList (s.toList.map lowerRune) ∨
    ¬(s.toList.map lowerRune≠[] ∧ (s.toList.map lowerRune).length ≤ maxK8sName ∧
      rfc1123 (s.toList.map lowerRune)=true) ∧ '.'∉(name s).toList := by
  unfold name
  dsimp only
  split
  · rename_i hvalid
    exact .inl ⟨hvalid,rfl⟩
  · rename_i hvalid
    refine .inr ⟨hvalid,fun h => ?_⟩
    rw [toList_ofList] at h
    rcases mem_append.mp (mem_of_mem_take h) with h|h
    · exact absurd (lowerHex_mem h) (by decide)
    · rcases mem_cons.mp h with h|h
      · exact absurd h (by decide)
      · exact absurd (dashed_mem (trimDashes_mem h)) (by decide)

theorem name_of_dot {s : String} (h : '.'∈(name s).toList) : name (name s)=name s := by
  rcases name_cases s with ⟨hvalid,hname⟩|⟨_,hdot⟩
  · have hfix : (s.toList.map lowerRune).map lowerRune=s.toList.map lowerRune := by
      refine (map_congr_left fun c hc => ?_).trans (map_id _)
      rcases rfc1123_mem hvalid.2.2 hc with rfl|rfl|hc
      · rfl
      · rfl
      · exact lowerRune_alphanumeric hc
    rw [hname]
    unfold name
    dsimp only
    rw [toList_ofList,hfix,if_pos hvalid]
  · exact absurd h hdot

def originalName (linstorName : Option String) : String :=
  linstorName.getD objectName

def setOriginalName (original : String) : Option String :=
  if objectName=original then none else some original

theorem originalName_setOriginalName (original : String) :
    originalName objectName (setOriginalName objectName original)=original := by
  unfold setOriginalName
  split
  · assumption
  · rfl

example : name "DfltRscGrp"="dfltrscgrp" ∧ name "a.b-1"="a.b-1" := by decide

end Blockstor.Store.K8s
