import Mathlib

namespace Blockstor.Framework.Text

open String List

def digit? (c : Char) : Option Nat :=
  if '0' ≤ c ∧ c ≤ '9' then some (c.toNat - '0'.toNat) else none

def digits? : Nat → List Char → Option Nat
  | n,[] => some n
  | n,c::cs => (digit? c).bind fun d => digits? (10*n+d) cs

def parseNat (cs : List Char) : Option Nat :=
  if cs.isEmpty then none else digits? 0 cs

def parseSigned : List Char → Option Int
  | '-'::cs => (parseNat cs).map fun n => -(n : Int)
  | '+'::cs => (parseNat cs).map fun n => (n : Int)
  | cs => (parseNat cs).map fun n => (n : Int)

variable (s : String)

/-- `strconv.ParseInt(s,10,32)`, `none` for a syntax or a range error. -/
def parseInt32 : Option Int :=
  (parseSigned s.toList).filter fun n => -2^31 ≤ n ∧ n < 2^31

/-- `strconv.ParseInt(s,10,64)`. -/
def parseInt64 : Option Int :=
  (parseSigned s.toList).filter fun n => -2^63 ≤ n ∧ n < 2^63

section Decimal

theorem digit?_of_isDigit {c : Char} (h : c.isDigit=true) :
    digit? c=some (c.toNat - '0'.toNat) := by
  have hrange : '0' ≤ c ∧ c ≤ '9' := by
    have hval : 48 ≤ c.val ∧ c.val ≤ 57 := by simpa [Char.isDigit] using h
    exact hval
  rw [digit?,if_pos hrange]

/-- A row of digits reads as the number it spells. -/
theorem digits?_eq_ofDigitChars {cs : List Char} (n : Nat) (h : ∀c∈cs,c.isDigit=true) :
    digits? n cs=some (Nat.ofDigitChars 10 cs n) := by
  induction cs generalizing n with
  | nil => rfl
  | cons c cs ih =>
    rw [digits?,digit?_of_isDigit (h c mem_cons_self)]
    exact ih _ fun d hd => h d (mem_cons_of_mem c hd)

theorem parseSigned_of_isDigit {cs : List Char} (hcs : cs≠[]) (h : ∀c∈cs,c.isDigit=true) :
    parseSigned cs=some (Int.ofNat (Nat.ofDigitChars 10 cs 0)) := by
  have hnat : parseNat cs=some (Nat.ofDigitChars 10 cs 0) := by
    rw [parseNat,if_neg (by simpa using hcs),digits?_eq_ofDigitChars 0 h]
  unfold parseSigned
  split
  · exact absurd (h _ mem_cons_self) (by decide)
  · exact absurd (h _ mem_cons_self) (by decide)
  · rw [hnat]
    rfl

theorem ofDigitChars_zeros (k : Nat) (cs : List Char) :
    Nat.ofDigitChars 10 (List.replicate k '0'++cs) 0=Nat.ofDigitChars 10 cs 0 := by
  induction k with
  | zero => rfl
  | succ k ih => exact ih

/-- `strconv.FormatInt(n,10)`. -/
def formatInt (n : Int) : String := toString n

theorem parseNat_toDigits (n : Nat) : parseNat (Nat.toDigits 10 n)=some n := by
  have hne : (Nat.toDigits 10 n).isEmpty=false := by simp
  rw [parseNat,hne,if_neg Bool.false_ne_true,digits?_eq_ofDigitChars 0 fun c hc =>
    Nat.isDigit_of_mem_toDigits (by decide) (by decide) hc,
    Nat.ofDigitChars_toDigits (by decide) (by decide)]

/-- A number reads back as itself. -/
theorem parseSigned_formatInt (n : Int) : parseSigned (formatInt n).toList=some n := by
  cases n with
  | ofNat n =>
    have htext : (formatInt (Int.ofNat n)).toList=Nat.toDigits 10 n := by
      change (toString n).toList=_
      rw [Nat.toString_eq_ofList_toDigits,toList_ofList]
    rw [htext,parseSigned_of_isDigit (by simp) fun c hc =>
      Nat.isDigit_of_mem_toDigits (by decide) (by decide) hc,
      Nat.ofDigitChars_toDigits (by decide) (by decide)]
  | negSucc n =>
    have htext : (formatInt (Int.negSucc n)).toList= '-'::Nat.toDigits 10 (n+1) := by
      change ("-"++toString (n+1)).toList=_
      simp only [toList_append,Nat.toString_eq_ofList_toDigits,toList_ofList]
      rfl
    rw [htext,parseSigned,parseNat_toDigits]
    rfl

/-- A number that is not negative is a row of digits. -/
theorem isDigit_of_mem_formatInt {n : Int} (h : 0 ≤ n) {c : Char} (hc : c∈(formatInt n).toList) :
    c.isDigit=true := by
  obtain ⟨n,rfl⟩ := Int.eq_ofNat_of_zero_le h
  change c∈(toString n).toList at hc
  rw [Nat.toString_eq_ofList_toDigits,toList_ofList] at hc
  exact Nat.isDigit_of_mem_toDigits (by decide) (by decide) hc

/-- A number is written in digits and at most a sign. -/
theorem mem_formatInt {n : Int} {c : Char} (hc : c∈(formatInt n).toList) :
    c.isDigit=true ∨ c= '-' := by
  cases n with
  | ofNat n => exact .inl (isDigit_of_mem_formatInt (Int.natCast_nonneg n) hc)
  | negSucc n =>
    change c∈("-"++toString (n+1)).toList at hc
    rw [toList_append,mem_append] at hc
    rcases hc with hc|hc
    · exact .inr (mem_singleton.mp hc)
    · exact .inl (isDigit_of_mem_formatInt (Int.natCast_nonneg (n+1)) hc)

theorem formatInt_ne_empty (n : Int) : formatInt n≠"" := by
  intro h
  have hparse := parseSigned_formatInt n
  rw [h] at hparse
  cases hparse

theorem parseInt32_formatInt {n : Int} (h : -2^31 ≤ n ∧ n < 2^31) :
    parseInt32 (formatInt n)=some n := by
  rw [parseInt32,parseSigned_formatInt]
  exact Option.filter_eq_some_iff.mpr ⟨rfl,by simpa using h⟩

theorem parseInt64_formatInt {n : Int} (h : -2^63 ≤ n ∧ n < 2^63) :
    parseInt64 (formatInt n)=some n := by
  rw [parseInt64,parseSigned_formatInt]
  exact Option.filter_eq_some_iff.mpr ⟨rfl,by simpa using h⟩

end Decimal

/-- `strings.CutPrefix`. -/
def cutPrefix (start s : String) : Option String :=
  if start.toList.isPrefixOf s.toList then some (ofList (s.toList.drop start.toList.length))
  else none

theorem cutPrefix_eq_some {start s rest : String} :
    cutPrefix start s=some rest ↔ s=start++rest := by
  unfold cutPrefix
  constructor
  · intro h
    split at h
    · rename_i hstart
      obtain ⟨t,ht⟩ := isPrefixOf_iff_prefix.mp hstart
      cases h
      rw [← toList_inj,toList_append,toList_ofList,← ht,drop_left]
    · cases h
  · rintro rfl
    rw [toList_append,if_pos ( isPrefixOf_iff_prefix.mpr (prefix_append _ _)),
      drop_left,ofList_toList]

/-- `strings.Cut` at a one-character separator. -/
def cutList (sep : Char) : List Char → Option (List Char × List Char)
  | [] => none
  | c::cs => if c=sep then some ([],cs) else (cutList sep cs).map fun x => (c::x.1,x.2)

def cut (sep : Char) (s : String) : Option (String × String) :=
  (cutList sep s.toList).map fun x => (ofList x.1,ofList x.2)

theorem cutList_append {sep : Char} {front : List Char} (rest : List Char) (h : sep∉front) :
    cutList sep (front++sep::rest)=some (front,rest) := by
  induction front with
  | nil => simp [cutList]
  | cons c front ih =>
    have hc : c≠sep := fun he => h (he ▸ mem_cons_self)
    rw [cons_append,cutList,if_neg hc,ih fun hs => h (mem_cons_of_mem c hs)]
    rfl

/-- The text around the last separator, as `strings.LastIndex` finds it. -/
def cutLast (sep : Char) (s : String) : Option (String × String) :=
  (cutList sep s.toList.reverse).map fun x =>
    (ofList x.2.reverse,ofList x.1.reverse)

theorem cutLast_append {sep : Char} (front : String) {back : String} (h : sep∉back.toList) :
    cutLast sep (front++singleton sep++back)=some (front,back) := by
  have hrev : (front++singleton sep++back).toList.reverse=
      back.toList.reverse++sep::front.toList.reverse := by simp
  rw [cutLast,hrev,cutList_append _ (by simpa using h)]
  simp

def splitList (sep : Char) : List Char → List (List Char)
  | [] => [[]]
  | c::cs =>
    if c=sep then []::splitList sep cs
    else
      match splitList sep cs with
      | [] => [[c]]
      | part::parts => (c::part)::parts

/-- `strings.Split` at a one-character separator. -/
def split (sep : Char) (s : String) : List String := (splitList sep s.toList).map ofList

theorem mem_splitList {sep c : Char} {cs : List Char} (h : c∈cs) :
    c=sep ∨ ∃part∈splitList sep cs,c∈part := by
  induction cs with
  | nil => cases h
  | cons d cs ih =>
    unfold splitList
    split
    · rename_i hd
      rcases mem_cons.mp h with rfl|h
      · exact .inl hd
      · rcases ih h with hc|⟨part,hpart,hc⟩
        · exact .inl hc
        · exact .inr ⟨part,.tail _ hpart,hc⟩
    · rcases mem_cons.mp h with rfl|h
      · right
        split
        · exact ⟨_,.head _,.head _⟩
        · exact ⟨_,.head _,.head _⟩
      · rcases ih h with hc|⟨part,hpart,hc⟩
        · exact .inl hc
        · right
          split
          · rename_i hnil
            rw [hnil] at hpart
            cases hpart
          · rename_i first rest hcons
            rw [hcons] at hpart
            rcases mem_cons.mp hpart with rfl|hpart
            · exact ⟨_,.head _,.tail _ hc⟩
            · exact ⟨part,.tail _ hpart,hc⟩

theorem splitList_append {sep : Char} {front : List Char} (rest : List Char) (h : sep∉front) :
    splitList sep (front++sep::rest)=front::splitList sep rest := by
  induction front with
  | nil => rw [nil_append,splitList,if_pos rfl]
  | cons c front ih =>
    obtain ⟨hne,hrest⟩ := not_or.mp (mem_cons.not.mp h)
    rw [cons_append,splitList,if_neg fun hc => hne hc.symm,ih hrest]

theorem splitList_of_notMem {sep : Char} {cs : List Char} (h : sep∉cs) : splitList sep cs=[cs] := by
  induction cs with
  | nil => rfl
  | cons c cs ih =>
    obtain ⟨hne,hrest⟩ := not_or.mp (mem_cons.not.mp h)
    rw [splitList,if_neg fun hc => hne hc.symm,ih hrest]

/-- Parts without the separator are found again. -/
theorem splitList_intercalate {sep : Char} {parts : List (List Char)} (hne : parts≠[])
    (h : ∀part∈parts,sep∉part) : splitList sep ([sep].intercalate parts)=parts := by
  induction parts with
  | nil => exact absurd rfl hne
  | cons part parts ih =>
    cases parts with
    | nil => rw [List.intercalate_singleton,splitList_of_notMem (h part (.head _))]
    | cons next parts =>
      have hrest := ih (cons_ne_nil _ _) fun p hp => h p (.tail _ hp)
      rw [List.intercalate_cons_cons,List.append_assoc,List.singleton_append,
        splitList_append _ (h part (.head _)),hrest]

/-- The white space of `unicode.IsSpace`. -/
def isSpace (c : Char) : Bool :=
  let n := c.toNat
  (9 ≤ n ∧ n ≤ 13) ∨ n=0x20 ∨ n=0x85 ∨ n=0xA0 ∨ n=0x1680 ∨ (0x2000 ≤ n ∧ n ≤ 0x200A) ∨
    n=0x2028 ∨ n=0x2029 ∨ n=0x202F ∨ n=0x205F ∨ n=0x3000

def trimSpace : String :=
  ofList ((s.toList.dropWhile isSpace).reverse.dropWhile isSpace).reverse

theorem trimSpace_of_none {s : String} (h : ∀c∈s.toList,isSpace c=false) : trimSpace s=s := by
  have hdrop : ∀cs : List Char,(∀c∈cs,isSpace c=false) → cs.dropWhile isSpace=cs := by
    intro cs hcs
    cases cs with
    | nil => rfl
    | cons c cs => rw [dropWhile_cons_of_neg (by simp [hcs c mem_cons_self])]
  rw [trimSpace,hdrop _ h,hdrop _ fun c hc => h c (mem_reverse.mp hc),reverse_reverse,
    ofList_toList]

/-- Only the ends of a text are trimmed. -/
theorem trimSpace_of_ends {s : String} {c d : Char} {cs ds : List Char} (hhead : s.toList=c::cs)
    (hlast : s.toList=ds++[d]) (hc : isSpace c=false) (hd : isSpace d=false) : trimSpace s=s := by
  have hleft : s.toList.dropWhile isSpace=s.toList := by
    rw [hhead,dropWhile_cons_of_neg (by simp [hc])]
  have hright : s.toList.reverse.dropWhile isSpace=s.toList.reverse := by
    rw [hlast,reverse_append,reverse_singleton,singleton_append,
      dropWhile_cons_of_neg (by simp [hd])]
  rw [trimSpace,hleft,hright,reverse_reverse,ofList_toList]

theorem not_isSpace_of_isDigit {c : Char} (h : c.isDigit=true) : isSpace c=false := by
  have hval : 48 ≤ c.val ∧ c.val ≤ 57 := by simpa [Char.isDigit] using h
  have hlow : 48 ≤ c.toNat := hval.1
  have hhigh : c.toNat ≤ 57 := hval.2
  unfold isSpace
  simp only [decide_eq_false_iff_not]
  omega

/-- `strings.ToUpper`, exact for ASCII. -/
def toUpper (s : String) : String := ofList (s.toList.map Char.toUpper)

def byteLength : Nat := (s.toList.map Char.utf8Size).sum

theorem byteLength_le : byteLength s ≤ 4*s.length := by
  have hlist (cs : List Char) : (cs.map Char.utf8Size).sum ≤ 4*cs.length := by
    induction cs with
    | nil => exact Nat.le_refl _
    | cons c cs ih =>
      rw [map_cons,sum_cons,length_cons]
      have hc := c.utf8Size_le_four
      omega
  exact hlist s.toList

/-- Representative of a character's simple-folding class. It is exact for every class that has
an ASCII member: `K` and `S` are the two letters with a further member beyond ASCII. -/
def foldChar (c : Char) : Char :=
  if c.toNat=0x212A then 'k' else if c.toNat=0x17F then 's' else c.toLower

/-- `strings.EqualFold`, for two strings one of which is ASCII. -/
def equalFold (t : String) : Bool := s.toList.map foldChar=t.toList.map foldChar

def fold : List Char := s.toList.map foldChar

theorem equalFold_iff (t : String) : equalFold s t=true ↔ fold s=fold t := by
  simp [equalFold,fold]

theorem fold_append (t : String) : fold (s++t)=fold s++fold t := by
  simp [fold]

theorem equalFold_refl : equalFold s s=true := by
  simp [equalFold]

theorem equalFold_length {s t : String} (h : equalFold s t=true) : s.length=t.length := by
  have hm := congrArg List.length (of_decide_eq_true h)
  simpa [length_toList] using hm

def upperHexDigit (n : Nat) : Char :=
  if n<10 then Char.ofNat ('0'.toNat+n) else Char.ofNat ('A'.toNat+(n-10))

def upperHex (bs : List UInt8) : String :=
  ofList (bs.flatMap fun b => [upperHexDigit (b.toNat/16),upperHexDigit (b.toNat%16)])

theorem upperHex_length (bs : List UInt8) : (upperHex bs).length=2*bs.length := by
  induction bs with
  | nil => rfl
  | cons b bs ih =>
    simp only [upperHex,length_ofList,length_flatMap,length_cons] at ih ⊢
    simp at ih ⊢
    omega

example : parseInt32 "-17"=some (-17) ∧ parseInt32 "2147483648"=none ∧ parseInt32 "1_0"=none := by
  decide

end Blockstor.Framework.Text
