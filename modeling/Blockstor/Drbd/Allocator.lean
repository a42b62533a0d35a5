import Blockstor.Framework.Text

namespace Blockstor.Drbd

open Framework

def maxPeers : Nat := 16

def lowestFreeNodeID (taken : List Int32) : Option Int32 :=
  ((List.range maxPeers).map Int32.ofNat).find? fun i => i∉taken

theorem mem_nodeIDs (i : Int32) : i∈(List.range maxPeers).map Int32.ofNat ↔ 0 ≤ i ∧ i < 16 := by
  constructor
  · intro h
    have hall : ((List.range maxPeers).map Int32.ofNat).all (fun i => 0 ≤ i ∧ i < 16)=true := by
      decide
    exact of_decide_eq_true (List.all_eq_true.mp hall i h)
  · intro h
    have hle := Int32.le_iff_toInt_le.mp h.1
    have hlt := Int32.lt_iff_toInt_lt.mp h.2
    rw [Int32.toInt_zero] at hle
    have h16 : Int32.toInt 16=16 := by decide
    rw [h16] at hlt
    refine List.mem_map.mpr ⟨i.toInt.toNat,by rw [List.mem_range,maxPeers]; omega,?_⟩
    rw [← Int32.toInt_inj,← Int32.ofInt_eq_ofNat,Int32.toInt_ofInt_of_le (by omega) (by omega)]
    omega

theorem lowestFreeNodeID_some {taken : List Int32} {i : Int32}
    (h : lowestFreeNodeID taken=some i) : 0 ≤ i ∧ i < 16 ∧ i∉taken := by
  obtain ⟨hle,hlt⟩ := (mem_nodeIDs i).mp (List.mem_of_find?_eq_some h)
  exact ⟨hle,hlt,by simpa using List.find?_some h⟩

theorem lowestFreeNodeID_none {taken : List Int32} :
    lowestFreeNodeID taken=none ↔ ∀i : Int32,0 ≤ i → i < 16 → i∈taken := by
  rw [lowestFreeNodeID,List.find?_eq_none]
  simp only [decide_eq_true_eq,not_not]
  constructor
  · intro h i hle hlt
    exact h i ((mem_nodeIDs i).mpr ⟨hle,hlt⟩)
  · intro h i hi
    obtain ⟨hle,hlt⟩ := (mem_nodeIDs i).mp hi
    exact h i hle hlt

def defaultPortMin : Int32 := 20000

def defaultPortMax : Int32 := 20999

def defaultMinorMin : Int32 := 20000

def defaultMinorMax : Int32 := 65535

inductive RangeErr
  | noSeparator (s : String)
  | low (s : String)
  | high (s : String)
  | order (s : String) (low high : Int)
  deriving DecidableEq

/-- `min-max`, both decimal and inside 32 bits. -/
def parseRange (s : String) : Except RangeErr (Int32 × Int32) :=
  match Text.cut '-' s with
  | none => .error (.noSeparator s)
  | some (l,h) =>
    match Text.parseInt32 (Text.trimSpace l) with
    | none => .error (.low s)
    | some low =>
      match Text.parseInt32 (Text.trimSpace h) with
      | none => .error (.high s)
      | some high =>
        if low>high then .error (.order s low high)
        else .ok (Int32.ofInt low,Int32.ofInt high)

example : parseRange "7000 - 7999"=.ok (7000,7999) ∧ parseRange "-1-5"=.error (.low "-1-5") := by
  decide

/-- `for i := low; i <= high; i++` over 32 bits: the increment wraps. The fuel covers every value
once, so running out of it stands for a loop that never ends. -/
def scanFree (used : Int32 → Bool) (high : Int32) : Nat → Int32 → Option Int32
  | 0,_ => none
  | fuel+1,i =>
    if high < i then none
    else if used i then scanFree used high fuel (i+1)
    else some i

def lowestFree (taken : List Int32) (low high : Int32) : Option Int32 :=
  scanFree (fun i => low ≤ i ∧ i ≤ high ∧ i∈taken) high (2^32) low

def lowestFreePort (taken : List Int32) (low high : Int32) : Option Int32 :=
  lowestFree taken low high

def lowestFreeMinor (taken : List Int32) (low high : Int32) : Option Int32 :=
  lowestFree taken low high

/-- What the scan may hand out: the lowest free value of the range or, when the range is full and
reaches the last value of the type, the first value of the type. -/
def Picked (taken : List Int32) (low high v : Int32) : Prop :=
  (low ≤ v ∧ v ≤ high ∧ v∉taken ∧ ∀w,low ≤ w → w<v → w∈taken) ∨
  (high=Int32.maxValue ∧ v=Int32.minValue ∧ v<low ∧ ∀w,low ≤ w → w∈taken)

theorem scanFree_all_used (used : Int32 → Bool) (high : Int32) (h : ∀i,used i=true) (fuel : Nat)
    (i : Int32) : scanFree used high fuel i=none := by
  induction fuel generalizing i with
  | zero => rfl
  | succ fuel ih => simp [scanFree,h,ih]

theorem lt_succ_of_ne_max (i : Int32) (h : i≠Int32.maxValue) : i < i+1 := by
  have hmax : Int32.maxValue=2147483647 := by decide
  grind

variable (taken : List Int32) (low high : Int32)

theorem scanFree_wrapped (hfull : ∀w,low ≤ w → w∈taken) (hhigh : high=Int32.maxValue) (fuel : Nat)
    (v : Int32) (h : scanFree (fun i => low ≤ i ∧ i ≤ high ∧ i∈taken) high fuel Int32.minValue=some v) :
    v=Int32.minValue ∧ v<low := by
  have hle (i : Int32) : Int32.minValue ≤ i ∧ i ≤ high := by
    have hmax : Int32.maxValue=2147483647 := by decide
    have hmin : Int32.minValue=-2147483648 := by decide
    grind
  by_cases hlow : low=Int32.minValue
  · have hused (i : Int32) : decide (low ≤ i ∧ i ≤ high ∧ i∈taken)=true := by
      have hi : low ≤ i := hlow ▸ (hle i).1
      exact decide_eq_true ⟨hi,(hle i).2,hfull i hi⟩
    rw [scanFree_all_used _ _ hused] at h
    cases h
  · have hlt : Int32.minValue<low := by
      have := (hle low).1
      grind
    cases fuel with
    | zero => cases h
    | succ fuel =>
      have hfree : ¬low ≤ Int32.minValue := by grind
      have hin : ¬high<Int32.minValue := by
        have := (hle high).1
        grind
      simp only [scanFree,hin,if_false,hfree,false_and,decide_false,Bool.false_eq_true,
        Option.some.injEq] at h
      exact ⟨h.symm,h ▸ hlt⟩

theorem scanFree_picked (fuel : Nat) (i v : Int32) (hi : low ≤ i)
    (hbelow : ∀w,low ≤ w → w < i → w∈taken)
    (h : scanFree (fun i => low ≤ i ∧ i ≤ high ∧ i∈taken) high fuel i=some v) :
    Picked taken low high v := by
  induction fuel generalizing i with
  | zero => cases h
  | succ fuel ih =>
    simp only [scanFree] at h
    split at h
    · cases h
    rename_i hhigh
    have hle : i ≤ high := by grind
    split at h
    · rename_i hused
      have hmem : i∈taken := (of_decide_eq_true hused).2.2
      by_cases hmax : i=Int32.maxValue
      · have hm : Int32.maxValue=2147483647 := by decide
        have hfull (w : Int32) (hw : low ≤ w) : w∈taken := by
          by_cases hwi : w=i
          · exact hwi ▸ hmem
          · exact hbelow w hw (by grind)
        have hh : high=Int32.maxValue := by grind
        have hwrap : i+1=Int32.minValue := hmax ▸ (by decide)
        rw [hwrap] at h
        obtain ⟨hv,hlt⟩ := scanFree_wrapped taken low high hfull hh fuel v h
        exact .inr ⟨hh,hv,hlt,hfull⟩
      · have hsucc := lt_succ_of_ne_max i hmax
        refine ih (i+1) (by grind) (fun w hw hlt => ?_) h
        by_cases hwi : w=i
        · exact hwi ▸ hmem
        · exact hbelow w hw (by grind)
    · rename_i hfree
      cases h
      refine .inl ⟨hi,hle,fun hmem => hfree (decide_eq_true ⟨hi,hle,hmem⟩),hbelow⟩

theorem lowestFree_picked (v : Int32) (h : lowestFree taken low high=some v) :
    Picked taken low high v :=
  scanFree_picked taken low high _ low v (by grind) (fun w hw hlt => by grind) h

end Blockstor.Drbd
