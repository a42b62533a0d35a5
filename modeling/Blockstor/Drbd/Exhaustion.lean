import Blockstor.Drbd.Allocator

namespace Blockstor.Drbd

open Int32

/-- The loop of `LowestFreePort` and of `LowestFreeMinor` after some rounds: nothing while it still
runs. -/
def scanned (taken : List Int32) (low high : Int32) : Nat → Int32 → Option (Option Int32)
  | 0,_ => none
  | rounds+1,i =>
    if high < i then some none
    else if low ≤ i ∧ i ≤ high ∧ i∈taken then scanned taken low high rounds (i+1)
    else some (some i)

/-- The loop ends, with the least free value of the range or because there is none. -/
def Exact (taken : List Int32) (low high : Int32) : Prop :=
  ∃rounds r,scanned taken low high rounds low=some r ∧
    (∀v,r=some v ↔ low ≤ v ∧ v ≤ high ∧ v∉taken ∧ ∀w,low ≤ w → w < v → w∈taken) ∧
    (r=none ↔ ∀w,low ≤ w → w ≤ high → w∈taken)

variable {taken : List Int32} {low high : Int32}

theorem scanFree_eq_scanned (fuel : Nat) (i : Int32) :
    scanFree (fun i => low ≤ i ∧ i ≤ high ∧ i∈taken) high fuel i=
      (scanned taken low high fuel i).join := by
  induction fuel generalizing i with
  | zero => rfl
  | succ fuel ih =>
    simp only [scanFree,scanned,decide_eq_true_eq,ih]
    split
    · rfl
    · split <;> rfl

theorem toInt_succ {i stop : Int32} (h : i < stop) : (i+1).toInt=i.toInt+1 := by
  have hlt := lt_iff_toInt_lt.mp h
  have hmax := stop.toInt_lt
  have hmin := i.le_toInt
  rw [toInt_add]
  simp only [toInt_one]
  rw [Int.bmod_eq_of_le] <;> omega

/-- Up to a free value, or to the end of a range that is not the end of the type, the loop ends. -/
theorem scanned_ends {stop : Int32} (hstop : stop=high ∧ high≠maxValue ∨ stop ≤ high ∧ stop∉taken)
    (n : Nat) (i : Int32) (hn : stop.toInt-i.toInt=n) (hi : low ≤ i) :
    ∃rounds r,scanned taken low high rounds i=some r ∧
      (r=none → ∀w,i ≤ w → w ≤ high → w∈taken) := by
  have hle : stop ≤ high := by grind
  induction n generalizing i with
  | zero =>
    have heq : i=stop := by grind [toInt_inj]
    by_cases hmem : i∈taken
    · have hlast : high < i+1 := by grind [lt_succ_of_ne_max]
      refine ⟨2,none,by simp [scanned]; grind,fun _ w hw hwh => ?_⟩
      grind
    · exact ⟨1,some i,by simp [scanned,hmem]; grind,nofun⟩
  | succ n ih =>
    have hlt : i < stop := by grind [lt_iff_toInt_lt]
    by_cases hmem : i∈taken
    · obtain ⟨rounds,r,hr,hfull⟩ := ih (i+1) (by grind [toInt_succ hlt]) (by grind [le_iff_toInt_le,toInt_succ hlt])
      refine ⟨rounds+1,r,?_,fun h w hw hwh => ?_⟩
      · rw [scanned,if_neg (by grind),if_pos ⟨hi,by grind,hmem⟩,hr]
      · by_cases hwi : w=i
        · exact hwi ▸ hmem
        · exact hfull h w (by grind [le_iff_toInt_le,toInt_succ hlt,toInt_inj]) hwh
    · exact ⟨1,some i,by simp [scanned,hmem]; grind,nofun⟩

theorem scanned_ne_none (hmax : high=maxValue) (rounds : Nat) (i : Int32) :
    scanned taken low high rounds i≠some none := by
  induction rounds generalizing i with
  | zero => simp [scanned]
  | succ rounds ih =>
    have hle : ¬high < i := by
      have hm : maxValue=2147483647 := by decide
      grind
    rw [scanned,if_neg hle]
    split
    · exact ih _
    · simp

/-- A full range that ends with the type is never found to be full. -/
theorem not_exact_of_full (hmax : high=maxValue) (hfull : ∀w,low ≤ w → w∈taken) :
    ¬Exact taken low high := by
  rintro ⟨rounds,r,hr,_,hnone⟩
  have hr' : r=none := hnone.mpr fun w hw _ => hfull w hw
  exact scanned_ne_none hmax rounds low (hr' ▸ hr)

theorem scanned_stops (h : high=maxValue → ∃w,low ≤ w ∧ w∉taken) :
    ∃rounds r,scanned taken low high rounds low=some r ∧
      (r=none → ∀w,low ≤ w → w ≤ high → w∈taken) := by
  have hm : maxValue=2147483647 := by decide
  by_cases hlow : low ≤ high
  · by_cases hfree : ∃w,low ≤ w ∧ w ≤ high ∧ w∉taken
    · obtain ⟨w,hw,hwh,hmem⟩ := hfree
      have hle := le_iff_toInt_le.mp hw
      exact scanned_ends (.inr ⟨hwh,hmem⟩) (w.toInt-low.toInt).toNat low (by omega) (by grind)
    · have hle := le_iff_toInt_le.mp hlow
      refine scanned_ends (.inl ⟨rfl,fun hmax => ?_⟩) (high.toInt-low.toInt).toNat low (by omega) (by grind)
      obtain ⟨w,hw,hmem⟩ := h hmax
      exact hfree ⟨w,hw,by grind,hmem⟩
  · exact ⟨1,none,by simp [scanned]; grind,by grind⟩

/-- The allocator is exact unless the range ends with the type and is full. -/
theorem lowestFree_exact_iff (taken : List Int32) (low high : Int32) :
    Exact taken low high ↔ (high=maxValue → ∃w,low ≤ w ∧ w∉taken) := by
  constructor
  · intro h hmax
    by_contra hfull
    exact not_exact_of_full hmax (by grind) h
  · intro h
    obtain ⟨rounds,r,hr,hnone⟩ := scanned_stops h
    refine ⟨rounds,r,hr,?_⟩
    cases r with
    | none => grind
    | some v =>
      have hv : scanFree (fun i => low ≤ i ∧ i ≤ high ∧ i∈taken) high rounds low=some v := by
        rw [scanFree_eq_scanned,hr]
        rfl
      have hpick := scanFree_picked taken low high rounds low v (by grind) (by grind) hv
      have hleast : low ≤ v ∧ v ≤ high ∧ v∉taken ∧ ∀w,low ≤ w → w < v → w∈taken := by
        rcases hpick with hpick|⟨hmax,_,_,hfull⟩
        · exact hpick
        · obtain ⟨w,hw,hmem⟩ := h hmax
          exact absurd (hfull w hw) hmem
      grind

/-- With its only port taken, the range of the last port has the first value of the type to give. -/
theorem last_port_not_exact : ¬Exact [maxValue] maxValue maxValue ∧
    lowestFreePort [maxValue] maxValue maxValue=some minValue := by
  refine ⟨not_exact_of_full rfl fun w hw => ?_,?_⟩
  · have hm : maxValue=2147483647 := by decide
    grind
  · rfl

end Blockstor.Drbd
