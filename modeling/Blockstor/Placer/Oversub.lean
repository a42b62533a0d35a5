import Blockstor.Placer.Candidates

namespace Blockstor.Oversub

open Placer

structure Pool where
  providerKind : String
  freeCapacity : Int64
  totalCapacity : Int64
  props : Props

def maxInt64 : Int := 2^63-1

def defaultRatio : ℚ := 20

section Ratios

-- `strconv.ParseFloat`, with the numbers as the text gives them; it may refuse its input
variable (parseFloat : String → Option ℚ)

def positiveRatio (raw : String) : Option ℚ :=
  if raw="" then none else (parseFloat raw).filter fun ratio => 0<ratio

def lookup (poolProps ctrlProps : Props) (key : String) : Option ℚ :=
  (positiveRatio parseFloat (poolProps.get key)).or (positiveRatio parseFloat (ctrlProps.get key))

/-- A size times a ratio, cut to what an `int64` holds. -/
def scaled (size : Int64) (ratio : ℚ) : Int :=
  if size.toInt ≤ 0 ∨ ratio ≤ 0 then 0
  else if (maxInt64 : ℚ) ≤ size.toInt*ratio then maxInt64
  else ⌊(size.toInt : ℚ)*ratio⌋

namespace Placer

def parseOversubRatio (raw : String) : Option ℚ := positiveRatio parseFloat raw

def lookupOversubRatio (poolProps ctrlProps : Props) (key : String) : Option ℚ :=
  lookup parseFloat poolProps ctrlProps key

def scaleClampOversub (size : Int64) (ratio : ℚ) : Int := scaled size ratio

def effectiveOversubCaps (pool : Pool) (ctrlProps : Props) : Int :=
  if !isThinForOversub pool.providerKind then pool.freeCapacity.toInt
  else
    let overall := (lookupOversubRatio parseFloat pool.props ctrlProps propOversubMaster).getD
      defaultRatio
    let freeRatio := (lookupOversubRatio parseFloat pool.props ctrlProps propOversubFree).getD
      overall
    let totalRatio := (lookupOversubRatio parseFloat pool.props ctrlProps propOversubTotal).getD
      overall
    let freeCap := scaleClampOversub pool.freeCapacity freeRatio
    let totalCap := scaleClampOversub pool.totalCapacity totalRatio
    if pool.totalCapacity=0 then freeCap
    else if totalCap<freeCap then totalCap
    else freeCap

def oversubRejects (pool : Pool) (ctrlProps : Props) (minFreeKib : Int) : Bool :=
  !decide (minFreeKib ≤ effectiveOversubCaps parseFloat pool ctrlProps)

def admits (pool : Pool) (ctrlProps : Props) (minFreeKib : Int) : Bool :=
  !(decide (minFreeKib>0) && oversubRejects parseFloat pool ctrlProps minFreeKib)

end Placer

namespace Rest

def isThinProvider (kind : String) : Bool :=
  kind=storagePoolKindLVMThin || kind=storagePoolKindZFSThin || kind=storagePoolKindFileThin

def parseRatio (raw : String) : Option ℚ := positiveRatio parseFloat raw

def lookupRatio (poolProps ctrlProps : Props) (key : String) : Option ℚ :=
  lookup parseFloat poolProps ctrlProps key

def scaleClamp (size : Int64) (ratio : ℚ) : Int := scaled size ratio

def effectiveOversubRatios (pool : Pool) (ctrlProps : Props) : ℚ × ℚ :=
  if !isThinProvider pool.providerKind then (1,1)
  else
    let overall := (lookupRatio parseFloat pool.props ctrlProps propOversubMaster).getD defaultRatio
    ((lookupRatio parseFloat pool.props ctrlProps propOversubFree).getD overall,
      (lookupRatio parseFloat pool.props ctrlProps propOversubTotal).getD overall)

def poolMaxVolumeKib (pool : Pool) (ctrlProps : Props) : Int :=
  let (freeRatio,totalRatio) := effectiveOversubRatios parseFloat pool ctrlProps
  let freeCap := scaleClamp pool.freeCapacity freeRatio
  let totalCap := scaleClamp pool.totalCapacity totalRatio
  if pool.totalCapacity=0 then freeCap
  else if freeCap<totalCap then freeCap
  else totalCap

end Rest

end Ratios

theorem scaled_nonneg (size : Int64) (ratio : ℚ) : 0 ≤ scaled size ratio := by
  unfold scaled
  split_ifs with h
  · exact le_rfl
  · decide
  · rw [not_or,not_le,not_le] at h
    have hsize : (0 : ℚ)<size.toInt := by exact_mod_cast h.1
    exact Int.floor_nonneg.mpr (mul_pos hsize h.2).le

theorem scaled_one (size : Int64) : scaled size 1=max 0 size.toInt := by
  have hbound : size.toInt ≤ maxInt64 := Int64.toInt_le size
  unfold scaled
  rw [mul_one,Int.floor_intCast]
  split_ifs with h hmax
  · have : size.toInt ≤ 0 := h.resolve_right (by norm_num)
    omega
  · have : maxInt64 ≤ size.toInt := by exact_mod_cast hmax
    have hpos : 0 < maxInt64 := by decide
    omega
  · rw [not_or] at h
    omega

variable {parseFloat : String → Option ℚ} {pool : Pool} {ctrlProps : Props}

theorem isGreatest_admitted {cap : Int}
    (hcap : Placer.effectiveOversubCaps parseFloat pool ctrlProps=cap) :
    IsGreatest {n | 0 ≤ n ∧ Placer.admits parseFloat pool ctrlProps n=true} (max 0 cap) := by
  have hadmits : ∀n : Int,Placer.admits parseFloat pool ctrlProps n=true ↔ n ≤ 0 ∨ n ≤ cap := by
    intro n
    simp only [Placer.admits,Placer.oversubRejects,hcap,Bool.not_eq_true',Bool.and_eq_false_iff,
      decide_eq_false_iff_not,Bool.not_eq_false',decide_eq_true_eq,not_lt]
  refine ⟨⟨le_max_left _ _,(hadmits _).mpr ?_⟩,?_⟩
  · omega
  · rintro n ⟨_,hn⟩
    rw [hadmits] at hn
    omega

/-- Free and total space, each with its ratio; a pool that reports no total is not cut by it. -/
def tighter (pool : Pool) (ratios : ℚ × ℚ) : Int :=
  if pool.totalCapacity=0 then scaled pool.freeCapacity ratios.1
  else min (scaled pool.freeCapacity ratios.1) (scaled pool.totalCapacity ratios.2)

theorem poolMaxVolumeKib_eq : Rest.poolMaxVolumeKib parseFloat pool ctrlProps=
    tighter pool (Rest.effectiveOversubRatios parseFloat pool ctrlProps) := by
  unfold Rest.poolMaxVolumeKib Rest.scaleClamp tighter
  dsimp only
  split_ifs <;> omega

theorem effectiveOversubCaps_thin (hthin : isThinForOversub pool.providerKind=true) :
    Placer.effectiveOversubCaps parseFloat pool ctrlProps=
      tighter pool (Rest.effectiveOversubRatios parseFloat pool ctrlProps) := by
  have hrest : Rest.isThinProvider pool.providerKind=true := hthin
  simp only [Placer.effectiveOversubCaps,Placer.lookupOversubRatio,Placer.scaleClampOversub,
    Rest.effectiveOversubRatios,Rest.lookupRatio,tighter,hthin,hrest,Bool.not_true,
    Bool.false_eq_true,if_false]
  split_ifs <;> omega

theorem tighter_nonneg (pool : Pool) (ratios : ℚ × ℚ) : 0 ≤ tighter pool ratios := by
  unfold tighter
  split_ifs
  · exact scaled_nonneg _ _
  · exact le_min (scaled_nonneg _ _) (scaled_nonneg _ _)

theorem poolMaxVolumeKib_thick (hthick : isThinForOversub pool.providerKind=false) :
    Rest.poolMaxVolumeKib parseFloat pool ctrlProps=
      if pool.totalCapacity=0 then max 0 pool.freeCapacity.toInt
      else min (max 0 pool.freeCapacity.toInt) (max 0 pool.totalCapacity.toInt) := by
  have hrest : Rest.isThinProvider pool.providerKind=false := hthick
  rw [poolMaxVolumeKib_eq,Rest.effectiveOversubRatios,hrest]
  simp only [tighter,Bool.not_false,if_true,scaled_one]

/-- The two rules agree but for pools without overcommitment that report more free than total
space. -/
theorem one_oversubscription_rule_iff (parseFloat : String → Option ℚ) (pool : Pool)
    (ctrlProps : Props) :
    IsGreatest {n | 0 ≤ n ∧ Placer.admits parseFloat pool ctrlProps n=true}
        (Rest.poolMaxVolumeKib parseFloat pool ctrlProps) ↔
      isThinForOversub pool.providerKind=true ∨ pool.totalCapacity=0 ∨
        pool.freeCapacity.toInt ≤ max 0 pool.totalCapacity.toInt := by
  cases hthin : isThinForOversub pool.providerKind with
  | true =>
    have hgreatest := isGreatest_admitted (@effectiveOversubCaps_thin parseFloat pool ctrlProps hthin)
    rw [max_eq_right (tighter_nonneg _ _),← poolMaxVolumeKib_eq] at hgreatest
    exact iff_of_true hgreatest (.inl rfl)
  | false =>
    have hcap : Placer.effectiveOversubCaps parseFloat pool ctrlProps=pool.freeCapacity.toInt := by
      simp [Placer.effectiveOversubCaps,hthin]
    have hgreatest := isGreatest_admitted hcap
    rw [poolMaxVolumeKib_thick hthin]
    constructor
    · intro h
      have heq := h.unique hgreatest
      split_ifs at heq with htotal
      · exact .inr (.inl htotal)
      · exact .inr (.inr (by omega))
    · rintro (h|h|h)
      · cases h
      · rwa [if_pos h]
      · split_ifs
        · exact hgreatest
        · rwa [min_eq_left (by omega)]

def overfull : Pool := ⟨storagePoolKindLVM,2048,1024,[]⟩

theorem overfull_differs :
    ¬IsGreatest {n | 0 ≤ n ∧ Placer.admits (fun _ => none) overfull [] n=true}
      (Rest.poolMaxVolumeKib (fun _ => none) overfull []) := by
  have hthick : isThinForOversub overfull.providerKind=false := by decide
  rw [poolMaxVolumeKib_thick hthick]
  intro h
  have hadmits : Placer.admits (fun _ => none) overfull [] 2048=true := by decide
  exact absurd (h.2 ⟨by decide,hadmits⟩) (by decide)

end Blockstor.Oversub
