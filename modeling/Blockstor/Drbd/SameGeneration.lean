import Blockstor.Drbd.Generation
import Blockstor.Drbd.Gi

namespace Blockstor.Drbd

open Framework List

variable {s a b : String} {cs as bs : List Char}

def hexValue (c : Char) : Nat := hexDigits.idxOf c.toLower

def uuidValue (s : String) : Nat := Nat.ofDigits 16 (s.toList.reverse.map hexValue)

def IsUuid (s : String) : Prop := s.length=generationUUIDDigits ∧ isHex s=true

theorem IsUuid.mem_hexChars (h : IsUuid s) {c : Char} (hc : c∈s.toList) : c∈hexChars := by
  have hhex := h.2
  rw [isHex,Bool.and_eq_true,all_eq_true] at hhex
  exact Drbd.mem_hexChars (hhex.2 c hc)

theorem isUuid_of_generation (h : isGenerationUUID s=true) : IsUuid s := by
  unfold isGenerationUUID at h
  rw [Bool.and_eq_true,Bool.and_eq_true,decide_eq_true_eq] at h
  exact h.1

section Digits

variable {c : Char}

theorem hexValue_lt (h : c∈hexChars) : hexValue c < 16 := by
  have hall : hexChars.all (fun c => hexValue c < 16)=true := by decide
  simpa using all_eq_true.mp hall c h

theorem foldChar_toUpper (h : c∈hexChars) :
    Text.foldChar c.toUpper=hexDigits.getD (hexValue c) '0' := by
  have hall : hexChars.all (fun c => Text.foldChar c.toUpper=hexDigits.getD (hexValue c) '0')=true := by
    decide
  simpa using all_eq_true.mp hall c h

theorem getD_inj {m n : Nat} (hm : m < 16) (hn : n < 16)
    (h : hexDigits.getD m '0'=hexDigits.getD n '0') : m=n := by
  have hall : ∀m<16,∀n<16,hexDigits.getD m '0'=hexDigits.getD n '0' → m=n := by decide
  exact hall m hm n hn h

def upperDigits : List Char := "0123456789ABCDEF".toList

theorem clear_last (h : c∈hexChars) : upperDigits.idxOf c.toUpper < 16 ∧
    Text.foldChar (upperDigits.getD (upperDigits.idxOf c.toUpper-upperDigits.idxOf c.toUpper%2) '0')=
      hexDigits.getD (hexValue c-hexValue c%2) '0' := by
  have hall : hexChars.all (fun c => decide (upperDigits.idxOf c.toUpper < 16 ∧
      Text.foldChar (upperDigits.getD (upperDigits.idxOf c.toUpper-upperDigits.idxOf c.toUpper%2) '0')=
        hexDigits.getD (hexValue c-hexValue c%2) '0'))=true := by decide
  exact of_decide_eq_true (all_eq_true.mp hall c h)

end Digits

theorem trimHexPrefix_of_hex (h : ∀c∈cs,c∈hexChars) : trimHexPrefix cs=cs := by
  unfold trimHexPrefix
  split
  · exact absurd (h 'x' (by simp)) (by decide)
  · exact absurd (h 'x' (by simp)) (by decide)
  · exact absurd (h 'X' (by simp)) (by decide)
  · rfl

theorem clearPrimaryBit_fold {c : Char} (hs : s.toList=cs++[c]) (h : ∀d∈s.toList,d∈hexChars) :
    (clearPrimaryBit s).map Text.foldChar=
      (cs.map fun d => hexDigits.getD (hexValue d) '0')++[hexDigits.getD (hexValue c-hexValue c%2) '0'] := by
  have hc : c∈hexChars := h c (by rw [hs]; simp)
  have hcs : ∀d∈cs,d∈hexChars := fun d hd => h d (by rw [hs]; simp [hd])
  obtain ⟨hidx,hlast⟩ := clear_last hc
  have hclear : clearPrimaryBit s=cs.map Char.toUpper++
      [upperDigits.getD (upperDigits.idxOf c.toUpper-upperDigits.idxOf c.toUpper%2) '0'] := by
    unfold clearPrimaryBit
    rw [trimHexPrefix_of_hex h,hs,map_append,map_singleton]
    simp only [getLast?_concat,dropLast_concat]
    exact if_pos hidx
  rw [hclear,map_append,map_map,map_singleton,hlast]
  congr 1
  exact map_congr_left fun d hd => foldChar_toUpper (hcs d hd)

theorem exists_last (h : IsUuid s) : ∃cs c,s.toList=cs++[c] ∧ cs.length=15 := by
  have hlen : s.toList.length=16 := by
    rw [String.length_toList]
    exact h.1
  have hne : s.toList≠[] := by
    intro hnil
    rw [hnil] at hlen
    cases hlen
  refine ⟨_,_,(dropLast_append_getLast hne).symm,?_⟩
  rw [length_dropLast,hlen]

theorem digits_eq_iff (hlen : as.length=bs.length) (ha : ∀d∈as,d∈hexChars) (hb : ∀d∈bs,d∈hexChars) :
    (as.map fun d => hexDigits.getD (hexValue d) '0')=
      (bs.map fun d => hexDigits.getD (hexValue d) '0') ↔
    Nat.ofDigits 16 (as.reverse.map hexValue)=Nat.ofDigits 16 (bs.reverse.map hexValue) := by
  have hvalues : (as.map fun d => hexDigits.getD (hexValue d) '0')=
      (bs.map fun d => hexDigits.getD (hexValue d) '0') ↔ as.map hexValue=bs.map hexValue := by
    induction as generalizing bs with
    | nil =>
      obtain rfl : bs=[] := eq_nil_of_length_eq_zero hlen.symm
      exact iff_of_true rfl rfl
    | cons a as ih =>
      cases bs with
      | nil => cases hlen
      | cons b bs =>
        have hrest := ih (Nat.succ.inj hlen) (fun d hd => ha d (.tail _ hd))
          fun d hd => hb d (.tail _ hd)
        have hdigit : hexDigits.getD (hexValue a) '0'=hexDigits.getD (hexValue b) '0' ↔
            hexValue a=hexValue b := by
          constructor
          · exact getD_inj (hexValue_lt (ha a (.head _))) (hexValue_lt (hb b (.head _)))
          · exact fun h => by rw [h]
        rw [map_cons,map_cons,map_cons,map_cons,cons.injEq,cons.injEq,
          hrest,hdigit]
  have hbound (cs : List Char) (hcs : ∀d∈cs,d∈hexChars) : ∀n∈(cs.map hexValue).reverse,n < 16 := by
    intro n hn
    obtain ⟨d,hd,rfl⟩ := mem_map.mp (mem_reverse.mp hn)
    exact hexValue_lt (hcs d hd)
  rw [hvalues,map_reverse,map_reverse]
  constructor
  · exact fun h => by rw [h]
  · intro h
    have hrev := Nat.ofDigits_inj_of_len_eq (by decide) (by simp [hlen]) (hbound as ha) (hbound bs hb) h
    exact reverse_injective hrev

theorem sameGeneration_iff (ha : IsUuid a) (hb : IsUuid b) :
    sameGeneration a b=true ↔ uuidValue a/2=uuidValue b/2 := by
  obtain ⟨as,x,hax,hal⟩ := exists_last ha
  obtain ⟨bs,y,hby,hbl⟩ := exists_last hb
  have hahex := fun d (hd : d∈a.toList) => ha.mem_hexChars hd
  have hbhex := fun d (hd : d∈b.toList) => hb.mem_hexChars hd
  have hx := hexValue_lt (hahex x (by rw [hax]; simp))
  have hy := hexValue_lt (hbhex y (by rw [hby]; simp))
  have hvalue (cs : List Char) (c : Char) : Nat.ofDigits 16 ((cs++[c]).reverse.map hexValue)=
      hexValue c+16*Nat.ofDigits 16 (cs.reverse.map hexValue) := by
    rw [reverse_append,reverse_singleton,singleton_append,map_cons,
      Nat.ofDigits_cons]
  have hhead := digits_eq_iff (hal.trans hbl.symm) (fun d hd => hahex d (by rw [hax]; simp [hd]))
    fun d hd => hbhex d (by rw [hby]; simp [hd])
  have hlast : hexDigits.getD (hexValue x-hexValue x%2) '0'=
      hexDigits.getD (hexValue y-hexValue y%2) '0' ↔ hexValue x/2=hexValue y/2 := by
    constructor
    · intro h
      have := getD_inj (by omega) (by omega) h
      omega
    · intro h
      rw [show hexValue x-hexValue x%2=hexValue y-hexValue y%2 by omega]
  have hsplit (cs ds : List Char) (c d : Char) : cs++[c]=ds++[d] ↔ cs=ds ∧ c=d := by
    simp
  rw [sameGeneration,decide_eq_true_eq,clearPrimaryBit_fold hax hahex,clearPrimaryBit_fold hby hbhex,
    hsplit,hhead,hlast,uuidValue,uuidValue,hax,hby,hvalue,hvalue]
  omega

end Blockstor.Drbd
