import Blockstor.Framework.Text

namespace Blockstor.Drbd

open Framework

def generationUUIDDigits : Nat := 16

def hexDigits : List Char := "0123456789abcdef".toList

def isHex (digits : String) : Bool :=
  digits≠"" && digits.toList.all fun c => hexDigits.contains c.toLower

def isGenerationUUID (s : String) : Bool :=
  s.length=generationUUIDDigits && isHex s && s.toList.any fun c => c≠ '0'

theorem isGenerationUUID_iff {s : String} : isGenerationUUID s=true ↔
    s.length=generationUUIDDigits ∧ (∀c∈s.toList,hexDigits.contains c.toLower=true) ∧
      ∃c∈s.toList,c≠ '0' := by
  unfold isGenerationUUID isHex
  simp only [Bool.and_eq_true,decide_eq_true_eq,List.all_eq_true,List.any_eq_true]
  constructor
  · rintro ⟨⟨hlen,_,hhex⟩,hany⟩
    exact ⟨hlen,hhex,hany⟩
  · rintro ⟨hlen,hhex,hany⟩
    refine ⟨⟨hlen,?_,hhex⟩,hany⟩
    rintro rfl
    cases hlen

def hexChars : List Char := "0123456789abcdefABCDEF".toList

theorem mem_hexChars {c : Char} (h : hexDigits.contains c.toLower=true) : c∈hexChars := by
  by_cases hc : 'A'.val ≤ c.val ∧ c.val ≤ 'Z'.val
  · have hupper : ∀n<91,65 ≤ n → hexDigits.contains (Char.ofNat n).toLower=true →
        Char.ofNat n∈hexChars := by decide
    have hlow : 65 ≤ c.toNat := hc.1
    have hhigh : c.toNat ≤ 90 := hc.2
    rw [← Char.ofNat_toNat c] at h ⊢
    exact hupper _ (by omega) hlow h
  · rw [Char.toLower,dif_neg hc] at h
    exact List.mem_append_left "ABCDEF".toList (List.contains_iff_mem.mp h)

theorem mem_hexChars_of_uuid {s : String} (h : isGenerationUUID s=true) {c : Char}
    (hc : c∈s.toList) : c∈hexChars :=
  mem_hexChars ((isGenerationUUID_iff.mp h).2.1 c hc)

theorem isGenerationUUID_toUpper {s : String} (h : isGenerationUUID s=true) :
    isGenerationUUID (Text.toUpper s)=true := by
  obtain ⟨hlen,hhex,c,hc,hne⟩ := isGenerationUUID_iff.mp h
  have hall : hexChars.all (fun c => hexDigits.contains c.toUpper.toLower &&
      (c= '0' || c.toUpper≠ '0'))=true := by decide
  have hupper (c : Char) (hc : c∈hexChars) : hexDigits.contains c.toUpper.toLower=true ∧
      (c≠ '0' → c.toUpper≠ '0') := by
    have hc := List.all_eq_true.mp hall c hc
    rw [Bool.and_eq_true,Bool.or_eq_true,decide_eq_true_eq,decide_eq_true_eq] at hc
    exact ⟨hc.1,hc.2.resolve_left⟩
  have htext : (Text.toUpper s).toList=s.toList.map Char.toUpper := String.toList_ofList
  refine isGenerationUUID_iff.mpr ⟨?_,?_,c.toUpper,?_,(hupper c (mem_hexChars (hhex c hc))).2 hne⟩
  · rw [← String.length_toList,htext,List.length_map,String.length_toList,hlen]
  · intro d hd
    rw [htext] at hd
    obtain ⟨e,he,rfl⟩ := List.mem_map.mp hd
    exact (hupper e (mem_hexChars (hhex e he))).1
  · rw [htext]
    exact List.mem_map_of_mem hc

theorem not_isSpace_of_mem_hexChars {c : Char} (h : c∈hexChars) : Text.isSpace c=false := by
  have hall : hexChars.all (fun c => !Text.isSpace c)=true := by decide
  have hc := List.all_eq_true.mp hall c h
  rwa [Bool.not_eq_true'] at hc

end Blockstor.Drbd
