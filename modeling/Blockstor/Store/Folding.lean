import Blockstor.Store.Naming

namespace Blockstor.Naming

open Framework Store K8s String List

def Plain (s : String) : Prop :=
  folded s≠[] ∧ (folded s).length ≤ maxK8sName ∧ rfc1123 (folded s)=true

instance (s : String) : Decidable (Plain s) := inferInstanceAs (Decidable (_ ∧ _))

def slug (s : String) : List Char := trimDashes (dashed true (folded s))

def hashPrefix (s : String) : List Char :=
  lowerHex ((Sha256.sum256 s.toUTF8.data.toList).take hashPrefixBytes)

theorem hashPrefix_length (s : String) : (hashPrefix s).length=8 := by
  rw [hashPrefix,lowerHex,List.length_map,length_toList,Text.upperHex_length,List.length_take,
    Sha256.sum256_length]
  rfl

theorem name_plain {s : String} (h : Plain s) : (name s).toList=folded s := by
  have hname : name s=ofList (folded s) := if_pos h
  rw [hname,toList_ofList]

theorem name_hashed {s : String} (h : ¬Plain s) :
    (name s).toList=hashPrefix s++ '-'::(slug s).take 244 := by
  have hname : name s=ofList ((hashPrefix s++ '-'::slug s).take maxK8sName) := if_neg h
  rw [hname,toList_ofList,take_append,hashPrefix_length,take_of_length_le (by rw [hashPrefix_length]; decide)]
  rfl

section Valid

theorem label_hashed {front cs : List Char} (hne : front≠[])
    (hfront : ∀c∈front,alphanumeric c=true) (hcs : ∀c∈cs,alphanumeric c=true ∨ c= '-') :
    label (front++ '-'::cs)=cs.getLast?.any alphanumeric := by
  obtain ⟨c,front,rfl⟩ := exists_cons_of_ne_nil hne
  have hall : (c::front++ '-'::cs).all (fun d => alphanumeric d || decide (d= '-'))=true := by
    rw [all_eq_true]
    intro d hd
    rcases mem_append.mp hd with hd|hd
    · simp [hfront d hd]
    · rcases mem_cons.mp hd with rfl|hd
      · decide
      · simpa using hcs d hd
  have hlast : (c::front++ '-'::cs).getLast?=some (cs.getLast?.getD '-') := by
    rw [getLast?_append_cons,getLast?_cons]
  unfold label
  rw [hall,hlast,cons_append,head?_cons]
  simp only [Option.any_some,hfront c (.head _),Bool.true_and,Bool.and_true]
  cases cs.getLast? <;> rfl

def Fits (s : String) : Prop := ((slug s).take 244).getLast?.any alphanumeric=true

theorem rfc1123_name_iff (s : String) : rfc1123 (name s).toList=true ↔ Plain s ∨ Fits s := by
  by_cases h : Plain s
  · rw [name_plain h]
    exact iff_of_true h.2.2 (.inl h)
  · have hslug : ∀c∈(slug s).take 244,alphanumeric c=true ∨ c= '-' := fun c hc =>
      dashed_mem (trimDashes_mem (mem_of_mem_take hc))
    have hfront : ∀c∈hashPrefix s,alphanumeric c=true := fun c => lowerHex_mem
    have hne : hashPrefix s≠[] := by
      intro hnil
      have := hashPrefix_length s
      rw [hnil] at this
      cases this
    have hdot : '.'∉hashPrefix s++ '-'::(slug s).take 244 := by
      rcases name_cases s with ⟨hplain,_⟩|⟨_,hdot⟩
      · exact absurd hplain h
      · rwa [← name_hashed h]
    rw [name_hashed h,rfc1123,Text.splitList_of_notMem hdot,all_cons,all_nil,Bool.and_true,
      label_hashed hne hfront hslug]
    exact ⟨.inr,fun hfits => hfits.resolve_left h⟩

theorem utf8ByteSize_eq_length {cs : List Char} (h : ∀c∈cs,c.toNat ≤ 127) :
    (ofList cs).utf8ByteSize=cs.length := by
  induction cs with
  | nil => rfl
  | cons c cs ih =>
    have hc : c.utf8Size=1 := if_pos (h c (.head _))
    rw [← singleton_append,ofList_append,utf8ByteSize_append,
      ih fun d hd => h d (.tail _ hd),← singleton_eq_ofList,utf8ByteSize_singleton,hc,List.length_append]
    rfl

theorem name_length (s : String) : (name s).toList.length ≤ maxK8sName := by
  by_cases h : Plain s
  · rw [name_plain h]
    exact h.2.1
  · rw [name_hashed h,List.length_append,hashPrefix_length,List.length_cons,List.length_take]
    change _ ≤ 253
    omega

theorem rfc1123_ascii {cs : List Char} (h : rfc1123 cs=true) {c : Char} (hc : c∈cs) :
    c.toNat ≤ 127 := by
  rcases rfc1123_mem h hc with rfl|rfl|hc
  · decide
  · decide
  · rcases of_decide_eq_true hc with ⟨_,hle⟩|⟨_,hle⟩
    · exact Nat.le_trans hle (by decide)
    · exact Nat.le_trans hle (by decide)

theorem name_size {s : String} (h : rfc1123 (name s).toList=true) :
    (name s).utf8ByteSize ≤ maxK8sName := by
  rw [← ofList_toList (s := name s),utf8ByteSize_eq_length fun c => rfc1123_ascii h]
  exact name_length s

end Valid

section Case

/-- `unicode.ToLower`. The model of the naming is exact where the lower case is ASCII. -/
structure CaseMap where
  toLower : Char → Char
  ascii : ∀c,toLower c=lowerRune c ∨ 127<(toLower c).toNat ∧ 127<(lowerRune c).toNat

variable (m : CaseMap) {s t : String}

def CaseMap.SameCase (s t : String) : Prop := s.toList.map m.toLower=t.toList.map m.toLower

theorem CaseMap.lower_plain (h : Plain s) : s.toList.map m.toLower=folded s := by
  refine map_congr_left fun c hc => (m.ascii c).resolve_right fun hbig => ?_
  have := rfc1123_ascii h.2.2 (mem_map_of_mem hc)
  omega

theorem CaseMap.folded_sameCase (hs : Plain s) (h : m.SameCase s t) : folded t=folded s := by
  have hlower : t.toList.map m.toLower=folded s := h.symm.trans (m.lower_plain hs)
  rw [← hlower]
  refine map_congr_left fun c hc => ((m.ascii c).resolve_right fun hbig => ?_).symm
  have := rfc1123_ascii hs.2.2 (hlower ▸ mem_map_of_mem hc)
  omega

theorem name_of_folded (hs : Plain s) (h : folded t=folded s) : name t=name s := by
  have ht : Plain t := by
    unfold Plain
    rwa [h]
  exact toList_inj.mp ((name_plain ht).trans (h.trans (name_plain hs).symm))

structure HashFree (s t : String) : Prop where
  free : ¬Plain s → ¬Plain t → hashPrefix s=hashPrefix t → s=t
  first : ¬Plain s → Plain t → ¬hashPrefix s++['-'] <+: folded t
  second : Plain s → ¬Plain t → ¬hashPrefix t++['-'] <+: folded s

theorem hashPrefix_isPrefix (h : ¬Plain s) : hashPrefix s++['-'] <+: (name s).toList := by
  rw [name_hashed h]
  exact ⟨(slug s).take 244,by simp⟩

theorem HashFree.eq_of_name (h : HashFree s t) (hs : ¬Plain s) (ht : ¬Plain t)
    (hname : name s=name t) : s=t := by
  have hlist := congrArg toList hname
  rw [name_hashed hs,name_hashed ht] at hlist
  exact h.free hs ht (append_inj_left hlist (by rw [hashPrefix_length,hashPrefix_length]))

theorem HashFree.sameCase_of_name (h : HashFree s t) (hname : name s=name t) : m.SameCase s t := by
  by_cases hs : Plain s <;> by_cases ht : Plain t
  · have hfold : folded s=folded t := by rw [← name_plain hs,← name_plain ht,hname]
    exact (m.lower_plain hs).trans (hfold.trans (m.lower_plain ht).symm)
  · refine absurd ?_ (h.second hs ht)
    rw [← name_plain hs,hname]
    exact hashPrefix_isPrefix ht
  · refine absurd ?_ (h.first hs ht)
    rw [← name_plain ht,← hname]
    exact hashPrefix_isPrefix hs
  · rw [h.eq_of_name hs ht hname]
    rfl

structure Named (s t : String) : Prop where
  valid : rfc1123 (name s).toList=true ∧ (name s).utf8ByteSize ≤ maxK8sName
  same : m.SameCase s t → name s=name t
  distinct : ¬m.SameCase s t → name s≠name t

/-- A name that is not kept must leave something that does not end in a dash, and is its own in
every other case. -/
theorem named_iff (m : CaseMap) (s t : String) (h : HashFree s t) :
    Named m s t ↔ (Plain s ∨ Fits s) ∧ (m.SameCase s t → Plain s ∨ s=t) := by
  constructor
  · intro hnamed
    refine ⟨(rfc1123_name_iff s).mp hnamed.valid.1,fun hcase => ?_⟩
    by_cases hs : Plain s
    · exact .inl hs
    · by_cases ht : Plain t
      · have hfold := m.folded_sameCase ht hcase.symm
        refine absurd ?_ hs
        unfold Plain
        rwa [hfold]
      · exact .inr (h.eq_of_name hs ht (hnamed.same hcase))
  · rintro ⟨hfits,hcase⟩
    have hvalid := (rfc1123_name_iff s).mpr hfits
    refine ⟨⟨hvalid,name_size hvalid⟩,fun hsame => ?_,fun hne hname => hne (h.sameCase_of_name m hname)⟩
    rcases hcase hsame with hs|rfl
    · exact (name_of_folded hs (m.folded_sameCase hs hsame)).symm
    · rfl

def asciiCase : CaseMap := ⟨lowerRune,fun _ => .inl rfl⟩

theorem named_groups : HashFree "DfltRscGrp" "dfltrscgrp" ∧ Named asciiCase "DfltRscGrp" "dfltrscgrp" := by
  have hs : Plain "DfltRscGrp" := by decide
  have ht : Plain "dfltrscgrp" := by decide
  have hfree : HashFree "DfltRscGrp" "dfltrscgrp" :=
    ⟨fun h => absurd hs h,fun h => absurd hs h,fun _ h => absurd ht h⟩
  exact ⟨hfree,(named_iff asciiCase _ _ hfree).mpr ⟨.inl hs,fun _ => .inl hs⟩⟩

/-- A name without a letter or digit ends in the dash behind its hash. -/
theorem underscore_invalid : ¬Named asciiCase "_" "_" := by
  intro h
  rcases (rfc1123_name_iff "_").mp h.valid.1 with h|h
  · exact absurd h (by decide)
  · exact absurd h (by unfold Fits; decide)

end Case

end Blockstor.Naming
