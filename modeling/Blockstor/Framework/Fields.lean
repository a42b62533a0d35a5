import Blockstor.Framework.Text

namespace Blockstor.Framework.Text

open String List

/-- `strings.Contains`. -/
def contains (s sub : String) : Bool := sub.toList <:+: s.toList

theorem contains_iff {s sub : String} : contains s sub=true ↔ sub.toList <:+: s.toList :=
  decide_eq_true_iff

theorem contains_trans {s t u : String} (h : contains s t=true) (h' : contains t u=true) :
    contains s u=true :=
  contains_iff.mpr ((contains_iff.mp h').trans (contains_iff.mp h))

section Parts

variable {sep : Char}

theorem splitList_cons_of_ne {c : Char} (cs : List Char) (h : c≠sep) :
    ∃part parts,splitList sep cs=part::parts ∧ splitList sep (c::cs)=(c::part)::parts := by
  have hne : splitList sep cs≠[] := by
    cases cs with
    | nil => exact cons_ne_nil _ _
    | cons d cs =>
      unfold splitList
      split
      · exact cons_ne_nil _ _
      · split <;> exact cons_ne_nil _ _
  obtain ⟨part,parts,hparts⟩ := exists_cons_of_ne_nil hne
  exact ⟨part,parts,hparts,by rw [splitList,if_neg h,hparts]⟩

/-- A text without the separator that comes first is in the first part. -/
theorem prefix_splitList {cs tok : List Char} (h : tok <+: cs) (htok : sep∉tok) :
    ∃part parts,splitList sep cs=part::parts ∧ tok <+: part := by
  induction cs generalizing tok with
  | nil => exact ⟨[],[],rfl,h⟩
  | cons c cs ih =>
    by_cases hc : c=sep
    · subst hc
      refine ⟨[],splitList c cs,by rw [splitList,if_pos rfl],?_⟩
      cases tok with
      | nil => exact prefix_rfl
      | cons d tok =>
        obtain ⟨rfl,_⟩ := cons_prefix_cons.mp h
        exact absurd (.head _) htok
    · obtain ⟨part,parts,hparts,hcons⟩ := splitList_cons_of_ne cs hc
      refine ⟨c::part,parts,hcons,?_⟩
      cases tok with
      | nil => exact nil_prefix
      | cons d tok =>
        obtain ⟨rfl,h'⟩ := cons_prefix_cons.mp h
        obtain ⟨part',parts',hparts',hpart⟩ := ih h' fun hm => htok (.tail _ hm)
        obtain ⟨rfl,rfl⟩ := cons.inj (hparts.symm.trans hparts')
        exact cons_prefix_cons.mpr ⟨rfl,hpart⟩

/-- A text without the separator is in one of the parts. -/
theorem infix_splitList {cs tok : List Char} (h : tok <:+: cs) (htok : sep∉tok) :
    ∃part∈splitList sep cs,tok <:+: part := by
  induction cs with
  | nil => exact ⟨[],.head _,h⟩
  | cons c cs ih =>
    rcases infix_cons_iff.mp h with h|h
    · obtain ⟨part,parts,hparts,hpart⟩ := prefix_splitList h htok
      exact ⟨part,by rw [hparts]; exact .head _,hpart.isInfix⟩
    · obtain ⟨f,hf,hin⟩ := ih h
      by_cases hc : c=sep
      · exact ⟨f,by rw [splitList,if_pos hc]; exact .tail _ hf,hin⟩
      · obtain ⟨part,parts,hparts,hcons⟩ := splitList_cons_of_ne cs hc
        rw [hparts] at hf
        rw [hcons]
        rcases mem_cons.mp hf with rfl|hf
        · exact ⟨c::f,.head _,hin.trans (infix_cons infix_rfl)⟩
        · exact ⟨f,.tail _ hf,hin⟩

/-- A text that follows a separator begins one of the parts. -/
theorem sep_infix_splitList {cs tok : List Char} (h : sep::tok <:+: cs) (htok : sep∉tok) :
    ∃part∈(splitList sep cs).tail,tok <+: part := by
  induction cs with
  | nil => cases infix_nil.mp h
  | cons c cs ih =>
    rcases infix_cons_iff.mp h with h|h
    · obtain ⟨rfl,h'⟩ := cons_prefix_cons.mp h
      obtain ⟨part,parts,hparts,hpart⟩ := prefix_splitList h' htok
      refine ⟨part,?_,hpart⟩
      rw [splitList,if_pos rfl,hparts]
      exact .head _
    · obtain ⟨f,hf,hin⟩ := ih h
      refine ⟨f,?_,hin⟩
      by_cases hc : c=sep
      · rw [splitList,if_pos hc]
        exact mem_of_mem_tail hf
      · obtain ⟨part,parts,hparts,hcons⟩ := splitList_cons_of_ne cs hc
        rw [hparts] at hf
        rw [hcons]
        exact hf

theorem infix_of_mem_splitList {cs f : List Char} (h : f∈splitList sep cs) : f <:+: cs := by
  have hboth (cs : List Char) : (∀f∈splitList sep cs,f <:+: cs) ∧
      ∀part parts,splitList sep cs=part::parts → part <+: cs := by
    induction cs with
    | nil =>
      refine ⟨fun f hf => ?_,fun part parts h => ?_⟩
      · rw [mem_singleton.mp hf]
      · obtain ⟨rfl,_⟩ := cons.inj h
        exact prefix_rfl
    | cons c cs ih =>
      obtain ⟨hall,hfirst⟩ := ih
      by_cases hc : c=sep
      · rw [splitList,if_pos hc]
        refine ⟨fun f hf => ?_,fun part parts h => ?_⟩
        · rcases mem_cons.mp hf with rfl|hf
          · exact nil_infix
          · exact infix_cons (hall f hf)
        · obtain ⟨rfl,_⟩ := cons.inj h
          exact nil_prefix
      · obtain ⟨part,parts,hparts,hcons⟩ := splitList_cons_of_ne cs hc
        have hpart : c::part <+: c::cs := cons_prefix_cons.mpr ⟨rfl,hfirst part parts hparts⟩
        rw [hcons]
        refine ⟨fun f hf => ?_,fun q qs h => ?_⟩
        · rcases mem_cons.mp hf with rfl|hf
          · exact hpart.isInfix
          · exact infix_cons (hall f (hparts ▸ .tail _ hf))
        · obtain ⟨rfl,_⟩ := cons.inj h
          exact hpart
  exact (hboth cs).1 f h

theorem contains_of_field {s f : String} (h : f∈split sep s) : contains s f=true := by
  obtain ⟨cs,hcs,rfl⟩ := mem_map.mp h
  rw [contains_iff,toList_ofList]
  exact infix_of_mem_splitList hcs

theorem field_of_contains {s tok : String} (h : contains s tok=true) (htok : sep∉tok.toList) :
    ∃f∈split sep s,contains f tok=true := by
  obtain ⟨f,hf,hin⟩ := infix_splitList (contains_iff.mp h) htok
  exact ⟨_,mem_map_of_mem hf,contains_iff.mpr (by rwa [toList_ofList])⟩

theorem field_of_sep {s tok : String} (h : contains s (singleton sep++tok)=true)
    (htok : sep∉tok.toList) : ∃f∈split sep s,tok.toList <+: f.toList := by
  rw [contains_iff,toList_append,toList_singleton] at h
  obtain ⟨f,hf,hin⟩ := sep_infix_splitList h htok
  exact ⟨_,mem_map_of_mem (mem_of_mem_tail hf),by rwa [toList_ofList]⟩

/-- Every list of parts is that of some text. -/
theorem exists_split {parts : List String} (hne : parts≠[]) (h : ∀l∈parts,sep∉l.toList) :
    ∃s,split sep s=parts := by
  induction parts with
  | nil => exact absurd rfl hne
  | cons part parts ih =>
    have hpart := h part (.head _)
    cases parts with
    | nil =>
      refine ⟨part,?_⟩
      rw [split,splitList_of_notMem hpart,map_singleton,ofList_toList]
    | cons q parts =>
      obtain ⟨s,hs⟩ := ih (cons_ne_nil _ _) fun l hl => h l (.tail _ hl)
      refine ⟨ofList (part.toList++sep::s.toList),?_⟩
      rw [split,toList_ofList,splitList_append _ hpart,map_cons,ofList_toList]
      exact congrArg _ hs

/-- A text in which every part ends with the separator. -/
theorem split_join {parts : List String} {stop : String} (hstop : stop.toList=[sep])
    (h : ∀l∈parts,sep∉l.toList) :
    split sep (join (parts.map fun l => l++stop))=parts++[""] := by
  rw [split,toList_join]
  induction parts with
  | nil => rfl
  | cons part parts ih =>
    rw [List.map_cons,List.flatMap_cons,toList_append,hstop,List.append_assoc,
      singleton_append,splitList_append _ (h part (.head _)),map_cons,
      ofList_toList,ih fun l hl => h l (.tail _ hl)]
    rfl

end Parts

end Blockstor.Framework.Text
