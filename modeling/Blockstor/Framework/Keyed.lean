import Mathlib

namespace Blockstor.Framework

open List

structure Keyed {κ α : Type} (key : α → κ) where
  items : List α
  nodup : (items.map key).Nodup

namespace Keyed

variable {κ α : Type} {key : α → κ} (t : Keyed key)

instance : Membership α (Keyed key) := ⟨fun t a => a∈t.items⟩

theorem eq_of_key {a b : α} (ha : a∈t) (hb : b∈t) (h : key a=key b) : a=b :=
  inj_on_of_nodup_map t.nodup ha hb h

def empty : Keyed key where
  items := []
  nodup := nodup_nil

def insert (a : α) (h : ∀b∈t,key b≠key a) : Keyed key where
  items := t.items++[a]
  nodup := by
    rw [map_append,nodup_append]
    refine ⟨t.nodup,by simp,?_⟩
    intro x hx y hy
    obtain ⟨b,hb,rfl⟩ := mem_map.mp hx
    obtain rfl : y=key a := by simpa using hy
    exact h b hb

theorem mem_insert (a : α) (h : ∀b∈t,key b≠key a) (b : α) : b∈t.insert a h ↔ b∈t ∨ b=a := by
  change b∈t.items++[a] ↔ _
  simp only [mem_append,mem_singleton]
  rfl

section Count

variable {u : Keyed key} {P Q : α → Bool}

theorem nodup_items : t.items.Nodup := .of_map _ t.nodup

/-- Counting in one table what another table has too. -/
theorem countP_le (h : ∀a∈u,P a=true → a∈t ∧ Q a=true) : u.items.countP P ≤ t.items.countP Q := by
  rw [countP_eq_length_filter,countP_eq_length_filter]
  refine (subperm_of_subset (u.nodup_items.filter _) fun a ha => ?_).length_le
  obtain ⟨hmem,hP⟩ := mem_filter.mp ha
  exact mem_filter.mpr (h a hmem hP)

/-- The same with one item more. -/
theorem countP_le_succ (x : α) (h : ∀a∈u,P a=true → a=x ∨ a∈t ∧ Q a=true) :
    u.items.countP P ≤ t.items.countP Q+1 := by
  rw [countP_eq_length_filter,countP_eq_length_filter,← length_cons (a := x)]
  refine (subperm_of_subset (u.nodup_items.filter _) fun a ha => ?_).length_le
  obtain ⟨hmem,hP⟩ := mem_filter.mp ha
  rcases h a hmem hP with rfl|h
  · exact .head _
  · exact .tail _ (mem_filter.mpr h)

end Count

variable [DecidableEq κ]

def get? (k : κ) : Option α := t.items.find? fun a => key a=k

theorem get?_eq_some (k : κ) (a : α) : t.get? k=some a ↔ a∈t ∧ key a=k := by
  constructor
  · intro h
    exact ⟨mem_of_find?_eq_some h,by simpa using find?_some h⟩
  · intro h
    obtain ⟨ha,rfl⟩ := h
    cases hb : t.get? (key a) with
    | none => simpa using find?_eq_none.mp hb a ha
    | some b =>
      have hk : key b=key a := by simpa using find?_some hb
      rw [t.eq_of_key (mem_of_find?_eq_some hb) ha hk]

theorem get?_eq_none (k : κ) : t.get? k=none ↔ ∀a∈t,key a≠k := by
  unfold get?
  rw [find?_eq_none]
  simp only [decide_eq_true_eq]
  rfl

def modify (k : κ) (f : α → α) (hf : ∀a,key (f a)=key a) : Keyed key where
  items := t.items.map fun a => if key a=k then f a else a
  nodup := by
    have h : key ∘ (fun a => if key a=k then f a else a)=key := by
      funext a
      by_cases ha : key a=k
      · simp [ha,hf]
      · simp [ha]
    rw [map_map,h]
    exact t.nodup

theorem mem_modify (k : κ) (f : α → α) (hf : ∀a,key (f a)=key a) (b : α) :
    b∈t.modify k f hf ↔ (∃a∈t,key a=k ∧ b=f a) ∨ b∈t ∧ key b≠k := by
  change b∈t.items.map _ ↔ _
  rw [mem_map]
  constructor
  · intro h
    obtain ⟨a,ha,rfl⟩ := h
    by_cases hk : key a=k
    · exact .inl ⟨a,ha,hk,if_pos hk⟩
    · right
      rw [if_neg hk]
      exact ⟨ha,hk⟩
  · intro h
    rcases h with ⟨a,ha,hk,rfl⟩|⟨hb,hk⟩
    · exact ⟨a,ha,if_pos hk⟩
    · exact ⟨b,hb,if_neg hk⟩

theorem get?_modify (k n : κ) (f : α → α) (hf : ∀a,key (f a)=key a) :
    (t.modify k f hf).get? n=(t.get? n).map fun a => if key a=k then f a else a := by
  have h : (fun b => decide (key b=n)) ∘ (fun a => if key a=k then f a else a)=
      fun a => decide (key a=n) := by
    funext a
    by_cases ha : key a=k
    · simp [ha,hf]
    · simp [ha]
  change find? _ (t.items.map _)=_
  rw [find?_map,h]
  rfl

def erase (k : κ) : Keyed key where
  items := t.items.filter fun a => key a≠k
  nodup := t.nodup.sublist (filter_sublist.map _)

theorem mem_erase (k : κ) (b : α) : b∈t.erase k ↔ b∈t ∧ key b≠k := by
  change b∈t.items.filter _ ↔ _
  simp only [mem_filter,decide_eq_true_eq]
  rfl

theorem get?_insert (a : α) (h : ∀b∈t,key b≠key a) (k : κ) :
    (t.insert a h).get? k=if k=key a then some a else t.get? k := by
  split
  · rename_i hk
    exact ((t.insert a h).get?_eq_some k a).mpr ⟨(t.mem_insert a h a).mpr (.inr rfl),hk.symm⟩
  · rename_i hk
    cases hb : t.get? k with
    | none =>
      rw [get?_eq_none]
      intro b hmem hkey
      rcases (t.mem_insert a h b).mp hmem with hmem|rfl
      · exact (t.get?_eq_none k).mp hb b hmem hkey
      · exact hk hkey.symm
    | some b =>
      obtain ⟨hmem,hkey⟩ := (t.get?_eq_some k b).mp hb
      exact ((t.insert a h).get?_eq_some k b).mpr ⟨(t.mem_insert a h b).mpr (.inl hmem),hkey⟩

theorem get?_erase (k n : κ) : (t.erase k).get? n=if n=k then none else t.get? n := by
  split
  · rename_i hn
    rw [get?_eq_none]
    intro b hb hkey
    exact ((t.mem_erase k b).mp hb).2 (hkey.trans hn)
  · rename_i hn
    cases hb : t.get? n with
    | none =>
      rw [get?_eq_none]
      intro b hmem
      exact (t.get?_eq_none n).mp hb b ((t.mem_erase k b).mp hmem).1
    | some b =>
      obtain ⟨hmem,hkey⟩ := (t.get?_eq_some n b).mp hb
      exact ((t.erase k).get?_eq_some n b).mpr
        ⟨(t.mem_erase k b).mpr ⟨hmem,fun h => hn (hkey.symm.trans h)⟩,hkey⟩

end Keyed

end Blockstor.Framework
