import Mathlib

namespace Blockstor.Framework

/-- A value with all its versions so far; `rv` is the number of the latest. -/
structure Versioned (α : Type) where
  rv : Nat
  version : Nat → α

namespace Versioned

variable {α : Type} {s t u : Versioned α}

def start (a : α) : Versioned α := ⟨0,fun _ => a⟩

def now (s : Versioned α) : α := s.version s.rv

def push (s : Versioned α) (a : α) : Versioned α :=
  ⟨s.rv+1,Function.update s.version (s.rv+1) a⟩

@[simp] theorem now_push (s : Versioned α) (a : α) : (s.push a).now=a := Function.update_self ..

structure Extends (s t : Versioned α) : Prop where
  rv : s.rv ≤ t.rv
  version : ∀k,k ≤ s.rv → t.version k=s.version k

theorem Extends.refl (s : Versioned α) : Extends s s := ⟨le_rfl,fun _ _ => rfl⟩

theorem Extends.push (s : Versioned α) (a : α) : Extends s (s.push a) where
  rv := Nat.le_succ _
  version := fun k hk => Function.update_of_ne (by omega) _ _

def Chain (R : α → α → Prop) (s : Versioned α) : Prop :=
  ∀k,k<s.rv → R (s.version k) (s.version (k+1))

theorem Chain.start (R : α → α → Prop) (a : α) : Chain R (start a) :=
  fun k hk => absurd hk (Nat.not_lt_zero k)

theorem Chain.push {R : α → α → Prop} (h : Chain R s) {a : α} (ha : R s.now a) :
    Chain R (s.push a) := by
  intro k hk
  have hkeep := (Extends.push s a).version
  rcases Nat.lt_succ_iff_lt_or_eq.mp hk with hk|rfl
  · rw [hkeep k hk.le,hkeep (k+1) hk]
    exact h k hk
  · rw [hkeep _ le_rfl]
    change R s.now (s.push a).now
    rw [now_push]
    exact ha

/-- What every version hands on to the next one, a version hands on to all later ones. -/
theorem Chain.persists {P : α → Prop} (h : Chain (fun a b => P a → P b) s) {k l : Nat}
    (hkl : k ≤ l) (hl : l ≤ s.rv) (hk : P (s.version k)) : P (s.version l) := by
  induction l, hkl using Nat.le_induction with
  | base => exact hk
  | succ l _ ih => exact h l hl (ih (Nat.le_of_succ_le hl))

end Versioned
end Blockstor.Framework
