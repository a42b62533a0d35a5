import Blockstor.Framework.Machine

namespace Blockstor.Framework.Shell

variable {κ σ : Type} {ρ : κ → Type} {ε α β : Type} {env : σ → (c : κ) → ρ c → σ → Prop}

/-- `Cut env p s t`: the program is cut off in `t` after some of its commands. A command that is
interrupted itself is one that is answered by a failure nobody reads. -/
inductive Cut (env : σ → (c : κ) → ρ c → σ → Prop) : Shell ρ ε α → σ → σ → Prop
  | here (p : Shell ρ ε α) (s : σ) : Cut env p s s
  | ask (c : κ) (next : ρ c → Shell ρ ε α) (a : ρ c) (s s' t : σ)
      (hc : env s c a s') (h : Cut env (next a) s' t) : Cut env (.ask c next) s t

variable {s t : σ}

theorem cut_pure {a : α} : Cut env (pure a : Shell ρ ε α) s t ↔ t=s := by
  constructor
  · intro h
    cases h
    rfl
  · rintro rfl
    exact .here _ _

theorem cut_throw {e : ε} : Cut env (throw e : Shell ρ ε α) s t ↔ t=s := by
  constructor
  · intro h
    cases h
    rfl
  · rintro rfl
    exact .here _ _

theorem cut_ask {c : κ} {f : ρ c → Shell ρ ε β} :
    Cut env (call c >>= f) s t ↔ t=s ∨ ∃a s',env s c a s' ∧ Cut env (f a) s' t := by
  constructor
  · intro h
    cases h with
    | here => exact .inl rfl
    | ask _ _ a _ s' _ hc h => exact .inr ⟨a,s',hc,h⟩
  · rintro (rfl|⟨a,s',hc,h⟩)
    · exact .here _ _
    · exact .ask c _ a s s' t hc h

/-- Where a program ends it may be cut off too. -/
theorem Exec.cut {p : Shell ρ ε α} {r : Except ε α} (h : Exec env p s r t) : Cut env p s t := by
  induction h with
  | done a s => exact .here _ _
  | fail e s => exact .here _ _
  | ask c next a s s' t r hc _ ih => exact .ask c next a s s' t hc ih

/-- A sequence is cut off in its first part or, with the first part done, in its second. -/
theorem cut_bind {p : Shell ρ ε α} {f : α → Shell ρ ε β} {s t : σ} :
    Cut env (p >>= f) s t ↔ Cut env p s t ∨ ∃a s',Exec env p s (.ok a) s' ∧ Cut env (f a) s' t := by
  change Cut env (p.bind f) s t ↔ _
  induction p generalizing s with
  | done a =>
    constructor
    · intro h
      exact .inr ⟨a,s,.done a s,h⟩
    · rintro (h|⟨b,s',h,hf⟩)
      · cases h
        exact .here _ _
      · cases h
        exact hf
  | fail e =>
    constructor
    · intro h
      cases h
      exact .inl (.here _ _)
    · rintro (h|⟨b,s',h,_⟩)
      · cases h
        exact .here _ _
      · cases h
  | ask c next ih =>
    constructor
    · intro h
      cases h with
      | here => exact .inl (.here _ _)
      | ask _ _ a _ s' _ hc h =>
        rcases (ih a).mp h with h|⟨b,u,hp,hf⟩
        · exact .inl (.ask c next a s s' t hc h)
        · exact .inr ⟨b,u,.ask c next a s s' u _ hc hp,hf⟩
    · rintro (h|⟨b,u,h,hf⟩)
      · cases h with
        | here => exact .here _ _
        | ask _ _ a _ s' _ hc h => exact .ask c _ a s s' t hc ((ih a).mpr (.inl h))
      · cases h with
        | ask _ _ a _ s' _ _ hc h =>
          exact .ask c _ a s s' t hc ((ih a).mpr (.inr ⟨b,u,h,hf⟩))

end Blockstor.Framework.Shell
