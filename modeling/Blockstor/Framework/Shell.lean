import Mathlib

namespace Blockstor.Framework

/-- Programs that call out: each command `c : κ` is answered by the environment with a value of
`ρ c`, and the program may fail with an error of `ε`. Nothing is assumed about the answers. -/
inductive Shell {κ : Type} (ρ : κ → Type) (ε α : Type) : Type
  | done (a : α)
  | fail (e : ε)
  | ask (c : κ) (next : ρ c → Shell ρ ε α)

abbrev Entry {κ : Type} (ρ : κ → Type) := Σ c : κ, ρ c

namespace Shell

variable {κ : Type} {ρ : κ → Type} {ε α β : Type}

protected def bind : Shell ρ ε α → (α → Shell ρ ε β) → Shell ρ ε β
  | .done a,f => f a
  | .fail e,_ => .fail e
  | .ask c next,f => .ask c fun a => (next a).bind f

instance : Monad (Shell ρ ε) where
  pure := .done
  bind := Shell.bind

def call (c : κ) : Shell ρ ε (ρ c) := .ask c .done

def throw (e : ε) : Shell ρ ε α := .fail e

def ended : Shell ρ ε α → Bool
  | .ask _ _ => false
  | _ => true

/-- `Runs p log r`: some environment makes `p` run exactly the commands of `log`, with the
answers recorded there, and end in `r`. -/
inductive Runs : Shell ρ ε α → List (Entry ρ) → Except ε α → Prop
  | done (a : α) : Runs (.done a) [] (.ok a)
  | fail (e : ε) : Runs (.fail e) [] (.error e)
  | ask (c : κ) (next : ρ c → Shell ρ ε α) (a : ρ c) (log : List (Entry ρ)) (r : Except ε α)
      (h : Runs (next a) log r) : Runs (.ask c next) (⟨c,a⟩::log) r

variable {log : List (Entry ρ)} {r : Except ε α}

@[simp] theorem runs_pure (a : α) : Runs (pure a : Shell ρ ε α) log r ↔ log=[] ∧ r=.ok a := by
  constructor
  · intro h
    cases h
    exact ⟨rfl,rfl⟩
  · rintro ⟨rfl,rfl⟩
    exact .done a

@[simp] theorem runs_throw (e : ε) : Runs (throw e : Shell ρ ε α) log r ↔ log=[] ∧ r=.error e := by
  constructor
  · intro h
    cases h
    exact ⟨rfl,rfl⟩
  · rintro ⟨rfl,rfl⟩
    exact .fail e

@[simp] theorem runs_call (c : κ) {log : List (Entry ρ)} {r : Except ε (ρ c)} :
    Runs (call c : Shell ρ ε (ρ c)) log r ↔ ∃a,log=[⟨c,a⟩] ∧ r=.ok a := by
  constructor
  · intro h
    cases h with
    | ask _ _ a _ _ h =>
      cases h
      exact ⟨a,rfl,rfl⟩
  · rintro ⟨a,rfl,rfl⟩
    exact .ask c _ a _ _ (.done a)

/-- A sequence fails in its first part, or runs the first part and then the second. -/
theorem runs_bind {p : Shell ρ ε α} {f : α → Shell ρ ε β} {log : List (Entry ρ)}
    {r : Except ε β} : Runs (p >>= f) log r ↔
      (∃e,Runs p log (.error e) ∧ r=.error e) ∨
      (∃a front back,Runs p front (.ok a) ∧ Runs (f a) back r ∧ log=front++back) := by
  change Runs (p.bind f) log r ↔ _
  induction p generalizing log with
  | done a =>
    constructor
    · intro h
      exact .inr ⟨a,[],log,.done a,h,rfl⟩
    · rintro (⟨e,h,rfl⟩|⟨b,front,back,h,hf,rfl⟩)
      · cases h
      · cases h
        exact hf
  | fail e =>
    constructor
    · intro h
      cases h
      exact .inl ⟨e,.fail e,rfl⟩
    · rintro (⟨e',h,rfl⟩|⟨b,front,back,h,_,rfl⟩)
      · cases h
        exact .fail e
      · cases h
  | ask c next ih =>
    constructor
    · intro h
      cases h with
      | ask _ _ a rest _ h =>
        rcases (ih a).mp h with ⟨e,hp,rfl⟩|⟨b,front,back,hp,hf,rfl⟩
        · exact .inl ⟨e,.ask c next a rest _ hp,rfl⟩
        · exact .inr ⟨b,⟨c,a⟩::front,back,.ask c next a front _ hp,hf,rfl⟩
    · rintro (⟨e,h,rfl⟩|⟨b,front,back,h,hf,rfl⟩)
      · cases h with
        | ask _ _ a rest _ h =>
          exact .ask c _ a rest _ ((ih a).mpr (.inl ⟨e,h,rfl⟩))
      · cases h with
        | ask _ _ a rest _ h =>
          exact .ask c _ a _ _ ((ih a).mpr (.inr ⟨b,rest,back,h,hf,rfl⟩))

/-- A command comes first in the log, whatever its answer leads to. -/
theorem runs_ask {c : κ} {f : ρ c → Shell ρ ε β} {log : List (Entry ρ)} {r : Except ε β} :
    Runs (call c >>= f) log r ↔ ∃a rest,log=⟨c,a⟩::rest ∧ Runs (f a) rest r := by
  constructor
  · intro h
    cases h with
    | ask _ _ a rest _ h => exact ⟨a,rest,rfl,h⟩
  · rintro ⟨a,rest,rfl,h⟩
    exact .ask c _ a rest r h

/-- Every command `p` can run satisfies `P`. -/
def Emits (p : Shell ρ ε α) (P : Entry ρ → Prop) : Prop :=
  ∀log r,Runs p log r → ∀x∈log,P x

theorem Emits.mono {p : Shell ρ ε α} {P Q : Entry ρ → Prop} (h : Emits p P)
    (hPQ : ∀x,P x → Q x) : Emits p Q :=
  fun log r hr x hx => hPQ x (h log r hr x hx)

theorem emits_pure (a : α) {P : Entry ρ → Prop} : Emits (pure a : Shell ρ ε α) P := by
  intro log r h x hx
  obtain ⟨rfl,_⟩ := (runs_pure a).mp h
  cases hx

theorem emits_throw {e : ε} {P : Entry ρ → Prop} : Emits (throw e : Shell ρ ε α) P := by
  intro log r h x hx
  obtain ⟨rfl,_⟩ := (runs_throw e).mp h
  cases hx

theorem Emits.bind {p : Shell ρ ε α} {f : α → Shell ρ ε β} {P : Entry ρ → Prop}
    (hp : Emits p P) (hf : ∀a,Emits (f a) P) : Emits (p >>= f) P := by
  intro log r h x hx
  rcases runs_bind.mp h with ⟨e,he,_⟩|⟨a,front,back,ha,hb,rfl⟩
  · exact hp _ _ he x hx
  · rcases List.mem_append.mp hx with hx|hx
    · exact hp _ _ ha x hx
    · exact hf a _ _ hb x hx

theorem Emits.ask {c : κ} {f : ρ c → Shell ρ ε β} {P : Entry ρ → Prop}
    (hc : ∀a,P ⟨c,a⟩) (hf : ∀a,Emits (f a) P) : Emits (call c >>= f) P := by
  intro log r h x hx
  obtain ⟨a,rest,rfl,hr⟩ := runs_ask.mp h
  rcases List.mem_cons.mp hx with rfl|hx
  · exact hc a
  · exact hf a rest r hr x hx

/-- The run in which command `c` is always answered by `answer c`. -/
def eval (answer : ∀c,ρ c) : Shell ρ ε α → List (Entry ρ) × Except ε α
  | .done a => ([],.ok a)
  | .fail e => ([],.error e)
  | .ask c next =>
    let rest := (next (answer c)).eval answer
    (⟨c,answer c⟩::rest.1,rest.2)

theorem runs_eval (answer : ∀c,ρ c) (p : Shell ρ ε α) :
    Runs p (p.eval answer).1 (p.eval answer).2 := by
  induction p with
  | done a => exact .done a
  | fail e => exact .fail e
  | ask c next ih => exact .ask c next _ _ _ (ih (answer c))

variable (answer : ∀c,ρ c)

@[simp] theorem eval_pure (a : α) : (pure a : Shell ρ ε α).eval answer=([],.ok a) := rfl

@[simp] theorem eval_ask (c : κ) (f : ρ c → Shell ρ ε β) : (call c >>= f).eval answer=
    (⟨c,answer c⟩::((f (answer c)).eval answer).1,((f (answer c)).eval answer).2) := rfl

theorem eval_bind_ok (p : Shell ρ ε α) (f : α → Shell ρ ε β) (a : α)
    (h : (p.eval answer).2=.ok a) : (p >>= f).eval answer=
      ((p.eval answer).1++((f a).eval answer).1,((f a).eval answer).2) := by
  change (p.bind f).eval answer=_
  induction p with
  | done b =>
    cases h
    rfl
  | fail e => cases h
  | ask c next ih =>
    have hn := ih (answer c) h
    simp only [Shell.bind,eval,hn,List.cons_append]

theorem eval_bind_error (p : Shell ρ ε α) (f : α → Shell ρ ε β) (e : ε)
    (h : (p.eval answer).2=.error e) : (p >>= f).eval answer=((p.eval answer).1,.error e) := by
  change (p.bind f).eval answer=_
  induction p with
  | done b => cases h
  | fail e' =>
    cases h
    rfl
  | ask c next ih =>
    have hn := ih (answer c) h
    simp only [Shell.bind,eval,hn]

end Shell
end Blockstor.Framework
