import Blockstor.Framework.Shell

namespace Blockstor.Framework.Shell

variable {κ σ : Type} {ρ : κ → Type} {ε α β : Type} {env : σ → (c : κ) → ρ c → σ → Prop}

/-- Run a program in a stateful environment: `env s c a t` says that command `c` may be answered
by `a` in state `s` and then leaves `t`. -/
inductive Exec (env : σ → (c : κ) → ρ c → σ → Prop) :
    Shell ρ ε α → σ → Except ε α → σ → Prop
  | done (a : α) (s : σ) : Exec env (.done a) s (.ok a) s
  | fail (e : ε) (s : σ) : Exec env (.fail e) s (.error e) s
  | ask (c : κ) (next : ρ c → Shell ρ ε α) (a : ρ c) (s s' t : σ) (r : Except ε α)
      (hc : env s c a s') (h : Exec env (next a) s' r t) : Exec env (.ask c next) s r t

variable {s t : σ}

@[simp] theorem exec_pure {a : α} {r : Except ε α} :
    Exec env (pure a : Shell ρ ε α) s r t ↔ r=.ok a ∧ t=s := by
  constructor
  · intro h
    cases h
    exact ⟨rfl,rfl⟩
  · intro h
    obtain ⟨rfl,rfl⟩ := h
    exact .done a t

@[simp] theorem exec_throw {e : ε} {r : Except ε α} :
    Exec env (throw e : Shell ρ ε α) s r t ↔ r=.error e ∧ t=s := by
  constructor
  · intro h
    cases h
    exact ⟨rfl,rfl⟩
  · intro h
    obtain ⟨rfl,rfl⟩ := h
    exact .fail e t

theorem exec_ask {c : κ} {f : ρ c → Shell ρ ε β} {r : Except ε β} :
    Exec env (call c >>= f) s r t ↔ ∃a s',env s c a s' ∧ Exec env (f a) s' r t := by
  constructor
  · intro h
    cases h with
    | ask _ _ a _ s' _ _ hc h => exact ⟨a,s',hc,h⟩
  · intro h
    obtain ⟨a,s',hc,h⟩ := h
    exact .ask c _ a s s' t r hc h

theorem exec_bind {p : Shell ρ ε α} {f : α → Shell ρ ε β} {s t : σ} {r : Except ε β} :
    Exec env (p >>= f) s r t ↔ (∃e,Exec env p s (.error e) t ∧ r=.error e) ∨
      ∃a s',Exec env p s (.ok a) s' ∧ Exec env (f a) s' r t := by
  change Exec env (p.bind f) s r t ↔ _
  induction p generalizing s with
  | done a =>
    constructor
    · intro h
      exact .inr ⟨a,s,.done a s,h⟩
    · intro h
      rcases h with ⟨e,h,_⟩|⟨b,s',h,hf⟩
      · cases h
      · cases h
        exact hf
  | fail e =>
    constructor
    · intro h
      cases h
      exact .inl ⟨e,.fail e _,rfl⟩
    · intro h
      rcases h with ⟨e',h,rfl⟩|⟨b,s',h,_⟩
      · cases h
        exact .fail e _
      · cases h
  | ask c next ih =>
    constructor
    · intro h
      cases h with
      | ask _ _ a _ s' _ _ hc h =>
        rcases (ih a).mp h with ⟨e,hp,he⟩|⟨b,u,hp,hf⟩
        · exact .inl ⟨e,.ask c next a s s' t _ hc hp,he⟩
        · exact .inr ⟨b,u,.ask c next a s s' u _ hc hp,hf⟩
    · intro h
      rcases h with ⟨e,h,he⟩|⟨b,u,h,hf⟩
      · cases h with
        | ask _ _ a _ s' _ _ hc h => exact .ask c _ a s s' t r hc ((ih a).mpr (.inl ⟨e,h,he⟩))
      · cases h with
        | ask _ _ a _ s' _ _ hc h =>
          exact .ask c _ a s s' t r hc ((ih a).mpr (.inr ⟨b,u,h,hf⟩))

theorem exec_call {c : κ} {r : Except ε (ρ c)} :
    Exec env (call c : Shell ρ ε (ρ c)) s r t ↔ ∃a,env s c a t ∧ r=.ok a := by
  constructor
  · intro h
    cases h with
    | ask _ _ a _ s' _ _ hc h =>
      cases h
      exact ⟨a,hc,rfl⟩
  · intro h
    obtain ⟨a,hc,rfl⟩ := h
    exact .ask c _ a s t t _ hc (.done a t)

/-- A sequence that ends well ran both parts well. -/
theorem exec_bind_ok {p : Shell ρ ε α} {f : α → Shell ρ ε β} {b : β} :
    Exec env (p >>= f) s (.ok b) t ↔
      ∃a s',Exec env p s (.ok a) s' ∧ Exec env (f a) s' (.ok b) t := by
  rw [exec_bind]
  constructor
  · intro h
    rcases h with ⟨e,_,he⟩|h
    · cases he
    · exact h
  · exact .inr

def attempt {ε' : Type} : Shell ρ ε α → Shell ρ ε' (Except ε α)
  | .done a => .done (.ok a)
  | .fail e => .done (.error e)
  | .ask c next => .ask c fun a => (next a).attempt

theorem exec_attempt {ε' : Type} {p : Shell ρ ε α} {s t : σ} {r : Except ε' (Except ε α)} :
    Exec env p.attempt s r t ↔ ∃x,Exec env p s x t ∧ r=.ok x := by
  induction p generalizing s with
  | done a =>
    constructor
    · intro h
      cases h
      exact ⟨.ok a,.done a _,rfl⟩
    · intro h
      obtain ⟨x,hx,rfl⟩ := h
      cases hx
      exact .done _ _
  | fail e =>
    constructor
    · intro h
      cases h
      exact ⟨.error e,.fail e _,rfl⟩
    · intro h
      obtain ⟨x,hx,rfl⟩ := h
      cases hx
      exact .done _ _
  | ask c next ih =>
    constructor
    · intro h
      cases h with
      | ask _ _ a _ s' _ _ hc h =>
        obtain ⟨x,hx,hr⟩ := (ih a).mp h
        exact ⟨x,.ask c next a s s' t x hc hx,hr⟩
    · intro h
      obtain ⟨x,hx,hr⟩ := h
      cases hx with
      | ask _ _ a _ s' _ _ hc hx =>
        exact .ask c _ a s s' t r hc ((ih a).mpr ⟨x,hx,hr⟩)

theorem Exec.mono {env' : σ → (c : κ) → ρ c → σ → Prop} {p : Shell ρ ε α} {r : Except ε α}
    (h : Exec env p s r t) (henv : ∀s c a t,env s c a t → env' s c a t) : Exec env' p s r t := by
  induction h with
  | done a s => exact .done a s
  | fail e s => exact .fail e s
  | ask c next a s s' t r hc _ ih => exact .ask c next a s s' t r (henv s c a s' hc) ih

/-- What every command of a program preserves, the program preserves. -/
theorem Exec.invariant {p : Shell ρ ε α} {r : Except ε α} (h : Exec env p s r t)
    (P : Entry ρ → Prop) (I : σ → Prop) (hp : Emits p P)
    (hstep : ∀s c a t,P ⟨c,a⟩ → I s → env s c a t → I t) (hs : I s) : I t := by
  have hlog : ∃log,Runs p log r ∧ ((∀x∈log,P x) → I s → I t) := by
    clear hp hs
    induction h with
    | done a s => exact ⟨[],.done a,fun _ h => h⟩
    | fail e s => exact ⟨[],.fail e,fun _ h => h⟩
    | ask c next a s s' t r hc _ ih =>
      obtain ⟨log,hruns,hkeep⟩ := ih
      refine ⟨⟨c,a⟩::log,.ask c next a log r hruns,fun hall hs => ?_⟩
      exact hkeep (fun x hx => hall x (List.mem_cons_of_mem _ hx))
        (hstep s c a s' (hall _ List.mem_cons_self) hs hc)
  obtain ⟨log,hruns,hkeep⟩ := hlog
  exact hkeep (hp log r hruns) hs

def Stays (env : σ → (c : κ) → ρ c → σ → Prop) (p : Shell ρ ε α) : Prop :=
  ∀s r t,Exec env p s r t → t=s

theorem stays_pure (a : α) : Stays env (pure a : Shell ρ ε α) :=
  fun _ _ _ h => (exec_pure.mp h).2

theorem stays_throw (e : ε) : Stays env (throw e : Shell ρ ε α) :=
  fun _ _ _ h => (exec_throw.mp h).2

theorem Stays.bind {p : Shell ρ ε α} {f : α → Shell ρ ε β} (hp : Stays env p)
    (hf : ∀a,Stays env (f a)) : Stays env (p >>= f) := by
  intro s r t h
  rcases exec_bind.mp h with ⟨_,h,_⟩|⟨a,u,hu,h⟩
  · exact hp s _ t h
  · exact (hf a u r t h).trans (hp s _ u hu)

theorem stays_call (c : κ) (hc : ∀s a t,env s c a t → t=s) :
    Stays env (call c : Shell ρ ε (ρ c)) := by
  intro s r t h
  obtain ⟨a,h,_⟩ := exec_call.mp h
  exact hc s a t h

/-- Whatever the answers, the program runs only commands with `ok`. -/
def Calls (ok : κ → Prop) : Shell ρ ε α → Prop
  | .done _ => True
  | .fail _ => True
  | .ask c next => ok c ∧ ∀a,(next a).Calls ok

section Calls

variable {ok ok' : κ → Prop} {p : Shell ρ ε α} {f : α → Shell ρ ε β}

theorem calls_ask {c : κ} {f : ρ c → Shell ρ ε β} (h : ok c) (hf : ∀a,(f a).Calls ok) :
    (call c >>= f).Calls ok := ⟨h,hf⟩

theorem Calls.bind (hp : p.Calls ok) (hf : ∀a,(f a).Calls ok) : (p >>= f).Calls ok := by
  change (p.bind f).Calls ok
  induction p with
  | done a => exact hf a
  | fail e => trivial
  | ask c next ih => exact ⟨hp.1,fun a => ih a (hp.2 a)⟩

theorem Calls.mono (hp : p.Calls ok) (h : ∀c,ok c → ok' c) : p.Calls ok' := by
  induction p with
  | done a => trivial
  | fail e => trivial
  | ask c next ih => exact ⟨h c hp.1,fun a => ih a (hp.2 a)⟩

theorem Calls.stays (hp : p.Calls ok) (h : ∀s c a t,ok c → env s c a t → t=s) : Stays env p := by
  induction p with
  | done a => exact stays_pure a
  | fail e => exact stays_throw e
  | ask c next ih =>
    exact (stays_call c fun s a t => h s c a t hp.1).bind fun a => ih a (hp.2 a)

end Calls

/-- From `s` the program leaves the state alone, and what it returns satisfies `Q`. -/
def Yields (env : σ → (c : κ) → ρ c → σ → Prop) (s : σ) (p : Shell ρ ε α) (Q : α → Prop) : Prop :=
  ∀r t,Exec env p s r t → t=s ∧ ∀a,r=.ok a → Q a

section Yields

variable {Q : α → Prop} {R : β → Prop} {p : Shell ρ ε α} {f : α → Shell ρ ε β}

theorem yields_pure {a : α} (h : Q a) : Yields env s (pure a : Shell ρ ε α) Q := by
  intro r t hx
  obtain ⟨rfl,rfl⟩ := exec_pure.mp hx
  refine ⟨rfl,fun b hb => ?_⟩
  cases hb
  exact h

theorem yields_throw {e : ε} : Yields env s (throw e : Shell ρ ε α) Q := by
  intro r t hx
  obtain ⟨rfl,rfl⟩ := exec_throw.mp hx
  exact ⟨rfl,fun b hb => by cases hb⟩

theorem yields_call {c : κ} {Q : ρ c → Prop} (h : ∀a t,env s c a t → t=s ∧ Q a) :
    Yields env s (call c : Shell ρ ε (ρ c)) Q := by
  intro r t hx
  obtain ⟨a,ha,rfl⟩ := exec_call.mp hx
  refine ⟨(h a t ha).1,fun b hb => ?_⟩
  cases hb
  exact (h a t ha).2

/-- What comes after a program that only reads starts in the same state. -/
theorem Yields.exec_bind (hp : Yields env s p Q) {r : Except ε β} (h : Exec env (p >>= f) s r t) :
    (∃e,r=.error e ∧ t=s) ∨ ∃a,Q a ∧ Exec env (f a) s r t := by
  rcases Shell.exec_bind.mp h with ⟨e,hfail,hr⟩|⟨a,u,hread,hrest⟩
  · exact .inl ⟨e,hr,(hp _ _ hfail).1⟩
  · obtain ⟨rfl,hQ⟩ := hp _ _ hread
    exact .inr ⟨a,hQ a rfl,hrest⟩

theorem Yields.bind (hp : Yields env s p Q) (hf : ∀a,Q a → Yields env s (f a) R) :
    Yields env s (p >>= f) R := by
  intro r t h
  rcases hp.exec_bind h with ⟨e,rfl,ht⟩|⟨a,ha,h⟩
  · exact ⟨ht,fun b hb => by cases hb⟩
  · exact hf a ha r t h

theorem Yields.mono {Q' : α → Prop} (hp : Yields env s p Q) (h : ∀a,Q a → Q' a) :
    Yields env s p Q' :=
  fun r t hx => ⟨(hp r t hx).1,fun a ha => h a ((hp r t hx).2 a ha)⟩

theorem Yields.attempt {ε' : Type} (hp : Yields env s p Q) :
    Yields env s (p.attempt : Shell ρ ε' (Except ε α)) fun x => ∀a,x=.ok a → Q a := by
  intro r t h
  obtain ⟨x,hx,rfl⟩ := exec_attempt.mp h
  refine ⟨(hp x t hx).1,fun y hy => ?_⟩
  cases hy
  exact (hp x t hx).2

end Yields

def simulate (answer : σ → (c : κ) → ρ c × σ) : Shell ρ ε α → σ → Except ε α × σ
  | .done a,s => (.ok a,s)
  | .fail e,s => (.error e,s)
  | .ask c next,s => simulate answer (next (answer s c).1) (answer s c).2

theorem simulate_ask (answer : σ → (c : κ) → ρ c × σ) (c : κ) (f : ρ c → Shell ρ ε β) (s : σ) :
    (call c >>= f).simulate answer s=(f (answer s c).1).simulate answer (answer s c).2 := rfl

theorem simulate_bind (answer : σ → (c : κ) → ρ c × σ) (p : Shell ρ ε α) (f : α → Shell ρ ε β)
    (s : σ) : (p >>= f).simulate answer s=match p.simulate answer s with
      | (.ok a,t) => (f a).simulate answer t
      | (.error e,t) => (.error e,t) := by
  change (p.bind f).simulate answer s=_
  induction p generalizing s with
  | done a => rfl
  | fail e => rfl
  | ask c next ih => exact ih _ _

theorem simulate_attempt {ε' : Type} (answer : σ → (c : κ) → ρ c × σ) (p : Shell ρ ε α) (s : σ) :
    (p.attempt : Shell ρ ε' _).simulate answer s=
      (.ok (p.simulate answer s).1,(p.simulate answer s).2) := by
  induction p generalizing s with
  | done a => rfl
  | fail e => rfl
  | ask c next ih => exact ih _ _

theorem exec_simulate (answer : σ → (c : κ) → ρ c × σ)
    (h : ∀s c,env s c (answer s c).1 (answer s c).2) (p : Shell ρ ε α) (s : σ) :
    Exec env p s (simulate answer p s).1 (simulate answer p s).2 := by
  induction p generalizing s with
  | done a => exact .done a s
  | fail e => exact .fail e s
  | ask c next ih => exact .ask c next _ s _ _ _ (h s c) (ih _ _)

end Blockstor.Framework.Shell
