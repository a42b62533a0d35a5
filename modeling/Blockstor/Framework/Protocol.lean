import Blockstor.Framework.Machine

namespace Blockstor.Framework

/-- A protocol for programs that call out. A note keeps what a program has seen so far, and says
which commands it may run next; `possible` are the answers the environment can give. -/
structure Protocol {κ : Type} (ρ : κ → Type) (μ : Type) where
  start : μ
  next : μ → (c : κ) → ρ c → μ
  may : μ → κ → Prop
  possible : (c : κ) → ρ c → Prop

namespace Shell

variable {κ μ : Type} {ρ : κ → Type} {ε ε' α β : Type}

/-- Whatever the answers, the program runs only commands its note allows, and ends in a result and
a note that satisfy `Q`. -/
def Follows (P : Protocol ρ μ) : Shell ρ ε α → μ → (Except ε α → μ → Prop) → Prop
  | .done a,m,Q => Q (.ok a) m
  | .fail e,m,Q => Q (.error e) m
  | .ask c next,m,Q =>
      P.may m c ∧ ∀a,P.possible c a → (next a).Follows P (P.next m c a) Q

variable {P : Protocol ρ μ} {m : μ}

theorem follows_ask {c : κ} {f : ρ c → Shell ρ ε β} {Q : Except ε β → μ → Prop} :
    (call c >>= f).Follows P m Q ↔
      P.may m c ∧ ∀a,P.possible c a → (f a).Follows P (P.next m c a) Q := Iff.rfl

theorem Follows.mono {p : Shell ρ ε α} {Q R : Except ε α → μ → Prop} (h : p.Follows P m Q)
    (hQR : ∀r m,Q r m → R r m) : p.Follows P m R := by
  induction p generalizing m with
  | done a => exact hQR _ _ h
  | fail e => exact hQR _ _ h
  | ask c next ih => exact ⟨h.1,fun a ha => ih a (h.2 a ha)⟩

/-- The rule of sequence. -/
theorem Follows.bind {p : Shell ρ ε α} {f : α → Shell ρ ε β} {R : Except ε α → μ → Prop}
    {Q : Except ε β → μ → Prop} (h : p.Follows P m R)
    (hok : ∀a m,R (.ok a) m → (f a).Follows P m Q)
    (herror : ∀e m,R (.error e) m → Q (.error e) m) : (p >>= f).Follows P m Q := by
  change (p.bind f).Follows P m Q
  induction p generalizing m with
  | done a => exact hok a m h
  | fail e => exact herror e m h
  | ask c next ih => exact ⟨h.1,fun a ha => ih a (h.2 a ha)⟩

theorem Follows.attempt {p : Shell ρ ε α} {Q : Except ε α → μ → Prop} (h : p.Follows P m Q) :
    (p.attempt : Shell ρ ε' _).Follows P m fun r m => ∃x,r=.ok x ∧ Q x m := by
  induction p generalizing m with
  | done a => exact ⟨_,rfl,h⟩
  | fail e => exact ⟨_,rfl,h⟩
  | ask c next ih => exact ⟨h.1,fun a ha => ih a (h.2 a ha)⟩

/-- From every note the program follows the protocol, and its note only moves along `le`. -/
def Advances (P : Protocol ρ μ) (le : μ → μ → Prop) (p : Shell ρ ε α) : Prop :=
  ∀m,p.Follows P m fun _ m' => le m m'

section

variable {le : μ → μ → Prop}

theorem advances_pure (hle : ∀m,le m m) (a : α) : (pure a : Shell ρ ε α).Advances P le :=
  fun m => hle m

theorem advances_throw (hle : ∀m,le m m) {e : ε} : (throw e : Shell ρ ε α).Advances P le :=
  fun m => hle m

theorem Advances.bind (htrans : ∀a b c,le a b → le b c → le a c) {p : Shell ρ ε α}
    {f : α → Shell ρ ε β} (hp : p.Advances P le) (hf : ∀a,(f a).Advances P le) :
    (p >>= f).Advances P le := by
  intro m
  refine (hp m).bind (fun a m' hm => ?_) fun _ _ hm => hm
  exact (hf a m').mono fun _ m'' hm' => htrans m m' m'' hm hm'

theorem Calls.advances {ok : κ → Prop} {p : Shell ρ ε α} (hp : p.Calls ok) (hle : ∀m,le m m)
    (htrans : ∀a b c,le a b → le b c → le a c) (hmay : ∀m c,ok c → P.may m c)
    (hnext : ∀m c a,ok c → le m (P.next m c a)) : p.Advances P le := by
  induction p with
  | done a => exact fun m => hle m
  | fail e => exact fun m => hle m
  | ask c next ih =>
    refine fun m => ⟨hmay m c hp.1,fun a _ => ?_⟩
    exact (ih a (hp.2 a) _).mono fun _ _ hm => htrans _ _ _ (hnext m c a hp.1) hm

theorem Advances.attempt {p : Shell ρ ε α} (hp : p.Advances P le) :
    (p.attempt : Shell ρ ε' _).Advances P le :=
  fun m => (hp m).attempt.mono fun _ _ ⟨_,_,h⟩ => h

end

end Shell
end Blockstor.Framework
