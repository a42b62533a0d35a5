import Mathlib

namespace Blockstor.Framework

inductive Run {σ ε : Type} (step : σ → ε → σ → Prop) : σ → List ε → σ → Prop
  | nil (s : σ) : Run step s [] s
  | cons (s t u : σ) (e : ε) (es : List ε) (h : step s e t) (hs : Run step t es u) :
      Run step s (e::es) u

def guarded {σ ε : Type} (guard : σ → ε → Prop) (step : σ → ε → σ → Prop) (s : σ) (e : ε)
    (t : σ) : Prop := guard s e ∧ step s e t

variable {σ ε : Type} {step : σ → ε → σ → Prop}

theorem Run.mono {step' : σ → ε → σ → Prop} {s t : σ} {es : List ε} (h : Run step s es t)
    (hmono : ∀s e t,step s e t → step' s e t) : Run step' s es t := by
  induction h with
  | nil s => exact .nil s
  | cons s t u e es h _ ih => exact .cons s t u e es (hmono s e t h) ih

theorem Run.append {s t u : σ} {es es' : List ε} (h : Run step s es t) (h' : Run step t es' u) :
    Run step s (es++es') u := by
  induction h with
  | nil s => exact h'
  | cons s t _ e es h _ ih => exact .cons s t u e _ h (ih h')

/-- What every step with such a label preserves, a run of such labels preserves. -/
theorem Run.invariant_of {s t : σ} {es : List ε} (h : Run step s es t) (label : ε → Prop)
    (P : σ → Prop) (hes : ∀e∈es,label e)
    (hstep : ∀s e t,label e → P s → step s e t → P t) (hs : P s) : P t := by
  induction h with
  | nil => exact hs
  | cons s t u e es h _ ih =>
    exact ih (fun e he => hes e (List.mem_cons_of_mem _ he))
      (hstep s e t (hes e List.mem_cons_self) hs h)

theorem Run.invariant {s t : σ} {es : List ε} (h : Run step s es t) (P : σ → Prop)
    (hstep : ∀s e t,P s → step s e t → P t) (hs : P s) : P t :=
  h.invariant_of (fun _ => True) P (fun _ _ => trivial) (fun s e t _ => hstep s e t) hs

/-- The run before and after one of its steps. -/
theorem Run.split {s t : σ} {es : List ε} (h : Run step s es t) {e : ε} (he : e∈es) :
    ∃es₁ u v es₂,es=es₁++e::es₂ ∧ Run step s es₁ u ∧ step u e v ∧ Run step v es₂ t := by
  induction h with
  | nil => cases he
  | cons s u t e' es h hs ih =>
    rcases List.mem_cons.mp he with rfl|he
    · exact ⟨[],s,u,es,rfl,.nil s,h,hs⟩
    · obtain ⟨es₁,v,w,es₂,rfl,h₁,hvw,h₂⟩ := ih he
      exact ⟨e'::es₁,v,w,es₂,rfl,.cons _ _ _ _ _ h h₁,hvw,h₂⟩

section Along

variable (next : σ → ε → σ)

def Always (P : σ → Prop) (s : σ) : List ε → Prop
  | [] => P s
  | e::es => P s ∧ Always P (next s e) es

def Each (guard : σ → ε → Prop) (s : σ) : List ε → Prop
  | [] => True
  | e::es => guard s e ∧ Each guard (next s e) es

/-- If the condition is what one step needs, it is what every row of steps needs. -/
theorem always_iff_each {P I : σ → Prop} {guard : σ → ε → Prop} (hI : ∀s,I s → P s)
    (hkeep : ∀s e,I s → guard s e → I (next s e)) (hneed : ∀s e,I s → P (next s e) → guard s e)
    (s : σ) (es : List ε) (hs : I s) : Always next P s es ↔ Each next guard s es := by
  induction es generalizing s with
  | nil => exact iff_of_true (hI s hs) trivial
  | cons e es ih =>
    constructor
    · rintro ⟨_,hrest⟩
      have hnext : P (next s e) := by
        cases es with
        | nil => exact hrest
        | cons _ _ => exact hrest.1
      have hguard := hneed s e hs hnext
      exact ⟨hguard,(ih _ (hkeep s e hs hguard)).mp hrest⟩
    · rintro ⟨hguard,hrest⟩
      exact ⟨hI s hs,(ih _ (hkeep s e hs hguard)).mpr hrest⟩

end Along

section Schedule

variable {τ : Type} (act : σ → τ → Option (ε × σ))

def acts (s : σ) : List τ → List ε × σ
  | [] => ([],s)
  | x::xs =>
    match act s x with
    | none => acts s xs
    | some (e,t) => (e::(acts t xs).1,(acts t xs).2)

def actsAll (check : σ → τ → Bool) (s : σ) : List τ → Bool
  | [] => true
  | x::xs => check s x &&
    match act s x with
    | none => actsAll check s xs
    | some (_,t) => actsAll check t xs

variable {act}

theorem run_acts (check : σ → τ → Bool)
    (hact : ∀s x e t,check s x=true → act s x=some (e,t) → step s e t) (xs : List τ) (s : σ)
    (hcheck : actsAll act check s xs=true) : Run step s (acts act s xs).1 (acts act s xs).2 := by
  induction xs generalizing s with
  | nil => exact .nil s
  | cons x xs ih =>
    unfold actsAll at hcheck
    obtain ⟨hx,hrest⟩ := (Bool.and_eq_true _ _).mp hcheck
    unfold acts
    split at hrest
    · exact ih s hrest
    · rename_i e t hsome
      exact .cons _ t _ _ _ (hact s x e t hx hsome) (ih t hrest)

end Schedule

end Blockstor.Framework
