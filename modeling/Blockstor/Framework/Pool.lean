import Blockstor.Framework.Protocol
import Blockstor.Framework.Transition

namespace Blockstor.Framework

open Shell Function

structure Thread {κ : Type} (ρ : κ → Type) (ε α μ : Type) where
  prog : Shell ρ ε α
  note : μ

structure Pool {κ : Type} (σ ι : Type) (ρ : κ → Type) (ε α μ : Type) where
  shared : σ
  threads : ι → Option (Thread ρ ε α μ)

/-- What may happen next: a program starts, runs one command, ends or dies, or something else
changes the shared state. -/
inductive PoolEvent {κ : Type} (ι : Type) (ρ : κ → Type) (η : Type)
  | start (i : ι)
  | call (i : ι) (c : κ) (a : ρ c)
  | stop (i : ι)
  | other (e : η)

/-- What the pool runs: a program and a protocol for every name, an environment that answers the
commands, and the other changes. `post` is what a program that ends leaves noted. -/
structure Workload {κ : Type} (σ ι : Type) (ρ : κ → Type) (ε α μ η : Type) where
  prog : ι → Shell ρ ε α
  protocol : ι → Protocol ρ μ
  env : σ → (c : κ) → ρ c → σ → Prop
  other : σ → η → σ → Prop
  post : ι → Except ε α → μ → Prop := fun _ _ _ => True

namespace Pool

variable {κ σ ι : Type} {ρ : κ → Type} {ε α μ η : Type} [DecidableEq ι]
  (W : Workload σ ι ρ ε α μ η)

def idle (s : σ) : Pool σ ι ρ ε α μ := ⟨s,fun _ => none⟩

def Step (s : Pool σ ι ρ ε α μ) (e : PoolEvent ι ρ η) (t : Pool σ ι ρ ε α μ) : Prop :=
  match e with
  | .start i => s.threads i=none ∧
      t=⟨s.shared,update s.threads i (some ⟨W.prog i,(W.protocol i).start⟩)⟩
  | .call i c a => ∃next m,s.threads i=some ⟨.ask c next,m⟩ ∧ W.env s.shared c a t.shared ∧
      t.threads=update s.threads i (some ⟨next a,(W.protocol i).next m c a⟩)
  | .stop i => t=⟨s.shared,update s.threads i none⟩
  | .other e => W.other s.shared e t.shared ∧ t.threads=s.threads

def Following (s : Pool σ ι ρ ε α μ) : Prop :=
  ∀i th,s.threads i=some th → th.prog.Follows (W.protocol i) th.note (W.post i)

/-- The programs of the workload follow their protocols, and the environment gives only answers
the protocols reckon with. -/
structure Sound : Prop where
  follows : ∀i,(W.prog i).Follows (W.protocol i) (W.protocol i).start (W.post i)
  answers : ∀i s c a t,W.env s c a t → (W.protocol i).possible c a

variable {W} {s t : Pool σ ι ρ ε α μ}

omit [DecidableEq ι] in
theorem following_idle (s : σ) : Following W (idle s : Pool σ ι ρ ε α μ) := by
  intro i th h
  cases h

theorem Following.update (h : Following W s) (u : σ) (i : ι) (x : Option (Thread ρ ε α μ))
    (hx : ∀th∈x,th.prog.Follows (W.protocol i) th.note (W.post i)) :
    Following W ⟨u,update s.threads i x⟩ := by
  intro j th hth
  by_cases hj : j=i
  · subst hj
    change Function.update s.threads j x j=some th at hth
    rw [update_self] at hth
    exact hx th hth
  · change Function.update s.threads i x j=some th at hth
    rw [update_of_ne hj] at hth
    exact h j th hth

theorem Following.step (hW : Sound W) (h : Following W s) (e : PoolEvent ι ρ η)
    (hstep : Step W s e t) : Following W t := by
  obtain ⟨u,ts⟩ := t
  cases e with
  | start i =>
    obtain ⟨_,ht⟩ := hstep
    cases ht
    refine h.update _ i _ fun th hth => ?_
    cases hth
    exact hW.follows i
  | call i c a =>
    obtain ⟨next,m,hi,henv,ht⟩ := hstep
    cases ht
    refine h.update u i _ fun th hth => ?_
    cases hth
    exact (h i _ hi).2 a (hW.answers i _ c a _ henv)
  | stop i =>
    cases hstep
    exact h.update _ i none nofun
  | other e =>
    obtain ⟨_,ht⟩ := hstep
    cases ht
    exact h

/-- In every run the programs stay within their protocols. -/
theorem following_run (hW : Sound W) (guard : Pool σ ι ρ ε α μ → PoolEvent ι ρ η → Prop) (s : σ)
    (es : List (PoolEvent ι ρ η)) (h : Run (guarded guard (Step W)) (idle s) es t) :
    Following W t :=
  h.invariant (Following W) (fun _ e _ hf hs => hf.step hW e hs.2) (following_idle s)

/-- A program that is never started does not run. -/
theorem unstarted {guard : Pool σ ι ρ ε α μ → PoolEvent ι ρ η → Prop} {i : ι}
    {es : List (PoolEvent ι ρ η)} (h : Run (guarded guard (Step W)) s es t)
    (hes : ∀e∈es,e≠.start i) (hs : s.threads i=none) : t.threads i=none := by
  refine h.invariant_of (fun e => e≠.start i) (fun s => s.threads i=none) hes ?_ hs
  rintro s e t he hi ⟨_,hstep⟩
  cases e with
  | start j =>
    obtain ⟨_,rfl⟩ := hstep
    have hne : i≠j := fun h => he (by rw [h])
    change update s.threads j _ i=none
    rw [update_of_ne hne]
    exact hi
  | call j c a =>
    obtain ⟨next,m,hj,_,ht⟩ := hstep
    have hne : i≠j := by
      rintro rfl
      rw [hi] at hj
      cases hj
    rw [ht,update_of_ne hne]
    exact hi
  | stop j =>
    cases hstep
    change update s.threads j none i=none
    by_cases hij : i=j
    · rw [hij,update_self]
    · rw [update_of_ne hij]
      exact hi
  | other c =>
    rw [hstep.2]
    exact hi

def notes (s : Pool σ ι ρ ε α μ) (i : ι) : Option μ := (s.threads i).map Thread.note

inductive NoteStep (W : Workload σ ι ρ ε α μ η) (s : Pool σ ι ρ ε α μ) :
    PoolEvent ι ρ η → Pool σ ι ρ ε α μ → Prop
  | start (i : ι) (t : Pool σ ι ρ ε α μ) (hi : s.notes i=none) (hs : t.shared=s.shared)
      (ht : t.notes=update s.notes i (some (W.protocol i).start)) :
      NoteStep W s (.start i) t
  | call (i : ι) (c : κ) (a : ρ c) (m : μ) (t : Pool σ ι ρ ε α μ) (hi : s.notes i=some m)
      (hmay : (W.protocol i).may m c) (henv : W.env s.shared c a t.shared)
      (ht : t.notes=update s.notes i (some ((W.protocol i).next m c a))) :
      NoteStep W s (.call i c a) t
  | stop (i : ι) (t : Pool σ ι ρ ε α μ) (hs : t.shared=s.shared)
      (ht : t.notes=update s.notes i none) : NoteStep W s (.stop i) t
  | other (e : η) (t : Pool σ ι ρ ε α μ) (he : W.other s.shared e t.shared)
      (ht : t.notes=s.notes) : NoteStep W s (.other e) t

theorem notes_update (f : ι → Option (Thread ρ ε α μ)) (i : ι) (th : Option (Thread ρ ε α μ))
    (s : σ) : (⟨s,update f i th⟩ : Pool σ ι ρ ε α μ).notes=
      update (⟨s,f⟩ : Pool σ ι ρ ε α μ).notes i (th.map Thread.note) := by
  funext j
  by_cases hj : j=i
  · subst hj
    simp [notes]
  · simp [notes,update_of_ne hj]

/-- Looking up a note after one of them was replaced. -/
theorem update_some {β : Type} {f : ι → Option β} {i j : ι} {x : Option β} {b : β}
    (h : update f i x j=some b) : j=i ∧ x=some b ∨ j≠i ∧ f j=some b := by
  by_cases hj : j=i
  · subst hj
    rw [update_self] at h
    exact .inl ⟨rfl,h⟩
  · rw [update_of_ne hj] at h
    exact .inr ⟨hj,h⟩

/-- What holds of every note holds of every note after a step, once it is checked for a note that
starts, for the caller, and for those who see the shared state change. -/
theorem NoteStep.each {e : PoolEvent ι ρ η} (h : NoteStep W s e t) (P : σ → ι → μ → Prop)
    (hP : ∀i m,s.notes i=some m → P s.shared i m)
    (hstart : ∀i,P s.shared i (W.protocol i).start)
    (hcall : ∀i c a m,e=.call i c a → s.notes i=some m → (W.protocol i).may m c →
      W.env s.shared c a t.shared → P t.shared i ((W.protocol i).next m c a) ∧
        ∀j n,j≠i → s.notes j=some n → P t.shared j n)
    (hother : ∀c,e=.other c → W.other s.shared c t.shared →
      ∀j n,s.notes j=some n → P t.shared j n) :
    ∀j n,t.notes j=some n → P t.shared j n := by
  intro j n hj
  cases h with
  | start i _ _ hs ht =>
    rw [ht] at hj
    rw [hs]
    rcases update_some hj with ⟨rfl,hx⟩|⟨_,hx⟩
    · cases hx
      exact hstart j
    · exact hP j n hx
  | stop i _ hs ht =>
    rw [ht] at hj
    rw [hs]
    rcases update_some hj with ⟨_,hx⟩|⟨_,hx⟩
    · cases hx
    · exact hP j n hx
  | call i c a m _ hi hmay henv ht =>
    obtain ⟨hown,hrest⟩ := hcall i c a m rfl hi hmay henv
    rw [ht] at hj
    rcases update_some hj with ⟨rfl,hx⟩|⟨hne,hx⟩
    · cases hx
      exact hown
    · exact hrest j n hne hx
  | other c _ he ht =>
    rw [ht] at hj
    exact hother c rfl he j n hj

/-- A step of programs that follow their protocols is a step of the notes. -/
theorem Following.noteStep (h : Following W s) (e : PoolEvent ι ρ η) (hstep : Step W s e t) :
    NoteStep W s e t := by
  obtain ⟨t,ts⟩ := t
  cases e with
  | start i =>
    obtain ⟨hi,ht⟩ := hstep
    cases ht
    exact .start i _ (by rw [notes,hi]; rfl) rfl (notes_update ..)
  | call i c a =>
    obtain ⟨next,m,hi,henv,ht⟩ := hstep
    cases ht
    exact .call i c a m _ (by rw [notes,hi]; rfl) (h i _ hi).1 henv (notes_update ..)
  | stop i =>
    cases hstep
    exact .stop i _ rfl (notes_update ..)
  | other e =>
    obtain ⟨he,ht⟩ := hstep
    cases ht
    exact .other e _ he rfl

/-- What the steps of the notes preserve, together with the events so far, holds after every run. -/
theorem Following.history (hW : Sound W) (guard : Pool σ ι ρ ε α μ → PoolEvent ι ρ η → Prop)
    (I : List (PoolEvent ι ρ η) → Pool σ ι ρ ε α μ → Prop)
    (hstep : ∀h s e t,I h s → guard s e → NoteStep W s e t → I (h++[e]) t)
    (hF : Following W s) (past : List (PoolEvent ι ρ η)) (hI : I past s)
    {es : List (PoolEvent ι ρ η)} (h : Run (guarded guard (Step W)) s es t) :
    Following W t ∧ I (past++es) t := by
  induction h generalizing past with
  | nil s =>
    rw [List.append_nil]
    exact ⟨hF,hI⟩
  | cons s t u e es h _ ih =>
    have hrest := ih (hF.step hW e h.2) (past++[e]) (hstep past s e t hI h.1 (hF.noteStep e h.2))
    rwa [List.append_assoc] at hrest

/-- What the steps of the notes preserve holds in every state a run reaches. -/
theorem Following.invariant (hW : Sound W) (guard : Pool σ ι ρ ε α μ → PoolEvent ι ρ η → Prop)
    (I : Pool σ ι ρ ε α μ → Prop) (hstep : ∀s e t,I s → guard s e → NoteStep W s e t → I t)
    (hF : Following W s) (hI : I s) {es : List (PoolEvent ι ρ η)}
    (h : Run (guarded guard (Step W)) s es t) : Following W t ∧ I t :=
  hF.history hW guard (fun _ => I) (fun _ => hstep) [] hI h

theorem invariant_run (hW : Sound W) (guard : Pool σ ι ρ ε α μ → PoolEvent ι ρ η → Prop) (s : σ)
    (es : List (PoolEvent ι ρ η)) (I : Pool σ ι ρ ε α μ → Prop) (hI : I (idle s))
    (hstep : ∀s e t,I s → guard s e → NoteStep W s e t → I t)
    (h : Run (guarded guard (Step W)) (idle s) es t) : I t :=
  ((following_idle s).invariant hW guard I hstep hI h).2

section Play

variable (answer : σ → (c : κ) → ρ c × σ) (P : Protocol ρ μ)

/-- Let one program run so many commands against a fixed way to answer: the commands with their
answers, and what is left of the program with its note and the shared state. -/
def play : Nat → Shell ρ ε α → σ → μ → List (Entry ρ) × Thread ρ ε α μ × σ
  | n+1,.ask c next,s,m =>
    let rest := play n (next (answer s c).1) (answer s c).2 (P.next m c (answer s c).1)
    (⟨c,(answer s c).1⟩::rest.1,rest.2)
  | _,p,s,m => ([],⟨p,m⟩,s)

def playAll (check : σ → κ → Bool) : Nat → Shell ρ ε α → σ → Bool
  | n+1,.ask c next,s => check s c && playAll check n (next (answer s c).1) (answer s c).2
  | _,_,_ => true

/-- A play is a run of any system that can take its steps. -/
theorem run_play (step : Pool σ ι ρ ε α μ → PoolEvent ι ρ η → Pool σ ι ρ ε α μ → Prop)
    (check : σ → κ → Bool) (f : ι → Option (Thread ρ ε α μ)) (i : ι)
    (hstep : ∀s c next m,check s c=true →
      step ⟨s,update f i (some ⟨.ask c next,m⟩)⟩ (.call i c (answer s c).1)
        ⟨(answer s c).2,update f i
          (some ⟨next (answer s c).1,P.next m c (answer s c).1⟩)⟩)
    (n : Nat) (p : Shell ρ ε α) (s : σ) (m : μ) (hcheck : playAll answer check n p s=true) :
    Run step ⟨s,update f i (some ⟨p,m⟩)⟩
      ((play answer P n p s m).1.map fun e => .call i e.1 e.2)
      ⟨(play answer P n p s m).2.2,update f i (some (play answer P n p s m).2.1)⟩ := by
  induction n generalizing p s m with
  | zero => exact .nil _
  | succ n ih =>
    cases p with
    | done a => exact .nil _
    | fail e => exact .nil _
    | ask c next =>
      have hc := (Bool.and_eq_true _ _).mp hcheck
      exact .cons _ _ _ _ _ (hstep s c next m hc.1) (ih _ _ _ hc.2)

end Play

variable (W) in
theorem step_call (s u : σ) (f : ι → Option (Thread ρ ε α μ)) (i : ι) (c : κ) (a : ρ c)
    (next : ρ c → Shell ρ ε α) (m : μ) (h : W.env s c a u) :
    Step W ⟨s,update f i (some ⟨.ask c next,m⟩)⟩ (.call i c a)
      ⟨u,update f i (some ⟨next a,(W.protocol i).next m c a⟩)⟩ :=
  ⟨next,m,update_self ..,h,by simp⟩

section Schedule

variable (W) (answer : σ → (c : κ) → Option (ρ c × σ)) (change : σ → η → Option σ)

/-- Give a program its turn, to start or to run its next command, or let something else happen.
A program that has ended has no turn. -/
def turn (s : Pool σ ι ρ ε α μ) : ι ⊕ η → Option (PoolEvent ι ρ η × Pool σ ι ρ ε α μ)
  | .inl i =>
    match s.threads i with
    | none => some (.start i,
        ⟨s.shared,update s.threads i (some ⟨W.prog i,(W.protocol i).start⟩)⟩)
    | some ⟨.ask c next,m⟩ => (answer s.shared c).map fun r => (.call i c r.1,
        ⟨r.2,update s.threads i (some ⟨next r.1,(W.protocol i).next m c r.1⟩)⟩)
    | some _ => none
  | .inr e => (change s.shared e).map fun t => (.other e,⟨t,s.threads⟩)

def turns (s : Pool σ ι ρ ε α μ) : List (ι ⊕ η) → List (PoolEvent ι ρ η) × Pool σ ι ρ ε α μ
  | [] => ([],s)
  | x::xs =>
    match turn W answer change s x with
    | none => turns s xs
    | some (e,t) => (e::(turns t xs).1,(turns t xs).2)

def turnsAll (check : Pool σ ι ρ ε α μ → ι ⊕ η → Bool) (s : Pool σ ι ρ ε α μ) : List (ι ⊕ η) → Bool
  | [] => true
  | x::xs => check s x &&
    match turn W answer change s x with
    | none => turnsAll check s xs
    | some (_,t) => turnsAll check t xs

variable {W answer change}

theorem step_turn (hanswer : ∀s c r,answer s c=some r → W.env s c r.1 r.2)
    (hchange : ∀s e t,change s e=some t → W.other s e t) (x : ι ⊕ η) (e : PoolEvent ι ρ η)
    (h : turn W answer change s x=some (e,t)) : Step W s e t := by
  unfold turn at h
  split at h
  · split at h
    · cases h
      exact ⟨‹_›,rfl⟩
    · obtain ⟨r,hr,hx⟩ := Option.map_eq_some_iff.mp h
      cases hx
      exact ⟨_,_,‹_›,hanswer _ _ _ hr,rfl⟩
    · cases h
  · obtain ⟨u,hu,hx⟩ := Option.map_eq_some_iff.mp h
    cases hx
    exact ⟨hchange _ _ _ hu,rfl⟩

/-- A program on its turn starts or runs a command. -/
theorem turn_program (i : ι) (e : PoolEvent ι ρ η)
    (h : turn W answer change s (.inl i)=some (e,t)) : e=.start i ∨ ∃c a,e=.call i c a := by
  unfold turn at h
  dsimp only at h
  split at h
  · cases h
    exact .inl rfl
  · obtain ⟨r,_,hx⟩ := Option.map_eq_some_iff.mp h
    cases hx
    exact .inr ⟨_,_,rfl⟩
  · cases h

/-- A schedule whose turns all pass the check is a run. -/
theorem run_turns (guard : Pool σ ι ρ ε α μ → PoolEvent ι ρ η → Prop)
    (check : Pool σ ι ρ ε α μ → ι ⊕ η → Bool)
    (hanswer : ∀s c r,answer s c=some r → W.env s c r.1 r.2)
    (hchange : ∀s e t,change s e=some t → W.other s e t)
    (hguard : ∀s x e t,check s x=true → turn W answer change s x=some (e,t) → guard s e)
    (xs : List (ι ⊕ η)) (s : Pool σ ι ρ ε α μ)
    (hcheck : turnsAll W answer change check s xs=true) :
    Run (guarded guard (Step W)) s (turns W answer change s xs).1
      (turns W answer change s xs).2 := by
  induction xs generalizing s with
  | nil => exact .nil s
  | cons x xs ih =>
    unfold turnsAll at hcheck
    obtain ⟨hx,hrest⟩ := (Bool.and_eq_true _ _).mp hcheck
    unfold turns
    split at hrest
    · exact ih s hrest
    · rename_i e t hsome
      exact .cons _ t _ _ _ ⟨hguard s x e t hx hsome,step_turn hanswer hchange x e hsome⟩
        (ih t hrest)

theorem turnsAll_of (check : Pool σ ι ρ ε α μ → ι ⊕ η → Bool) (xs : List (ι ⊕ η))
    (s : Pool σ ι ρ ε α μ) (h : ∀s,∀x∈xs,check s x=true) :
    turnsAll W answer change check s xs=true := by
  induction xs generalizing s with
  | nil => rfl
  | cons x xs ih =>
    have hrest (t : Pool σ ι ρ ε α μ) := ih t fun s y hy => h s y (List.mem_cons_of_mem _ hy)
    rw [turnsAll,h s x List.mem_cons_self,Bool.true_and]
    split
    · exact hrest s
    · exact hrest _

inductive Turn (ι η : Type)
  | go (i : ι)
  | stop (i : ι)
  | other (e : η)

variable (W answer change) in
def act (s : Pool σ ι ρ ε α μ) : Turn ι η → Option (PoolEvent ι ρ η × Pool σ ι ρ ε α μ)
  | .go i => turn W answer change s (.inl i)
  | .stop i => some (.stop i,⟨s.shared,update s.threads i none⟩)
  | .other e => turn W answer change s (.inr e)

theorem step_act (hanswer : ∀s c r,answer s c=some r → W.env s c r.1 r.2)
    (hchange : ∀s e t,change s e=some t → W.other s e t) (x : Turn ι η) (e : PoolEvent ι ρ η)
    (h : act W answer change s x=some (e,t)) : Step W s e t := by
  cases x with
  | go i => exact step_turn hanswer hchange (.inl i) e h
  | stop i =>
    cases h
    rfl
  | other c => exact step_turn hanswer hchange (.inr c) e h

end Schedule

end Pool

end Blockstor.Framework
