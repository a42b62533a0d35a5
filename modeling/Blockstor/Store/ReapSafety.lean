import Blockstor.Store.RemovalSafety

namespace Blockstor.Store

open Framework Shell Pool Function List Option

variable {past : List (PoolEvent Actor Answer Change)} {i : Actor}

namespace Note

variable {m : Note} {token d : Nat} {mark : Mark}

def token? : Note → Option Nat
  | .ticketed _ token => some token
  | .stamped _ mark => some mark.token
  | .armed _ mark => some mark.token
  | .releasing _ mark _ => some mark.token
  | .undone _ mark => some mark.token
  | .kept mark => some mark.token
  | _ => none

def unwritten? : Note → Option Nat
  | .ticketed _ token => some token
  | .stamped _ mark => some mark.token
  | _ => none

def written? : Note → Option (Nat × Mark)
  | .armed d mark => some (d,mark)
  | .releasing d mark _ => some (d,mark)
  | _ => none

theorem token_of_unwritten (h : m.unwritten?=some token) : m.token?=some token := by
  cases m <;> first | exact h | cases h

theorem token_of_written (h : m.written?=some (d,mark)) : m.token?=some mark.token := by
  cases m <;> first | (cases h; rfl) | cases h

theorem token_of_holds (h : m.holds=some (d,mark)) : m.token?=some mark.token := by
  cases m <;> first | (cases h; rfl) | cases h

theorem armed_of_written (h : m.written?=some (d,mark)) : m.armed?=some d := by
  cases m <;> first | (cases h; rfl) | cases h

theorem written_of_armed (h : m.armed?=some d) : ∃mark,m.written?=some (d,mark) := by
  cases m <;> first | (cases h; exact ⟨_,rfl⟩) | cases h

end Note

section

variable (k : MarkKind) (src snap : String)

/-- What the mark on the snapshot has to do with a removal that may not delete it: it is not one
that is still to be written, and not one that was taken off. -/
structure Absent (s : State) (m : Note) : Prop where
  unwritten : ∀token∈m.unwritten?,∀x,s.snapshot src snap=some x →
    ∀mark∈x.props.mark k,mark.token≠token
  kept : ∀mark,m=.kept mark → ∀x,s.snapshot src snap=some x → x.props.mark k≠some mark

structure Tokens (p : Removals) : Prop where
  fresh : ∀i m,p.notes i=some m → ∀token∈m.token?,token<p.shared.tokens
  apart : ∀i j m n,i≠j → p.notes i=some m → p.notes j=some n → ∀token∈m.token?,token∉n.token?
  below : ∀x,p.shared.snapshot src snap=some x → ∀mark∈x.props.mark k,mark.token<p.shared.tokens
  absent : ∀i m,p.notes i=some m → Absent k src snap p.shared m

def Owns (s : State) (m : Note) : Prop :=
  ∀d mark,m.written?=some (d,mark) → s.now ≤ d → ∀x,s.snapshot src snap=some x →
    x.props.mark k=some mark

end

section

variable {k : MarkKind} {src snap : String} {s t : State} {m m' n : Note} {op : Op}
  {mark mark' : Mark} {a : Except Err Unit}

theorem Move.token (h : Move k src snap op s m m' t) : m'.token?=m.token? ∨ m'.token?=none ∨
    m'.token?=some s.tokens ∧ s.tokens<t.tokens := by
  cases h with
  | draws _ _ _ hdraw _ htokens =>
    rcases hdraw with ⟨_,_,rfl⟩|⟨_,_,_,rfl⟩ <;> exact .inr (.inr ⟨rfl,htokens⟩)
  | marks _ _ _ _ _ _ hm' _ _ _ =>
    rcases hm' with rfl|rfl
    · exact .inl rfl
    · exact .inr (.inl rfl)
  | drops _ _ _ _ _ _ _ _ _ hm _ hm' _ _ _ =>
    rcases hm' with rfl|rfl
    · exact .inl (Note.token_of_holds hm).symm
    · exact .inr (.inl rfl)
  | keeps _ _ mark hm _ =>
    left
    rcases hm with hm|rfl
    · exact (Note.token_of_holds hm).symm
    · rfl
  | judges uid mark =>
    right
    left
    split <;> rfl
  | ends _ _ _ => exact .inr (.inl rfl)
  | _ => exact .inl rfl

variable (k m) in
/-- The mark on the snapshot stays, or a removal writes its own over one that is not live, or takes
its own off. -/
inductive Remark (now : Nat) : Option Mark → Option Mark → Prop
  | same (a : Option Mark) : Remark now a a
  | writes (d : Nat) (mark : Mark) (a : Option Mark) (hm : m=.stamped d mark)
      (hover : k=.reaping → a=some mark ∨ k.isLive a now=false) : Remark now a (some mark)
  | takesOff (d : Nat) (mark : Mark) (hm : m.holds=some (d,mark)) : Remark now (some mark) none

theorem Move.remark (h : Move k src snap op s m m' t) (y : Snapshot)
    (hy : t.snapshot src snap=some y) : ∃x,s.snapshot src snap=some x ∧
      Remark k m s.now (x.props.mark k) (y.props.mark k) := by
  have hkept (hs : Steady k src snap Kept s t) : ∃x,s.snapshot src snap=some x ∧
      Remark k m s.now (x.props.mark k) (y.props.mark k) := by
    obtain ⟨x,hx,_,hmark⟩ := hs.source y hy
    rw [hmark]
    exact ⟨x,hx,.same _⟩
  cases h with
  | quiet _ _ h => exact hkept h.toSteady
  | ends _ _ h => exact hkept h.toSteady
  | draws _ _ _ _ h _ => exact hkept h.toSteady
  | marks d mark _ x _ _ _ hx hover h =>
    obtain ⟨x',hx',_,hmark⟩ := h.source y hy
    obtain rfl := some.inj (hx.symm.trans hx')
    rw [hmark]
    exact ⟨x,hx,.writes d mark _ rfl hover⟩
  | drops _ _ d _ _ mark x _ _ hm _ _ hx hmark h =>
    obtain ⟨_,_,_,hnone⟩ := h.source y hy
    rw [hnone]
    exact ⟨x,hx,hmark ▸ .takesOff d mark hm⟩
  | releases _ _ _ _ _ h _ => exact hkept h.toSteady
  | undoes _ _ _ _ h => exact hkept h.toSteady
  | creates _ h _ => exact hkept h.toSteady
  | proceeds uid => exact ⟨y,hy,.same _⟩
  | _ => exact hkept (frame_refl s).toSteady

theorem ne_of_token (hm : m.token?=some mark.token)
    (hn : n.token?=some mark'.token) (hapart : ∀token∈m.token?,token∉n.token?) : mark≠mark' := by
  rintro rfl
  exact hapart mark.token hm hn

theorem Absent.other (h : Absent k src snap s n) (hmove : Move k src snap op s m m' t)
    (hapart : ∀token∈m.token?,token∉n.token?) : Absent k src snap t n where
  unwritten token htoken y hy mark hmark heq := by
    obtain ⟨x,hx,hremark⟩ := hmove.remark y hy
    rw [mem_def] at hmark
    rw [hmark] at hremark
    generalize hb : x.props.mark k=b at hremark
    cases hremark with
    | same => exact h.unwritten token htoken x hx mark hb heq
    | writes d _ _ hm _ =>
      subst hm
      exact hapart mark.token rfl (heq ▸ Note.token_of_unwritten htoken)
  kept mark hm y hy hmark := by
    obtain ⟨x,hx,hremark⟩ := hmove.remark y hy
    rw [hmark] at hremark
    generalize hb : x.props.mark k=b at hremark
    cases hremark with
    | same => exact h.kept mark hm x hx hb
    | writes d _ _ hm' _ =>
      subst hm' hm
      exact hapart mark.token rfl rfl

theorem Absent.steady (h : Absent k src snap s n) (hs : Steady k src snap Kept s t) :
    Absent k src snap t n where
  unwritten token htoken y hy mark hmark := by
    obtain ⟨x,hx,_,heq⟩ := hs.source y hy
    exact h.unwritten token htoken x hx mark (heq ▸ hmark)
  kept mark hm y hy hmark := by
    obtain ⟨x,hx,_,heq⟩ := hs.source y hy
    exact h.kept mark hm x hx (heq ▸ hmark)

theorem absent_none (hm : m.unwritten?=none) (hk : ∀mark,m≠.kept mark) : Absent k src snap s m where
  unwritten token htoken := by
    rw [hm] at htoken
    cases htoken
  kept mark h := absurd h (hk mark)

theorem Move.absent (h : Move k src snap op s m m' t) (hm : Absent k src snap s m)
    (hbelow : ∀x,s.snapshot src snap=some x → ∀mark∈x.props.mark k,mark.token<s.tokens) :
    Absent k src snap t m' := by
  cases h with
  | quiet _ _ h => exact hm.steady h.toSteady
  | ends _ _ _ => exact absent_none rfl nofun
  | stamps d token => exact ⟨hm.unwritten,nofun⟩
  | draws _ _ _ hdraw h _ =>
    have hnew (m' : Note) (hm' : m'.unwritten?=some s.tokens) (hk : ∀mark,m'≠.kept mark) :
        Absent k src snap t m' := by
      refine ⟨fun token htoken y hy mark hmark => ?_,fun mark h => absurd h (hk mark)⟩
      obtain rfl := some.inj (hm'.symm.trans htoken)
      obtain ⟨x,hx,_,heq⟩ := h.source y hy
      exact Nat.ne_of_lt (hbelow x hx mark (heq ▸ hmark))
    rcases hdraw with ⟨_,_,rfl⟩|⟨_,_,_,rfl⟩
    · exact hnew _ rfl nofun
    · exact hnew _ rfl nofun
  | marks _ _ _ _ _ _ hm' _ _ _ =>
    rcases hm' with rfl|rfl <;> exact absent_none rfl nofun
  | drops _ _ _ _ _ mark _ _ _ _ _ hm' _ _ h =>
    rcases hm' with rfl|rfl
    · refine ⟨nofun,fun mark' _ y hy hmark => ?_⟩
      obtain ⟨_,_,_,hnone⟩ := h.source y hy
      rw [hmark] at hnone
      cases hnone
    · exact absent_none rfl nofun
  | keeps _ _ mark _ hx =>
    refine ⟨nofun,fun mark' hmark => ?_⟩
    cases hmark
    exact hx
  | judges uid mark => split <;> exact absent_none rfl nofun
  | _ => exact absent_none rfl nofun

theorem Move.owns (h : Move k src snap op s m m' t) (hm : Owns k src snap s m) :
    Owns k src snap t m' := by
  have hkept (hs : Steady k src snap Kept s t) : Owns k src snap t m := by
    intro d mark hw hnow y hy
    obtain ⟨x,hx,_,heq⟩ := hs.source y hy
    exact Eq.trans heq (hm d mark hw (Nat.le_trans hs.clock hnow) x hx)
  cases h with
  | quiet _ _ h => exact hkept h.toSteady
  | draws _ _ _ hdraw _ _ =>
    rcases hdraw with ⟨_,_,rfl⟩|⟨_,_,_,rfl⟩ <;> exact nofun
  | marks d mark _ _ _ _ hm' _ _ h =>
    rcases hm' with rfl|rfl
    · intro d' mark' hw _ y hy
      cases hw
      obtain ⟨_,_,_,heq⟩ := h.source y hy
      exact heq
    · exact nofun
  | drops _ _ _ _ _ _ _ _ _ _ _ hm' _ _ _ =>
    rcases hm' with rfl|rfl <;> exact nofun
  | lists d mark => exact hm
  | releases d mark todo name _ h _ => exact hkept h.toSteady
  | judges uid mark => split <;> exact nofun
  | _ => exact nofun

variable {p q : Removals} {e : PoolEvent Actor Answer Change}

theorem apart_step (h : Tokens k src snap p)
    (hstep : NoteStep (removals k src snap) p e q) (i j : Actor) (m n : Note) (hij : i≠j)
    (hi : q.notes i=some m) (hj : q.notes j=some n) : ∀token∈m.token?,token∉n.token? := by
  intro token hm hn
  cases hstep with
  | start l _ hl hs ht =>
    rw [ht] at hi hj
    rcases update_some hi with ⟨_,hx⟩|⟨_,hx⟩
    · cases hx
      cases hm
    · rcases update_some hj with ⟨_,hy⟩|⟨_,hy⟩
      · cases hy
        cases hn
      · exact h.apart i j m n hij hx hy token hm hn
  | stop l _ hs ht =>
    rw [ht] at hi hj
    rcases update_some hi with ⟨_,hx⟩|⟨_,hx⟩
    · cases hx
    · rcases update_some hj with ⟨_,hy⟩|⟨_,hy⟩
      · cases hy
      · exact h.apart i j m n hij hx hy token hm hn
  | call l c a o _ hl hmay henv ht =>
    have hmove : Move k src snap c.op p.shared o (o.next k src snap c a) q.shared :=
      step_move a hmay henv
    have hown (l' : Actor) (o' : Note) (hne : l'≠l) (hl' : p.notes l'=some o')
        (ht : token∈(o.next k src snap c a).token?) : token∉o'.token? := by
      rcases hmove.token with heq|hnone|⟨hnew,_⟩
      · rw [heq] at ht
        exact h.apart l l' o o' (Ne.symm hne) hl hl' token ht
      · rw [hnone] at ht
        cases ht
      · obtain rfl := some.inj (hnew.symm.trans ht)
        exact fun hmem => Nat.lt_irrefl _ (h.fresh l' o' hl' _ hmem)
    rw [ht] at hi hj
    rcases update_some hi with ⟨rfl,hx⟩|⟨hil,hx⟩
    · cases hx
      rcases update_some hj with ⟨rfl,_⟩|⟨hjl,hy⟩
      · exact hij rfl
      · exact hown j n hjl hy hm hn
    · rcases update_some hj with ⟨rfl,hy⟩|⟨_,hy⟩
      · cases hy
        exact hown i m hil hx hn hm
      · exact h.apart i j m n hij hx hy token hm hn
  | other c _ he ht =>
    rw [ht] at hi hj
    exact h.apart i j m n hij hi hj token hm hn

theorem below_step (h : Tokens k src snap p) (hstep : NoteStep (removals k src snap) p e q)
    (y : Snapshot) (hy : q.shared.snapshot src snap=some y) :
    ∀mark∈y.props.mark k,mark.token<q.shared.tokens := by
  intro mark hmark
  cases hstep with
  | start _ _ _ hs _ =>
    rw [hs] at hy ⊢
    exact h.below y hy mark hmark
  | stop _ _ hs _ =>
    rw [hs] at hy ⊢
    exact h.below y hy mark hmark
  | call i c a m _ hi hmay henv _ =>
    have hmove : Move k src snap c.op p.shared m (m.next k src snap c a) q.shared :=
      step_move a hmay henv
    obtain ⟨_,hsteady⟩ := hmove.steady
    refine Nat.lt_of_lt_of_le ?_ hsteady.tokens
    obtain ⟨x,hx,hremark⟩ := hmove.remark y hy
    rw [mem_def] at hmark
    rw [hmark] at hremark
    generalize hb : x.props.mark k=b at hremark
    cases hremark with
    | same => exact h.below x hx mark hb
    | writes d _ _ hm _ =>
      subst hm
      exact h.fresh i _ hi mark.token rfl
  | other c _ he _ =>
    have hframe : Frame k src snap Kept p.shared q.shared := changes_frame c he
    obtain ⟨x,hx,_,heq⟩ := hframe.source y hy
    exact Nat.lt_of_lt_of_le (h.below x hx mark (heq ▸ hmark)) hframe.tokens

theorem tokens_step (h : Tokens k src snap p) (hstep : NoteStep (removals k src snap) p e q) :
    Tokens k src snap q where
  fresh := by
    refine hstep.each (fun u _ n => ∀token∈n.token?,token<u.tokens) h.fresh (fun _ => nofun)
      (fun i c a m _ hi hmay henv => ?_) fun c _ he j n hj token ht => ?_
    · have hmove : Move k src snap c.op p.shared m (m.next k src snap c a) q.shared :=
        step_move a hmay henv
      obtain ⟨_,hsteady⟩ := hmove.steady
      refine ⟨fun token ht => ?_,
        fun j n _ hj token ht => Nat.lt_of_lt_of_le (h.fresh j n hj token ht) hsteady.tokens⟩
      change token∈(m.next k src snap c a).token? at ht
      rcases hmove.token with heq|hnone|⟨hnew,hlt⟩
      · rw [heq] at ht
        exact Nat.lt_of_lt_of_le (h.fresh i m hi token ht) hsteady.tokens
      · rw [hnone] at ht
        cases ht
      · obtain rfl := some.inj (hnew.symm.trans ht)
        exact hlt
    · have hframe : Frame k src snap Kept p.shared q.shared := changes_frame c he
      exact Nat.lt_of_lt_of_le (h.fresh j n hj token ht) hframe.tokens
  apart := apart_step h hstep
  below := below_step h hstep
  absent := by
    refine hstep.each (fun u _ n => Absent k src snap u n) h.absent (fun _ => absent_none rfl nofun)
      (fun i c a m _ hi hmay henv => ?_) fun c _ he j n hj => ?_
    · have hmove : Move k src snap c.op p.shared m (m.next k src snap c a) q.shared :=
        step_move a hmay henv
      exact ⟨hmove.absent (h.absent i m hi) h.below,
        fun j n hne hj => (h.absent j n hj).other hmove (h.apart i j m n (Ne.symm hne) hi hj)⟩
    · exact (h.absent j n hj).steady (changes_frame c he).toSteady

/-- Another reap writes its mark only over one that is not live, so not over that of a reap that may
still delete the snapshot; and it takes off only its own. -/
theorem Owns.other (h : Owns .reaping src snap s n) (hmove : Move .reaping src snap op s m m' t)
    (hapart : ∀token∈m.token?,token∉n.token?)
    (hlive : ∀x,s.snapshot src snap=some x → MarkKind.reaping.isLive (x.props.mark .reaping) s.now=false →
      ∀d∈n.armed?,d<s.now) : Owns .reaping src snap t n := by
  intro d mark hw hnow y hy
  obtain ⟨_,hsteady⟩ := hmove.steady
  have hle := Nat.le_trans hsteady.clock hnow
  obtain ⟨x,hx,hremark⟩ := hmove.remark y hy
  have hown := h d mark hw hle x hx
  generalize hb : y.props.mark .reaping=b at hremark
  rw [hown] at hremark
  cases hremark with
  | same => rfl
  | writes d' mark' _ hm hover =>
    exfalso
    subst hm
    rcases hover rfl with heq|hdead
    · exact ne_of_token (m := .stamped d' mark') rfl (Note.token_of_written hw) hapart
        (some.inj heq).symm
    · have hlt := hlive x hx (hown ▸ hdead) d (Note.armed_of_written hw)
      omega
  | takesOff d' _ hm =>
    exact absurd rfl (ne_of_token (Note.token_of_holds hm) (Note.token_of_written hw) hapart)

variable (src snap) in
structure Exclusion (p : Removals) : Prop where
  held : Held .reaping src snap p
  tokens : Tokens .reaping src snap p
  owns : ∀i m,p.notes i=some m → Owns .reaping src snap p.shared m

theorem Exclusion.alone (h : Exclusion src snap p)
    (hstep : NoteStep (removals .reaping src snap) p e q) : Alone .reaping src snap p e := by
  cases hstep with
  | call i c a m _ hi hmay henv hn =>
    obtain ⟨ctx,op⟩ := c
    cases op with
    | patchSnapshotProps rd sn patch =>
      cases patch with
      | dropMark k' mark =>
        obtain ⟨_,_,d,hm,_⟩ := hmay
        rintro ⟨x,hx,hmark⟩ j n hne hj d' hd'
        refine Nat.lt_of_not_le fun hnow => ?_
        obtain ⟨mark',hw⟩ := Note.written_of_armed hd'
        have hown := h.owns j n hj d' mark' hw hnow x hx
        have hdiff := ne_of_token (Note.token_of_holds hm) (Note.token_of_written hw)
          (h.tokens.apart i j m n (Ne.symm hne) hi hj)
        exact hdiff (some.inj (hmark.symm.trans hown))
      | _ => trivial
    | _ => trivial
  | _ => trivial

theorem exclusion_step (h : Exclusion src snap p) (hg : Timely .reaping p e)
    (hstep : NoteStep (removals .reaping src snap) p e q) : Exclusion src snap q where
  held := held_step h.held hg (h.alone hstep) hstep
  tokens := tokens_step h.tokens hstep
  owns := by
    refine hstep.each (fun u _ n => Owns .reaping src snap u n) h.owns (fun _ => nofun)
      (fun i c a m _ hi hmay henv => ?_) fun c _ he j n hj d mark hw hnow y hy => ?_
    · have hmove : Move .reaping src snap c.op p.shared m (m.next .reaping src snap c a) q.shared :=
        step_move a hmay henv
      refine ⟨hmove.owns (h.owns i m hi),fun j n hne hj => ?_⟩
      refine (h.owns j n hj).other hmove (h.tokens.apart i j m n (Ne.symm hne) hi hj) ?_
      exact fun x hx hlive d hd => h.held.unarmed x hx hlive j n hj d hd
    · have hframe : Frame .reaping src snap Kept p.shared q.shared := changes_frame c he
      obtain ⟨x,hx,_,heq⟩ := hframe.source y hy
      exact Eq.trans heq (h.owns j n hj d mark hw (Nat.le_trans hframe.clock hnow) x hx)

theorem tokens_start (s : State) (h : Start s) : Tokens k src snap (Pool.idle s) where
  fresh i m hi := by cases hi
  apart i j m n _ hi := by cases hi
  below x hx := h.tokens x ((s.snapshots.get?_eq_some _ x).mp hx).1 k
  absent i m hi := by cases hi

theorem exclusion_start (s : State) (h : Start s) : Exclusion src snap (Pool.idle s) where
  held := held_start s h
  tokens := tokens_start s h
  owns i m hi := by cases hi

def Wrote (i : Actor) (past : List (PoolEvent Actor Answer Change)) (mark : Mark) : Prop :=
  ∃ctx rd sn a,.call i ⟨ctx,.patchSnapshotProps rd sn (.setReaping mark)⟩ a∈past

def WritesLand (i : Actor) (past : List (PoolEvent Actor Answer Change)) : Prop :=
  ∀ctx rd sn patch,.call i ⟨ctx,.patchSnapshotProps rd sn patch⟩ (.error .unavailable)∉past

variable (src snap) in
/-- What became of a mark the caller asked for: it still has to answer for it, or it is off, or the
snapshot was deleted with it. -/
def Accounts (s : State) (mark : Mark) (m : Note) : Prop :=
  (∃d,m.holds=some (d,mark)) ∨ m=.kept mark ∨
    m=.over ∧ ∀x,s.snapshot src snap=some x → x.deleting=true

theorem Accounts.steady {remark : Option Mark → Option Mark → Prop}
    (h : Accounts src snap s mark m) (hs : Steady k src snap remark s t) :
    Accounts src snap t mark m := by
  refine h.imp_right (Or.imp_right fun ⟨hm,hgone⟩ => ⟨hm,fun y hy => ?_⟩)
  obtain ⟨x,hx,hdel,_⟩ := hs.source y hy
  exact hdel (hgone x hx)

theorem next_of_through {c : Cmd} (a : Answer c) (hm : (∃mark,m=.kept mark) ∨ m=.over)
    (hmay : m.may k src snap c) : m.next k src snap c a=m := by
  obtain ⟨ctx,op⟩ := c
  have hholds : m.holds=none := by rcases hm with ⟨_,rfl⟩|rfl <;> rfl
  have hstamped (d : Nat) (mark : Mark) : m≠.stamped d mark := by
    rcases hm with ⟨_,rfl⟩|rfl <;> exact nofun
  cases op with
  | patchSnapshotProps rd sn patch =>
    cases patch with
    | setDeleting mark =>
      obtain ⟨_,_,d,hd,_⟩ := hmay
      exact absurd hd (hstamped d mark)
    | setReaping mark =>
      obtain ⟨_,_,d,hd,_⟩ := hmay
      exact absurd hd (hstamped d mark)
    | dropMark k' mark =>
      obtain ⟨_,_,d,hd,_⟩ := hmay
      rw [hholds] at hd
      cases hd
  | deleteSnapshot rd sn =>
    obtain ⟨_,d,mark,hd,_⟩ := hmay
    rw [hd] at hholds
    cases hholds
  | listDefinitions => rcases hm with ⟨_,rfl⟩|rfl <;> cases a <;> rfl
  | listSnapshots rd => rcases hm with ⟨_,rfl⟩|rfl <;> cases a <;> rfl
  | createDefinition name props => rcases hm with ⟨_,rfl⟩|rfl <;> cases a <;> rfl
  | patchDefinition name patch =>
    rcases hm with ⟨_,rfl⟩|rfl <;> rcases a with e|_ <;> first | rfl | (cases e <;> rfl)
  | _ => rcases hm with ⟨_,rfl⟩|rfl <;> rfl

theorem dropMark_answer {ctx : Option Nat} {rd sn : String} (hsame : Same src snap rd sn)
    (h : Step s ⟨ctx,.patchSnapshotProps rd sn (.dropMark k mark)⟩ a t) :
    Note.drops mark a=.kept mark ∨ a=.error .unavailable := by
  rcases h with ⟨_,ha,_⟩|⟨hlag,_⟩|⟨hfail,_⟩
  · left
    change a=(serve s (.patchSnapshotProps rd sn (.dropMark k mark))).1 at ha
    rcases serve_dropMark (s := s) (k := k) rd sn mark hsame with ⟨⟨e,he,heq⟩,_⟩|⟨hok,_⟩
    · rw [heq] at ha
      subst ha
      revert e
      simp [Note.drops]
    · rw [hok] at ha
      subst ha
      rfl
  · exact hlag.elim
  · exact .inr (some.inj hfail)

theorem deleteSnapshot_answer {ctx : Option Nat} {rd sn : String}
    (hsame : Same src snap rd sn) (h : Step s ⟨ctx,.deleteSnapshot rd sn⟩ a t)
    (ha : a=.ok () ∨ a=.error .notFound) : ∀y,t.snapshot src snap=some y → y.deleting=true := by
  rcases h with ⟨_,hserved,ht⟩|⟨hlag,_⟩|⟨hfail,_⟩
  · intro y hy
    subst ht
    simp only [serve] at hserved hy
    rw [same_snapshot hsame] at hserved hy
    cases hx : s.snapshot src snap with
    | none =>
      rw [hx] at hy
      cases hx.symm.trans hy
    | some x =>
      rw [hx] at hy
      have hmap := snapshot_modifySnapshot s src snap rd sn (fun x => {x with deleting := true})
        fun _ => rfl
      have hk : x.key=(Text.fold rd,Text.fold sn) := by
        rw [((s.snapshots.get?_eq_some _ x).mp hx).2,hsame.1,hsame.2]
      rw [hx,map_some,if_pos hk] at hmap
      obtain rfl := some.inj (hmap.symm.trans hy)
      rfl
  · exact hlag.elim
  · obtain rfl : a=.error .unavailable := some.inj hfail
    rcases ha with ha|ha <;> cases ha

theorem accounts_of_holds {i : Actor} {c : Cmd} (a : Answer c) {d : Nat}
    (hm : m.holds=some (d,mark)) (hmay : m.may k src snap c) (h : Step s c a t)
    (hland : WritesLand i [.call i c a]) :
    Accounts src snap t mark (m.next k src snap c a) := by
  obtain ⟨ctx,op⟩ := c
  have hstamped (d' : Nat) (mark' : Mark) : m≠.stamped d' mark' := by
    rintro rfl
    cases hm
  cases op with
  | patchSnapshotProps rd sn patch =>
    cases patch with
    | setDeleting mark' =>
      obtain ⟨_,_,d',hd,_⟩ := hmay
      exact absurd hd (hstamped d' mark')
    | setReaping mark' =>
      obtain ⟨_,_,d',hd,_⟩ := hmay
      exact absurd hd (hstamped d' mark')
    | dropMark k' mark' =>
      obtain ⟨rfl,hsame,d',hd,_⟩ := hmay
      obtain ⟨rfl,rfl⟩ := Prod.mk.inj (some.inj (hm.symm.trans hd))
      rcases dropMark_answer hsame h with hkept|hfail
      · exact .inr (.inl hkept)
      · subst hfail
        exact absurd (mem_singleton.mpr rfl) (hland ctx rd sn _)
  | deleteSnapshot rd sn =>
    obtain ⟨hsame,d',mark',rfl,_⟩ := hmay
    obtain ⟨rfl,rfl⟩ := Prod.mk.inj (some.inj hm)
    have hgone := deleteSnapshot_answer hsame h
    rcases a with e|_
    · cases e with
      | notFound => exact .inr (.inr ⟨rfl,hgone (.inr rfl)⟩)
      | _ => exact .inl ⟨_,rfl⟩
    · exact .inr (.inr ⟨rfl,hgone (.inl rfl)⟩)
  | listDefinitions =>
    refine .inl ⟨d,?_⟩
    cases m <;> cases hm <;> cases a <;> rfl
  | listSnapshots rd =>
    refine .inl ⟨d,?_⟩
    cases m <;> cases hm <;> cases a <;> rfl
  | createDefinition name props =>
    refine .inl ⟨d,?_⟩
    cases m <;> cases hm <;> cases a <;> rfl
  | patchDefinition name patch =>
    refine .inl ⟨d,?_⟩
    cases m <;> cases hm <;> rcases a with e|_ <;> first | rfl | (cases e <;> rfl)
  | _ =>
    refine .inl ⟨d,?_⟩
    cases m <;> cases hm <;> rfl

theorem accounts_step {i : Actor} (past : List (PoolEvent Actor Answer Change))
    (h : .stop i∉past → WritesLand i past → ∀mark,Wrote i past mark →
      ∃m,p.notes i=some m ∧ Accounts src snap p.shared mark m)
    (hstep : NoteStep (removals k src snap) p e q) (halive : .stop i∉past++[e])
    (hland : WritesLand i (past++[e])) (mark : Mark) (hwrote : Wrote i (past++[e]) mark) :
    ∃m,q.notes i=some m ∧ Accounts src snap q.shared mark m := by
  have hlast : WritesLand i [e] := fun ctx rd sn patch hmem =>
    hland ctx rd sn patch (mem_append_right _ hmem)
  have hpast (hw : Wrote i past mark) := h (fun hmem => halive (mem_append_left _ hmem))
    (fun ctx rd sn patch hmem => hland ctx rd sn patch (mem_append_left _ hmem)) mark hw
  have hsplit : Wrote i past mark ∨ Wrote i [e] mark := by
    obtain ⟨ctx,rd,sn,a,hmem⟩ := hwrote
    exact (mem_append.mp hmem).imp (fun h => ⟨ctx,rd,sn,a,h⟩) fun h => ⟨ctx,rd,sn,a,h⟩
  obtain ⟨_,hsteady⟩ := steady_step hstep
  have hsame (hq : q.notes i=p.notes i) (hw : Wrote i past mark) :
      ∃m,q.notes i=some m ∧ Accounts src snap q.shared mark m := by
    obtain ⟨m,hm,hacc⟩ := hpast hw
    exact ⟨m,hq.trans hm,hacc.steady hsteady⟩
  cases hstep with
  | start j _ hj hs hn =>
    rcases hsplit with hw|⟨_,_,_,_,hmem⟩
    · refine hsame ?_ hw
      rw [hn]
      refine update_of_ne ?_ _ _
      rintro rfl
      obtain ⟨m,hm,_⟩ := hpast hw
      rw [hj] at hm
      cases hm
    · cases mem_singleton.mp hmem
  | stop j _ hs hn =>
    rcases hsplit with hw|⟨_,_,_,_,hmem⟩
    · refine hsame ?_ hw
      rw [hn]
      refine update_of_ne ?_ _ _
      rintro rfl
      exact halive (mem_append_right _ (mem_singleton.mpr rfl))
    · cases mem_singleton.mp hmem
  | other c _ he hn =>
    rcases hsplit with hw|⟨_,_,_,_,hmem⟩
    · exact hsame (congrFun hn i) hw
    · cases mem_singleton.mp hmem
  | call j c a m _ hj hmay henv hn =>
    rcases hsplit with hw|⟨ctx,rd,sn,a',hmem⟩
    · by_cases hij : i=j
      · subst hij
        obtain ⟨m',hm',hacc⟩ := hpast hw
        obtain rfl := some.inj (hj.symm.trans hm')
        refine ⟨_,by rw [hn]; exact update_self ..,?_⟩
        change Accounts src snap q.shared mark (m.next k src snap c a)
        rcases hacc with ⟨d,hm⟩|hm
        · exact accounts_of_holds a hm hmay henv hlast
        · have hnext := next_of_through a (hm.imp (fun h => ⟨mark,h⟩) And.left) hmay
          rw [hnext]
          exact Accounts.steady (.inr hm) hsteady
      · exact hsame (by rw [hn]; exact update_of_ne hij _ _) hw
    · cases mem_singleton.mp hmem
      obtain ⟨rfl,_,d,rfl,_⟩ := hmay
      refine ⟨_,by rw [hn]; exact update_self ..,?_⟩
      change Accounts src snap q.shared mark ((Note.stamped d mark).marks a')
      rcases a' with e|_
      · cases e with
        | unavailable => exact absurd (mem_singleton.mpr rfl) (hlast ctx rd sn _)
        | _ => exact .inr (.inl rfl)
      · exact .inl ⟨d,rfl⟩

end

/-- Reaps of a clone snapshot and restores from it exclude each other, and a reap that is over and
has kept the snapshot has left no mark of its own on it. -/
theorem reap_excludes_restore (src snap : String) (s : State) (hs : Start s) :
    ¬LosesSource .reaping src snap (Timely .reaping) s ∧
    ∀es p n prog m mark x,
      Run (Pool.Step (removals .reaping src snap)) (Pool.idle s) es p →
      p.threads (.remove n)=some ⟨prog,m⟩ → prog.ended=true →
      .stop (.remove n)∉es → WritesLand (.remove n) es → Wrote (.remove n) es mark →
      p.shared.snapshot src snap=some x → x.deleting=false →
        x.props.cloneSnapshotReaping≠some mark := by
  refine ⟨keepsSource_of_invariant _ (fun _ _ h => h) (Exclusion src snap)
    (fun _ h => h.held) (fun _ _ _ h hg hstep => exclusion_step h hg hstep) s (exclusion_start s hs),?_⟩
  intro es p n prog m mark x hrun hthread hended halive hland hwrote hx hdel
  have hsound := removals_sound .reaping src snap
  have hfree : Run (guarded (fun _ _ => True) (Pool.Step (removals .reaping src snap)))
      (Pool.idle s) es p := hrun.mono fun _ _ _ h => ⟨trivial,h⟩
  obtain ⟨hF,htokens⟩ := (following_idle s).invariant hsound _ (Tokens .reaping src snap)
    (fun _ _ _ h _ hstep => tokens_step h hstep) (tokens_start s hs) hfree
  obtain ⟨_,hacc⟩ := (following_idle s).history hsound _
    (fun past p => .stop (.remove n)∉past → WritesLand (.remove n) past →
      ∀mark,Wrote (.remove n) past mark → ∃m,p.notes (.remove n)=some m ∧
        Accounts src snap p.shared mark m)
    (fun past p e q h _ hstep halive hland => accounts_step past h hstep halive hland) []
    (fun _ _ mark hw => by
      obtain ⟨_,_,_,_,hmem⟩ := hw
      cases hmem) hfree
  obtain ⟨m',hm',hm⟩ := hacc halive hland mark hwrote
  have hnote : p.notes (.remove n)=some m := by rw [notes,hthread]; rfl
  obtain rfl := some.inj (hnote.symm.trans hm')
  have hsettled : m.holds=none := by
    have hfollows := hF _ _ hthread
    cases prog with
    | done a => exact hfollows
    | fail e => exact hfollows
    | ask c next => cases hended
  rcases hm with ⟨d,hm⟩|rfl|⟨_,hgone⟩
  · rw [hsettled] at hm
    cases hm
  · exact (htokens.absent _ _ hnote).kept mark rfl x hx
  · rw [hgone x hx] at hdel
    cases hdel

def keptForRestore : List Actor :=
  replicate 3 (.restore 0 "pvc-2")++replicate 7 (.remove 0)

def failedWrite (i : Actor) : PoolEvent Actor Answer Change → Bool
  | .call j ⟨_,.patchSnapshotProps _ _ _⟩ (.error .unavailable) => i=j
  | _ => false

def asksMark (i : Actor) (mark : Mark) : PoolEvent Actor Answer Change → Bool
  | .call j ⟨_,.patchSnapshotProps _ _ (.setReaping m)⟩ _ => i=j ∧ m=mark
  | _ => false

def stops (i : Actor) : PoolEvent Actor Answer Change → Bool
  | .stop j => i=j
  | _ => false

theorem writesLand_of_test (h : past.all (fun e => !failedWrite i e)=true) : WritesLand i past := by
  intro ctx rd sn patch hmem
  have htest := all_eq_true.mp h _ hmem
  simp [failedWrite] at htest

theorem wrote_of_test {mark : Mark} (h : past.any (asksMark i mark)=true) : Wrote i past mark := by
  obtain ⟨e,hmem,he⟩ := any_eq_true.mp h
  unfold asksMark at he
  split at he
  · obtain ⟨rfl,rfl⟩ := of_decide_eq_true he
    exact ⟨_,_,_,_,hmem⟩
  · cases he

theorem alive_of_test (h : past.all (fun e => !stops i e)=true) : .stop i∉past := by
  intro hmem
  have htest := all_eq_true.mp h _ hmem
  simp [stops] at htest

theorem reap_excludes_restore_once : Start newSnapshot ∧
    ¬LosesSource .reaping "pvc-1" "snap" (Timely .reaping) newSnapshot ∧
    ∃x,(removalsOn .reaping newSnapshot keptForRestore).2.shared.snapshot "pvc-1" "snap"=some x ∧
      Wrote (.remove 0) (removalsOn .reaping newSnapshot keptForRestore).1 ⟨0,1000*second⟩ ∧
      x.props.cloneSnapshotReaping≠some ⟨0,1000*second⟩ := by
  obtain ⟨hnever,hkept⟩ := reap_excludes_restore "pvc-1" "snap" newSnapshot start_newSnapshot
  have hrun := (run_removals .reaping newSnapshot keptForRestore).mono fun _ _ _ h => h.2
  have hwrote : Wrote (.remove 0) (removalsOn .reaping newSnapshot keptForRestore).1
      ⟨0,1000*second⟩ := wrote_of_test (by decide +kernel)
  have hthread : ((removalsOn .reaping newSnapshot keptForRestore).2.threads (.remove 0)).any
      (fun th => th.prog.ended)=true := by decide +kernel
  obtain ⟨⟨prog,m⟩,hth,hended⟩ := (Option.any_eq_true ..).mp hthread
  have hsnap : ((removalsOn .reaping newSnapshot keptForRestore).2.shared.snapshot
      "pvc-1" "snap").any (fun x => !x.deleting)=true := by decide +kernel
  obtain ⟨x,hx,hdel⟩ := (Option.any_eq_true ..).mp hsnap
  refine ⟨start_newSnapshot,hnever,x,hx,hwrote,?_⟩
  exact hkept _ _ 0 prog m _ x hrun hth hended (alive_of_test (by decide +kernel))
    (writesLand_of_test (by decide +kernel)) hwrote hx (by simpa using hdel)

end Blockstor.Store
