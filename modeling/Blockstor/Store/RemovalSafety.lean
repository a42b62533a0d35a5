import Blockstor.Store.RemovalSystem

namespace Blockstor.Store

open Framework Shell Pool

namespace Note

def armed? : Note → Option Nat
  | .armed d _ => some d
  | .releasing d _ _ => some d
  | _ => none

def deadline? : Note → Option Nat
  | .started d => some d
  | .ticketed d _ => some d
  | .timed d _ => some d
  | .stamped d _ => some d
  | .armed d _ => some d
  | .releasing d _ _ => some d
  | _ => none

def uid? : Note → Option Nat
  | .created uid => some uid
  | .saw uid _ => some uid
  | .clear uid => some uid
  | _ => none

/-- The restore into the definition will go on: it has read the snapshot and found no live mark. -/
def Trusts (k : MarkKind) (now uid : Nat) : Note → Prop
  | .clear u => u=uid
  | .saw u mark => u=uid ∧ k.isLive mark now=false
  | _ => False

end Note

theorem lt_rfc3339 (t : Nat) : t<rfc3339 t+second := by
  have h := Nat.div_add_mod t second
  have hm := Nat.mod_lt t (show 0<second by decide)
  unfold rfc3339
  rw [Nat.mul_comm] at h
  omega

theorem budget_ttl (k : MarkKind) : 2*k.budget+second<k.ttl := by
  cases k <;> decide

section

variable (k : MarkKind) (src snap : String)

/-- What holds of one note. The mark that is on the snapshot while a removal is armed need not be
its own, but it is young enough to be live for as long as the removal may run. -/
structure Fine (s : State) (m : Note) : Prop where
  uid : ∀u∈m.uid?,u<s.uids
  budget : ∀d∈m.deadline?,d ≤ s.now+k.budget
  timed : ∀d w,m=.timed d w → d ≤ w+k.budget+second
  stamped : ∀d mark,m=.stamped d mark → d ≤ mark.written+k.budget+second
  marked : ∀d∈m.armed?,s.now ≤ d → ∀x,s.snapshot src snap=some x →
    ∃mark,x.props.mark k=some mark ∧ d ≤ mark.written+2*k.budget+second

/-- A removal that has listed the definitions still has to release this one, if it depends on the
snapshot. -/
def Covers (s : State) (m : Note) (uid : Nat) : Prop :=
  ∀d mark todo,m=.releasing d mark todo → s.now ≤ d →
    ∀x∈s.definitions,x.uid=uid → dependsOn k src snap x=true → x.name∈todo

def Trusted (p : Removals) (uid : Nat) : Prop :=
  .restoreProceeds uid∈p.shared.reached ∨
    ∃i m,p.notes i=some m ∧ m.Trusts k p.shared.now uid

/-- The handshake holds: no removal that may still delete the snapshot has overlooked a definition
whose restore goes on. -/
structure Held (p : Removals) : Prop where
  known : ∀d∈p.shared.definitions,d.uid<p.shared.uids
  going : ∀uid,.restoreProceeds uid∈p.shared.reached → uid<p.shared.uids
  fine : ∀i m,p.notes i=some m → Fine k src snap p.shared m
  safe : ∀uid,Trusted k p uid → ∀i m,p.notes i=some m → Covers k src snap p.shared m uid

def Timely (p : Removals) : PoolEvent Actor Answer Change → Prop
  | .other (.tick now) => ∀i uid mark,p.notes i=some (.saw uid mark) →
      k.isLive mark p.shared.now=true → k.isLive mark now=true
  | _ => True

/-- A removal takes its own mark off only when no other removal that has marked the snapshot may
still delete it. -/
def Alone (p : Removals) : PoolEvent Actor Answer Change → Prop
  | .call i ⟨_,.patchSnapshotProps _ _ (.dropMark _ mark)⟩ _ =>
      (∃x,p.shared.snapshot src snap=some x ∧ x.props.mark k=some mark) →
        ∀j m,j≠i → p.notes j=some m → ∀d∈m.armed?,d<p.shared.now
  | _ => True

end

section

variable {k : MarkKind} {src snap : String} {s t : State} {m m' : Note} {op : Op}
  {remark : Option Mark → Option Mark → Prop}

theorem fine_over (s : State) : Fine k src snap s .over := ⟨nofun,nofun,nofun,nofun,nofun⟩

theorem fine_kept (s : State) (mark : Mark) : Fine k src snap s (.kept mark) :=
  ⟨nofun,nofun,nofun,nofun,nofun⟩

theorem Fine.steady (h : Fine k src snap s m) (hs : Steady k src snap remark s t)
    (hmarked : ∀d∈m.armed?,t.now ≤ d → ∀y,t.snapshot src snap=some y →
      ∃mark,y.props.mark k=some mark ∧ d ≤ mark.written+2*k.budget+second) :
    Fine k src snap t m where
  uid u hu := Nat.lt_of_lt_of_le (h.uid u hu) hs.uids
  budget d hd := by
    have hle := h.budget d hd
    have hclock := hs.clock
    omega
  timed := h.timed
  stamped := h.stamped
  marked := hmarked

theorem Fine.kept (h : Fine k src snap s m) (hs : Steady k src snap Kept s t) :
    Fine k src snap t m := by
  refine h.steady hs fun d hd hnow y hy => ?_
  obtain ⟨x,hx,_,hmark⟩ := hs.source y hy
  have hle : s.now ≤ d := Nat.le_trans hs.clock hnow
  obtain ⟨mark,hm,hd'⟩ := h.marked d hd hle x hx
  exact ⟨mark,hmark.trans hm,hd'⟩

theorem Fine.remarked (h : Fine k src snap s m) (mark : Mark)
    (hs : Steady k src snap (fun _ b => b=some mark) s t)
    (hmark : s.now ≤ mark.written+k.budget+second) : Fine k src snap t m := by
  refine h.steady hs fun d hd _ y hy => ?_
  obtain ⟨x,hx,_,hy⟩ := hs.source y hy
  have hmem : d∈m.deadline? := by cases m <;> first | exact hd | cases hd
  have hle := h.budget d hmem
  exact ⟨mark,hy,by omega⟩

theorem Fine.unarmed (h : Fine k src snap s m)
    (hs : Steady k src snap remark s t) (hun : ∀d∈m.armed?,d<s.now) : Fine k src snap t m := by
  refine h.steady hs fun d hd hnow _ _ => ?_
  have hlt := hun d hd
  have hclock := hs.clock
  omega

theorem Covers.steady {uid : Nat}
    (h : Covers k src snap s m uid) (hs : Steady k src snap remark s t) (huid : uid<s.uids) :
    Covers k src snap t m uid := by
  intro d mark todo hm hnow x hx hu hdep
  rcases hs.dependents x hx hdep with hnew|⟨b,hb,hbu,hbn,hbdep⟩
  · omega
  · rw [← hbn]
    exact h d mark todo hm (Nat.le_trans hs.clock hnow) b hb (hbu.trans hu) hbdep

theorem Move.steady (h : Move k src snap op s m m' t) : ∃remark,Steady k src snap remark s t := by
  have hrefl : Steady k src snap Kept s s := (frame_refl s).toSteady
  cases h with
  | quiet _ _ h => exact ⟨_,h.toSteady⟩
  | ends _ _ h => exact ⟨_,h.toSteady⟩
  | draws _ _ _ _ h _ => exact ⟨_,h.toSteady⟩
  | marks _ _ _ _ _ _ _ _ _ h => exact ⟨_,h.toSteady⟩
  | drops _ _ _ _ _ _ _ _ _ _ _ _ _ _ h => exact ⟨_,h.toSteady⟩
  | releases _ _ _ _ _ h _ => exact ⟨_,h.toSteady⟩
  | undoes _ _ _ _ h => exact ⟨_,h.toSteady⟩
  | creates _ h _ => exact ⟨_,h.toSteady⟩
  | proceeds uid =>
    exact ⟨_,hrefl.clock,hrefl.uids,hrefl.tokens,hrefl.known,hrefl.source,hrefl.dependents⟩
  | _ => exact ⟨_,hrefl⟩

theorem Move.reached (h : Move k src snap op s m m' t) :
    t.reached=s.reached ∨ ∃uid,m=.clear uid ∧ t.reached=.restoreProceeds uid::s.reached := by
  cases h with
  | quiet _ _ h => exact .inl h.reached
  | ends _ _ h => exact .inl h.reached
  | draws _ _ _ _ h _ => exact .inl h.reached
  | marks _ _ _ _ _ _ _ _ _ h => exact .inl h.reached
  | drops _ _ _ _ _ _ _ _ _ _ _ _ _ _ h => exact .inl h.reached
  | releases _ _ _ _ _ h _ => exact .inl h.reached
  | undoes _ _ _ _ h => exact .inl h.reached
  | creates _ h _ => exact .inl h.reached
  | proceeds uid => exact .inr ⟨uid,rfl,rfl⟩
  | _ => exact .inl rfl

theorem stamp_fresh (d now : Nat) (h : d ≤ now+k.budget) : d ≤ rfc3339 now+k.budget+second := by
  have hlt := lt_rfc3339 now
  omega

theorem Move.fine (h : Move k src snap op s m m' t) (hm : Fine k src snap s m) :
    Fine k src snap t m' := by
  cases h with
  | quiet _ _ h => exact hm.kept h.toSteady
  | ends _ _ _ => exact fine_over t
  | begins =>
    refine ⟨nofun,fun d hd => ?_,nofun,nofun,nofun⟩
    cases hd
    exact Nat.le_refl _
  | times d =>
    refine ⟨nofun,hm.budget,fun d' w hw => ?_,nofun,nofun⟩
    cases hw
    exact stamp_fresh d s.now (hm.budget d rfl)
  | stamps d token =>
    refine ⟨nofun,hm.budget,nofun,fun d' mark hmark => ?_,nofun⟩
    cases hmark
    exact stamp_fresh d s.now (hm.budget d rfl)
  | draws _ _ _ hdraw h _ =>
    have hbudget := (hm.kept h.toSteady).budget
    rcases hdraw with ⟨d,rfl,rfl⟩|⟨d,w,rfl,rfl⟩
    · exact ⟨nofun,hbudget,nofun,nofun,nofun⟩
    · refine ⟨nofun,hbudget,nofun,fun d' mark hmark => ?_,nofun⟩
      cases hmark
      exact hm.timed d w rfl
  | marks d mark _ x _ hd hm' _ _ h =>
    rcases hm' with rfl|rfl
    · have hstamp := hm.stamped d mark rfl
      have hbudget := hm.budget d rfl
      have hclock := h.clock
      refine ⟨nofun,fun d' hd' => ?_,nofun,nofun,fun d' hd' _ y hy => ?_⟩
      · cases hd'
        omega
      · cases hd'
        obtain ⟨_,_,_,hy⟩ := h.source y hy
        exact ⟨mark,hy,by omega⟩
    · exact fine_over t
  | drops _ _ _ _ _ mark _ _ _ _ _ hm' =>
    rcases hm' with rfl|rfl
    · exact fine_kept t mark
    · exact fine_over t
  | keeps _ _ mark _ _ => exact fine_kept _ mark
  | lists d mark => exact ⟨nofun,hm.budget,nofun,nofun,hm.marked⟩
  | releases d mark todo name _ h _ =>
    have hkept := hm.kept h.toSteady
    exact ⟨nofun,hkept.budget,nofun,nofun,hkept.marked⟩
  | undoes _ _ _ _ _ => exact ⟨nofun,nofun,nofun,nofun,nofun⟩
  | creates _ _ huids =>
    refine ⟨fun u hu => ?_,nofun,nofun,nofun,nofun⟩
    cases hu
    exact huids
  | sees uid x _ _ => exact ⟨hm.uid,nofun,nofun,nofun,nofun⟩
  | judges uid mark =>
    split
    · exact fine_over _
    · exact ⟨hm.uid,nofun,nofun,nofun,nofun⟩
  | proceeds uid => exact ⟨hm.uid,nofun,nofun,nofun,nofun⟩

theorem Move.fine_other (h : Move k src snap op s m m' t) (hm : Fine k src snap s m) (n : Note)
    (hn : Fine k src snap s n)
    (hdrop : ∀rd sn mark x,op=.patchSnapshotProps rd sn (.dropMark k mark) →
      s.snapshot src snap=some x → x.props.mark k=some mark → ∀d∈n.armed?,d<s.now) :
    Fine k src snap t n := by
  cases h with
  | quiet _ _ h => exact hn.kept h.toSteady
  | ends _ _ h => exact hn.kept h.toSteady
  | draws _ _ _ _ h _ => exact hn.kept h.toSteady
  | marks d mark _ _ _ hd _ _ _ h =>
    have hstamp := hm.stamped d mark rfl
    exact hn.remarked mark h.toSteady (by omega)
  | drops _ _ _ rd sn mark x _ hop _ _ _ hx hmark h =>
    exact hn.unarmed h.toSteady (hdrop rd sn mark x hop hx hmark)
  | releases _ _ _ _ _ h _ => exact hn.kept h.toSteady
  | undoes _ _ _ _ h => exact hn.kept h.toSteady
  | creates _ h _ => exact hn.kept h.toSteady
  | proceeds uid => exact ⟨hn.uid,hn.budget,hn.timed,hn.stamped,hn.marked⟩
  | _ => exact hn

theorem Move.trusts (h : Move k src snap op s m m' t) (hnow : t.now=s.now) (uid : Nat)
    (ht : m'.Trusts k t.now uid) : m.Trusts k s.now uid ∨ t=s ∧
      ∃x,s.snapshot src snap=some x ∧ x.deleting=false ∧ k.isLive (x.props.mark k) s.now=false := by
  rw [hnow] at ht
  cases h with
  | quiet _ _ _ => exact .inl ht
  | draws _ _ _ hdraw _ _ =>
    rcases hdraw with ⟨_,_,rfl⟩|⟨_,_,_,rfl⟩ <;> exact ht.elim
  | marks _ _ _ _ _ _ hm' _ _ _ =>
    rcases hm' with rfl|rfl <;> exact ht.elim
  | drops _ _ _ _ _ _ _ _ _ _ _ hm' _ _ _ =>
    rcases hm' with rfl|rfl <;> exact ht.elim
  | sees u x hx hdel => exact .inr ⟨rfl,x,hx,hdel,ht.2⟩
  | judges u mark =>
    left
    split at ht
    · exact ht.elim
    · exact ⟨ht,by simpa using ‹¬k.isLive mark _=true›⟩
  | proceeds u => exact .inl ht
  | _ => exact ht.elim

theorem Move.covers (h : Move k src snap op s m m' t) (uid : Nat) (huid : uid<s.uids)
    (hc : Covers k src snap s m uid) : Covers k src snap t m' uid := by
  cases h with
  | quiet _ _ h => exact hc.steady h.toSteady huid
  | draws _ _ _ hdraw _ _ =>
    rcases hdraw with ⟨_,_,rfl⟩|⟨_,_,_,rfl⟩ <;> exact nofun
  | marks _ _ _ _ _ _ hm' _ _ _ =>
    rcases hm' with rfl|rfl <;> exact nofun
  | drops _ _ _ _ _ _ _ _ _ _ _ hm' _ _ _ =>
    rcases hm' with rfl|rfl <;> exact nofun
  | lists d mark =>
    intro d' mark' todo hm _ x hx _ hdep
    cases hm
    exact List.mem_map.mpr ⟨x,List.mem_filter.mpr ⟨hx,hdep⟩,rfl⟩
  | releases d mark todo name _ h hname =>
    intro d' mark' todo' hm hnow x hx hu hdep
    cases hm
    have hmem := (hc.steady h.toSteady huid) d mark todo rfl hnow x hx hu hdep
    exact List.mem_filter.mpr ⟨hmem,by simpa using hname x hx hdep⟩
  | judges u mark => split <;> exact nofun
  | _ => exact nofun

theorem Note.Trusts.uid {now uid : Nat} (h : m.Trusts k now uid) : m.uid?=some uid := by
  cases m with
  | clear u => exact congrArg some h
  | saw u mark => exact congrArg some h.1
  | _ => exact h.elim

theorem Note.Trusts.unarmed {now uid : Nat} (h : m.Trusts k now uid) : m.armed?=none := by
  cases m <;> first | rfl | exact h.elim

variable {p q : Removals} {e : PoolEvent Actor Answer Change}

/-- The same for the whole pool: a definition comes to be trusted only while the snapshot is there,
without a live mark, and then nothing else changes. -/
theorem trusted_step (hg : Timely k p e) (h : NoteStep (removals k src snap) p e q) (uid : Nat)
    (ht : Trusted k q uid) : Trusted k p uid ∨ q.shared=p.shared ∧
      (∀j n,q.notes j=some n → n.armed?=none ∨ p.notes j=some n) ∧
      ∃x,p.shared.snapshot src snap=some x ∧ x.deleting=false ∧
        k.isLive (x.props.mark k) p.shared.now=false := by
  cases h with
  | start i _ hi hs hn =>
    left
    refine ht.imp (fun h => hs ▸ h) fun ⟨j,n,hj,hn'⟩ => ?_
    rw [hn] at hj
    rw [hs] at hn'
    rcases update_some hj with ⟨_,hx⟩|⟨_,hx⟩
    · cases hx
      exact hn'.elim
    · exact ⟨j,n,hx,hn'⟩
  | stop i _ hs hn =>
    left
    refine ht.imp (fun h => hs ▸ h) fun ⟨j,n,hj,hn'⟩ => ?_
    rw [hn] at hj
    rw [hs] at hn'
    rcases update_some hj with ⟨_,hx⟩|⟨_,hx⟩
    · cases hx
    · exact ⟨j,n,hx,hn'⟩
  | call i c a m _ hi hmay henv hn =>
    have hmove : Move k src snap c.op p.shared m (m.next k src snap c a) q.shared :=
      step_move a hmay henv
    have hnow := step_now c a henv
    rcases ht with ht|⟨j,n,hj,hn'⟩
    · rcases hmove.reached with hr|⟨u,rfl,hr⟩
      · exact .inl (.inl (hr ▸ ht))
      · rw [hr] at ht
        rcases List.mem_cons.mp ht with heq|ht
        · cases heq
          exact .inl (.inr ⟨i,_,hi,rfl⟩)
        · exact .inl (.inl ht)
    · rw [hn] at hj
      rcases update_some hj with ⟨rfl,hx⟩|⟨_,hx⟩
      · cases hx
        rcases hmove.trusts hnow uid hn' with hm|⟨hs,x,hx⟩
        · exact .inl (.inr ⟨j,m,hi,hm⟩)
        · refine .inr ⟨hs,fun j' n' hj' => ?_,x,hx⟩
          rw [hn] at hj'
          rcases update_some hj' with ⟨_,hx'⟩|⟨_,hx'⟩
          · cases hx'
            exact .inl hn'.unarmed
          · exact .inr hx'
      · rw [hnow] at hn'
        exact .inl (.inr ⟨j,n,hx,hn'⟩)
  | other c _ he hn =>
    left
    have hframe : Frame k src snap Kept p.shared q.shared := changes_frame c he
    refine ht.imp (fun h => hframe.reached ▸ h) fun ⟨j,n,hj,hn'⟩ => ?_
    rw [hn] at hj
    refine ⟨j,n,hj,?_⟩
    rcases changes_now c he with ⟨now,rfl,hnow⟩|hnow
    · cases n with
      | clear u => exact hn'
      | saw u mark =>
        refine ⟨hn'.1,Bool.eq_false_iff.mpr fun hlive => ?_⟩
        have hlater := hg j u mark hj hlive
        rw [← hnow,hn'.2] at hlater
        cases hlater
      | _ => exact hn'.elim
    · rw [hnow] at hn'
      exact hn'

theorem Held.trusted_lt (h : Held k src snap p) (uid : Nat) (ht : Trusted k p uid) :
    uid<p.shared.uids := by
  rcases ht with ht|⟨i,m,hi,hm⟩
  · exact h.going uid ht
  · exact (h.fine i m hi).uid uid hm.uid

theorem Held.unarmed (h : Held k src snap p) (x : Snapshot) (hx : p.shared.snapshot src snap=some x)
    (hlive : k.isLive (x.props.mark k) p.shared.now=false) (i : Actor) (m : Note)
    (hi : p.notes i=some m) (d : Nat) (hd : d∈m.armed?) : d<p.shared.now := by
  refine Nat.lt_of_not_le fun hnow => ?_
  obtain ⟨mark,hmark,hle⟩ := (h.fine i m hi).marked d hd hnow x hx
  have httl := budget_ttl k
  have hyoung : k.isLive (x.props.mark k) p.shared.now=true := by
    rw [hmark]
    exact decide_eq_true (show p.shared.now < mark.written+k.ttl by omega)
  rw [hlive] at hyoung
  cases hyoung

theorem fine_step (hp : Held k src snap p) (ha : Alone k src snap p e)
    (h : NoteStep (removals k src snap) p e q) (j : Actor) (n : Note)
    (hj : q.notes j=some n) : Fine k src snap q.shared n := by
  refine h.each (fun u _ n => Fine k src snap u n) hp.fine
    (fun _ => ⟨nofun,nofun,nofun,nofun,nofun⟩) (fun i c a m he hi hmay henv => ?_)
    (fun c _ he j n hj => ?_) j n hj
  · obtain ⟨ctx,op⟩ := c
    have hmove : Move k src snap op p.shared m (m.next k src snap ⟨ctx,op⟩ a) q.shared :=
      step_move a hmay henv
    refine ⟨hmove.fine (hp.fine i m hi),fun j n hne hj => ?_⟩
    refine hmove.fine_other (hp.fine i m hi) n (hp.fine j n hj) fun rd sn mark x hop hxs hmark => ?_
    subst hop he
    exact ha ⟨x,hxs,hmark⟩ j n hne hj
  · have hframe : Frame k src snap Kept p.shared q.shared := changes_frame c he
    exact (hp.fine j n hj).kept hframe.toSteady

theorem covers_step (hp : Held k src snap p) (h : NoteStep (removals k src snap) p e q)
    (uid : Nat) (ht : Trusted k p uid) (j : Actor) (n : Note) (hj : q.notes j=some n) :
    Covers k src snap q.shared n uid := by
  have huid := hp.trusted_lt uid ht
  refine h.each (fun u _ n => Covers k src snap u n uid) (hp.safe uid ht) (fun _ => nofun)
    (fun i c a m _ hi hmay henv => ?_) (fun c _ he j n hj => ?_) j n hj
  · have hmove : Move k src snap c.op p.shared m (m.next k src snap c a) q.shared :=
      step_move a hmay henv
    obtain ⟨_,hsteady⟩ := hmove.steady
    exact ⟨hmove.covers uid huid (hp.safe uid ht i m hi),
      fun j n _ hj => (hp.safe uid ht j n hj).steady hsteady huid⟩
  · have hframe : Frame k src snap Kept p.shared q.shared := changes_frame c he
    exact (hp.safe uid ht j n hj).steady hframe.toSteady huid

theorem steady_step (h : NoteStep (removals k src snap) p e q) :
    ∃remark,Steady k src snap remark p.shared q.shared := by
  cases h with
  | start _ _ _ hs _ => exact ⟨Kept,by rw [hs]; exact (frame_refl _).toSteady⟩
  | stop _ _ hs _ => exact ⟨Kept,by rw [hs]; exact (frame_refl _).toSteady⟩
  | call i c a m _ hi hmay henv hn =>
    have hmove : Move k src snap c.op p.shared m (m.next k src snap c a) q.shared :=
      step_move a hmay henv
    exact hmove.steady
  | other c _ he hn => exact ⟨Kept,(changes_frame c he).toSteady⟩

theorem held_step (hp : Held k src snap p) (hg : Timely k p e) (ha : Alone k src snap p e)
    (h : NoteStep (removals k src snap) p e q) : Held k src snap q := by
  obtain ⟨_,hsteady⟩ := steady_step h
  have htrusted (uid : Nat) (ht : Trusted k q uid) : uid<p.shared.uids ∨
      q.shared=p.shared ∧ ∃j n,q.notes j=some n ∧ n.uid?=some uid := by
    rcases trusted_step hg h uid ht with ht'|⟨hs,_⟩
    · exact .inl (hp.trusted_lt uid ht')
    · rcases ht with ht|⟨j,n,hj,hn⟩
      · exact .inl (hp.going uid (hs ▸ ht))
      · exact .inr ⟨hs,j,n,hj,hn.uid⟩
  refine ⟨hsteady.known hp.known,fun uid hu => ?_,fine_step hp ha h,fun uid ht j n hj => ?_⟩
  · rcases htrusted uid (.inl hu) with hlt|⟨_,j,n,hj,hn⟩
    · exact Nat.lt_of_lt_of_le hlt hsteady.uids
    · exact (fine_step hp ha h j n hj).uid uid hn
  · rcases trusted_step hg h uid ht with ht'|⟨hs,hnotes,x,hx,_,hlive⟩
    · exact covers_step hp h uid ht' j n hj
    · intro d mark todo hm hnow
      rcases hnotes j n hj with hun|hj'
      · rw [hm] at hun
        cases hun
      · have hlt := hp.unarmed x hx hlive j n hj' d (by rw [hm]; rfl)
        rw [hs] at hnow
        omega

structure Lost (k : MarkKind) (src snap : String) (uid : Nat) (p : Removals) : Prop where
  gone : ∀x,p.shared.snapshot src snap=some x → x.deleting=true
  untrusted : ¬Trusted k p uid

theorem lost_step (uid : Nat) (hp : Lost k src snap uid p) (hg : Timely k p e)
    (h : NoteStep (removals k src snap) p e q) : Lost k src snap uid q := by
  obtain ⟨_,hsteady⟩ := steady_step h
  refine ⟨fun y hy => ?_,fun ht => ?_⟩
  · obtain ⟨x,hx,hdel,_⟩ := hsteady.source y hy
    exact hdel (hp.gone x hx)
  · rcases trusted_step hg h uid ht with ht'|⟨_,_,x,hx,hdel,_⟩
    · exact hp.untrusted ht'
    · rw [hp.gone x hx] at hdel
      cases hdel

variable (src snap) in
def Deleted (s t : State) : Prop := (∃x,s.snapshot src snap=some x ∧ x.deleting=false) ∧
  ∀y,t.snapshot src snap=some y → y.deleting=true

variable (k src snap) in
def NeedsSource (s : State) (d : Definition) : Prop :=
  d∈s.definitions ∧ dependsOn k src snap d=true ∧ Unfinished s d.name

structure Start (s : State) : Prop where
  reached : s.reached=[]
  known : ∀d∈s.definitions,d.uid<s.uids
  tokens : ∀x∈s.snapshots,∀k,∀mark∈x.props.mark k,mark.token<s.tokens

variable (k src snap) in
/-- In some run the snapshot is deleted under a definition that needs it, and the restore into that
definition goes on, before the delete or after it. -/
def LosesSource (guard : Removals → PoolEvent Actor Answer Change → Prop) (s : State) : Prop :=
  ∃es p e q d es' r,
    Run (guarded guard (Pool.Step (removals k src snap))) (Pool.idle s) es p ∧
    guarded guard (Pool.Step (removals k src snap)) p e q ∧ Deleted src snap p.shared q.shared ∧
    NeedsSource k src snap p.shared d ∧
    Run (guarded guard (Pool.Step (removals k src snap))) q es' r ∧
    .restoreProceeds d.uid∈r.shared.reached

theorem held_start (s : State) (h : Start s) : Held k src snap (Pool.idle s) where
  known := h.known
  going uid hu := by
    change _∈s.reached at hu
    rw [h.reached] at hu
    cases hu
  fine i m hi := by cases hi
  safe uid _ i m hi := by cases hi

theorem serve_present (x : Snapshot) (hx : s.snapshot src snap=some x) (hdel : x.deleting=false)
    (hop : ∀rd sn,op≠.deleteSnapshot rd sn) :
    ∃y,(serve s op).2.snapshot src snap=some y ∧ y.deleting=false := by
  cases op with
  | deleteSnapshot rd sn => exact absurd rfl (hop rd sn)
  | patchSnapshotProps rd sn patch =>
    simp only [serve]
    split
    · exact ⟨x,hx,hdel⟩
    · split
      · exact ⟨x,hx,hdel⟩
      · rename_i props _
        have hmap := snapshot_modifySnapshot s src snap rd sn (fun x => {x with props}) fun _ => rfl
        rw [hx] at hmap
        refine ⟨_,hmap,?_⟩
        dsimp only
        split <;> exact hdel
  | createDefinition name props =>
    rcases serve_create s name props with ⟨_,heq⟩|heq <;> rw [heq] <;> exact ⟨x,hx,hdel⟩
  | patchDefinition name patch =>
    simp only [serve]
    split
    · exact ⟨x,hx,hdel⟩
    · split <;> exact ⟨x,hx,hdel⟩
  | deleteDefinition name =>
    simp only [serve]
    split <;> exact ⟨x,hx,hdel⟩
  | _ => exact ⟨x,hx,hdel⟩

theorem changes_present (c : Change) (h : Changes s c t) (x : Snapshot)
    (hx : s.snapshot src snap=some x) (hdel : x.deleting=false) :
    ∃y,t.snapshot src snap=some y ∧ y.deleting=false := by
  cases c with
  | tick now =>
    obtain ⟨_,rfl⟩ := h
    exact ⟨x,hx,hdel⟩
  | create name props =>
    cases h
    exact serve_present x hx hdel nofun
  | clearRollbackMark name =>
    obtain ⟨_,rfl⟩ := h
    exact ⟨x,hx,hdel⟩
  | removeSnapshot rd sn =>
    obtain ⟨hgone,rfl⟩ := h
    have hmem := (s.snapshots.get?_eq_some _ x).mp hx
    have hne : x.key≠(Text.fold rd,Text.fold sn) := by
      intro hk
      have hflag := hgone x ((s.snapshots.get?_eq_some _ x).mpr ⟨hmem.1,hk⟩)
      rw [hdel] at hflag
      cases hflag
    exact ⟨x,(Keyed.get?_eq_some _ _ x).mpr
      ⟨(s.snapshots.mem_erase _ x).mpr ⟨hmem.1,hne⟩,hmem.2⟩,hdel⟩
  | _ =>
    cases h
    exact ⟨x,hx,hdel⟩

theorem deleted_by (h : NoteStep (removals k src snap) p e q)
    (hdel : Deleted src snap p.shared q.shared) :
    ∃i d mark,p.notes i=some (.releasing d mark []) ∧ p.shared.now ≤ d := by
  obtain ⟨⟨x,hx,hx'⟩,hgone⟩ := hdel
  have hnot (y : Snapshot) (hy : q.shared.snapshot src snap=some y) (hy' : y.deleting=false) :
      False := by
    rw [hgone y hy] at hy'
    cases hy'
  cases h with
  | start _ _ _ hs _ => exact (hnot x (hs ▸ hx) hx').elim
  | stop _ _ hs _ => exact (hnot x (hs ▸ hx) hx').elim
  | other c _ he _ =>
    obtain ⟨y,hy,hy'⟩ := changes_present c he x hx hx'
    exact (hnot y hy hy').elim
  | call i c a m _ hi hmay henv _ =>
    obtain ⟨ctx,op⟩ := c
    have hlanded : Cmd.Within ⟨ctx,op⟩ p.shared.now ∧ q.shared=(serve p.shared op).2 := by
      rcases henv with ⟨hin,_,ht⟩|⟨_,ht⟩|⟨_,ht|ht⟩
      · exact ⟨hin,ht⟩
      · exact (hnot x (ht ▸ hx) hx').elim
      · exact (hnot x (ht ▸ hx) hx').elim
      · exact ht
    by_cases hop : ∃rd sn,op=.deleteSnapshot rd sn
    · obtain ⟨rd,sn,rfl⟩ := hop
      obtain ⟨_,d,mark,rfl,rfl⟩ := hmay
      exact ⟨i,d,mark,hi,hlanded.1 d rfl⟩
    · obtain ⟨y,hy,hy'⟩ := serve_present x hx hx' fun rd sn heq => hop ⟨rd,sn,heq⟩
      exact (hnot y (hlanded.2 ▸ hy) hy').elim

theorem lost_of_deleted (hp : Held k src snap p) (hg : Timely k p e)
    (h : NoteStep (removals k src snap) p e q) (hdel : Deleted src snap p.shared q.shared)
    (d : Definition) (hd : d∈p.shared.definitions) (hdep : dependsOn k src snap d=true) :
    Lost k src snap d.uid q := by
  obtain ⟨i,dl,mark,hi,hnow⟩ := deleted_by h hdel
  have hun : ¬Trusted k p d.uid := by
    intro ht
    have hmem := hp.safe d.uid ht i _ hi dl mark [] rfl hnow d hd rfl hdep
    cases hmem
  refine ⟨hdel.2,fun ht => ?_⟩
  rcases trusted_step hg h d.uid ht with ht'|⟨hs,_⟩
  · exact hun ht'
  · obtain ⟨⟨x,hx,hx'⟩,hgone⟩ := hdel
    rw [hs] at hgone
    rw [hgone x hx] at hx'
    cases hx'

theorem keepsSource_of_invariant (guard : Removals → PoolEvent Actor Answer Change → Prop)
    (hguard : ∀p e,guard p e → Timely k p e) (I : Removals → Prop)
    (hI : ∀p,I p → Held k src snap p)
    (hstep : ∀p e q,I p → guard p e → Pool.NoteStep (removals k src snap) p e q → I q)
    (s : State) (hs : I (Pool.idle s)) : ¬LosesSource k src snap guard s := by
  rintro ⟨es,p,e,q,d,es',r,hrun,hdelete,hdel,hneeds,hrun',hgoing⟩
  have hsound := removals_sound k src snap
  obtain ⟨hF,hp⟩ := (Pool.following_idle s).invariant hsound guard I hstep hs hrun
  have hlost := lost_of_deleted (hI p hp) (hguard p e hdelete.1) (hF.noteStep e hdelete.2) hdel d
    hneeds.1 hneeds.2.1
  obtain ⟨_,hr⟩ := (hF.step hsound e hdelete.2).invariant hsound guard (Lost k src snap d.uid)
    (fun p e q hp hg h => lost_step d.uid hp (hguard p e hg) h) hlost hrun'
  exact hr.untrusted (.inl hgoing)

end

def newSnapshot : State where
  now := 1000*second
  tokens := 0
  uids := 1
  definitions := ⟨[⟨"pvc-1",0,.empty,false,[⟨0,1024⟩]⟩],by decide⟩
  replicas := []
  snapshots := ⟨[⟨"pvc-1","snap",[⟨0,1024⟩],⟨none,none⟩,false⟩],by decide⟩
  claims := []
  reached := []

theorem start_newSnapshot : Start newSnapshot where
  reached := rfl
  known := by
    intro d hd
    obtain rfl := List.mem_singleton.mp hd
    decide
  tokens := by
    intro x hx k mark hmark
    obtain rfl := List.mem_singleton.mp hx
    cases k <;> cases hmark

section Concrete

variable (k : MarkKind)

def removalsOn (s : State) (actors : List Actor) :
    List (PoolEvent Actor Answer Change) × Removals :=
  turns (removals k "pvc-1" "snap") inTime (fun _ _ => none) (Pool.idle s) (actors.map .inl)

theorem timely_turn {k' : MarkKind} {p q : Removals} {e : PoolEvent Actor Answer Change} {i : Actor}
    (h : turn (removals k "pvc-1" "snap") inTime (fun _ _ => none) p (.inl i)=some (e,q)) :
    Timely k' p e := by
  rcases turn_program i e h with rfl|⟨c,a,rfl⟩ <;> trivial

theorem run_removals (s : State) (actors : List Actor) :
    Run (guarded (Timely k) (Pool.Step (removals k "pvc-1" "snap"))) (Pool.idle s)
      (removalsOn k s actors).1 (removalsOn k s actors).2 := by
  refine run_turns (Timely k) (fun _ x => x.isLeft) (fun s c r h => step_inTime s c r h)
    (fun _ _ _ h => (by cases h)) (fun p x e q hx h => ?_) _ _ (Pool.turnsAll_of _ _ _ ?_)
  · obtain ⟨i,rfl⟩ := Sum.isLeft_iff.mp hx
    exact timely_turn k h
  · intro p x hx
    obtain ⟨i,_,rfl⟩ := List.mem_map.mp hx
    rfl

end Concrete

end Blockstor.Store
