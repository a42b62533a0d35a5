import Blockstor.Orchestration.Schedule

namespace Blockstor.Orchestration

open Framework Pool Satellite Function Option

def handling (s : Cluster) (node name : String) : Bool :=
  (s.notes (.satellite node)).any fun m => m.snap.any fun z => decide (z.name=name)

def suspending (s : Cluster) (node name : String) : Bool :=
  (s.notes (.satellite node)).any fun m =>
    decide (m.did=some .suspended) && m.snap.any fun z => decide (z.name=name)

/-- The condition: the duty to resume is not lost. A snapshot is deleted when none of its nodes is
suspended for it or at work on it. `suspendIO` is cleared when every node that is suspended has
acknowledged it or is about to, and a satellite that has suspended ends while the flag still
stands or with its acknowledgement written. -/
def keepsDuty (s : Cluster) : Event → Bool
  | .other (.delete name) => (s.shared.get? name).all fun x =>
      decide (x.deletionTimestamp≠none) ||
        x.nodes.all fun n => !s.shared.frozen n name && !handling s n name
  | .other (.writeStatus _ _) => false
  | .call .controller (.patch name (.flip false _)) _ => (s.shared.get? name).all fun x =>
      x.nodes.all fun n => !s.shared.frozen n name || x.acked n || suspending s n name
  | .stop (.satellite n) => (s.notes (.satellite n)).all fun m =>
      decide (m.did≠some .suspended) || m.snap.all fun z =>
        (s.shared.get? z.name).any fun x => x.suspendIO || x.acked n
  | _ => true

def reconciled (s : State) (w : Worker) (name : String) : State :=
  ((system.prog w).simulate serve {s with requests := update s.requests w name}).2

/-- Nothing is left to do for a snapshot: no worker is at work on it, and whoever reconciles it
leaves the objects and the nodes as they are. -/
structure Quiet (s : Cluster) (name : String) : Prop where
  idle : ∀w m z,s.notes w=some m → m.snap=some z → z.name≠name
  snapshots : ∀w,(reconciled s.shared w name).snapshots=s.shared.snapshots
  suspended : ∀w,(reconciled s.shared w name).suspended=s.shared.suspended
  frozen : ∀w,(reconciled s.shared w name).frozen=s.shared.frozen
  materialised : ∀w,(reconciled s.shared w name).materialised=s.shared.materialised

def LosesFrozen (s t : Cluster) : Prop :=
  ∃name n,s.shared.get? name≠none ∧ t.shared.get? name=none ∧ s.shared.frozen n name=true

def StaysFrozen (s : Cluster) : Prop :=
  ∃name x n,s.shared.get? name=some x ∧ x.suspendIO=false ∧ Quiet s name ∧
    s.shared.frozen n name=true

variable {s t : Cluster} {e : Event} {n name : String} {m : Note} {x z : Snapshot}

theorem suspending_iff : suspending s n name=true ↔
    ∃m z,s.notes (.satellite n)=some m ∧ m.did=some .suspended ∧ m.snap=some z ∧ z.name=name := by
  simp only [suspending,any_eq_true,Bool.and_eq_true,decide_eq_true_eq]
  constructor
  · rintro ⟨m,hm,hdid,z,hz,hname⟩
    exact ⟨m,z,hm,hdid,hz,hname⟩
  · rintro ⟨m,z,hm,hdid,hz,hname⟩
    exact ⟨m,hm,hdid,z,hz,hname⟩

theorem faithful_of_keepsDuty (h : keepsDuty s e=true) : Faithful e := by
  rintro name rows rfl
  cases h

theorem next_suspended {op : Op} (a : OpAnswer op) (hmay : maySatellite n m op)
    (hdid : m.did=some .suspended) (hz : m.snap=some z) :
    (m.next op a).did=some .suspended ∧ (m.next op a).snap=some z := by
  have hnone : m.did≠none := by
    rw [hdid]
    exact some_ne_none _
  constructor
  · rcases next_did m op a with hd|⟨_,_,_,he,_⟩|⟨_,_,_,he,_⟩|⟨_,_,_,_,_,he,_⟩|⟨_,_,_,he,_⟩
    · rw [hd,hdid]
    all_goals
      cases he
      exact absurd hmay.2.1 hnone
  · rcases next_fetched m op a with ⟨hs,_⟩|⟨_,_,he,_⟩|⟨_,_,he,_⟩
    · rw [hs,hz]
    · cases he
      cases hmay
      cases hdid
    · cases he
      exact hmay.elim

theorem suspending_step (h : NoteStep system s e t) (hs : suspending s n name=true) :
    suspending t n name=true ∨ e=.stop (.satellite n) := by
  obtain ⟨m,z,hm,hdid,hz,hname⟩ := suspending_iff.mp hs
  cases h with
  | start i _ hi _ ht =>
    left
    have hne : Worker.satellite n≠i := by
      rintro rfl
      rw [hi] at hm
      cases hm
    refine suspending_iff.mpr ⟨m,z,?_,hdid,hz,hname⟩
    rw [ht,update_of_ne hne]
    exact hm
  | stop i _ _ ht =>
    by_cases hi : Worker.satellite n=i
    · exact .inr (by rw [hi])
    · refine .inl (suspending_iff.mpr ⟨m,z,?_,hdid,hz,hname⟩)
      rw [ht,update_of_ne hi]
      exact hm
  | call w op a m' _ hm' hmay _ ht =>
    left
    by_cases hw : Worker.satellite n=w
    · subst hw
      rw [hm] at hm'
      cases hm'
      obtain ⟨hdid',hz'⟩ := next_suspended a hmay hdid hz
      refine suspending_iff.mpr ⟨_,z,?_,hdid',hz',hname⟩
      rw [ht,update_self]
      rfl
    · refine suspending_iff.mpr ⟨m,z,?_,hdid,hz,hname⟩
      rw [ht,update_of_ne hw]
      exact hm
  | other c _ _ ht =>
    left
    refine suspending_iff.mpr ⟨m,z,?_,hdid,hz,hname⟩
    rw [ht]
    exact hm

theorem frozen_step (h : NoteStep system s e t) (hf : t.shared.frozen n name=true) :
    s.shared.frozen n name=true ∨ suspending t n name=true ∧
      ∃m z,s.notes (.satellite n)=some m ∧ m.Live n z ∧ z.name=name := by
  cases h with
  | start i _ _ hs _ => exact .inl (hs ▸ hf)
  | stop i _ hs _ => exact .inl (hs ▸ hf)
  | other c _ hc _ =>
    obtain ⟨_,_,_,_,_,hshape⟩ := changes_shape hc
    rw [hshape] at hf
    exact .inl hf
  | call w op a m _ hm hmay henv ht =>
    rcases step_io henv with ⟨_,hs⟩|⟨k,rd,sn,he,_,hs⟩|⟨k,rd,sn,_,_,hs⟩
    · exact .inl (hs ▸ hf)
    · rw [hs] at hf
      rcases of_set₂ hf with ⟨rfl,rfl,_⟩|hf
      · cases he
        cases w with
        | controller => exact hmay.elim
        | satellite node =>
          obtain ⟨rfl,_,z,hlive,_,hname,_⟩ := hmay
          refine .inr ⟨suspending_iff.mpr ⟨_,z,by rw [ht,update_self],rfl,?_,hname.symm⟩,
            m,z,hm,hlive,hname.symm⟩
          exact hlive.1.1
      · exact .inl hf
    · rw [hs] at hf
      rcases of_set₂ hf with ⟨_,_,hfalse⟩|hf
      · cases hfalse
      · exact .inl hf

/-- Nothing is suspended that nobody will resume: the object is there and wants the suspension, or
the node has acknowledged it, or is about to. -/
def Owed (s : Cluster) (n name : String) : Prop :=
  ∃x,s.shared.get? name=some x ∧ x.deletionTimestamp=none ∧ n∈x.nodes ∧
    (x.suspendIO=true ∨ x.acked n=true ∨ suspending s n name=true)

def Lives (s : State) (w : Worker) (m : Note) : Prop :=
  ∀n z,w=.satellite n → m.snap=some z → n∈z.nodes → z.deletionTimestamp=none →
    ∃x,s.get? z.name=some x ∧ x.deletionTimestamp=none ∧ x.Same z

def Resumed (s : State) (w : Worker) (m : Note) : Prop :=
  ∀n z,w=.satellite n → m.snap=some z → m.did=some .resumed → s.frozen n z.name=false

structure Dutiful (s : Cluster) : Prop where
  owed : ∀n name,s.shared.frozen n name=true → Owed s n name
  lives : ∀w m,s.notes w=some m → Lives s.shared w m
  resumed : ∀w m,s.notes w=some m → Resumed s.shared w m

theorem handling_of_note (hm : s.notes (.satellite n)=some m) (hz : m.snap=some z) :
    handling s n z.name=true := by
  simp [handling,hm,hz]

theorem not_deleted (hguard : keepsDuty s e=true) (hx : s.shared.get? name=some x)
    (hlive : x.deletionTimestamp=none) (hn : n∈x.nodes)
    (h : s.shared.frozen n name=true ∨ handling s n name=true) : e≠.other (.delete name) := by
  rintro rfl
  have hall : ∀k∈x.nodes,s.shared.frozen k name=false ∧ handling s k name=false := by
    simpa [keepsDuty,hx,hlive] using hguard
  rcases h with h|h
  · rw [(hall n hn).1] at h
    cases h
  · rw [(hall n hn).2] at h
    cases h

theorem Lives.step (h : NoteStep system s e t) (hguard : keepsDuty s e=true)
    (hs : ∀w m,s.notes w=some m → Lives s.shared w m) :
    ∀w m,t.notes w=some m → Lives t.shared w m := by
  -- a live object of which a satellite has a copy is not deleted meanwhile
  have hkeep (w : Worker) (m : Note) (hm : s.notes w=some m) : Lives t.shared w m := by
    rintro n z rfl hz hn hlive
    obtain ⟨x,hx,hxlive,hsame⟩ := hs _ m hm n z rfl hz hn hlive
    have hd := not_deleted hguard hx hxlive (hsame.nodes ▸ hn) (.inr (handling_of_note hm hz))
    obtain ⟨y,hy,hturn⟩ := turned_live h hd hx hxlive
    refine ⟨y,hy,?_,hturn.same_fields.trans hsame⟩
    rw [hturn.deletionTimestamp (get?_name hx ▸ hd),hxlive]
  refine h.each (fun sh w m => Lives sh w m) hs (fun _ _ _ _ hz => by cases hz) ?_ ?_
  · intro w op a m _ hm hmay henv
    refine ⟨?_,fun j k _ hk => hkeep j k hk⟩
    rcases next_fetched m op a with ⟨hsnap,_⟩|⟨k,z,he,hnext⟩|⟨g,items,he,hnext⟩
    · intro n z hw hz
      exact hkeep w m hm n z hw (hsnap ▸ hz)
    · cases he
      obtain ⟨hst,hz⟩ := step_getSnapshot henv
      intro n z' _ hz' _ hlive
      rw [show ((system.protocol w).next m (.getSnapshot k) (.ok z)).snap=some z by
        exact congrArg Note.snap hnext] at hz'
      cases hz'
      rw [hst]
      exact ⟨z,get?_name hz ▸ hz,hlive,.refl z⟩
    · cases he
      obtain ⟨rfl,_⟩ := may_listSiblings hmay
      rintro n z hw
      cases hw
  · intro c _ _ j k hk
    exact hkeep j k hk

theorem Resumed.step (h : NoteStep system s e t)
    (hs : ∀w m,s.notes w=some m → Resumed s.shared w m) :
    ∀w m,t.notes w=some m → Resumed t.shared w m := by
  -- who has resumed had nothing suspended before, or has just resumed
  have hone := h.each (fun _ w m => ∀n z,w=.satellite n → m.snap=some z → m.did=some .resumed →
    s.shared.frozen n z.name=false ∨ t.shared.frozen n z.name=false)
    (fun w m hm n z hw hz hdid => .inl (hs w m hm n z hw hz hdid))
    (fun _ _ _ _ hz => by cases hz) ?_
    (fun _ _ _ w m hm n z hw hz hdid => .inl (hs w m hm n z hw hz hdid))
  · rintro _ m hm n z rfl hz hdid
    cases hf : t.shared.frozen n z.name with
    | false => rfl
    | true =>
      rcases frozen_step h hf with hold|⟨hsuspending,_⟩
      · rcases hone _ m hm n z rfl hz hdid with hfalse|hfalse
        · rw [hold] at hfalse
          cases hfalse
        · rw [hf] at hfalse
          cases hfalse
      · obtain ⟨m',_,hm',hdid',_⟩ := suspending_iff.mp hsuspending
        rw [hm] at hm'
        cases hm'
        rw [hdid] at hdid'
        cases hdid'
  · intro w op a m _ hm hmay henv
    refine ⟨?_,fun w m _ hm n z hw hz hdid => .inl (hs w m hm n z hw hz hdid)⟩
    rintro n z rfl hz hdid
    change may (.satellite n) m op at hmay
    change (m.next op a).snap=some z at hz
    change (m.next op a).did=some .resumed at hdid
    have hsnap : m.snap=some z ∨ m=.empty := by
      rcases next_fetched m op a with ⟨hsnap,_⟩|⟨_,_,he,_⟩|⟨_,_,he,_⟩
      · exact .inl (hsnap ▸ hz)
      · cases he
        exact .inr (may_getSnapshot hmay)
      · cases he
        cases (may_listSiblings hmay).1
    rcases next_did m op a with hd|⟨_,_,_,_,hd⟩|⟨k,rd,sn,he,_⟩|⟨_,_,_,_,_,_,_,hd⟩|⟨_,_,_,_,hd⟩
    · rw [hd] at hdid
      rcases hsnap with hz|rfl
      · exact .inl (hs _ m hm n z rfl hz hdid)
      · cases hdid
    · rw [hd] at hdid
      cases hdid
    · cases he
      obtain ⟨hw,_,z',⟨⟨hz',_⟩,_⟩,_,rfl,_⟩ := may_resume hmay
      cases hw
      rcases hsnap with hz|rfl
      · rw [hz] at hz'
        cases hz'
        right
        rw [step_resumeResource henv]
        simp [set₂]
      · cases hz'
    · rw [hd] at hdid
      cases hdid
    · rw [hd] at hdid
      cases hdid

theorem Dutiful.acked_turned {y : Snapshot} (hs : Dutiful s) (he : Faithful e)
    (hturn : Turned s e x y) (hf : s.shared.frozen n x.name=true) (h : x.acked n=true) :
    y.acked n=true := by
  rcases hturn.acked he n with hsame|⟨m,z,hm,hl,hname,hdid⟩
  · rw [hsame,h]
  · cases hy : y.acked n with
    | true => rfl
    | false =>
      rw [hy] at hdid
      have hfalse := hs.resumed _ m hm n z rfl hl.1.1 hdid
      rw [hname,hf] at hfalse
      cases hfalse

theorem Dutiful.owed_step (h : NoteStep system s e t) (hguard : keepsDuty s e=true)
    (hs : Dutiful s) (hf : t.shared.frozen n name=true) : Owed t n name := by
  rcases frozen_step h hf with hold|⟨hsuspending,m,z,hm,⟨⟨hz,hn⟩,hlive,_⟩,rfl⟩
  · obtain ⟨x,hx,hlive,hn,howed⟩ := hs.owed n name hold
    have hd := not_deleted hguard hx hlive hn (.inl hold)
    obtain ⟨y,hy,hturn⟩ := turned_live h hd hx hlive
    refine ⟨y,hy,?_,hturn.same_fields.nodes ▸ hn,?_⟩
    · rw [hturn.deletionTimestamp (get?_name hx ▸ hd),hlive]
    · by_cases hsuspending : suspending t n name=true
      · exact .inr (.inr hsuspending)
      · -- the flag or the acknowledgement has to stand
        have hstop (hold : suspending s n name=true) : e=.stop (.satellite n) :=
          (suspending_step h hold).resolve_left hsuspending
        have hstands : x.suspendIO=true ∨ x.acked n=true := by
          rcases howed with h|h|h
          · exact .inl h
          · exact .inr h
          · obtain ⟨m,z,hm,hdid,hz,hname⟩ := suspending_iff.mp h
            rw [hstop h] at hguard
            simpa [keepsDuty,hm,hdid,hz,hname,hx] using hguard
        have hacked := hs.acked_turned (faithful_of_keepsDuty hguard) hturn (get?_name hx ▸ hold)
        rcases hstands with hio|h
        · cases hyio : y.suspendIO with
          | true => exact .inl rfl
          | false =>
            obtain ⟨a,he⟩ := hturn.flipped (by rw [hio,hyio]; exact Bool.false_ne_true)
            rw [hyio,get?_name hx] at he
            rw [he] at hguard hstop
            have hall : ∀k∈x.nodes,(s.shared.frozen k name=false ∨ x.acked k=true) ∨
                suspending s k name=true := by
              simpa [keepsDuty,hx] using hguard
            rcases hall n hn with (hfalse|h)|h
            · rw [hold] at hfalse
              cases hfalse
            · exact .inr (.inl (hacked h))
            · cases hstop h
        · exact .inr (.inl (hacked h))
  · obtain ⟨x,hx,hxlive,hsame⟩ := hs.lives _ m hm n z rfl hz hn hlive
    have hn' : n∈x.nodes := hsame.nodes ▸ hn
    have hd := not_deleted hguard hx hxlive hn' (.inr (handling_of_note hm hz))
    obtain ⟨y,hy,hturn⟩ := turned_live h hd hx hxlive
    refine ⟨y,hy,?_,hturn.same_fields.nodes ▸ hn',.inr (.inr hsuspending)⟩
    rw [hturn.deletionTimestamp (get?_name hx ▸ hd),hxlive]

theorem Dutiful.step (h : NoteStep system s e t) (hguard : keepsDuty s e=true)
    (hs : Dutiful s) : Dutiful t where
  owed n name hf := hs.owed_step h hguard hf
  lives := Lives.step h hguard hs.lives
  resumed := Resumed.step h hs.resumed

theorem dutiful_initial : Dutiful (idle .initial) where
  owed _ _ h := by cases h
  lives _ _ h := by cases h
  resumed _ _ h := by cases h

section Reconciled

variable {s : State}

theorem found_requested (w : Worker) (hx : s.get? name=some x) {u : State}
    (hu : u={s with requests := update s.requests w name}) :
    found (u.get? (u.requests w))=.ok x := by
  subst hu
  change found (s.get? (update s.requests w name w))=.ok x
  rw [update_self,hx]
  rfl

theorem reconciled_satellite (hx : s.get? name=some x) : reconciled s (.satellite n) name=
    ((handle n x).simulate serve
      {s with requests := update s.requests (.satellite n) name}).2 := by
  let u : State := {s with requests := update s.requests (.satellite n) name}
  change ((answered n (found (u.get? (u.requests (.satellite n))))).simulate serve u).2=_
  rw [found_requested (.satellite n) hx rfl]
  rfl

theorem simulate_lift {α β : Type} (a : Except Err α) (r : β) :
    ((lift a >>= fun _ => (pure r : Prog β)).simulate serve s).2=s := by
  cases a <;> rfl

theorem finalized_get? (hx : s.get? x.name=some x) (f : String) :
    (serve s (.updateFinalizers x (x.finalizers++[f]))).2.get? x.name=
      some {x with finalizers := x.finalizers++[f], resourceVersion := s.revision} := by
  have hwrite : (s.write x.name (fun x' => {x' with finalizers := x.finalizers++[f]})
      fun _ => rfl).get? x.name=
        some {x with finalizers := x.finalizers++[f], resourceVersion := s.revision} := by
    rw [get?_write,hx,map_some,if_pos rfl]
  simp only [serve]
  rw [hx]
  dsimp only
  rw [if_pos rfl,sweep_kept hwrite (by simp)]
  exact hwrite

theorem reconciled_resumes (hx : s.get? name=some x) (hn : n∈x.nodes)
    (hlive : x.deletionTimestamp=none) (hio : x.suspendIO=false) (hacked : x.acked n=true) :
    (reconciled s (.satellite n) name).snapshots≠s.snapshots ∨
      (reconciled s (.satellite n) name).frozen n name=false := by
  obtain rfl := get?_name hx
  rw [reconciled_satellite hx,handle,if_neg (by simpa using hn),
    if_neg (by simpa using hlive)]
  let u : State := {s with requests := update s.requests (.satellite n) x.name}
  split
  · left
    intro hsame
    change ((lift (serve u (.updateFinalizers x
      (x.finalizers++[satelliteSnapshotFinalizer]))).1 >>= _).simulate serve _).2.snapshots=_ at hsame
    rw [simulate_lift] at hsame
    have hget := finalized_get? (s := u) hx satelliteSnapshotFinalizer
    rw [State.get?,hsame] at hget
    change s.get? x.name=_ at hget
    rw [hx] at hget
    have hlength := congrArg List.length (congrArg Snapshot.finalizers (some.inj hget))
    simp at hlength
  · right
    have hphase : handleCreate n x=handleResumePhase n x := by
      unfold Snapshot.acked at hacked
      simp [handleCreate,hio,hacked]
    rw [hphase]
    let v : State := (serve u (.resumeResource n x.resourceDefinitionName x.name)).2
    change ((lift (serve v (.patch x.name (.suspendCleared n))).1 >>= _).simulate
      serve _).2.frozen n x.name=false
    rw [simulate_lift]
    have hv : v.frozen n x.name=false := by simp [v,serve,set₂]
    simp only [serve]
    split
    · exact hv
    · exact hv

theorem reconciled_controller (hx : s.get? name=some x) (hlive : x.deletionTimestamp=none)
    (hadopted : x.adopted≠"true") (hgroup : x.groupID="") (hio : x.suspendIO=false)
    (htake : x.takeSnapshot=false) (hfailed : anyNodeFailed x.nodeStatus=false)
    (hcleared : allNodesSuspendCleared x.nodeStatus x.nodes=true) :
    reconciled s .controller name=
      {s with requests := update s.requests .controller name} := by
  have hfetch : fetchSiblings x=pure [x] := by rw [fetchSiblings,if_pos hgroup]
  have hcheck : checkAbortConditions x [x]=pure none := by
    simp [checkAbortConditions,anySiblingFailed,hfailed,inSuspendPhase,hio]
  have hphase : (nextPhase x [x]).advance=false := by
    simp [nextPhase,hio,htake,allSiblingsSuspendCleared,hcleared]
  have hrest : orchestrate x=pure .none := by
    rw [orchestrate,hfetch]
    change (checkAbortConditions x [x] >>= _)=_
    rw [hcheck]
    change (if x.nodes=[] then pure .none else if (nextPhase x [x]).advance then _
      else requeueIfSuspended x [x])=_
    rw [hphase]
    simp [requeueIfSuspended,inSuspendPhase,hio]
  let u : State := {s with requests := update s.requests .controller name}
  change (reconcile.simulate serve u).2=u
  unfold reconcile ask
  rw [Shell.simulate_ask,Shell.simulate_ask]
  change (Shell.simulate serve _ u).2=u
  rw [show (serve (serve u (.dequeue .controller)).2
    (.getSnapshot (serve u (.dequeue .controller)).1)).1=.ok x from
      found_requested .controller hx rfl]
  dsimp only
  rw [if_neg (by simpa using hlive),if_neg fun h => hadopted h.1,hrest]
  rfl

theorem reconciled_drained (hx : s.get? name=some x) (hlive : x.deletionTimestamp=none)
    (hfin : satelliteSnapshotFinalizer∈x.finalizers) (hio : x.suspendIO=false)
    (htake : x.takeSnapshot=false) (hacked : n∈x.nodes → x.acked n=false) :
    reconciled s (.satellite n) name=
      {s with requests := update s.requests (.satellite n) name} := by
  rw [reconciled_satellite hx]
  have hnone : handle n x=pure .none := by
    unfold handle
    by_cases hn : n∈x.nodes
    · have hacked := hacked hn
      unfold Snapshot.acked at hacked
      simp [hn,hlive,hfin,handleCreate,hio,htake,hacked]
    · rw [if_pos hn]
  rw [hnone]
  rfl

end Reconciled

theorem quiet_of_drained (hidle : ∀w,s.threads w=none) (hx : s.shared.get? name=some x)
    (hlive : x.deletionTimestamp=none) (hfin : satelliteSnapshotFinalizer∈x.finalizers)
    (hadopted : x.adopted≠"true") (hgroup : x.groupID="") (hio : x.suspendIO=false)
    (htake : x.takeSnapshot=false) (hfailed : anyNodeFailed x.nodeStatus=false)
    (hcleared : allNodesSuspendCleared x.nodeStatus x.nodes=true)
    (hacked : ∀n∈x.nodes,x.acked n=false) : Quiet s name := by
  have hsame (w : Worker) : reconciled s.shared w name=
      {s.shared with requests := update s.shared.requests w name} := by
    cases w with
    | controller =>
      exact reconciled_controller hx hlive hadopted hgroup hio htake hfailed hcleared
    | satellite n => exact reconciled_drained hx hlive hfin hio htake (hacked n)
  refine ⟨fun w m z hm => ?_,fun w => ?_,fun w => ?_,fun w => ?_,fun w => ?_⟩
  · rw [notes,hidle w] at hm
    cases hm
  all_goals rw [hsame w]

/-- Frozen I/O is released. In every run that keeps the duty to resume, an object never goes while
a node is suspended for it, and no node stays suspended for a snapshot that wants no suspension and
is left alone. -/
theorem frozen_io_is_released {es : List Event}
    (hrun : Run (guarded (fun s e => keepsDuty s e=true) (Pool.Step system))
      (idle .initial) es s) :
    (∀e t,keepsDuty s e=true → Pool.Step system s e t → ¬LosesFrozen s t) ∧ ¬StaysFrozen s := by
  obtain ⟨hfollow,hs⟩ := (following_idle _).invariant system_sound _ Dutiful
    (fun _ _ _ hs hguard hstep => hs.step hstep hguard) dutiful_initial hrun
  constructor
  · rintro e t hguard hstep ⟨name,n,_,hgone,hf⟩
    obtain ⟨x,hx,hlive,hn,_⟩ := hs.owed n name hf
    obtain ⟨y,hy,_⟩ := turned_live (hfollow.noteStep e hstep)
      (not_deleted hguard hx hlive hn (.inl hf)) hx hlive
    rw [hgone] at hy
    cases hy
  · rintro ⟨name,x,n,hx,hio,hquiet,hf⟩
    obtain ⟨x',hx',hlive,hn,howed⟩ := hs.owed n name hf
    rw [hx] at hx'
    cases hx'
    rcases howed with h|hacked|h
    · rw [hio] at h
      cases h
    · rcases reconciled_resumes hx hn hlive hio hacked with h|h
      · exact h (hquiet.snapshots (.satellite n))
      · rw [hquiet.frozen,hf] at h
        cases h
    · obtain ⟨m,z,hm,_,hz,hname⟩ := suspending_iff.mp h
      exact hquiet.idle _ m z hm hz hname

def deletedWhileSuspended : List Turn :=
  .other (.create "a" ⟨"ra","s",["n"],[0],"",0,"",""⟩)::
    reconciling (.satellite "n") "a" 4++reconciling (.satellite "n") "a" 5++
    .other (.delete "a")::.other (.request (.satellite "n") "a")::
      List.replicate 4 (.go (.satellite "n"))

/-- A snapshot on two nodes. One of them suspends a second time and dies before it says so, and the
snapshot is given up meanwhile. -/
def diesSuspended : List Turn :=
  .other (.create "a" ⟨"ra","s",["n","m"],[0],"",0,"",""⟩)::
    reconciling (.satellite "m") "a" 4++reconciling (.satellite "m") "a" 5++
    .other (.tick (121*Store.second))::reconciling .controller "a" 7++
    reconciling (.satellite "m") "a" 5++reconciling .controller "a" 4++
    reconciling (.satellite "m") "a" 4++reconciling (.satellite "n") "a" 5++
    reconciling .controller "a" 7++reconciling (.satellite "n") "a" 5

def foreign : Event → Bool
  | .other _ => true
  | _ => false

def startsIn (workers : List Worker) : Event → Bool
  | .start w => decide (w∈workers)
  | _ => true

/-- Nobody resumes a node for a snapshot that is being deleted, nor one whose satellite died before
it acknowledged. -/
theorem frozen_io_is_lost : (∃es s e t,
    Run (guarded (fun _ => Faithful) (Pool.Step system)) (Pool.idle .initial) es s ∧
      Faithful e ∧ Pool.Step system s e t ∧ LosesFrozen s t) ∧
    ∃es s,Run (guarded (fun _ => Faithful) (Pool.Step system)) (Pool.idle .initial) es s ∧
      StaysFrozen s := by
  constructor
  · let xs := deletedWhileSuspended
    have hrun := run_scheduled (fun _ => Faithful) (fun _ => faithful)
      (fun _ x _ _ hx ht => faithful_act x hx ht) xs (by decide +kernel)
    have hlast : (Pool.act system carryOut change (scheduled xs).2 (.go (.satellite "n"))).any
        (fun r => ((scheduled xs).2.shared.get? "a").isSome && (r.2.shared.get? "a").isNone &&
          (scheduled xs).2.shared.frozen "n" "a" &&
          !foreign r.1)=true := by decide +kernel
    obtain ⟨⟨e,t⟩,hact,htests⟩ := (any_eq_true _ _).mp hlast
    simp only [Bool.and_eq_true,isSome_iff_ne_none,isNone_iff_eq_none] at htests
    obtain ⟨⟨⟨hthere,hgone⟩,hf⟩,he⟩ := htests
    refine ⟨_,_,e,t,hrun,?_,step_act step_carryOut changes_change _ e hact,"a","n",hthere,
      hgone,hf⟩
    rintro name rows rfl
    cases he
  · let xs := diesSuspended
    have hrun := run_scheduled (fun _ => Faithful) (fun _ => faithful)
      (fun _ x _ _ hx ht => faithful_act x hx ht) xs (by decide +kernel)
    let workers : List Worker := [.controller,.satellite "n",.satellite "m"]
    have hstarts : (scheduled xs).1.all (startsIn workers)=true := by decide +kernel
    have hends : workers.all (fun w => ((scheduled xs).2.threads w).isNone)=true := by
      decide +kernel
    have hidle (w : Worker) : (scheduled xs).2.threads w=none := by
      by_cases hw : w∈workers
      · exact isNone_iff_eq_none.mp (List.all_eq_true.mp hends w hw)
      · refine unstarted hrun ?_ rfl
        rintro _ he rfl
        exact hw (of_decide_eq_true (List.all_eq_true.mp hstarts _ he))
    have hobject : ((scheduled xs).2.shared.get? "a").any (fun x => decide
        (x.deletionTimestamp=none ∧ satelliteSnapshotFinalizer∈x.finalizers ∧ x.adopted≠"true" ∧
          x.groupID="" ∧ x.suspendIO=false ∧ x.takeSnapshot=false ∧
          anyNodeFailed x.nodeStatus=false ∧ allNodesSuspendCleared x.nodeStatus x.nodes=true ∧
          ∀n∈x.nodes,x.acked n=false))=true := by decide +kernel
    obtain ⟨x,hx,htests⟩ := (any_eq_true _ _).mp hobject
    obtain ⟨hlive,hfin,hadopted,hgroup,hio,htake,hfailed,hcleared,hacked⟩ := of_decide_eq_true htests
    refine ⟨_,_,hrun,"a",x,"m",hx,hio,?_,by decide +kernel⟩
    exact quiet_of_drained hidle hx hlive hfin hadopted hgroup hio htake hfailed hcleared hacked

def takenAndDeleted : List Turn :=
  .other (.create "a" ⟨"ra","s",["n"],[0],"",0,"",""⟩)::
    reconciling (.satellite "n") "a" 4++reconciling (.satellite "n") "a" 5++
    reconciling .controller "a" 6++reconciling (.satellite "n") "a" 6++
    reconciling .controller "a" 4++reconciling (.satellite "n") "a" 5++
    .other (.delete "a")::.other (.request (.satellite "n") "a")::
      List.replicate 4 (.go (.satellite "n"))

def suspendsA : Event → Bool
  | .call (.satellite "n") (.suspendResource "n" "ra" "a") _ => true
  | _ => false

theorem frozen_io_is_released_once : ∃es s e t,
    Run (guarded (fun s e => keepsDuty s e=true) (Pool.Step system)) (Pool.idle .initial) es s ∧
      keepsDuty s e=true ∧ Pool.Step system s e t ∧
      (∃a,.call (.satellite "n") (.suspendResource "n" "ra" "a") a∈es) ∧
      s.shared.get? "a"≠none ∧ t.shared.get? "a"=none ∧ ¬LosesFrozen s t ∧ ¬StaysFrozen s := by
  let xs := takenAndDeleted
  have hrun := run_scheduled (fun s e => keepsDuty s e=true)
    (fun s x => (Pool.act system carryOut change s x).all fun r => keepsDuty s r.1)
    (fun s x e t hx ht => by rw [ht] at hx; exact hx) xs (by decide +kernel)
  have hlast : (Pool.act system carryOut change (scheduled xs).2 (.go (.satellite "n"))).any
      (fun r => keepsDuty (scheduled xs).2 r.1 && ((scheduled xs).2.shared.get? "a").isSome &&
        (r.2.shared.get? "a").isNone)=true := by decide +kernel
  have hsuspend : (scheduled xs).1.any suspendsA=true := by decide +kernel
  obtain ⟨⟨e,t⟩,hact,htests⟩ := (any_eq_true _ _).mp hlast
  simp only [Bool.and_eq_true,isSome_iff_ne_none,isNone_iff_eq_none] at htests
  obtain ⟨⟨hguard,hthere⟩,hgone⟩ := htests
  have hstep := Pool.step_act step_carryOut changes_change _ e hact
  obtain ⟨hloses,hstays⟩ := frozen_io_is_released hrun
  refine ⟨_,_,e,t,hrun,hguard,hstep,?_,hthere,hgone,hloses e t hguard hstep,hstays⟩
  obtain ⟨e',he',htest⟩ := List.any_eq_true.mp hsuspend
  unfold suspendsA at htest
  split at htest
  · exact ⟨_,he'⟩
  · cases htest

end Blockstor.Orchestration
