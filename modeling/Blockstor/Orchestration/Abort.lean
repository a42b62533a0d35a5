import Blockstor.Orchestration.Schedule

namespace Blockstor.Orchestration

open Framework

/-- The fetched batch gives no reason to go on: a node has failed, or every node has drained, or
nothing is suspended and every node is ready. -/
def settled (snap : Snapshot) (siblings : List Snapshot) : Bool :=
  anySiblingFailed siblings || allSiblingsSuspendCleared siblings ||
    ! snap.suspendIO && allSiblingsReady siblings

/-- The condition: nothing is deleted, and a reconcile of a batch that was given up finds it
settled. The controller finds a snapshot on its own in one read, and a group in two. -/
def findsSettled (s : Cluster) : Event → Bool
  | .other (.delete _) => false
  | .call .controller (.getSnapshot name) _ =>
    (s.shared.get? name).all fun x =>
      decide (x.groupID≠"") || decide (x.batch∉s.shared.aborted) || settled x [x]
  | .call .controller (.listSiblings g) _ =>
    ((s.notes .controller).bind Note.snap).all fun snap =>
      decide (snap.batch∉s.shared.aborted) || settled snap (withSelf snap (s.shared.siblings g))
  | _ => true

def WritesAfterAbort (s : Cluster) (e : Event) : Prop :=
  ∃name a b r x,e=.call .controller (.patch name (.flip a b)) r ∧ s.shared.get? name=some x ∧
    x.batch∈s.shared.aborted ∧ (a=true ∨ b=true)

variable {s t : Cluster} {e : Event} {m : Note} {snap : Snapshot}

theorem undeleted_of_findsSettled (h : findsSettled s e=true) : Undeleted e := by
  intro name he
  subst he
  cases h

def Note.Complete (m : Note) (snap : Snapshot) : Prop := snap.groupID="" ∨ m.listed≠none

/-- A reconcile of a batch that was given up is giving it up itself, or has found it settled. -/
def Calm (s : State) (m : Note) : Prop :=
  ∀snap,m.snap=some snap → snap.batch∈s.aborted →
    m.aborting=true ∨ (m.Complete snap → settled snap m.siblings=true)

theorem self_mem_siblings (hsnap : m.snap=some snap) (h : m.Complete snap) : snap∈m.siblings := by
  by_cases hgroup : snap.groupID=""
  · simp [Note.siblings,hsnap,hgroup]
  · cases hl : m.listed with
    | none => exact (h.elim hgroup fun h => h hl).elim
    | some items =>
      rw [siblings_group hsnap hgroup hl]
      exact mem_withSelf snap items

theorem complete_of_mem {z : Snapshot} (hsnap : m.snap=some snap) (hz : z∈m.siblings) :
    m.Complete snap := by
  by_cases hgroup : snap.groupID=""
  · exact .inl hgroup
  · refine .inr fun hl => ?_
    rw [siblings_unlisted hsnap hgroup hl] at hz
    cases hz

theorem not_acked_of_cleared {siblings : List Snapshot} (hself : snap∈siblings)
    (hnodes : snap.nodes≠[]) (hcleared : allSiblingsSuspendCleared siblings=true) :
    allSiblingsSuspendAcked siblings=false := by
  obtain ⟨n,hn⟩ := List.exists_mem_of_ne_nil _ hnodes
  have hc := List.all_eq_true.mp (List.all_eq_true.mp hcleared snap hself) n hn
  obtain ⟨row,hrow,hfalse⟩ := (Option.any_eq_true _ _).mp hc
  cases ha : allSiblingsSuspendAcked siblings with
  | false => rfl
  | true =>
    have hn' := List.all_eq_true.mp (List.all_eq_true.mp ha snap hself) n hn
    rw [hrow] at hn'
    change row.suspendIOAcked=true at hn'
    simp [hn'] at hfalse

theorem Verdict.lowers_of_settled {siblings : List Snapshot} {lists : List (List Resource)}
    {a b : Bool} (h : Verdict snap siblings lists a b) (hfailed : anySiblingFailed siblings=false)
    (hself : snap∈siblings) (hnodes : snap.nodes≠[]) (hsettled : settled snap siblings=true) :
    a=false ∧ b=false := by
  simp only [settled,hfailed,Bool.false_or,Bool.or_eq_true,Bool.and_eq_true,
    Bool.not_eq_true'] at hsettled
  cases h with
  | suspend _ _ hready hcleared _ =>
    rw [hready,hcleared] at hsettled
    rcases hsettled with h|⟨_,h⟩ <;> cases h
  | take hsuspend _ hacked _ =>
    rcases hsettled with hcleared|⟨hfalse,_⟩
    · rw [not_acked_of_cleared hself hnodes hcleared] at hacked
      cases hacked
    · rw [hsuspend] at hfalse
      cases hfalse
  | resume _ _ _ => exact ⟨rfl,rfl⟩

theorem may_abort {w : Worker} {b : Batch} (h : may w m (.abort b)) :
    w=.controller ∧ ∃snap,m.snap=some snap ∧ b=snap.batch := by
  cases w with
  | controller => exact ⟨rfl,h.2.2⟩
  | satellite node => exact h.elim

theorem step_aborted {s t : State} {op : Op} {a : OpAnswer op} (h : Step s op a t) :
    t.aborted=s.aborted ∨ ∃b,op=.abort b ∧ t.aborted=b::s.aborted := by
  cases step_effect h with
  | abort b => exact .inr ⟨b,rfl,rfl⟩
  | _ => exact .inl rfl

theorem changes_aborted {s t : State} {c : Change} (h : Changes s c t) : t.aborted=s.aborted := by
  obtain ⟨_,_,_,_,_,rfl⟩ := changes_shape h
  rfl

theorem calm_empty {s : State} : Calm s .empty := fun _ h => by cases h

theorem Calm.mono {s t : State} (h : Calm s m) (ht : t.aborted=s.aborted) : Calm t m := by
  intro snap hsnap hb
  rw [ht] at hb
  exact h snap hsnap hb

theorem Calm.later {s : State} {m' : Note} (h : Calm s m) (hsnap : m'.snap=m.snap)
    (hlisted : m'.listed=m.listed) (haborting : m.aborting=true → m'.aborting=true) :
    Calm s m' := by
  intro snap hs hb
  rw [hsnap] at hs
  have hsib : m'.siblings=m.siblings := by
    unfold Note.siblings
    rw [hsnap,hlisted]
  rcases h snap hs hb with h|h
  · exact .inl (haborting h)
  · right
    unfold Note.Complete at h ⊢
    rwa [hlisted,hsib]

theorem next_aborting (m : Note) (op : Op) (a : OpAnswer op) (h : m.aborting=true) :
    (m.next op a).aborting=true := by
  cases op with
  | getSnapshot n => cases a <;> exact h
  | listSiblings g => cases a <;> exact h
  | listResources => cases a <;> exact h
  | patch n p => cases p <;> exact h
  | abort b => rfl
  | suspendResource n rd name => cases a <;> exact h
  | resumeResource n rd name => cases a <;> exact h
  | createSnapshot n rd name vols =>
    cases a with
    | ok r =>
      simp only [Note.next]
      split <;> exact h
    | error e => exact h
  | deleteSnapshot n rd name =>
    rcases a with _|(_|_) <;> exact h
  | _ => exact h

theorem Calm.next {op : Op} {a : OpAnswer op} (hm : s.notes .controller=some m)
    (hcalm : Calm s.shared m) (hmay : may .controller m op) (henv : Step s.shared op a t.shared)
    (hguard : findsSettled s (.call .controller op a)=true) :
    Calm t.shared (m.next op a) := by
  rcases step_aborted henv with hsame|⟨b,rfl,hb⟩
  · rcases next_fetched m op a with ⟨hsnap,hlisted⟩|⟨n,x,he,hnext⟩|⟨g,items,he,hnext⟩
    · exact (hcalm.mono hsame).later hsnap hlisted (next_aborting m op a)
    · cases he
      obtain ⟨_,hx⟩ := step_getSnapshot henv
      obtain rfl := may_getSnapshot hmay
      intro snap hsnap hb
      rw [hnext] at hsnap ⊢
      cases hsnap
      right
      intro hcomplete
      have hsingle : x.groupID="" := hcomplete.elim id fun h => absurd rfl h
      rw [hsame] at hb
      simpa [findsSettled,hx,hsingle,hb,Note.siblings] using hguard
    · cases he
      obtain ⟨_,rfl⟩ := step_listSiblings henv
      obtain ⟨_,snap,rfl,rfl,hgroup,_⟩ := may_listSiblings hmay
      intro snap' hsnap hb
      rw [hnext] at hsnap ⊢
      cases hsnap
      right
      intro _
      rw [hsame] at hb
      simpa [findsSettled,hm,hb,Note.siblings,hgroup] using hguard
  · intro _ _ _
    exact .inl rfl

structure Abiding (s : Cluster) : Prop extends Standing s where
  calm : ∀m,s.notes .controller=some m → Calm s.shared m

theorem Abiding.step (h : Pool.NoteStep system s e t) (hguard : findsSettled s e=true)
    (hs : Abiding s) : Abiding t := by
  refine ⟨hs.toStanding.step h (undeleted_of_findsSettled hguard),?_⟩
  have heach := h.each (fun sh w m => w=.controller → Calm sh m)
    (fun w m hm hw => by cases hw; exact hs.calm m hm) (fun _ _ => calm_empty) ?_ ?_
  · exact fun m hm => heach .controller m hm rfl
  · intro w op a m he hm hmay henv
    constructor
    · rintro rfl
      rw [he] at hguard
      exact (hs.calm m hm).next hm hmay henv hguard
    · intro j n hne hn hj
      subst hj
      rcases step_aborted henv with hsame|⟨b,rfl,_⟩
      · exact (hs.calm n hn).mono hsame
      · exact absurd (may_abort hmay).1.symm hne
  · intro c _ hc j n hn hj
    subst hj
    exact (hs.calm n hn).mono (changes_aborted hc)

/-- A batch that was given up stays so: in every run in which each later reconcile of it finds a
failed node, every node drained, or every node ready and nothing suspended, no reconcile suspends
it or takes it again. -/
theorem aborted_stays_aborted {es : List Event}
    (hrun : Run (guarded (fun s e => findsSettled s e=true) (Pool.Step system))
      (Pool.idle .initial) es s) (hstep : Pool.Step system s e t) : ¬WritesAfterAbort s e := by
  obtain ⟨hfollow,hs⟩ := (Pool.following_idle _).invariant system_sound _ Abiding
    (fun _ _ _ hs hguard hstep => hs.step hstep hguard)
    ⟨standing_initial,fun _ h => by cases h⟩ hrun
  rintro ⟨name,a,b,r,x,rfl,hx,hb,hflags⟩
  have hnote := hfollow.noteStep _ hstep
  cases hnote with
  | call _ _ _ m _ hm hmay _ _ =>
    obtain ⟨_,snap,hd,_,z,hz,hname⟩ := may_flip (w := .controller) hmay
    -- the member that is written is one of the batch the reconcile has fetched
    obtain ⟨_,⟨z',hz',hsame⟩,hbatch⟩ := (hs.fetched _ m hm).mem_siblings hd.1 hz
    rw [hname,hx] at hz'
    cases hz'
    rw [hsame.batch,hbatch] at hb
    have hlow : a=false ∧ b=false := by
      obtain ⟨hsnap,_,⟨_,ha,hb'⟩|⟨haborting,hfailed,hnodes,hverdict⟩⟩ := hd
      · exact ⟨ha,hb'⟩
      · have hcomplete := complete_of_mem hsnap hz
        refine hverdict.lowers_of_settled hfailed (self_mem_siblings hsnap hcomplete) hnodes ?_
        rcases hs.calm m hm snap hsnap hb with htrue|hsettled
        · rw [haborting] at htrue
          cases htrue
        · exact hsettled hcomplete
    rcases hflags with h|h
    · rw [hlow.1] at h
      cases h
    · rw [hlow.2] at h
      cases h

def pastDeadline : List Turn :=
  [.other (.create "a" ⟨"ra","s",["n","m"],[0],"",0,"",""⟩),.other (.request .controller "a"),
   .other (.writeStatus "a" [⟨"n",0,false,true,false⟩]),.other (.tick (121*Store.second))]++
  List.replicate 7 (.go .controller)++[.stop .controller]

def reopensA : Event → Bool
  | .call .controller (.patch "a" (.flip true false)) _ => true
  | _ => false

/-- The next reconcile finds one node not drained and the other without a row, and suspends the
snapshot again. -/
theorem aborted_is_reopened : ∃es s e t m,
    Run (guarded (fun _ => Undeleted) (Pool.Step system)) (Pool.idle .initial) es s ∧
      Pool.Step system s e t ∧ WritesAfterAbort s e ∧ s.notes .controller=some m ∧
      m.aborting=false := by
  let xs := pastDeadline++List.replicate 3 (.go .controller)
  have hrun := run_scheduled (fun _ => Undeleted) (fun _ => undeleting)
    (fun _ x _ _ hx ht => undeleted_act x hx ht) xs (by decide +kernel)
  have hlast : (Pool.act system carryOut change (scheduled xs).2 (.go .controller)).any (fun r =>
      reopensA r.1 &&
      ((scheduled xs).2.shared.get? "a").any (fun x =>
        decide (x.batch∈(scheduled xs).2.shared.aborted)) &&
      ((scheduled xs).2.notes .controller).any (fun m => !m.aborting))=true := by decide +kernel
  obtain ⟨⟨e,t⟩,hact,htests⟩ := (Option.any_eq_true _ _).mp hlast
  obtain ⟨htests,hm⟩ := (Bool.and_eq_true _ _).mp htests
  obtain ⟨he,hx⟩ := (Bool.and_eq_true _ _).mp htests
  obtain ⟨m,hm,haborting⟩ := (Option.any_eq_true _ _).mp hm
  obtain ⟨x,hx,hb⟩ := (Option.any_eq_true _ _).mp hx
  refine ⟨_,_,e,t,m,hrun,Pool.step_act step_carryOut changes_change (.go .controller) e hact,?_,hm,
    by simpa using haborting⟩
  dsimp only [reopensA] at he
  split at he
  · exact ⟨"a",true,false,_,x,rfl,hx,of_decide_eq_true hb,.inl rfl⟩
  · cases he

/-- With both nodes drained, the next reconcile leaves the snapshot alone. -/
theorem aborted_stays_aborted_drained : ∃es s e t,
    Run (guarded (fun s e => findsSettled s e=true) (Pool.Step system)) (Pool.idle .initial) es s ∧
      Pool.Step system s e t ∧ s.shared.aborted≠[] ∧ e=.stop .controller ∧
      ¬WritesAfterAbort s e := by
  let xs := pastDeadline++[.other (.writeStatus "a"
    [⟨"n",0,false,false,false⟩,⟨"m",0,false,false,false⟩])]++List.replicate 3 (.go .controller)
  have hrun := run_scheduled (fun s e => findsSettled s e=true)
    (fun s x => (Pool.act system carryOut change s x).all fun r => findsSettled s r.1)
    (fun s x e t hx ht => by rw [ht] at hx; exact hx) xs (by decide +kernel)
  have hstep : Pool.Step system (scheduled xs).2 (.stop .controller) _ := rfl
  refine ⟨_,_,_,_,hrun,hstep,?_,rfl,aborted_stays_aborted hrun hstep⟩
  exact of_decide_eq_true (by decide +kernel : decide ((scheduled xs).2.shared.aborted≠[])=true)

end Blockstor.Orchestration
