import Blockstor.Orchestration.Phases
import Blockstor.Orchestration.Satellite
import Blockstor.Framework.Pool

namespace Blockstor.Orchestration

open Framework Shell Satellite List

inductive Action
  | suspended
  | resumed
  | created
  | deleted
  deriving DecidableEq

structure Note where
  snap : Option Snapshot
  listed : Option (List Snapshot)
  resources : List (List Resource)
  flips : List (Bool × Bool)
  aborting : Bool
  did : Option Action

namespace Note

def empty : Note := ⟨none,none,[],[],false,none⟩

def siblings (m : Note) : List Snapshot :=
  match m.snap with
  | none => []
  | some snap =>
    if snap.groupID="" then [snap]
    else
      match m.listed with
      | none => []
      | some items => withSelf snap items

def next (m : Note) : (op : Op) → OpAnswer op → Note
  | .getSnapshot _,.ok x => {m with snap := some x}
  | .listSiblings _,.ok items => {m with listed := some items}
  | .listResources,.ok resources => {m with resources := m.resources++[resources]}
  | .patch _ (.flip a b),_ => {m with flips := m.flips++[(a,b)]}
  | .abort _,_ => {m with aborting := true}
  | .suspendResource _ _ _,.ok _ => {m with did := some .suspended}
  | .resumeResource _ _ _,.ok _ => {m with did := some .resumed}
  | .createSnapshot _ _ _ _,.ok r => if r.ok then {m with did := some .created} else m
  | .deleteSnapshot _ _ _,.ok true => {m with did := some .deleted}
  | _,_ => m

end Note

def NoneOffending (x : Snapshot) (resources : List Resource) : Prop :=
  offendingReplica x resources=none

inductive Verdict (snap : Snapshot) (siblings : List Snapshot) (resources : List (List Resource)) :
    Bool → Bool → Prop
  | suspend (hsuspend : snap.suspendIO=false) (htake : snap.takeSnapshot=false)
      (hready : allSiblingsReady siblings=false)
      (hcleared : allSiblingsSuspendCleared siblings=false)
      (hgroup : snap.groupID≠"" → groupAssembled snap siblings=true) :
      Verdict snap siblings resources true false
  | take (hsuspend : snap.suspendIO=true) (htake : snap.takeSnapshot=false)
      (hacked : allSiblingsSuspendAcked siblings=true)
      (hfine : Forall₂ NoneOffending siblings resources) :
      Verdict snap siblings resources true true
  | resume (hsuspend : snap.suspendIO=true) (htake : snap.takeSnapshot=true)
      (hready : allSiblingsReady siblings=true) : Verdict snap siblings resources false false

variable (node : String) (m : Note) (snap : Snapshot)

/-- The flags the reconcile of `snap` may write: it gives the batch up, or it has a verdict. It
writes the same flags everywhere. -/
def Note.Decided (a b : Bool) : Prop :=
  m.snap=some snap ∧ (∀f∈m.flips,f=(a,b)) ∧
    (m.aborting=true ∧ a=false ∧ b=false ∨
      m.aborting=false ∧ anySiblingFailed m.siblings=false ∧ snap.nodes≠[] ∧
        Verdict snap m.siblings m.resources a b)

def mayControl : Op → Prop
  | .dequeue w => w=.controller
  | .now => True
  | .getSnapshot _ => m=.empty
  | .listSiblings g => ∃snap,m={Note.empty with snap := some snap} ∧ g=snap.groupID ∧ g≠"" ∧
      snap.deletionTimestamp=none
  | .listResources => True
  | .patch name (.flip a b) => ∃snap,m.Decided snap a b ∧ snap.deletionTimestamp=none ∧
      ∃x∈m.siblings,x.name=name
  | .patch name (.failedDisconnect _) => m.aborting=true ∧ ∃x∈m.siblings,x.name=name
  | .patch name (.backfill _) => ∃snap,m.snap=some snap ∧ snap.name=name
  | .abort b => m.aborting=false ∧ m.flips=[] ∧ ∃snap,m.snap=some snap ∧ b=snap.batch
  | _ => False

def Note.Targets : Prop :=
  m.snap=some snap ∧ node∈snap.nodes

def Note.Live : Prop :=
  m.Targets node snap ∧ snap.deletionTimestamp=none ∧
    satelliteSnapshotFinalizer∈snap.finalizers

/-- The commands of the satellite on `node`. -/
def maySatellite : Op → Prop
  | .dequeue w => w=.satellite node
  | .getSnapshot _ => m=.empty
  | .patch name (.suspendAcked n) => n=node ∧ m.did=some .suspended ∧
      ∃snap,m.Live node snap ∧ snap.name=name
  | .patch name (.suspendCleared n) => n=node ∧ m.did=some .resumed ∧
      ∃snap,m.Live node snap ∧ snap.name=name
  | .patch name (.failed n) => n=node ∧ m.did=none ∧ ∃snap,m.Live node snap ∧ snap.name=name
  | .patch name (.ready n _) => n=node ∧ m.did=some .created ∧
      ∃snap,m.Live node snap ∧ snap.name=name
  | .updateFinalizers snap finalizers => m.Targets node snap ∧
      (snap.deletionTimestamp=none ∧ satelliteSnapshotFinalizer∉snap.finalizers ∧
          finalizers=snap.finalizers++[satelliteSnapshotFinalizer] ∨
        snap.deletionTimestamp≠none ∧ m.did=some .deleted ∧
          finalizers=snap.finalizers.filter fun f => f≠satelliteSnapshotFinalizer)
  | .suspendResource n rd name => n=node ∧ m.did=none ∧ ∃snap,m.Live node snap ∧
      rd=snap.resourceDefinitionName ∧ name=snap.name ∧ snap.suspendIO=true ∧
        perNodeStatusSuspendIOAcked snap.nodeStatus node=false
  | .resumeResource n rd name => n=node ∧ m.did=none ∧ ∃snap,m.Live node snap ∧
      rd=snap.resourceDefinitionName ∧ name=snap.name ∧ snap.suspendIO=false ∧
        perNodeStatusSuspendIOAcked snap.nodeStatus node=true
  | .flushBackingDevices n _ _ => n=node ∧ m.did=none
  | .createSnapshot n rd name _ => n=node ∧ m.did=none ∧ ∃snap,m.Live node snap ∧
      rd=snap.resourceDefinitionName ∧ name=snap.snapshotName ∧ snap.takeSnapshot=true ∧
        perNodeStatusReady snap.nodeStatus node=false
  | .deleteSnapshot n rd name => n=node ∧ m.did=none ∧ ∃snap,m.Targets node snap ∧
      snap.deletionTimestamp≠none ∧ satelliteSnapshotFinalizer∈snap.finalizers ∧
        rd=snap.resourceDefinitionName ∧ name=snap.snapshotName
  | _ => False

def may : Worker → Note → Op → Prop
  | .controller,m => mayControl m
  | .satellite node,m => maySatellite node m

def keeping (w : Worker) : Protocol OpAnswer Note where
  start := .empty
  next := Note.next
  may := may w
  possible := fun _ _ => True

section

variable {w : Worker} {α β : Type} {m : Note} {Q : Except Err β → Note → Prop}

end

section Controller

variable {m : Note}

theorem follows_flipGroup (a b : Bool) (snap : Snapshot) (xs : List Snapshot)
    (hxs : ∀x∈xs,x∈m.siblings) (hlive : snap.deletionTimestamp=none) (hm : m.Decided snap a b) :
    (flipGroup a b xs).Follows (keeping .controller) m fun _ m' =>
      m'.aborting=m.aborting ∧ m'.siblings=m.siblings := by
  induction xs generalizing m with
  | nil => exact ⟨rfl,rfl⟩
  | cons x xs ih =>
    have hrest := fun y hy => hxs y (mem_cons_of_mem x hy)
    unfold flipGroup maybeFlipSpec
    split
    · exact ih hrest hm
    · refine ⟨⟨snap,hm,hlive,x,hxs x mem_cons_self,rfl⟩,fun r _ => ?_⟩
      have hm' : ({m with flips := m.flips++[(a,b)]} : Note).Decided snap a b := by
        refine ⟨hm.1,fun f hf => ?_,hm.2.2⟩
        rcases mem_append.mp hf with hf|hf
        · exact hm.2.1 f hf
        · exact mem_singleton.mp hf
      cases r with
      | ok _ => exact ih hrest hm'
      | error e => exact ⟨rfl,rfl⟩

theorem follows_stampFailedDisconnect (reason : String) (xs : List Snapshot)
    (hxs : ∀x∈xs,x∈m.siblings) (hm : m.aborting=true) :
    (stampFailedDisconnect reason xs).Follows (keeping .controller) m fun _ _ => True := by
  induction xs with
  | nil => trivial
  | cons x xs ih =>
    refine ⟨⟨hm,x,hxs x mem_cons_self,rfl⟩,fun r _ => ?_⟩
    cases r with
    | ok _ => exact ih fun y hy => hxs y (mem_cons_of_mem x hy)
    | error e => trivial

/-- A reconcile that has fetched `snap` alive and written nothing yet. -/
structure Note.Open (m : Note) (snap : Snapshot) : Prop where
  fetched : m.snap=some snap
  live : snap.deletionTimestamp=none
  flips : m.flips=[]
  aborting : m.aborting=false

theorem follows_abortGroup (snap : Snapshot) (hm : m.Open snap) :
    (abortGroup snap m.siblings).Follows (keeping .controller) m fun _ m' =>
      m'.aborting=true ∧ m'.siblings=m.siblings := by
  refine ⟨⟨hm.aborting,hm.flips,snap,hm.fetched,rfl⟩,fun _ _ => ?_⟩
  refine follows_flipGroup false false snap m.siblings (fun x hx => hx) hm.live ?_
  refine ⟨hm.fetched,?_,.inl ⟨rfl,rfl,rfl⟩⟩
  intro f hf
  change f∈m.flips at hf
  rw [hm.flips] at hf
  cases hf

theorem follows_abortGroupWithReason (snap : Snapshot) (reason : String) (hm : m.Open snap) :
    (abortGroupWithReason snap m.siblings reason).Follows (keeping .controller) m
      fun _ _ => True := by
  refine (follows_abortGroup snap hm).bind (fun _ m' hm' => ?_) fun _ _ _ => trivial
  refine (follows_stampFailedDisconnect reason m.siblings ?_ hm'.1).bind (fun _ _ _ => trivial)
    fun _ _ _ => trivial
  rw [hm'.2]
  exact fun x hx => hx

theorem follows_allTargetedReplicasUpToDate (xs : List Snapshot) :
    (allTargetedReplicasUpToDate xs).Follows (keeping .controller) m fun r m' =>
      ∃lists,m'={m with resources := m.resources++lists} ∧
        (r=.ok none → Forall₂ NoneOffending xs lists) := by
  induction xs generalizing m with
  | nil => exact ⟨[],by simp,fun _ => .nil⟩
  | cons x xs ih =>
    refine ⟨trivial,fun r _ => ?_⟩
    cases r with
    | error e => exact ⟨[],by simp [keeping,Note.next],fun h => by cases h⟩
    | ok resources =>
      dsimp only [lift,pure,bind,Shell.bind]
      split
      · exact ⟨[resources],rfl,fun h => by cases h⟩
      · rename_i hnone
        refine ih.mono fun r m' h => ?_
        obtain ⟨lists,rfl,hall⟩ := h
        refine ⟨resources::lists,?_,fun hr => .cons hnone (hall hr)⟩
        simp [keeping,Note.next]

variable {snap : Snapshot}

structure Note.Clear (m : Note) (snap : Snapshot) : Prop extends m.Open snap where
  resources : m.resources=[]
  failed : anySiblingFailed m.siblings=false
  nodes : snap.nodes≠[]
  self : snap∈m.siblings

theorem Note.Clear.decided (hm : m.Clear snap) (lists : List (List Resource)) (a b : Bool)
    (h : Verdict snap m.siblings lists a b) :
    ({m with resources := m.resources++lists} : Note).Decided snap a b := by
  refine ⟨hm.fetched,?_,.inr ⟨hm.aborting,hm.failed,hm.nodes,?_⟩⟩
  · intro f hf
    change f∈m.flips at hf
    rw [hm.flips] at hf
    cases hf
  · change Verdict snap m.siblings (m.resources++lists) a b
    rwa [hm.resources,nil_append]

theorem Note.Open.withResources (hm : m.Open snap) (lists : List (List Resource)) :
    ({m with resources := m.resources++lists} : Note).Open snap :=
  ⟨hm.fetched,hm.live,hm.flips,hm.aborting⟩

theorem follows_commitPhase (hm : m.Clear snap) (lists : List (List Resource))
    (next : PhaseDecision) (h : Verdict snap m.siblings lists next.suspendIO next.takeSnapshot) :
    (commitPhase snap m.siblings next).Follows (keeping .controller)
      {m with resources := m.resources++lists} fun _ _ => True := by
  have hm' := hm.decided lists _ _ h
  unfold commitPhase
  split
  · exact (follows_flipGroup (m := {m with resources := m.resources++lists}) _ _ snap m.siblings
      (fun x hx => hx) hm.live hm').bind (fun _ _ _ => trivial) fun _ _ _ => trivial
  · -- a snapshot on its own is flipped like a list of one
    have hone := follows_flipGroup _ _ snap [snap] (m := {m with resources := m.resources++lists})
      (fun x hx => by cases mem_singleton.mp hx; exact hm.self) hm.live hm'
    refine Follows.bind (R := fun _ _ => True) ?_ (fun _ _ _ => trivial) fun _ _ _ => trivial
    unfold maybeFlipSpec
    split
    · trivial
    · rename_i hne
      unfold flipGroup maybeFlipSpec at hone
      rw [if_neg hne] at hone
      refine ⟨hone.1,fun r _ => ?_⟩
      cases r <;> trivial

theorem follows_openGroupSuspendBarrier (hm : m.Clear snap)
    (h : groupAssembled snap m.siblings=true → ∀lists,Verdict snap m.siblings lists true false) :
    (openGroupSuspendBarrier snap m.siblings).Follows (keeping .controller) m
      fun _ _ => True := by
  unfold openGroupSuspendBarrier
  split
  · trivial
  · rename_i hassembled
    refine (follows_allTargetedReplicasUpToDate m.siblings).bind (fun r m' hm' => ?_)
      fun _ _ _ => trivial
    obtain ⟨lists,rfl,-⟩ := hm'
    cases r with
    | some node => exact follows_abortGroupWithReason snap _ (hm.withResources lists)
    | none =>
      have hm' := hm.decided lists _ _ (h (by simpa using hassembled) lists)
      exact (follows_flipGroup (m := {m with resources := m.resources++lists}) true false snap
        m.siblings (fun x hx => hx) hm.live hm').bind (fun _ _ _ => trivial) fun _ _ _ => trivial

theorem follows_advancePhase (hm : m.Clear snap) (h : (nextPhase snap m.siblings).advance=true) :
    (advancePhase snap m.siblings (nextPhase snap m.siblings)).Follows (keeping .controller) m
      fun _ _ => True := by
  unfold nextPhase at h ⊢
  split at h
  · -- nothing is suspended yet
    rename_i hsuspend htake
    split at h
    · cases h
    · rename_i hdone
      simp only [Bool.or_eq_true,not_or,Bool.not_eq_true] at hdone
      simp only [hdone.1,hdone.2,Bool.or_self,Bool.false_eq_true,if_false]
      unfold advancePhase
      split
      · refine follows_openGroupSuspendBarrier hm fun hassembled lists => ?_
        exact .suspend hsuspend htake hdone.1 hdone.2 fun _ => hassembled
      · rename_i hgroup
        have hsingle : snap.groupID="" := by
          by_contra hne
          exact hgroup ⟨by simp [isPhase1Entry,hsuspend,htake],hne⟩
        have hcommit := follows_commitPhase hm [] ⟨true,false,true⟩
          (.suspend hsuspend htake hdone.1 hdone.2 fun hne => absurd hsingle hne)
        simpa [isPhase2Promotion] using hcommit
  · rename_i hsuspend htake
    split at h
    · rename_i hacked
      simp only [hacked,if_true]
      unfold advancePhase
      simp only [isPhase1Entry,isPhase2Promotion,hsuspend,htake]
      refine (follows_allTargetedReplicasUpToDate m.siblings).bind (fun r m' hm' => ?_)
        fun _ _ _ => trivial
      obtain ⟨lists,rfl,hall⟩ := hm'
      cases r with
      | some node => exact follows_abortGroupWithReason snap _ (hm.withResources lists)
      | none => exact follows_commitPhase hm lists _ (.take hsuspend htake hacked (hall rfl))
    · cases h
  · rename_i hsuspend htake
    split at h
    · rename_i hready
      simp only [hready,if_true]
      have hcommit := follows_commitPhase hm [] ⟨false,false,true⟩
        (.resume hsuspend htake hready)
      simpa [advancePhase,isPhase1Entry,isPhase2Promotion] using hcommit
    · cases h
  · cases h

theorem mem_withSelf (snap : Snapshot) (xs : List Snapshot) : snap∈withSelf snap xs := by
  induction xs with
  | nil => exact mem_singleton.mpr rfl
  | cons x xs ih =>
    unfold withSelf
    split
    · exact mem_cons_self
    · exact mem_cons_of_mem _ ih

theorem of_mem_withSelf {x snap : Snapshot} {xs : List Snapshot} (h : x∈withSelf snap xs) :
    x=snap ∨ x∈xs := by
  induction xs with
  | nil => exact .inl (mem_singleton.mp h)
  | cons y ys ih =>
    unfold withSelf at h
    split at h
    · rcases mem_cons.mp h with rfl|h
      · exact .inl rfl
      · exact .inr (mem_cons_of_mem _ h)
    · rcases mem_cons.mp h with rfl|h
      · exact .inr mem_cons_self
      · exact (ih h).imp id (mem_cons_of_mem _)

theorem follows_checked (hm : m.Open snap) (hresources : m.resources=[]) (hself : snap∈m.siblings) :
    (checkAbortConditions snap m.siblings >>= fun r =>
      match r with
      | some r => pure r
      | none =>
        if snap.nodes=[] then pure .none
        else if (nextPhase snap m.siblings).advance then
          advancePhase snap m.siblings (nextPhase snap m.siblings)
        else requeueIfSuspended snap m.siblings).Follows (keeping .controller) m
          fun _ _ => True := by
  have hgo : anySiblingFailed m.siblings=false →
      (if snap.nodes=[] then (pure .none : Prog Result)
        else if (nextPhase snap m.siblings).advance then
          advancePhase snap m.siblings (nextPhase snap m.siblings)
        else requeueIfSuspended snap m.siblings).Follows (keeping .controller) m
          fun _ _ => True := by
    intro hfailed
    split
    · trivial
    · rename_i hnodes
      split
      · rename_i hadvance
        exact follows_advancePhase ⟨hm,hresources,hfailed,hnodes,hself⟩ hadvance
      · unfold requeueIfSuspended
        split
        · exact ⟨trivial,fun _ _ => trivial⟩
        · trivial
  unfold checkAbortConditions
  split
  · refine Follows.bind (R := fun r _ => ∀x,r=.ok x → x≠none) ?_ ?_ fun _ _ _ => trivial
    · exact (follows_abortGroup snap hm).bind
        (fun _ _ _ x hx => by cases hx; exact Option.some_ne_none _) fun _ _ _ x hx => by cases hx
    · intro r m' hr
      cases r with
      | none => exact absurd rfl (hr none rfl)
      | some r => trivial
  · rename_i hfailed
    have hfailed : anySiblingFailed m.siblings=false := by simpa using hfailed
    split
    · refine ⟨trivial,fun now _ => ?_⟩
      change Shell.Follows _ (Shell.bind (if suspendDeadlineExceeded snap now then _ else _) _) _ _
      split
      · refine Follows.bind (R := fun r _ => ∀x,r=.ok x → x≠none) ?_ ?_ fun _ _ _ => trivial
        · exact (follows_abortGroupWithReason snap deadlineReason hm).bind
            (fun _ _ _ x hx => by cases hx; exact Option.some_ne_none _)
            fun _ _ _ x hx => by cases hx
        · intro r m' hr
          cases r with
          | none => exact absurd rfl (hr none rfl)
          | some r => trivial
      · exact hgo hfailed
    · exact hgo hfailed

theorem follows_orchestrate (hlive : snap.deletionTimestamp=none) :
    (orchestrate snap).Follows (keeping .controller) {Note.empty with snap := some snap}
      fun _ _ => True := by
  unfold orchestrate fetchSiblings
  split
  · rename_i hsingle
    have hs : ({Note.empty with snap := some snap} : Note).siblings=[snap] := by
      simp [Note.siblings,hsingle]
    have hchecked := follows_checked (m := {Note.empty with snap := some snap})
      ⟨rfl,hlive,rfl,rfl⟩ rfl (by rw [hs]; exact mem_singleton.mpr rfl)
    rw [hs] at hchecked
    exact hchecked
  · rename_i hgroup
    refine ⟨⟨snap,rfl,rfl,hgroup,hlive⟩,fun r _ => ?_⟩
    cases r with
    | error e => trivial
    | ok items =>
      have hs : ({Note.empty with snap := some snap, listed := some items} : Note).siblings=
          withSelf snap items := by
        simp [Note.siblings,hgroup]
      have hchecked := follows_checked
        (m := {Note.empty with snap := some snap, listed := some items})
        ⟨rfl,hlive,rfl,rfl⟩ rfl (by rw [hs]; exact mem_withSelf snap items)
      rw [hs] at hchecked
      exact hchecked

theorem follows_reconcile : reconcile.Follows (keeping .controller) .empty fun _ _ => True := by
  refine ⟨rfl,fun name _ => ⟨rfl,fun r _ => ?_⟩⟩
  match r with
  | .error .notFound => trivial
  | .error .conflict => trivial
  | .error .unavailable => trivial
  | .ok snap =>
    change Shell.Follows _ (if snap.deletionTimestamp≠none then _ else _) _ _
    split
    · trivial
    · rename_i hlive
      split
      · unfold backfillAdoptedSnapshot
        split
        · trivial
        · refine ⟨⟨snap,rfl,rfl⟩,fun r _ => ?_⟩
          cases r <;> trivial
      · exact follows_orchestrate (by simpa using hlive)

end Controller

section Satellite

variable {node : String} {m : Note} {snap : Snapshot}

theorem follows_stamp (op : Op) (h : maySatellite node m op) (f : OpAnswer op → Prog Result)
    (hf : ∀a m',(f a).Follows (keeping (.satellite node)) m' fun _ _ => True) :
    (ask op >>= f).Follows (keeping (.satellite node)) m fun _ _ => True :=
  ⟨h,fun a _ => hf a _⟩

theorem follows_ended (a : Except Err Unit) {r : Result} (m' : Note) :
    (lift a >>= fun _ => pure r : Prog Result).Follows (keeping (.satellite node)) m'
      fun _ _ => True := by
  cases a <;> trivial

theorem follows_handleSuspendPhase (hm : m.Live node snap) (hdid : m.did=none)
    (hsuspend : snap.suspendIO=true)
    (hacked : perNodeStatusSuspendIOAcked snap.nodeStatus node=false) :
    (handleSuspendPhase node snap).Follows (keeping (.satellite node)) m
      fun _ _ => True := by
  refine ⟨⟨rfl,hdid,snap,hm,rfl,rfl,hsuspend,hacked⟩,fun r _ => ?_⟩
  cases r with
  | error e =>
    exact follows_stamp (.patch snap.name (.failed node)) ⟨rfl,hdid,snap,hm,rfl⟩ _
      fun a m' => follows_ended a m'
  | ok _ =>
    exact follows_stamp (m := {m with did := some .suspended})
      (.patch snap.name (.suspendAcked node)) ⟨rfl,rfl,snap,hm,rfl⟩ _
      fun a m' => follows_ended a m'

theorem follows_handleResumePhase (hm : m.Live node snap) (hdid : m.did=none)
    (hsuspend : snap.suspendIO=false)
    (hacked : perNodeStatusSuspendIOAcked snap.nodeStatus node=true) :
    (handleResumePhase node snap).Follows (keeping (.satellite node)) m
      fun _ _ => True := by
  refine ⟨⟨rfl,hdid,snap,hm,rfl,rfl,hsuspend,hacked⟩,fun r _ => ?_⟩
  cases r with
  | error e => trivial
  | ok _ =>
    exact follows_stamp (m := {m with did := some .resumed})
      (.patch snap.name (.suspendCleared node)) ⟨rfl,rfl,snap,hm,rfl⟩ _
      fun a m' => follows_ended a m'

theorem follows_handleTakeSnapshotPhase (hm : m.Live node snap) (hdid : m.did=none)
    (htake : snap.takeSnapshot=true) (hready : perNodeStatusReady snap.nodeStatus node=false) :
    (handleTakeSnapshotPhase node snap).Follows (keeping (.satellite node)) m
      fun _ _ => True := by
  refine ⟨⟨rfl,hdid⟩,fun r _ => ?_⟩
  cases r with
  | error e => trivial
  | ok _ =>
    refine ⟨⟨rfl,hdid,snap,hm,rfl,rfl,htake,hready⟩,fun r _ => ?_⟩
    cases r with
    | error e => trivial
    | ok resp =>
      change Shell.Follows _ (if resp.ok=true then _ else _)
        (if resp.ok=true then {m with did := some .created} else m) _
      split
      · exact follows_stamp (m := {m with did := some .created})
          (.patch snap.name (.ready node resp.createTimestamp)) ⟨rfl,rfl,snap,hm,rfl⟩ _
          fun a m' => follows_ended a m'
      · split
        · exact follows_stamp (.patch snap.name (.failed node)) ⟨rfl,hdid,snap,hm,rfl⟩ _
            fun a m' => follows_ended a m'
        · trivial

theorem follows_handleCreate (hm : m.Live node snap) (hdid : m.did=none) :
    (handleCreate node snap).Follows (keeping (.satellite node)) m
      fun _ _ => True := by
  unfold handleCreate
  split
  · rename_i h
    simp only [Bool.and_eq_true,Bool.not_eq_true'] at h
    exact follows_handleSuspendPhase hm hdid h.1 h.2
  · split
    · rename_i h
      simp only [Bool.and_eq_true,Bool.not_eq_true'] at h
      exact follows_handleResumePhase hm hdid h.1 h.2
    · split
      · trivial
      · rename_i htake
        split
        · trivial
        · rename_i hready
          exact follows_handleTakeSnapshotPhase hm hdid (by simpa using htake)
            (by simpa using hready)

theorem follows_handleDelete (hm : m.Targets node snap) (hdid : m.did=none)
    (hgone : snap.deletionTimestamp≠none) :
    (handleDelete node snap).Follows (keeping (.satellite node)) m
      fun _ _ => True := by
  unfold handleDelete
  split
  · trivial
  · rename_i hfinalizer
    refine ⟨⟨rfl,hdid,snap,hm,hgone,by simpa using hfinalizer,rfl,rfl⟩,fun r _ => ?_⟩
    match r with
    | .error e => trivial
    | .ok false => trivial
    | .ok true =>
      exact follows_stamp (m := {m with did := some .deleted}) (.updateFinalizers snap _)
        ⟨hm,.inr ⟨hgone,rfl,rfl⟩⟩ _ fun a m' => follows_ended a m'

theorem follows_satellite :
    (Satellite.reconcile node).Follows (keeping (.satellite node)) .empty fun _ _ => True := by
  refine ⟨rfl,fun name _ => ⟨rfl,fun r _ => ?_⟩⟩
  match r with
  | .error .notFound => trivial
  | .error .conflict => trivial
  | .error .unavailable => trivial
  | .ok snap =>
    change Shell.Follows _ (Satellite.handle node snap) {Note.empty with snap := some snap} _
    unfold Satellite.handle
    split
    · trivial
    · rename_i hnode
      have hm : ({Note.empty with snap := some snap} : Note).Targets node snap :=
        ⟨rfl,by simpa using hnode⟩
      split
      · rename_i hgone
        exact follows_handleDelete hm rfl hgone
      · rename_i hlive
        have hlive : snap.deletionTimestamp=none := by simpa using hlive
        split
        · rename_i hfinalizer
          exact follows_stamp (.updateFinalizers snap _) ⟨hm,.inl ⟨hlive,hfinalizer,rfl⟩⟩ _
            fun a m' => follows_ended a m'
        · rename_i hfinalizer
          exact follows_handleCreate ⟨hm,hlive,by simpa using hfinalizer⟩ rfl

end Satellite

def system : Workload State Worker OpAnswer Err Result Note Change where
  prog
    | .controller => reconcile
    | .satellite node => Satellite.reconcile node
  protocol := keeping
  env := Step
  other := Changes

theorem system_sound : Pool.Sound system where
  follows w := by
    cases w with
    | controller => exact follows_reconcile
    | satellite node => exact follows_satellite
  answers _ _ _ _ _ _ := trivial

end Blockstor.Orchestration
