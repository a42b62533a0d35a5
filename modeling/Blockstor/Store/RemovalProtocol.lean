import Blockstor.Store.LeftoverReads
import Blockstor.Store.SnapshotDelete

namespace Blockstor.Store

open Framework Shell Text List

/-- How far a removal of the snapshot, or a restore from it, has come. A removal is `armed` once its
mark is on the snapshot, and `releasing` once it has listed the definitions, with those it still has
to release; it is `undone` when its delete failed, and has `kept` the snapshot when its mark was
refused or is off again. A restore has `created` its definition, then seen the snapshot with the mark on it, and is
`clear` when it found no reason to withdraw. -/
inductive Note
  | idle
  | started (deadline : Nat)
  | ticketed (deadline token : Nat)
  | timed (deadline written : Nat)
  | stamped (deadline : Nat) (mark : Mark)
  | armed (deadline : Nat) (mark : Mark)
  | releasing (deadline : Nat) (mark : Mark) (todo : List String)
  | undone (deadline : Nat) (mark : Mark)
  | kept (mark : Mark)
  | created (uid : Nat)
  | saw (uid : Nat) (mark : Option Mark)
  | clear (uid : Nat)
  | over
  deriving DecidableEq

variable (k : MarkKind) (src : String) (snap : String)

/-- The definition needs the snapshot: it carries the marker. A delete does not wait for one that is
itself being deleted. -/
def dependsOn (d : Definition) : Bool :=
  equalFold d.props.restoreFromSnapshot (src++":"++snap) && (k=.reaping || !d.deleting)

def Same (rd sn : String) : Prop := fold rd=fold src ∧ fold sn=fold snap

namespace Note

def holds : Note → Option (Nat × Mark)
  | .armed d mark => some (d,mark)
  | .releasing d mark _ => some (d,mark)
  | .undone d mark => some (d,mark)
  | _ => none

variable (k : MarkKind) (m : Note)

def reads (now : Nat) : Note :=
  match m with
  | .idle => .started (now+k.budget)
  | .started d => .timed d (rfc3339 now)
  | .ticketed d token => .stamped d ⟨token,rfc3339 now⟩
  | .saw uid mark => if k.isLive mark now then .over else .clear uid
  | m => m

def draws (token : Nat) : Note :=
  match m with
  | .started d => .ticketed d token
  | .timed d written => .stamped d ⟨token,written⟩
  | m => m

def marks : Except Err Unit → Note
  | .ok () => match m with
    | .stamped d mark => .armed d mark
    | m => m
  | .error .unavailable => .over
  | .error _ => match m with
    | .stamped _ mark => .kept mark
    | m => m

def lists (todo : List String) : Note :=
  match m with
  | .armed d mark => .releasing d mark todo
  | m => m

def releases (name : String) : Note :=
  match m with
  | .releasing d mark todo => .releasing d mark (todo.filter fun n => n≠name)
  | m => m

def deletes : Except Err Unit → Note
  | .ok () => .over
  | .error .notFound => .over
  | .error _ => match m with
    | .releasing d mark _ => .undone d mark
    | m => m

def drops (mark : Mark) : Except Err Unit → Note
  | .ok () => .kept mark
  | .error .markNotMine => .kept mark
  | .error .notFound => .kept mark
  | .error _ => .over

def creates (uid : Nat) : Note :=
  match m with
  | .idle => .created uid
  | m => m

def sees (found : Option Snapshot) : Note :=
  match m,found with
  | .created uid,some x => if x.deleting then .over else .saw uid (x.props.mark k)
  | .created _,none => .over
  | m,_ => m

def next (src snap : String) (m : Note) : (c : Cmd) → Answer c → Note
  | ⟨_,.now⟩,t => m.reads k t
  | ⟨_,.token⟩,token => m.draws token
  | ⟨_,.patchSnapshotProps _ _ (.setDeleting _)⟩,a => m.marks a
  | ⟨_,.patchSnapshotProps _ _ (.setReaping _)⟩,a => m.marks a
  | ⟨_,.patchSnapshotProps _ _ (.dropMark _ mark)⟩,a => drops mark a
  | ⟨_,.listDefinitions⟩,.ok rds => m.lists ((rds.filter (dependsOn k src snap)).map Definition.name)
  | ⟨_,.patchDefinition name _⟩,.ok _ => m.releases name
  | ⟨_,.patchDefinition name _⟩,.error .notFound => m.releases name
  | ⟨_,.deleteSnapshot _ _⟩,a => m.deletes a
  | ⟨_,.createDefinition _ _⟩,.ok uid => m.creates uid
  | ⟨_,.listSnapshots _⟩,.ok list => m.sees k (list.find? fun x => equalFold x.name snap)
  | _,_ => m

def may (src snap : String) (m : Note) : Cmd → Prop
  | ⟨ctx,.patchSnapshotProps rd sn (.setDeleting mark)⟩ =>
      k=.deleting ∧ Same src snap rd sn ∧ ∃d,m=.stamped d mark ∧ ctx=some d
  | ⟨ctx,.patchSnapshotProps rd sn (.setReaping mark)⟩ =>
      k=.reaping ∧ Same src snap rd sn ∧ ∃d,m=.stamped d mark ∧ ctx=some d
  | ⟨ctx,.patchSnapshotProps rd sn (.dropMark k' mark)⟩ =>
      k'=k ∧ Same src snap rd sn ∧ ∃d,m.holds=some (d,mark) ∧ ctx=some d
  | ⟨ctx,.deleteSnapshot rd sn⟩ =>
      Same src snap rd sn ∧ ∃d mark,m=.releasing d mark [] ∧ ctx=some d
  | ⟨_,.listSnapshots rd⟩ => fold rd=fold src
  | ⟨_,.patchDefinition _ patch⟩ => ∃marker,patch=.clearRestoreMarker marker ∧
      fold marker=fold (src++":"++snap)
  | ⟨_,.reach milestone⟩ => ∃uid,milestone=.restoreProceeds uid ∧ m=.clear uid
  | _ => True

end Note

/-- The answers the handshake reckons with: objects come under the name asked for, and a list is
never missing. -/
def Possible : (c : Cmd) → Answer c → Prop
  | ⟨_,.getDefinition name⟩,.ok d => fold d.name=fold name
  | ⟨_,.listReplicas _⟩,.error e => e≠.notFound
  | ⟨_,.cachedSnapshot rd sn⟩,.ok x => x.key=(fold rd,fold sn)
  | ⟨_,.listSnapshots rd⟩,.ok list => ∀x∈list,x.resourceName=rd
  | _,_ => True

def handshake : Protocol Answer Note where
  start := .idle
  next := Note.next k src snap
  may := Note.may k src snap
  possible := Possible

section

variable {k : MarkKind} {src snap rd sn : String}

theorem Same.marker (h : Same src snap rd sn) :
    fold (rd++":"++sn)=fold (src++":"++snap) := by
  simp only [fold_append,h.1,h.2]

theorem calm_handshake (m : Note) : Calm (handshake k src snap) m where
  getDefinition _ _ := ⟨trivial,fun _ _ => rfl⟩
  listVolumes _ _ := ⟨trivial,fun _ _ => rfl⟩
  listReplicas _ _ := ⟨trivial,fun a ha => ⟨by cases a <;> rfl,fun h => by subst h; exact ha rfl⟩⟩

theorem equalFold_of_same (h : Same src snap rd sn) :
    (fun x : Snapshot => equalFold x.name sn)=fun x => equalFold x.name snap := by
  funext x
  rw [Bool.eq_iff_iff,equalFold_iff,equalFold_iff,h.2]

variable (ctx : Option Nat)

/-- The snapshot read past the cache is the one asked for, and it is what the note sees. Where it is
not found, the note knows as little as before, or that. -/
theorem uncachedSnapshot_follows (h : Same src snap rd sn)
    (m : Note) : (uncachedSnapshot ctx rd sn).Follows (handshake k src snap) m fun r m' =>
      (∀x,r=.ok x → Same src snap x.resourceName x.name ∧ m'=m.sees k (some x)) ∧
      ∀e,r=.error e → m'=m ∨ m'=m.sees k none := by
  have hlist (stored : String) (hs : fold stored=fold src) :
      Follows (handshake k src snap) (do
        let snaps ← lift (← ask ctx (.listSnapshots stored))
        lift (found (snaps.find? fun x => equalFold x.name sn))) m fun r m' =>
      (∀x,r=.ok x → Same src snap x.resourceName x.name ∧ m'=m.sees k (some x)) ∧
      ∀e,r=.error e → m'=m ∨ m'=m.sees k none := by
    refine ⟨hs,fun a ha => ?_⟩
    cases a with
    | error e => exact ⟨fun _ h => (by cases h),fun _ _ => .inl rfl⟩
    | ok list =>
      change Follows _ (lift (found (list.find? _))) (m.sees k (list.find? _)) _
      rw [equalFold_of_same h]
      cases hx : list.find? fun x => equalFold x.name snap with
      | none => exact ⟨fun _ h => (by cases h),fun _ _ => .inr rfl⟩
      | some x =>
        refine ⟨fun y hy => ?_,fun _ h => by cases h⟩
        cases hy
        have hname : equalFold x.name snap=true := by simpa using find?_some hx
        have hrd := ha x (mem_of_find?_eq_some hx)
        exact ⟨⟨by rw [hrd,hs],(equalFold_iff _ _).mp hname⟩,rfl⟩
  refine ⟨trivial,fun a ha => ?_⟩
  cases a with
  | ok d => exact hlist d.name (Eq.trans ha h.1)
  | error e =>
    cases e with
    | notFound => exact hlist rd h.1
    | _ => exact ⟨fun _ h => (by cases h),fun _ _ => .inl rfl⟩

theorem releaseRestoreMarker_follows (name marker : String) (d : Nat)
    (mark : Mark) (todo : List String) (h : fold marker=fold (src++":"++snap)) :
    (releaseRestoreMarker ctx name marker).Follows (handshake k src snap) (.releasing d mark todo)
      fun r m => (r=.ok () → m=.releasing d mark (todo.filter fun n => n≠name)) ∧
        m.holds=some (d,mark) := by
  have hq := quiet_restoreMarkerClearRefusal (calm_handshake (.releasing d mark todo)) ctx name
    (P := handshake k src snap)
  refine hq.attempt.bind (fun a m hm => ?_) fun e m hm => ?_
  · obtain ⟨x,rfl,rfl,hx⟩ : ∃x,a=x ∧ m=.releasing d mark todo ∧ x≠.error .notFound := by
      obtain ⟨x,hx,hm,hne⟩ := hm
      exact ⟨x,Except.ok.inj hx,hm,hne⟩
    cases a with
    | error e =>
      cases e with
      | notFound => exact absurd rfl hx
      | _ => exact ⟨fun h => (by cases h),rfl⟩
    | ok _ =>
      refine ⟨⟨marker,rfl,h⟩,fun a _ => ?_⟩
      cases a with
      | ok _ => exact ⟨fun _ => rfl,rfl⟩
      | error e =>
        cases e with
        | notFound => exact ⟨fun _ => rfl,rfl⟩
        | _ => exact ⟨fun h => (by cases h),rfl⟩
  · obtain ⟨_,hx,_⟩ := hm
    cases hx

theorem releaseEach_follows (marker : String) (d : Nat) (mark : Mark)
    (h : fold marker=fold (src++":"++snap)) (rds : List Definition) (todo : List String)
    (htodo : ∀n∈todo,∃rd∈rds,dependsOn .deleting src snap rd=true ∧ rd.name=n) :
    (releaseEach ctx marker rds).Follows (handshake .deleting src snap) (.releasing d mark todo)
      fun r m => (r=.ok () → m=.releasing d mark []) ∧ m.holds=some (d,mark) := by
  have hskip (rd : Definition) (rds : List Definition) (todo : List String)
      (hrd : dependsOn .deleting src snap rd=false)
      (htodo : ∀n∈todo,∃x∈rd::rds,dependsOn .deleting src snap x=true ∧ x.name=n) :
      ∀n∈todo,∃x∈rds,dependsOn .deleting src snap x=true ∧ x.name=n := by
    intro n hn
    obtain ⟨x,hx,hdep,hname⟩ := htodo n hn
    rcases mem_cons.mp hx with rfl|hx
    · rw [hrd] at hdep
      cases hdep
    · exact ⟨x,hx,hdep,hname⟩
  induction rds generalizing todo with
  | nil =>
    have hnil : todo=[] := eq_nil_iff_forall_not_mem.mpr fun n hn => by
      obtain ⟨_,hx,_⟩ := htodo n hn
      cases hx
    exact ⟨fun _ => by rw [hnil],rfl⟩
  | cons rd rds ih =>
    have hmarker : equalFold rd.props.restoreFromSnapshot marker=
        equalFold rd.props.restoreFromSnapshot (src++":"++snap) := by
      rw [Bool.eq_iff_iff,equalFold_iff,equalFold_iff,h]
    unfold releaseEach
    by_cases hdep : dependsOn .deleting src snap rd=true
    · obtain ⟨hm,hdel⟩ := (Bool.and_eq_true _ _).mp hdep
      have hdel' : rd.deleting=false := by simpa using hdel
      rw [hmarker,hm,hdel']
      refine (releaseRestoreMarker_follows ctx rd.name marker d mark todo h).bind
        (fun _ m hm => ?_) fun e m hm => ⟨fun h => (by cases h),hm.2⟩
      rw [hm.1 rfl]
      refine ih _ fun n hn => ?_
      obtain ⟨hn,hne⟩ := mem_filter.mp hn
      obtain ⟨x,hx,hx'⟩ := htodo n hn
      rcases mem_cons.mp hx with rfl|hx
      · simp [hx'.2] at hne
      · exact ⟨x,hx,hx'⟩
    · have hdep' : dependsOn .deleting src snap rd=false := by simpa using hdep
      have hrest := ih todo (hskip rd rds todo hdep' htodo)
      rw [hmarker]
      unfold dependsOn at hdep'
      split
      · exact hrest
      · split
        · exact hrest
        · simp_all

theorem releaseRestoreSource_follows (h : Same src snap rd sn) (d : Nat) (mark : Mark) :
    (releaseRestoreSource ctx rd sn).Follows (handshake .deleting src snap) (.armed d mark)
      fun r m => (r=.ok () → m=.releasing d mark []) ∧ m.holds=some (d,mark) := by
  refine ⟨trivial,fun a _ => ?_⟩
  cases a with
  | error e => exact ⟨fun h => (by cases h),rfl⟩
  | ok rds =>
    refine releaseEach_follows ctx _ d mark h.marker rds _ fun n hn => ?_
    obtain ⟨x,hx,rfl⟩ := mem_map.mp hn
    obtain ⟨hx,hdep⟩ := mem_filter.mp hx
    exact ⟨x,hx,hdep,rfl⟩

/-- What a removal that ends leaves: the snapshot is deleted, or its mark is off again, or a write of
its own failed. -/
def Settled (_ : Except Err Unit) (m : Note) : Prop := m.holds=none

theorem keep_follows {ctx : Option Nat} (h : Same src snap rd sn) {d : Nat}
    {mark : Mark} (hctx : ctx=some d) (why : Err) (m : Note) (hm : m.holds=some (d,mark)) :
    (keepMarked (dropMark k ctx rd sn mark) why).Follows (handshake k src snap) m Settled := by
  have hdrop : (dropMark k ctx rd sn mark).Follows (handshake k src snap) m
      fun _ m => m.holds=none := by
    refine ⟨⟨rfl,h,d,hm,hctx⟩,fun a _ => ?_⟩
    cases a with
    | ok _ => rfl
    | error e => cases e <;> rfl
  refine hdrop.attempt.bind (fun _ _ hm => ?_) fun _ _ hm => ?_
  · obtain ⟨_,_,hm⟩ := hm
    exact hm
  · obtain ⟨_,hx,_⟩ := hm
    cases hx

theorem delete_follows {ctx : Option Nat} (h : Same src snap rd sn) {d : Nat}
    {mark : Mark} (hctx : ctx=some d) :
    (deleteOrKeep ctx rd sn (keepMarked (dropMark k ctx rd sn mark))).Follows
      (handshake k src snap) (.releasing d mark []) Settled := by
  refine ⟨⟨h,d,mark,rfl,hctx⟩,fun a _ => ?_⟩
  cases a with
  | ok _ => rfl
  | error e =>
    cases e with
    | notFound => rfl
    | _ => exact keep_follows h hctx _ (.undone d mark) rfl

/-- A delete keeps to the handshake: it marks the snapshot before it lists the definitions, and
deletes it only within its budget and with every dependent released. -/
theorem deleteSnapshot_follows :
    (deleteSnapshot src snap).Follows (handshake .deleting src snap) .idle Settled := by
  refine ⟨trivial,fun t _ => ?_⟩
  have hread := uncachedSnapshot_follows (some (t+snapshotDeleteBudget))
    (⟨rfl,rfl⟩ : Same src snap src snap) (.started (t+snapshotDeleteBudget)) (k := .deleting)
  refine hread.bind (fun x m hm => ?_) fun e m hm => ?_
  · obtain ⟨hx,rfl⟩ := hm.1 x rfl
    refine ⟨trivial,fun token _ => ⟨trivial,fun now _ => ⟨⟨rfl,hx,_,rfl,rfl⟩,fun a _ => ?_⟩⟩⟩
    cases a with
    | error e => cases e <;> rfl
    | ok _ =>
      have hrelease := releaseRestoreSource_follows (some (t+snapshotDeleteBudget)) hx
        (t+snapshotDeleteBudget) ⟨token,rfc3339 now⟩
      refine hrelease.attempt.bind (fun r m hm => ?_) fun _ _ hm => ?_
      · obtain ⟨r',hr,hm⟩ := hm
        cases hr
        cases r with
        | error e => exact keep_follows hx rfl e m hm.2
        | ok _ =>
          rw [hm.1 rfl]
          exact delete_follows hx rfl
      · obtain ⟨_,hx,_⟩ := hm
        cases hx
  · rcases hm.2 e rfl with rfl|rfl <;> rfl

theorem reapClonedSnapshot_follows :
    (reapClonedSnapshot src snap).Follows (handshake .reaping src snap) .idle Settled := by
  have hsame : Same src snap src snap := ⟨rfl,rfl⟩
  unfold reapClonedSnapshot
  split
  · rfl
  · refine ⟨trivial,fun t _ => ⟨trivial,fun now _ => ⟨trivial,fun token _ =>
      ⟨⟨rfl,hsame,_,rfl,rfl⟩,fun a _ => ?_⟩⟩⟩⟩
    cases a with
    | error e => cases e <;> rfl
    | ok _ =>
      refine ⟨trivial,fun a _ => ?_⟩
      cases a with
      | error e => exact keep_follows hsame rfl e _ rfl
      | ok rds =>
        dsimp only [Shell.bind]
        cases hrest : restoredFrom rds src snap with
        | cons dependent _ => exact keep_follows hsame rfl _ _ rfl
        | nil =>
          have hnone : (rds.filter (dependsOn .reaping src snap)).map Definition.name=[] := by
            have hfilter := filter_eq_nil_iff.mp (map_eq_nil_iff.mp hrest)
            refine map_eq_nil_iff.mpr (filter_eq_nil_iff.mpr fun d hd hdep => ?_)
            exact hfilter d hd ((Bool.and_eq_true _ _).mp hdep).1
          change Follows _ _ (Note.releasing (t+cloneSnapshotReapBudget) ⟨token,rfc3339 now⟩
            ((rds.filter (dependsOn .reaping src snap)).map Definition.name)) _
          rw [hnone]
          exact delete_follows hsame rfl

theorem restoreSourceWithdrawn_follows (h : Same src snap rd sn) (uid : Nat) :
    (restoreSourceWithdrawn none rd sn).Follows (handshake k src snap) (.created uid)
      fun r m => r=.ok () → m=.clear uid := by
  have hread := uncachedSnapshot_follows none h (.created uid) (k := k)
  refine hread.attempt.bind (fun r m hm => ?_) fun _ _ _ h => by cases h
  obtain ⟨r',hr,hm⟩ := hm
  cases hr
  cases r with
  | error e => cases e <;> exact fun h => by cases h
  | ok x =>
    obtain ⟨_,rfl⟩ := hm.1 x rfl
    change Follows _ (if x.deleting=true then _ else _)
      (if x.deleting=true then Note.over else .saw uid (x.props.mark k)) _
    split
    · exact fun h => by cases h
    · refine ⟨trivial,fun now _ => ?_⟩
      change Follows _ (if MarkKind.reaping.isLive (x.props.mark .reaping) now=true then _
        else if MarkKind.deleting.isLive (x.props.mark .deleting) now=true then _ else _)
        (if k.isLive (x.props.mark k) now then Note.over else .clear uid) _
      split
      · exact fun h => by cases h
      · split
        · exact fun h => by cases h
        · have hlive : ¬k.isLive (x.props.mark k) now=true := by cases k <;> assumption
          rw [if_neg hlive]
          exact fun _ => rfl

theorem materializeRestoredRD_follows (target : String) :
    (materializeRestoredRD src snap target).Follows (handshake k src snap) .idle
      fun _ _ => True := by
  refine ⟨trivial,fun a ha => ?_⟩
  cases a with
  | error e => trivial
  | ok x =>
    have hx : Same src snap x.resourceName x.name := Prod.mk.inj ha
    refine ⟨trivial,fun a _ => ?_⟩
    cases a with
    | error e => trivial
    | ok uid =>
      refine (restoreSourceWithdrawn_follows hx uid).bind (fun _ m hm => ?_) fun _ _ _ => trivial
      exact ⟨⟨uid,rfl,hm rfl⟩,fun _ _ => trivial⟩

end

end Blockstor.Store
