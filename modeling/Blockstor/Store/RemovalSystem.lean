import Blockstor.Framework.Pool
import Blockstor.Store.RemovalProtocol

namespace Blockstor.Store

open Framework Shell Text

/-- The calls that run side by side: any number of removals of the snapshot, and of restores from
it into any name. -/
inductive Actor
  | remove (n : Nat)
  | restore (n : Nat) (target : String)
  deriving DecidableEq

def removal (src snap : String) : MarkKind → Prog Unit
  | .deleting => deleteSnapshot src snap
  | .reaping => reapClonedSnapshot src snap

def Actor.prog (k : MarkKind) (src snap : String) : Actor → Prog Unit
  | .remove _ => removal src snap k
  | .restore _ target => materializeRestoredRD src snap target

def Actor.post : Actor → Except Err Unit → Note → Prop
  | .remove _ => Settled
  | .restore _ _ => fun _ _ => True

def removals (k : MarkKind) (src snap : String) :
    Workload State Actor Answer Err Unit Note Change where
  prog := Actor.prog k src snap
  protocol _ := handshake k src snap
  env := Step
  other := Changes
  post := Actor.post

abbrev Removals := Pool State Actor Answer Err Unit Note

section

variable {k : MarkKind} {src snap rd sn : String} {s t : State} {mark : Mark}

theorem definition_name (s : State) (name : String) (d : Definition)
    (h : s.definition name=some d) : d∈s.definitions ∧ fold d.name=fold name :=
  (s.definitions.get?_eq_some _ d).mp h

theorem step_possible (c : Cmd) (a : Answer c) (h : Step s c a t) : Possible c a := by
  obtain ⟨ctx,op⟩ := c
  rcases h with ⟨_,ha,_⟩|⟨hlag,_⟩|⟨hfail,_⟩
  · subst ha
    cases op with
    | getDefinition name =>
      change Possible ⟨ctx,.getDefinition name⟩ (found (s.definition name))
      cases hd : s.definition name with
      | none => trivial
      | some d => exact (definition_name s name d hd).2
    | cachedSnapshot rd sn =>
      change Possible ⟨ctx,.cachedSnapshot rd sn⟩ (found (s.snapshot rd sn))
      cases hx : s.snapshot rd sn with
      | none => trivial
      | some x => exact ((s.snapshots.get?_eq_some _ x).mp hx).2
    | listSnapshots rd =>
      intro x hx
      simpa using (List.mem_filter.mp hx).2
    | _ => trivial
  · cases op with
    | cachedSnapshot rd sn =>
      cases a with
      | ok x => exact hlag
      | error e => trivial
    | patchDefinition name patch => trivial
    | cachedSnapshots rd => trivial
    | _ => exact hlag.elim
  · cases op with
    | listReplicas rd =>
      cases hfail
      exact nofun
    | getDefinition name =>
      cases hfail
      trivial
    | cachedSnapshot rd sn =>
      cases hfail
      trivial
    | listSnapshots rd =>
      cases hfail
      trivial
    | _ => trivial

theorem removals_sound (k : MarkKind) (src snap : String) : Pool.Sound (removals k src snap) where
  follows i := by
    cases i with
    | remove n =>
      cases k with
      | deleting => exact deleteSnapshot_follows
      | reaping => exact reapClonedSnapshot_follows
    | restore n target => exact materializeRestoredRD_follows target
  answers _ s c a t h := step_possible c a h

variable (k src snap) in
/-- What a step leaves of the things the handshake is about: the clock does not go back, the
snapshot neither comes back nor loses its DELETE flag, its mark changes only as `remark` allows,
and nothing that was there before turns into a dependent. -/
structure Steady (remark : Option Mark → Option Mark → Prop) (s t : State) : Prop where
  clock : s.now ≤ t.now
  uids : s.uids ≤ t.uids
  tokens : s.tokens ≤ t.tokens
  known : (∀d∈s.definitions,d.uid<s.uids) → ∀d∈t.definitions,d.uid<t.uids
  source : ∀y,t.snapshot src snap=some y → ∃x,s.snapshot src snap=some x ∧
    (x.deleting=true → y.deleting=true) ∧ remark (x.props.mark k) (y.props.mark k)
  dependents : ∀d∈t.definitions,dependsOn k src snap d=true → s.uids ≤ d.uid ∨
    ∃b∈s.definitions,b.uid=d.uid ∧ b.name=d.name ∧ dependsOn k src snap b=true

variable (k src snap) in
structure Frame (remark : Option Mark → Option Mark → Prop) (s t : State) : Prop
    extends Steady k src snap remark s t where
  reached : t.reached=s.reached

def Kept (a b : Option Mark) : Prop := b=a

theorem frame_definitions (hnow : s.now ≤ t.now) (huids : s.uids ≤ t.uids)
    (htokens : s.tokens ≤ t.tokens) (hsnap : t.snapshots=s.snapshots)
    (hreached : t.reached=s.reached)
    (h : ∀d∈t.definitions,(s.uids ≤ d.uid ∧ d.uid<t.uids) ∨ ∃b∈s.definitions,b.uid=d.uid ∧
      b.name=d.name ∧ (dependsOn k src snap d=true → dependsOn k src snap b=true)) :
    Frame k src snap Kept s t where
  clock := hnow
  uids := huids
  tokens := htokens
  known hs d hd := by
    rcases h d hd with h|⟨b,hb,hu,_⟩
    · exact h.2
    · have hlt := hs b hb
      omega
  source y hy := by
    unfold State.snapshot at hy
    rw [hsnap] at hy
    exact ⟨y,hy,id,rfl⟩
  dependents d hd hdep := (h d hd).imp And.left
    fun ⟨b,hb,hu,hn,himp⟩ => ⟨b,hb,hu,hn,himp hdep⟩
  reached := hreached

theorem frame_same (hnow : s.now ≤ t.now) (huids : t.uids=s.uids) (htokens : s.tokens ≤ t.tokens)
    (hdefs : t.definitions=s.definitions) (hsnap : t.snapshots=s.snapshots)
    (hreached : t.reached=s.reached) : Frame k src snap Kept s t :=
  frame_definitions hnow (Nat.le_of_eq huids.symm) htokens hsnap hreached
    fun d hd => .inr ⟨d,hdefs ▸ hd,rfl,rfl,id⟩

theorem frame_refl (s : State) : Frame k src snap Kept s s :=
  frame_same (Nat.le_refl _) rfl (Nat.le_refl _) rfl rfl rfl

variable (name : String) (d : Definition) (props : DefinitionProps)

theorem frame_modifyDefinition (f : Definition → Definition)
    (hf : ∀d,(f d).key=d.key) (hkeep : ∀d∈s.definition name,(f d).uid=d.uid ∧ (f d).name=d.name ∧
      (dependsOn k src snap (f d)=true → dependsOn k src snap d=true)) :
    Frame k src snap Kept s (s.modifyDefinition name f hf) := by
  refine frame_definitions (Nat.le_refl _) (Nat.le_refl _) (Nat.le_refl _) rfl rfl fun d hd => .inr ?_
  rcases (s.definitions.mem_modify _ f hf d).mp hd with ⟨b,hb,hk,rfl⟩|⟨hd,_⟩
  · obtain ⟨hu,hn,hdep⟩ := hkeep b ((s.definitions.get?_eq_some _ b).mpr ⟨hb,hk⟩)
    exact ⟨b,hb,hu.symm,hn.symm,hdep⟩
  · exact ⟨d,hd,rfl,rfl,id⟩

theorem Frame.claims {remark : Option Mark → Option Mark → Prop} (h : Frame k src snap remark s t)
    (claims : List (Nat × Nat)) : Frame k src snap remark s {t with claims} :=
  ⟨⟨h.clock,h.uids,h.tokens,h.known,h.source,h.dependents⟩,h.reached⟩

theorem frame_create : Frame k src snap Kept s (serve s (.createDefinition name props)).2 := by
  rcases serve_create s name props with ⟨hfree,heq⟩|heq
  · rw [heq]
    refine frame_definitions (Nat.le_refl _) (Nat.le_succ _) (Nat.le_refl _) rfl rfl fun d hd => ?_
    have hfree' := (s.definitions.get?_eq_none _).mp hfree
    rcases (s.definitions.mem_insert _ hfree' d).mp hd with hd|rfl
    · exact .inr ⟨d,hd,rfl,rfl,id⟩
    · exact .inl ⟨Nat.le_refl _,Nat.lt_succ_self _⟩
  · rw [heq]
    exact frame_refl s

theorem frame_erase :
    Frame k src snap Kept s {s with definitions := s.definitions.erase (fold name)} := by
  refine frame_definitions (Nat.le_refl _) (Nat.le_refl _) (Nat.le_refl _) rfl rfl fun d hd => .inr ?_
  exact ⟨d,((s.definitions.mem_erase _ d).mp hd).1,rfl,rfl,id⟩

theorem dependsOn_unmarked (h : d.props.restoreFromSnapshot="") : dependsOn k src snap d=false := by
  have hne : equalFold d.props.restoreFromSnapshot (src++":"++snap)=false := by
    refine Bool.eq_false_iff.mpr fun hf => ?_
    have hlen := equalFold_length hf
    rw [h,String.length_append,String.length_append] at hlen
    change 0=src.length+1+snap.length at hlen
    omega
  rw [dependsOn,hne,Bool.false_and]

theorem frame_modifySnapshot (h : Same src snap rd sn)
    (f : Snapshot → Snapshot) (hf : ∀x,(f x).key=x.key) (remark : Option Mark → Option Mark → Prop)
    (hkeep : ∀x∈s.snapshot src snap,(x.deleting=true → (f x).deleting=true) ∧
      remark (x.props.mark k) ((f x).props.mark k)) :
    Frame k src snap remark s (s.modifySnapshot rd sn f hf) where
  clock := Nat.le_refl _
  uids := Nat.le_refl _
  tokens := Nat.le_refl _
  known hs := hs
  source y hy := by
    rw [snapshot_modifySnapshot,h.1,h.2] at hy
    obtain ⟨x,hx,rfl⟩ := Option.map_eq_some_iff.mp hy
    have hk := ((s.snapshots.get?_eq_some _ x).mp hx).2
    rw [if_pos hk]
    exact ⟨x,hx,hkeep x hx⟩
  dependents d hd hdep := .inr ⟨d,hd,rfl,rfl,hdep⟩
  reached := rfl

theorem changes_frame (e : Change) (h : Changes s e t) : Frame k src snap Kept s t := by
  cases e with
  | tick now =>
    obtain ⟨hle,rfl⟩ := h
    exact frame_same hle rfl (Nat.le_refl _) rfl rfl rfl
  | create name props =>
    cases h
    exact frame_create name props
  | flagDefinition name =>
    cases h
    exact frame_modifyDefinition name _ _ fun d _ => ⟨rfl,rfl,by simp +contextual [dependsOn]⟩
  | removeDefinition name =>
    cases h
    exact frame_erase name
  | writeVolumes name volumes =>
    cases h
    exact frame_modifyDefinition name _ _ fun d _ => ⟨rfl,rfl,id⟩
  | writeReplicas replicas =>
    cases h
    exact frame_same (Nat.le_refl _) rfl (Nat.le_refl _) rfl rfl rfl
  | clearRestoreMarker name =>
    cases h
    refine frame_modifyDefinition name _ _ fun d _ => ⟨rfl,rfl,fun hdep => ?_⟩
    rw [dependsOn_unmarked _ rfl] at hdep
    cases hdep
  | clearRollbackMark name =>
    obtain ⟨_,rfl⟩ := h
    exact frame_modifyDefinition name _ _ fun d _ => ⟨rfl,rfl,id⟩
  | giveUp name =>
    cases h
    have hedit : Frame k src snap Kept s
        (s.editProps name fun p => {p with restoreAdopted := none}) :=
      frame_modifyDefinition name _ _ fun d _ => ⟨rfl,rfl,id⟩
    exact hedit.claims _
  | removeSnapshot rd sn =>
    obtain ⟨_,rfl⟩ := h
    refine ⟨⟨Nat.le_refl _,Nat.le_refl _,Nat.le_refl _,id,fun y hy => ?_,
      fun d hd hdep => .inr ⟨d,hd,rfl,rfl,hdep⟩⟩,rfl⟩
    have hmem := (Keyed.get?_eq_some _ _ y).mp hy
    exact ⟨y,(s.snapshots.get?_eq_some _ y).mpr
      ⟨((s.snapshots.mem_erase _ y).mp hmem.1).1,hmem.2⟩,id,rfl⟩

variable (k src snap) in
def dependents (s : State) : List String :=
  (s.definitions.items.filter (dependsOn k src snap)).map Definition.name

variable (k src snap) in
inductive Move (op : Op) (s : State) : Note → Note → State → Prop
  | quiet (m : Note) (t : State) (h : Frame k src snap Kept s t) : Move op s m m t
  | ends (m : Note) (t : State) (h : Frame k src snap Kept s t) : Move op s m .over t
  | begins : Move op s .idle (.started (s.now+k.budget)) s
  | times (d : Nat) : Move op s (.started d) (.timed d (rfc3339 s.now)) s
  | stamps (d token : Nat) : Move op s (.ticketed d token) (.stamped d ⟨token,rfc3339 s.now⟩) s
  | draws (m m' : Note) (t : State) (hm : (∃d,m=.started d ∧ m'=.ticketed d s.tokens) ∨
        ∃d w,m=.timed d w ∧ m'=.stamped d ⟨s.tokens,w⟩)
      (h : Frame k src snap Kept s t) (htokens : s.tokens<t.tokens) : Move op s m m' t
  | marks (d : Nat) (mark : Mark) (m : Note) (x : Snapshot) (t : State) (hd : s.now ≤ d)
      (hm : m=.armed d mark ∨ m=.over) (hx : s.snapshot src snap=some x)
      (hover : k=.reaping → x.props.mark k=some mark ∨ k.isLive (x.props.mark k) s.now=false)
      (h : Frame k src snap (fun _ b => b=some mark) s t) : Move op s (.stamped d mark) m t
  | drops (m m' : Note) (d : Nat) (rd sn : String) (mark : Mark) (x : Snapshot) (t : State)
      (hop : op=.patchSnapshotProps rd sn (.dropMark k mark)) (hm : m.holds=some (d,mark))
      (hd : s.now ≤ d) (hm' : m'=.kept mark ∨ m'=.over) (hx : s.snapshot src snap=some x)
      (hmark : x.props.mark k=some mark)
      (h : Frame k src snap (fun _ b => b=none) s t) : Move op s m m' t
  | keeps (m : Note) (d : Nat) (mark : Mark) (hm : m.holds=some (d,mark) ∨ m=.stamped d mark)
      (hx : ∀x,s.snapshot src snap=some x → x.props.mark k≠some mark) : Move op s m (.kept mark) s
  | lists (d : Nat) (mark : Mark) :
      Move op s (.armed d mark) (.releasing d mark (dependents k src snap s)) s
  | releases (d : Nat) (mark : Mark) (todo : List String) (name : String) (t : State)
      (h : Frame k src snap Kept s t)
      (hname : ∀x∈t.definitions,dependsOn k src snap x=true → x.name≠name) :
      Move op s (.releasing d mark todo) (.releasing d mark (todo.filter fun n => n≠name)) t
  | undoes (d : Nat) (mark : Mark) (todo : List String) (t : State)
      (h : Frame k src snap Kept s t) : Move op s (.releasing d mark todo) (.undone d mark) t
  | creates (t : State) (h : Frame k src snap Kept s t) (huids : s.uids<t.uids) :
      Move op s .idle (.created s.uids) t
  | sees (uid : Nat) (x : Snapshot) (hx : s.snapshot src snap=some x) (hdel : x.deleting=false) :
      Move op s (.created uid) (.saw uid (x.props.mark k)) s
  | judges (uid : Nat) (mark : Option Mark) :
      Move op s (.saw uid mark) (if k.isLive mark s.now then .over else .clear uid) s
  | proceeds (uid : Nat) : Move op s (.clear uid) (.clear uid)
      {s with reached := .restoreProceeds uid::s.reached}

variable {ctx : Option Nat} {op : Op} {m : Note}

theorem frame_writeProps (claims : List (Nat × Nat)) (hd : s.definition name=some d)
    (hdep : dependsOn k src snap {d with props}=true → dependsOn k src snap d=true) :
    Frame k src snap Kept s (s.writeProps name props claims) := by
  have hmodify : Frame k src snap Kept s
      (s.modifyDefinition name (fun d => {d with props}) fun _ => rfl) := by
    refine frame_modifyDefinition name _ _ fun e he => ⟨rfl,rfl,?_⟩
    obtain rfl := Option.some.inj (hd.symm.trans he)
    exact hdep
  exact hmodify.claims _

theorem names_writeProps (claims : List (Nat × Nat)) (hd : s.definition name=some d)
    (hdep : dependsOn k src snap {d with props}=false) (x : Definition)
    (hx : x∈(s.writeProps name props claims).definitions) (hxdep : dependsOn k src snap x=true) :
    x.name≠name := by
  intro hname
  rcases (mem_writeProps s name props claims x).mp hx with ⟨b,hb,hk,rfl⟩|⟨_,hk⟩
  · have hbd := (s.definitions.get?_eq_some _ b).mpr ⟨hb,hk⟩
    obtain rfl := Option.some.inj (hbd.symm.trans hd)
    rw [hdep] at hxdep
    cases hxdep
  · exact hk (congrArg fold hname)

theorem release_effect (marker : String) (h : fold marker=fold (src++":"++snap)) :
    Frame k src snap Kept s (serve s (.patchDefinition name (.clearRestoreMarker marker))).2 ∧
      ∀x∈(serve s (.patchDefinition name (.clearRestoreMarker marker))).2.definitions,
        dependsOn k src snap x=true → x.name≠name := by
  cases hd : s.definition name with
  | none =>
    simp only [serve,hd]
    refine ⟨frame_refl s,fun x hx _ hname => ?_⟩
    exact (s.definitions.get?_eq_none _).mp hd x hx (congrArg fold hname)
  | some d =>
    have hmarker : equalFold d.props.restoreFromSnapshot marker=
        equalFold d.props.restoreFromSnapshot (src++":"++snap) := by
      rw [Bool.eq_iff_iff,equalFold_iff,equalFold_iff,h]
    by_cases hm : equalFold d.props.restoreFromSnapshot marker=true
    · have hoff : dependsOn k src snap {d with props := {d.props with restoreFromSnapshot := ""}}=
          false := dependsOn_unmarked _ rfl
      simp only [serve,hd,DefinitionPatch.mutate,if_pos hm]
      refine ⟨frame_writeProps name d _ _ hd fun he => ?_,names_writeProps name d _ _ hd hoff⟩
      rw [hoff] at he
      cases he
    · have hoff : dependsOn k src snap d=false := by
        rw [dependsOn,← hmarker,Bool.eq_false_iff.mpr hm,Bool.false_and]
      simp only [serve,hd,DefinitionPatch.mutate,if_neg hm]
      exact ⟨frame_writeProps name d _ _ hd id,names_writeProps name d _ _ hd hoff⟩

theorem move_now (m : Note) : Move k src snap op s m (m.reads k s.now) s := by
  cases m with
  | idle => exact .begins
  | started d => exact .times d
  | ticketed d token => exact .stamps d token
  | saw uid mark => exact .judges uid mark
  | _ => exact .quiet _ s (frame_refl s)

theorem move_token (m : Note) :
    Move k src snap op s m (m.draws s.tokens) {s with tokens := s.tokens+1} := by
  have hframe : Frame k src snap Kept s {s with tokens := s.tokens+1} :=
    frame_same (Nat.le_refl _) rfl (Nat.le_succ _) rfl rfl rfl
  cases m with
  | started d => exact .draws _ _ _ (.inl ⟨d,rfl,rfl⟩) hframe (Nat.lt_succ_self _)
  | timed d w => exact .draws _ _ _ (.inr ⟨d,w,rfl,rfl⟩) hframe (Nat.lt_succ_self _)
  | _ => exact .quiet _ _ hframe

theorem move_listDefinitions (m : Note) :
    Move k src snap op s m (m.lists (dependents k src snap s)) s := by
  cases m with
  | armed d mark => exact .lists d mark
  | _ => exact .quiet _ s (frame_refl s)

theorem move_listSnapshots (m : Note) (rd : String) (hrd : fold rd=fold src) :
    Move k src snap op s m (m.sees k ((s.snapshots.items.filter fun x => x.resourceName=rd).find?
      fun x => equalFold x.name snap)) s := by
  cases m with
  | created uid =>
    cases hx : (s.snapshots.items.filter fun x => x.resourceName=rd).find?
      fun x => equalFold x.name snap with
    | none => exact .ends _ s (frame_refl s)
    | some x =>
      obtain ⟨hmem,hname⟩ := List.mem_filter.mp (List.mem_of_find?_eq_some hx)
      have hrd' : x.resourceName=rd := by simpa using hname
      have hfold : fold x.name=fold snap :=
        (equalFold_iff _ _).mp (by simpa using List.find?_some hx)
      have hkey : x.key=(fold src,fold snap) := by rw [Snapshot.key,hrd',hrd,hfold]
      have hsource := (s.snapshots.get?_eq_some _ x).mpr ⟨hmem,hkey⟩
      unfold Note.sees
      dsimp only
      split
      · exact .ends _ s (frame_refl s)
      · exact .sees uid x hsource (by simpa using ‹¬x.deleting=true›)
  | _ => exact .quiet _ s (frame_refl s)

theorem move_create (m : Note) (name : String) (props : DefinitionProps) :
    Move k src snap op s m (m.next k src snap ⟨ctx,.createDefinition name props⟩
      (serve s (.createDefinition name props)).1) (serve s (.createDefinition name props)).2 := by
  have hframe : Frame k src snap Kept s _ := frame_create name props
  rcases serve_create s name props with ⟨hfree,heq⟩|heq
  · rw [heq] at hframe ⊢
    cases m with
    | idle => exact .creates _ hframe (Nat.lt_succ_self _)
    | _ => exact .quiet _ _ hframe
  · rw [heq]
    exact .quiet _ s (frame_refl s)

theorem same_snapshot (h : Same src snap rd sn) : s.snapshot rd sn=s.snapshot src snap := by
  rw [State.snapshot,State.snapshot,h.1,h.2]

def setPatch (k : MarkKind) (mark : Mark) : SnapshotPatch :=
  match k with
  | .deleting => .setDeleting mark
  | .reaping => .setReaping mark

variable (k src snap) in
/-- What a patch of a removal's mark comes to: it is refused where the mark is not on the snapshot,
and changes nothing, or it lands. -/
def Patches (s : State) (refusals : List Err) (mark : Mark) (lands : Snapshot → Prop)
    (b : Option Mark) (r : Except Err Unit × State) : Prop :=
  ((∃e∈refusals,r=(.error e,s)) ∧ ∀x,s.snapshot src snap=some x → x.props.mark k≠some mark) ∨
  r.1=.ok () ∧ ∃x,s.snapshot src snap=some x ∧ lands x ∧ Frame k src snap (fun _ c => c=b) s r.2

theorem frame_withMark (h : Same src snap rd sn) (props : SnapshotProps)
    (b : Option Mark) : Frame k src snap (fun _ c => c=b) s
      (s.modifySnapshot rd sn (fun x => {x with props := props.withMark b k}) fun _ => rfl) :=
  frame_modifySnapshot h _ _ _ fun _ _ => ⟨id,props.mark_withMark _ k⟩

theorem serve_setMark (rd sn : String) (mark : Mark) (h : Same src snap rd sn) :
    Patches k src snap s [.anotherReap,.notFound] mark
      (fun x => k=.reaping → x.props.mark k=some mark ∨ k.isLive (x.props.mark k) s.now=false)
      (some mark) (serve s (.patchSnapshotProps rd sn (setPatch k mark))) := by
  simp only [serve]
  rw [same_snapshot h]
  cases hx : s.snapshot src snap with
  | none => exact .inl ⟨⟨_,.tail _ (.head _),rfl⟩,by simp [hx]⟩
  | some x =>
    cases k with
    | deleting => exact .inr ⟨rfl,x,hx,fun hk => (by cases hk),frame_withMark h _ _⟩
    | reaping =>
      simp only [setPatch,SnapshotPatch.mutate]
      split
      · rename_i hrefused
        split at hrefused
        · rename_i hother
          cases hrefused
          refine .inl ⟨⟨_,.head _,rfl⟩,fun y hy => ?_⟩
          obtain rfl := Option.some.inj (hx.symm.trans hy)
          exact hother.2.1
        · cases hrefused
      · rename_i hlands
        split at hlands
        · cases hlands
        · rename_i hfree
          cases hlands
          refine .inr ⟨rfl,x,hx,fun _ => ?_,frame_withMark h _ _⟩
          change x.props.cloneSnapshotReaping=some mark ∨
            MarkKind.reaping.isLive x.props.cloneSnapshotReaping s.now=false
          rcases hmark : x.props.cloneSnapshotReaping with _|mark'
          · exact .inr rfl
          · rw [hmark] at hfree
            by_cases heq : some mark'=some mark
            · exact .inl heq
            · exact .inr (Bool.eq_false_iff.mpr fun hlive => hfree ⟨Option.some_ne_none _,heq,hlive⟩)

theorem serve_dropMark (rd sn : String) (mark : Mark) (h : Same src snap rd sn) :
    Patches k src snap s [.markNotMine,.notFound] mark (fun x => x.props.mark k=some mark) none
      (serve s (.patchSnapshotProps rd sn (.dropMark k mark))) := by
  simp only [serve]
  rw [same_snapshot h]
  cases hx : s.snapshot src snap with
  | none => exact .inl ⟨⟨_,.tail _ (.head _),rfl⟩,by simp [hx]⟩
  | some x =>
    simp only [SnapshotPatch.mutate]
    by_cases hmark : x.props.mark k=some mark
    · rw [if_neg (not_not_intro hmark)]
      exact .inr ⟨rfl,x,hx,hmark,frame_withMark h _ _⟩
    · rw [if_pos hmark]
      refine .inl ⟨⟨_,.head _,rfl⟩,fun y hy => ?_⟩
      obtain rfl := Option.some.inj (hx.symm.trans hy)
      exact hmark

theorem move_patch {patch : SnapshotPatch} {refusals : List Err}
    {lands : Snapshot → Prop} {b : Option Mark} {d : Nat} {a : Except Err Unit}
    {next : Except Err Unit → Note}
    (hserve : Patches k src snap s refusals mark lands b (serve s (.patchSnapshotProps rd sn patch)))
    (h : Step s ⟨some d,.patchSnapshotProps rd sn patch⟩ a t)
    (hm : m.holds=some (d,mark) ∨ m=.stamped d mark)
    (hkept : ∀e∈refusals,next (.error e)=.kept mark) (hlost : next (.error .unavailable)=.over)
    (hlands : ∀x n,s.snapshot src snap=some x → lands x → s.now ≤ d → (n=next (.ok ()) ∨ n=.over) →
      Frame k src snap (fun _ c => c=b) s t → Move k src snap op s m n t) :
    Move k src snap op s m (next a) t := by
  rcases h with ⟨hin,ha,ht⟩|⟨hlag,_⟩|⟨hfail,ht⟩
  · change a=(serve s (.patchSnapshotProps rd sn patch)).1 at ha
    rcases hserve with ⟨⟨e,he,heq⟩,hx⟩|⟨hok,x,hx,hlanded,hframe⟩
    · rw [heq] at ha ht
      subst ha ht
      rw [hkept e he]
      exact .keeps _ d mark hm hx
    · rw [hok] at ha
      subst ha ht
      exact hlands x _ hx hlanded (hin d rfl) (.inl rfl) hframe
  · exact hlag.elim
  · obtain rfl : a=.error .unavailable := Option.some.inj hfail
    rw [hlost]
    rcases ht with rfl|⟨hin,ht⟩
    · exact .ends _ _ (frame_refl _)
    · rcases hserve with ⟨⟨e,_,heq⟩,_⟩|⟨_,x,hx,hlanded,hframe⟩
      · rw [heq] at ht
        subst ht
        exact .ends _ _ (frame_refl _)
      · subst ht
        exact hlands x _ hx hlanded (hin d rfl) (.inr rfl) hframe

theorem move_setMark (a : Except Err Unit)
    (hmay : Same src snap rd sn ∧ ∃d,m=.stamped d mark ∧ ctx=some d)
    (h : Step s ⟨ctx,.patchSnapshotProps rd sn (setPatch k mark)⟩ a t) :
    Move k src snap op s m (m.marks a) t := by
  obtain ⟨hsame,d,rfl,rfl⟩ := hmay
  refine move_patch (serve_setMark rd sn mark hsame) h (.inr rfl) (by simp [Note.marks]) rfl ?_
  exact fun x n hx hover hd hn hframe => .marks d mark n x _ hd hn hx hover hframe

theorem move_dropMark (a : Except Err Unit)
    (hsame : Same src snap rd sn) {d : Nat} (hm : m.holds=some (d,mark)) (hctx : ctx=some d)
    (hop : op=.patchSnapshotProps rd sn (.dropMark k mark))
    (h : Step s ⟨ctx,.patchSnapshotProps rd sn (.dropMark k mark)⟩ a t) :
    Move k src snap op s m (Note.drops mark a) t := by
  subst hctx
  refine move_patch (serve_dropMark rd sn mark hsame) h (.inl hm) (by simp [Note.drops]) rfl ?_
  exact fun x n hx hmark hd hn hframe => .drops m n d rd sn mark x _ hop hm hd hn hx hmark hframe

theorem frame_deleteSnapshot (h : Same src snap rd sn) :
    Frame k src snap Kept s (serve s (.deleteSnapshot rd sn)).2 := by
  simp only [serve]
  split
  · exact frame_refl s
  · exact frame_modifySnapshot h _ _ _ fun y _ => ⟨fun _ => rfl,rfl⟩

theorem move_delete {d : Nat} (a : Except Err Unit) (h : Frame k src snap Kept s t) :
    Move k src snap op s (.releasing d mark []) ((Note.releasing d mark []).deletes a) t := by
  cases a with
  | ok _ => exact .ends _ t h
  | error e =>
    cases e with
    | notFound => exact .ends _ t h
    | _ => exact .undoes d mark [] t h

theorem move_release (m : Note) (name : String) (t : State) (h : Frame k src snap Kept s t)
    (hname : ∀x∈t.definitions,dependsOn k src snap x=true → x.name≠name) :
    Move k src snap op s m (m.releases name) t := by
  cases m with
  | releasing d mark todo => exact .releases d mark todo name t h hname
  | _ => exact .quiet _ t h

theorem step_read (a : OpAnswer op) (h : Step s ⟨ctx,op⟩ a t) (hread : (serve s op).2=s) : t=s := by
  rcases h with ⟨_,_,rfl⟩|⟨_,rfl⟩|⟨_,rfl|⟨_,rfl⟩⟩
  · exact hread
  · rfl
  · rfl
  · exact hread

theorem move_read (a : OpAnswer op) (h : Step s ⟨ctx,op⟩ a t) (hread : (serve s op).2=s)
    (m : Note) : Move k src snap op s m m t := by
  obtain rfl := step_read a h hread
  exact .quiet _ _ (frame_refl _)

theorem step_move (a : OpAnswer op) (hmay : m.may k src snap ⟨ctx,op⟩)
    (h : Step s ⟨ctx,op⟩ a t) : Move k src snap op s m (m.next k src snap ⟨ctx,op⟩ a) t := by
  cases op with
  | now =>
    rcases h with ⟨_,rfl,rfl⟩|⟨hlag,_⟩|⟨hfail,_⟩
    · exact move_now m
    · exact hlag.elim
    · cases hfail
  | token =>
    rcases h with ⟨_,rfl,rfl⟩|⟨hlag,_⟩|⟨hfail,_⟩
    · exact move_token m
    · exact hlag.elim
    · cases hfail
  | getDefinition name => exact move_read a h rfl m
  | listVolumes rd => exact move_read a h rfl m
  | listReplicas rd => exact move_read a h rfl m
  | cachedSnapshot rd sn => exact move_read a h rfl m
  | cachedSnapshots rd => exact move_read a h rfl m
  | listDefinitions =>
    obtain rfl := step_read a h rfl
    rcases h with ⟨_,rfl,_⟩|⟨hlag,_⟩|⟨hfail,_⟩
    · exact move_listDefinitions m
    · exact hlag.elim
    · cases hfail
      exact .quiet _ _ (frame_refl _)
  | listSnapshots rd =>
    obtain rfl := step_read a h rfl
    rcases h with ⟨_,rfl,_⟩|⟨hlag,_⟩|⟨hfail,_⟩
    · exact move_listSnapshots m rd hmay
    · exact hlag.elim
    · cases hfail
      exact .quiet _ _ (frame_refl _)
  | patchSnapshotProps rd sn patch =>
    cases patch with
    | setDeleting mark =>
      obtain ⟨rfl,hmay⟩ := hmay
      exact move_setMark a hmay h
    | setReaping mark =>
      obtain ⟨rfl,hmay⟩ := hmay
      exact move_setMark a hmay h
    | dropMark k' mark =>
      obtain ⟨rfl,hsame,d,hm,hctx⟩ := hmay
      exact move_dropMark a hsame hm hctx rfl h
  | deleteSnapshot rd sn =>
    obtain ⟨hsame,d,mark,rfl,_⟩ := hmay
    rcases h with ⟨_,_,rfl⟩|⟨hlag,_⟩|⟨_,rfl|⟨_,rfl⟩⟩
    · exact move_delete a (frame_deleteSnapshot hsame)
    · exact hlag.elim
    · exact move_delete a (frame_refl _)
    · exact move_delete a (frame_deleteSnapshot hsame)
  | createDefinition name props =>
    rcases h with ⟨_,rfl,rfl⟩|⟨hlag,_⟩|⟨hfail,ht⟩
    · exact move_create m name props
    · exact hlag.elim
    · cases hfail
      rcases ht with rfl|⟨_,rfl⟩
      · exact .quiet _ _ (frame_refl _)
      · exact .quiet _ _ (frame_create name props)
  | patchDefinition name patch =>
    obtain ⟨marker,rfl,hmarker⟩ := hmay
    obtain ⟨hframe,hname⟩ := release_effect name marker hmarker (s := s) (k := k)
    rcases h with ⟨_,rfl,rfl⟩|⟨hlag,_⟩|⟨hfail,ht⟩
    · have hnext : m.next k src snap ⟨ctx,.patchDefinition name (.clearRestoreMarker marker)⟩
          (serve s (.patchDefinition name (.clearRestoreMarker marker))).1=m.releases name := by
        simp only [serve]
        cases s.definition name with
        | none => rfl
        | some d =>
          simp only [DefinitionPatch.mutate]
          by_cases hm : equalFold d.props.restoreFromSnapshot marker=true
          · rw [if_pos hm]
            rfl
          · rw [if_neg hm]
            rfl
      rw [hnext]
      exact move_release m name _ hframe hname
    · cases a with
      | ok _ => exact hlag.elim
      | error e =>
        obtain ⟨now,props,hmutate⟩ := hlag
        simp only [DefinitionPatch.mutate] at hmutate
        split at hmutate <;> cases hmutate
    · cases hfail
      rcases ht with rfl|⟨_,rfl⟩
      · exact .quiet _ _ (frame_refl _)
      · exact .quiet _ _ hframe
  | deleteDefinition name =>
    have hframe : Frame k src snap Kept s (serve s (.deleteDefinition name)).2 := by
      simp only [serve]
      split
      · exact frame_refl s
      · exact frame_erase name
    rcases h with ⟨_,_,rfl⟩|⟨hlag,_⟩|⟨_,rfl|⟨_,rfl⟩⟩
    · exact .quiet _ _ hframe
    · exact hlag.elim
    · exact .quiet _ _ (frame_refl _)
    · exact .quiet _ _ hframe
  | reach milestone =>
    obtain ⟨uid,rfl,rfl⟩ := hmay
    rcases h with ⟨_,rfl,rfl⟩|⟨hlag,_⟩|⟨hfail,_⟩
    · exact .proceeds uid
    · exact hlag.elim
    · cases hfail

theorem serve_now (s : State) (op : Op) : (serve s op).2.now=s.now := by
  cases op with
  | patchSnapshotProps rd sn patch =>
    simp only [serve]
    split
    · rfl
    · split <;> rfl
  | deleteSnapshot rd sn =>
    simp only [serve]
    cases s.snapshot rd sn <;> rfl
  | createDefinition name props =>
    rcases serve_create s name props with ⟨_,heq⟩|heq <;> rw [heq]
    rfl
  | patchDefinition name patch =>
    simp only [serve]
    split
    · rfl
    · split <;> rfl
  | deleteDefinition name =>
    simp only [serve]
    split <;> rfl
  | _ => rfl

theorem step_now (c : Cmd) (a : Answer c) (h : Step s c a t) : t.now=s.now := by
  rcases h with ⟨_,_,rfl⟩|⟨_,rfl⟩|⟨_,rfl|⟨_,rfl⟩⟩
  · exact serve_now s c.op
  · rfl
  · rfl
  · exact serve_now s c.op

theorem changes_now (e : Change) (h : Changes s e t) : (∃now,e=.tick now ∧ t.now=now) ∨ t.now=s.now := by
  cases e with
  | tick now =>
    obtain ⟨_,rfl⟩ := h
    exact .inl ⟨now,rfl,rfl⟩
  | create name props =>
    cases h
    exact .inr (serve_now s _)
  | clearRollbackMark name =>
    obtain ⟨_,rfl⟩ := h
    exact .inr rfl
  | removeSnapshot rd sn =>
    obtain ⟨_,rfl⟩ := h
    exact .inr rfl
  | _ =>
    cases h
    exact .inr rfl

end

end Blockstor.Store
