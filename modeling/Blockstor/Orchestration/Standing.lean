import Blockstor.Orchestration.System

namespace Blockstor.Orchestration

open Framework Pool

variable {g n : String} {m : Note} {w : Worker}

abbrev Cluster := Pool State Worker OpAnswer Err Result Note

abbrev Event := PoolEvent Worker OpAnswer Change

def Undeleted (e : Event) : Prop := ∀name,e≠.other (.delete name)

def Alive (s : State) : Prop := ∀name x,s.get? name=some x → x.deletionTimestamp=none

variable {s t : Cluster} {e : Event} {name : String} {x y : Snapshot}

/-- What a step makes of an object: nothing, or a worker's command or another change rewrites it. -/
inductive Turned (s : Cluster) (e : Event) (x : Snapshot) : Snapshot → Prop
  | same : Turned s e x x
  | called (w : Worker) (op : Op) (a : OpAnswer op) (m : Note) (y : Snapshot)
      (he : e=.call w op a) (hm : s.notes w=some m) (hmay : may w m op)
      (h : Rewrite s.shared op x y) : Turned s e x y
  | changed (c : Change) (y : Snapshot) (he : e=.other c) (h : Rewritten s.shared c x y) :
      Turned s e x y

theorem Turned.same_fields (h : Turned s e x y) : y.Same x := by
  cases h with
  | same => exact .refl x
  | called _ _ _ _ _ _ _ _ h => exact h.same_fields
  | changed _ _ _ h => exact h.same_fields

theorem Turned.flags (h : Turned s e x y) :
    y.suspendIO = x.suspendIO ∧ y.takeSnapshot=x.takeSnapshot ∨
      ∃m snap a,e=.call .controller (.patch x.name (.flip y.suspendIO y.takeSnapshot)) a ∧
        s.notes .controller=some m ∧ m.Decided snap y.suspendIO y.takeSnapshot ∧
        ∃z∈m.siblings,z.name=x.name := by
  cases h with
  | same => exact .inl ⟨rfl,rfl⟩
  | called w op a m y he hm hmay h =>
    rcases h.flags with h|⟨b,c,rfl,rfl,rfl⟩
    · exact .inl h
    · obtain ⟨rfl,snap,hdecided,_,hz⟩ := may_flip hmay
      exact .inr ⟨m,snap,a,he,hm,hdecided,hz⟩
  | changed c y he h => exact .inl h.flags

theorem turned_live (h : NoteStep system s e t) (hd : e≠.other (.delete name))
    (hx : s.shared.get? name=some x) (hlive : x.deletionTimestamp=none) :
    ∃y,t.shared.get? name=some y ∧ Turned s e x y := by
  cases h with
  | start i _ _ hs _ => exact ⟨x,by rw [hs]; exact hx,.same⟩
  | stop i _ hs _ => exact ⟨x,by rw [hs]; exact hx,.same⟩
  | call w op a m _ hm hmay henv _ =>
    rcases step_get? henv hx with ⟨y,hy,h⟩|⟨_,hgone,_⟩
    · exact ⟨y,hy,.called w op a m y rfl hm hmay h⟩
    · exact absurd hlive hgone
  | other c _ hc _ =>
    rcases changes_get? hc hx with ⟨y,hy,h⟩|⟨_,⟨rfl,_⟩|⟨hgone,_⟩⟩
    · exact ⟨y,hy,.changed c y rfl h⟩
    · exact absurd (by rw [get?_name hx]) hd
    · exact absurd hlive hgone

theorem turned (h : NoteStep system s e t) (hu : Undeleted e) (halive : Alive s.shared)
    (hx : s.shared.get? name=some x) : ∃y,t.shared.get? name=some y ∧ Turned s e x y :=
  turned_live h (hu name) hx (halive name x hx)

theorem Turned.deletionTimestamp (h : Turned s e x y) (hd : e≠.other (.delete x.name)) :
    y.deletionTimestamp=x.deletionTimestamp := by
  cases h with
  | same => rfl
  | called w op a m y _ _ _ h => exact h.deletionTimestamp
  | changed c y he h =>
    cases h with
    | deleted hc => exact absurd (by rw [he,hc]) hd
    | _ => rfl

theorem Turned.flipped (h : Turned s e x y) (hne : y.suspendIO≠x.suspendIO) :
    ∃a,e=.call .controller (.patch x.name (.flip y.suspendIO y.takeSnapshot)) a := by
  rcases h.flags with ⟨hsame,_⟩|⟨_,_,a,he,_⟩
  · exact absurd hsame hne
  · exact ⟨a,he⟩

theorem turned_back (h : NoteStep system s e t) (hy : t.shared.get? name=some y) :
    (∃x,s.shared.get? name=some x ∧ Turned s e x y) ∨
      s.shared.get? name=none ∧ ∃w,e=.other (.create name w) ∧ w.Batched s.shared ∧
        y=wireToCRDSnapshot name s.shared.revision s.shared.now w := by
  cases h with
  | start i _ _ hs _ =>
    rw [hs] at hy
    exact .inl ⟨y,hy,.same⟩
  | stop i _ hs _ =>
    rw [hs] at hy
    exact .inl ⟨y,hy,.same⟩
  | call w op a m _ hm hmay henv _ =>
    left
    cases hx : s.shared.get? name with
    | none =>
      rw [step_get?_none henv hx] at hy
      cases hy
    | some x =>
      rcases step_get? henv hx with ⟨z,hz,hr⟩|⟨hz,_⟩
      · rw [hz] at hy
        cases hy
        exact ⟨x,rfl,.called w op a m _ rfl hm hmay hr⟩
      · rw [hz] at hy
        cases hy
  | other c _ hc _ =>
    cases hx : s.shared.get? name with
    | none =>
      rcases changes_get?_none hc hx with hz|⟨w,rfl,hw,hz⟩
      · rw [hz] at hy
        cases hy
      · rw [hz] at hy
        cases hy
        exact .inr ⟨rfl,w,rfl,hw,rfl⟩
    | some x =>
      rcases changes_get? hc hx with ⟨z,hz,hr⟩|⟨hz,_⟩
      · rw [hz] at hy
        cases hy
        exact .inl ⟨x,rfl,.changed c _ rfl hr⟩
      · rw [hz] at hy
        cases hy

theorem alive_step (h : NoteStep system s e t) (hu : Undeleted e) (halive : Alive s.shared) :
    Alive t.shared := by
  intro name y hy
  rcases turned_back h hy with ⟨x,hx,ht⟩|⟨_,w,_,_,rfl⟩
  · rw [ht.deletionTimestamp (hu x.name)]
    exact halive name x hx
  · rfl

def Stands (s : State) (x : Snapshot) : Prop := ∃y,s.get? x.name=some y ∧ y.Same x

theorem stands_of_get? {s : State} (h : s.get? name=some x) : Stands s x :=
  ⟨x,by rw [get?_name h]; exact h,.refl x⟩

theorem stands_step (h : NoteStep system s e t) (hu : Undeleted e) (halive : Alive s.shared)
    (hx : Stands s.shared x) : Stands t.shared x := by
  obtain ⟨y,hy,hsame⟩ := hx
  obtain ⟨z,hz,ht⟩ := turned h hu halive hy
  exact ⟨z,hz,ht.same_fields.trans hsame⟩

/-- What a reconcile has fetched: copies of objects that are still there, and for a group all
members there were, the reconciled one among them. -/
structure Fetched (s : State) (m : Note) : Prop where
  snap : ∀snap,m.snap=some snap → Stands s snap
  listed : ∀items,m.listed=some items → ∃snap,m.snap=some snap ∧ snap.groupID≠"" ∧
    (items.map Snapshot.name).Nodup ∧ (∃y∈items,y.name=snap.name) ∧
      ∀y∈items,y.groupID=snap.groupID ∧ Stands s y

theorem fetched_empty {s : State} : Fetched s .empty :=
  ⟨fun _ h => (by cases h),fun _ h => (by cases h)⟩

theorem Fetched.mono {s t : State} (h : Fetched s m)
    (hmono : ∀x,Stands s x → Stands t x) : Fetched t m where
  snap snap hs := hmono snap (h.snap snap hs)
  listed items hi := by
    obtain ⟨snap,hs,hgroup,hnodup,hself,hall⟩ := h.listed items hi
    exact ⟨snap,hs,hgroup,hnodup,hself,fun y hy => ⟨(hall y hy).1,hmono y (hall y hy).2⟩⟩

theorem mem_siblings {s : State} (h : x∈s.siblings g) : s.get? x.name=some x ∧ x.groupID=g := by
  obtain ⟨hmem,hg⟩ := List.mem_filter.mp h
  exact ⟨(s.snapshots.get?_eq_some x.name x).mpr ⟨hmem,rfl⟩,by simpa using hg⟩

theorem siblings_mem {s : State} (h : s.get? name=some x) (hg : x.groupID=g) : x∈s.siblings g :=
  List.mem_filter.mpr ⟨((s.snapshots.get?_eq_some name x).mp h).1,by simpa using hg⟩

theorem siblings_nodup (s : State) {g : String} : ((s.siblings g).map Snapshot.name).Nodup :=
  s.snapshots.nodup.sublist (List.filter_sublist.map _)

theorem step_getSnapshot {s t : State} (h : Step s (.getSnapshot n) (.ok x) t) :
    t=s ∧ s.get? n=some x := by
  rcases h with ⟨ha,ht⟩|⟨ha,_⟩
  · refine ⟨ht,?_⟩
    change Except.ok x=found (s.get? n) at ha
    cases hg : s.get? n with
    | none =>
      rw [hg] at ha
      cases ha
    | some z =>
      rw [hg] at ha
      cases ha
      rfl
  · cases ha

theorem step_listSiblings {s t : State} {items : List Snapshot}
    (h : Step s (.listSiblings g) (.ok items) t) : t=s ∧ items=s.siblings g := by
  rcases h with ⟨ha,ht⟩|⟨ha,_⟩
  · cases ha
    exact ⟨ht,rfl⟩
  · cases ha

theorem next_fetched (m : Note) (op : Op) (a : OpAnswer op) :
    (m.next op a).snap=m.snap ∧ (m.next op a).listed=m.listed ∨
      (∃n x,(⟨op,a⟩ : Entry OpAnswer)=⟨.getSnapshot n,.ok x⟩ ∧
        m.next op a={m with snap := some x}) ∨
      ∃g items,(⟨op,a⟩ : Entry OpAnswer)=⟨.listSiblings g,.ok items⟩ ∧
        m.next op a={m with listed := some items} := by
  cases op with
  | getSnapshot n =>
    cases a with
    | ok x => exact .inr (.inl ⟨n,x,rfl,rfl⟩)
    | error e => exact .inl ⟨rfl,rfl⟩
  | listSiblings g =>
    cases a with
    | ok items => exact .inr (.inr ⟨g,items,rfl,rfl⟩)
    | error e => exact .inl ⟨rfl,rfl⟩
  | listResources => cases a <;> exact .inl ⟨rfl,rfl⟩
  | patch n p => cases p <;> exact .inl ⟨rfl,rfl⟩
  | suspendResource n rd name => cases a <;> exact .inl ⟨rfl,rfl⟩
  | resumeResource n rd name => cases a <;> exact .inl ⟨rfl,rfl⟩
  | createSnapshot n rd name vols =>
    cases a with
    | ok r =>
      left
      simp only [Note.next]
      split <;> exact ⟨rfl,rfl⟩
    | error e => exact .inl ⟨rfl,rfl⟩
  | deleteSnapshot n rd name =>
    rcases a with _|(_|_) <;> exact .inl ⟨rfl,rfl⟩
  | _ => exact .inl ⟨rfl,rfl⟩

theorem next_did (m : Note) (op : Op) (a : OpAnswer op) : (m.next op a).did=m.did ∨
      (∃n rd x,(⟨op,a⟩ : Entry OpAnswer)=⟨.suspendResource n rd x,.ok ()⟩ ∧
        (m.next op a).did=some .suspended) ∨
      (∃n rd x,(⟨op,a⟩ : Entry OpAnswer)=⟨.resumeResource n rd x,.ok ()⟩ ∧
        (m.next op a).did=some .resumed) ∨
      (∃n rd x vols r,(⟨op,a⟩ : Entry OpAnswer)=⟨.createSnapshot n rd x vols,.ok r⟩ ∧ r.ok=true ∧
        (m.next op a).did=some .created) ∨
      ∃n rd x,(⟨op,a⟩ : Entry OpAnswer)=⟨.deleteSnapshot n rd x,.ok true⟩ ∧
        (m.next op a).did=some .deleted := by
  cases op with
  | getSnapshot n => cases a <;> exact .inl rfl
  | listSiblings g => cases a <;> exact .inl rfl
  | listResources => cases a <;> exact .inl rfl
  | patch n p => cases p <;> exact .inl rfl
  | suspendResource n rd x =>
    cases a with
    | ok _ => exact .inr (.inl ⟨n,rd,x,rfl,rfl⟩)
    | error e => exact .inl rfl
  | resumeResource n rd x =>
    cases a with
    | ok _ => exact .inr (.inr (.inl ⟨n,rd,x,rfl,rfl⟩))
    | error e => exact .inl rfl
  | createSnapshot n rd x vols =>
    cases a with
    | ok r =>
      by_cases hr : r.ok=true
      · exact .inr (.inr (.inr (.inl ⟨n,rd,x,vols,r,rfl,hr,by simp [Note.next,hr]⟩)))
      · exact .inl (by simp [Note.next,hr])
    | error e => exact .inl rfl
  | deleteSnapshot n rd x =>
    rcases a with _|(_|_)
    · exact .inl rfl
    · exact .inl rfl
    · exact .inr (.inr (.inr (.inr ⟨n,rd,x,rfl,rfl⟩)))
  | _ => exact .inl rfl

theorem may_getSnapshot (h : may w m (.getSnapshot name)) : m=.empty := by
  cases w <;> exact h

theorem may_listSiblings (h : may w m (.listSiblings g)) :
    w=.controller ∧ ∃snap,m={Note.empty with snap := some snap} ∧ g=snap.groupID ∧ g≠"" ∧
      snap.deletionTimestamp=none := by
  cases w with
  | controller => exact ⟨rfl,h⟩
  | satellite node => exact h.elim

theorem Fetched.next {s t : State} {op : Op} {a : OpAnswer op}
    (h : Fetched s m) (hmono : ∀x,Stands s x → Stands t x) (hmay : may w m op)
    (henv : Step s op a t) : Fetched t (m.next op a) := by
  rcases next_fetched m op a with ⟨hs,hl⟩|⟨n,x,he,hnext⟩|⟨g,items,he,hnext⟩
  · have hm := h.mono hmono
    exact ⟨fun snap => by rw [hs]; exact hm.snap snap,
      fun items => by rw [hl,hs]; exact hm.listed items⟩
  · cases he
    obtain ⟨rfl,hx⟩ := step_getSnapshot henv
    obtain rfl := may_getSnapshot hmay
    rw [hnext]
    exact ⟨fun snap hs => by cases hs; exact stands_of_get? hx,fun items hi => by cases hi⟩
  · cases he
    obtain ⟨rfl,rfl⟩ := step_listSiblings henv
    obtain ⟨_,snap,rfl,rfl,hgroup,_⟩ := may_listSiblings hmay
    have hstands := h.snap snap rfl
    rw [hnext]
    refine ⟨fun snap' hs => by cases hs; exact hstands,fun items hi => ?_⟩
    cases hi
    obtain ⟨z,hz,hsame⟩ := hstands
    refine ⟨snap,rfl,hgroup,siblings_nodup t,⟨z,siblings_mem hz hsame.groupID,hsame.name⟩,?_⟩
    exact fun y hy => ⟨(mem_siblings hy).2,stands_of_get? (mem_siblings hy).1⟩

structure Standing (s : Cluster) : Prop where
  alive : Alive s.shared
  fetched : ∀w m,s.notes w=some m → Fetched s.shared m

theorem Standing.step (h : NoteStep system s e t) (hu : Undeleted e) (hs : Standing s) :
    Standing t := by
  have hmono (x : Snapshot) := stands_step (x := x) h hu hs.alive
  refine ⟨alive_step h hu hs.alive,?_⟩
  refine h.each (fun sh _ m => Fetched sh m) hs.fetched (fun _ => fetched_empty) ?_ ?_
  · intro w op a m _ hm hmay henv
    exact ⟨(hs.fetched w m hm).next hmono hmay henv,fun j n _ hn => (hs.fetched j n hn).mono hmono⟩
  · intro c _ _ j n hn
    exact (hs.fetched j n hn).mono hmono

def State.initial : State where
  now := 0
  revision := 0
  snapshots := ⟨[],List.nodup_nil⟩
  resources := []
  requests := fun _ => ""
  suspended := fun _ _ => false
  frozen := fun _ _ => false
  materialised := fun _ _ _ => false
  aborted := []

theorem standing_initial : Standing (idle .initial) :=
  ⟨fun _ _ h => (by cases h),fun _ _ h => (by cases h)⟩

section Siblings

variable {sh : State} {m : Note} {snap : Snapshot}

theorem siblings_group {items : List Snapshot} (hsnap : m.snap=some snap)
    (hgroup : snap.groupID≠"") (hl : m.listed=some items) : m.siblings=withSelf snap items := by
  simp [Note.siblings,hsnap,hgroup,hl]

theorem siblings_unlisted (hsnap : m.snap=some snap) (hgroup : snap.groupID≠"")
    (hl : m.listed=none) : m.siblings=[] := by
  simp [Note.siblings,hsnap,hgroup,hl]

theorem Fetched.mem_siblings (h : Fetched sh m) (hsnap : m.snap=some snap) (hx : x∈m.siblings) :
    x.groupID=snap.groupID ∧ Stands sh x ∧ x.batch=snap.batch := by
  unfold Note.siblings at hx
  rw [hsnap] at hx
  dsimp only at hx
  split at hx
  · obtain rfl := List.mem_singleton.mp hx
    exact ⟨rfl,h.snap x hsnap,rfl⟩
  · rename_i hgroup
    split at hx
    · cases hx
    · rename_i items hitems
      obtain ⟨snap',hs,_,_,_,hall⟩ := h.listed items hitems
      rw [hsnap] at hs
      cases hs
      have hg : x.groupID=snap.groupID ∧ Stands sh x := by
        rcases of_mem_withSelf hx with rfl|hmem
        · exact ⟨rfl,h.snap x hsnap⟩
        · exact hall x hmem
      refine ⟨hg.1,hg.2,?_⟩
      rw [Snapshot.batch,Snapshot.batch,hg.1,if_neg hgroup,if_neg hgroup]

theorem map_name_withSelf (items : List Snapshot) (h : ∃y∈items,y.name=snap.name) :
    (withSelf snap items).map Snapshot.name=items.map Snapshot.name := by
  induction items with
  | nil =>
    obtain ⟨_,hy,_⟩ := h
    cases hy
  | cons z zs ih =>
    unfold withSelf
    split
    · rename_i hz
      simp [hz]
    · rename_i hz
      obtain ⟨y,hy,hname⟩ := h
      rcases List.mem_cons.mp hy with rfl|hy
      · exact absurd hname hz
      · simp [ih ⟨y,hy,hname⟩]

end Siblings

end Blockstor.Orchestration
