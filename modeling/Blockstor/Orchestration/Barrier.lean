import Blockstor.Orchestration.Schedule

namespace Blockstor.Orchestration

open Framework Pool List

variable {snap x z : Snapshot} {m : Note}

/-- At least `size` members of the group are there. -/
def Present (s : State) (group : String) (size : Int) : Prop :=
  ∃names : List String,names.Nodup ∧ size ≤ names.length ∧
    ∀n∈names,∃x,s.get? n=some x ∧ x.groupID=group

variable {s t : Cluster} {e : Event} {group : String} {size : Int}

theorem Present.step (h : NoteStep system s e t) (hu : Undeleted e) (halive : Alive s.shared)
    (hp : Present s.shared group size) : Present t.shared group size := by
  obtain ⟨names,hnodup,hsize,hall⟩ := hp
  refine ⟨names,hnodup,hsize,fun n hn => ?_⟩
  obtain ⟨x,hx,hg⟩ := hall n hn
  obtain ⟨y,hy,ht⟩ := turned h hu halive hx
  exact ⟨y,hy,ht.same_fields.groupID.trans hg⟩

theorem Present.le_length {s : State} (hp : Present s group size) :
    size ≤ (s.siblings group).length := by
  obtain ⟨names,hnodup,hsize,hall⟩ := hp
  have hsub : names ⊆ (s.siblings group).map Snapshot.name := by
    intro n hn
    obtain ⟨x,hx,hg⟩ := hall n hn
    exact mem_map.mpr ⟨x,siblings_mem hx hg,get?_name hx⟩
  have hlen := (Nodup.subperm hnodup hsub).length_le
  rw [length_map] at hlen
  omega

theorem Fetched.present {sh : State} (hf : Fetched sh m)
    (hsnap : m.snap=some snap) (hgroup : snap.groupID≠"")
    (h : groupAssembled snap m.siblings=true) : Present sh snap.groupID snap.groupSize := by
  simp only [groupAssembled,Bool.or_eq_true,decide_eq_true_eq] at h
  rcases h with hnone|hlen
  · exact ⟨[],nodup_nil,by simpa using hnone,fun _ hn => by cases hn⟩
  · cases hl : m.listed with
    | none =>
      rw [siblings_unlisted hsnap hgroup hl] at hlen
      exact ⟨[],nodup_nil,hlen,fun _ hn => by cases hn⟩
    | some items =>
      obtain ⟨snap',hs',_,hnodup,hself,hall⟩ := hf.listed items hl
      rw [hsnap] at hs'
      cases hs'
      refine ⟨items.map Snapshot.name,hnodup,?_,fun n hn => ?_⟩
      · rw [siblings_group hsnap hgroup hl] at hlen
        rw [← map_name_withSelf items hself,length_map]
        exact hlen
      · obtain ⟨y,hy,rfl⟩ := mem_map.mp hn
        obtain ⟨hg,z,hz,hsame⟩ := hall y hy
        exact ⟨z,hz,hsame.groupID.trans hg⟩

def Counted (s : State) (m : Note) : Prop :=
  ∀snap,m.snap=some snap → snap.groupID≠"" → snap.suspendIO=true →
    Present s snap.groupID snap.groupSize ∧ ∀items,m.listed=some items → snap.groupSize ≤ items.length

/-- The members of a group carry one size, and none of them is suspended before that many are
there. -/
structure Fenced (s : Cluster) : Prop extends Standing s where
  sizes : ∀n n' x y,s.shared.get? n=some x → s.shared.get? n'=some y → x.groupID=y.groupID →
    x.groupID≠"" → x.groupSize=y.groupSize
  single : ∀n x,s.shared.get? n=some x → x.groupID="" → x.groupSize=0
  assembled : ∀n x,s.shared.get? n=some x → x.groupID≠"" → x.suspendIO=true →
    Present s.shared x.groupID x.groupSize
  counted : ∀w m,s.notes w=some m → Counted s.shared m

theorem fenced_initial : Fenced (idle .initial) where
  toStanding := standing_initial
  sizes _ _ _ _ h := by cases h
  single _ _ h := by cases h
  assembled _ _ h := by cases h
  counted _ _ h := by cases h

theorem Fenced.present (hs : Fenced s) {a b : Bool}
    (hm : s.notes .controller=some m) (hd : m.Decided snap a b) (ha : a=true)
    (hgroup : snap.groupID≠"") : Present s.shared snap.groupID snap.groupSize := by
  obtain ⟨hsnap,_,⟨_,hfalse,_⟩|⟨_,_,_,hverdict⟩⟩ := hd
  · rw [ha] at hfalse
    cases hfalse
  · cases hverdict with
    | suspend _ _ _ _ hassembled =>
      exact (hs.fetched _ m hm).present hsnap hgroup (hassembled hgroup)
    | take hsuspend _ _ _ => exact (hs.counted _ m hm snap hsnap hgroup hsuspend).1
    | resume _ _ _ => cases ha

theorem Fenced.step (h : NoteStep system s e t) (hu : Undeleted e) (hs : Fenced s) :
    Fenced t := by
  have hpresent {g : String} {k : Int} := @Present.step _ _ _ g k h hu hs.alive
  have hcounted (m : Note) (hm : Counted s.shared m) : Counted t.shared m := by
    intro snap hsnap hgroup hsuspend
    obtain ⟨hp,hl⟩ := hm snap hsnap hgroup hsuspend
    exact ⟨hpresent hp,hl⟩
  refine ⟨hs.toStanding.step h hu,?_,?_,?_,?_⟩
  · -- the size of a group: a new member comes with the size of the others
    intro n n' x y hx hy hg hgroup
    rcases turned_back h hx with ⟨x',hx',ht⟩|⟨hnone,w,he,hw,rfl⟩ <;>
      rcases turned_back h hy with ⟨y',hy',ht'⟩|⟨hnone',w',he',hw',rfl⟩
    · rw [ht.same_fields.groupSize,ht'.same_fields.groupSize]
      refine hs.sizes n n' x' y' hx' hy' ?_ ?_
      · rw [← ht.same_fields.groupID,← ht'.same_fields.groupID,hg]
      · rw [← ht.same_fields.groupID]
        exact hgroup
    · rw [ht.same_fields.groupSize]
      refine hw'.2 x' ((s.shared.snapshots.get?_eq_some n x').mp hx').1 ?_ ?_
      · rw [← ht.same_fields.groupID]
        exact hg
      · rw [hg] at hgroup
        exact hgroup
    · rw [ht'.same_fields.groupSize]
      refine (hw.2 y' ((s.shared.snapshots.get?_eq_some n' y').mp hy').1 ?_ hgroup).symm
      rw [← ht'.same_fields.groupID]
      exact hg.symm
    · cases he.symm.trans he'
      rfl
  · intro n x hx hgroup
    rcases turned_back h hx with ⟨x',hx',ht⟩|⟨_,w,_,hw,rfl⟩
    · rw [ht.same_fields.groupSize]
      exact hs.single n x' hx' (ht.same_fields.groupID ▸ hgroup)
    · exact hw.1 hgroup
  · intro n x hx hgroup hsuspend
    rcases turned_back h hx with ⟨x',hx',ht⟩|⟨_,w,_,hw,rfl⟩
    · rw [ht.same_fields.groupID] at hgroup ⊢
      rw [ht.same_fields.groupSize]
      rcases ht.flags with ⟨hflag,_⟩|⟨m,snap,_,_,hm,hd,z,hz,hname⟩
      · exact hpresent (hs.assembled n x' hx' hgroup (hflag ▸ hsuspend))
      · -- the flipped member is one of the batch that was fetched
        obtain ⟨hg,⟨z',hz',hsame⟩,_⟩ := (hs.fetched _ m hm).mem_siblings hd.1 hz
        rw [hname,get?_name hx',hx'] at hz'
        cases hz'
        obtain ⟨y,hy,hsnap⟩ := (hs.fetched _ m hm).snap snap hd.1
        have hgid : x'.groupID=snap.groupID := hsame.groupID.trans hg
        have hsize : x'.groupSize=snap.groupSize :=
          (hs.sizes n snap.name x' y hx' hy (hgid.trans hsnap.groupID.symm) hgroup).trans
            hsnap.groupSize
        rw [hgid] at hgroup ⊢
        rw [hsize]
        exact hpresent (hs.present hm hd hsuspend hgroup)
    · -- a new member of a group is not suspended
      simp only [wireToCRDSnapshot,decide_eq_true_eq] at hsuspend
      exact absurd hsuspend hgroup
  · refine h.each (fun sh _ m => Counted sh m) hs.counted (fun _ snap hsnap => by cases hsnap) ?_ ?_
    · intro w op a m _ hm hmay henv
      refine ⟨?_,fun j n _ hn => hcounted n (hs.counted j n hn)⟩
      have hold := hcounted m (hs.counted w m hm)
      rcases next_fetched m op a with ⟨hsnap,hlist⟩|⟨n,x,he,hnext⟩|⟨g,items,he,hnext⟩
      · change Counted t.shared (m.next op a)
        intro snap hs'
        rw [hsnap] at hs'
        rw [hlist]
        exact hold snap hs'
      · cases he
        obtain ⟨heq,hx⟩ := step_getSnapshot henv
        obtain rfl := may_getSnapshot hmay
        change Counted t.shared (Note.empty.next (.getSnapshot n) (.ok x))
        intro snap hs' hgroup hsuspend
        cases hs'
        exact ⟨hpresent (hs.assembled n x hx hgroup hsuspend),fun _ hi => by cases hi⟩
      · cases he
        obtain ⟨heq,rfl⟩ := step_listSiblings henv
        obtain ⟨_,snap,rfl,rfl,_,_⟩ := may_listSiblings hmay
        intro snap' hs' hgroup hsuspend
        cases hs'
        refine ⟨(hold snap rfl hgroup hsuspend).1,fun items hi => ?_⟩
        cases hi
        exact (hs.counted w _ hm snap rfl hgroup hsuspend).1.le_length
    · intro c _ _ j n hn
      exact hcounted n (hs.counted j n hn)

theorem fenced_run {es : List Event} (h : Run (guarded (fun _ => Undeleted) (Pool.Step system))
    (idle .initial) es s) : Following system s ∧ Fenced s :=
  (following_idle _).invariant system_sound _ Fenced
    (fun _ _ _ hs hu hstep => hs.step hstep hu) fenced_initial h

structure ShowsBarrier (m : Note) (x : Snapshot) : Prop where
  batch : (m.siblings.map Snapshot.name).Nodup ∧ ∀y∈m.siblings,y.batch=x.batch
  present : x.groupSize ≤ m.siblings.length
  acked : ∀y∈m.siblings,∀n∈y.nodes,∃row,byNode y.nodeStatus n=some row ∧ row.suspendIOAcked=true
  upToDate : ∀y∈m.siblings,∃resources∈m.resources,∀r∈resources,targetedReplica y r=true →
    ∀d∈r.volumes,d=none ∨ d=some .upToDate

def ShowsReady (m : Note) : Prop :=
  ∀y∈m.siblings,∀n∈y.nodes,∃row,byNode y.nodeStatus n=some row ∧ row.ready=true

theorem allTargetsMatch_iff {entries : List NodeStatus} {targets : List String}
    {pred : NodeStatus → Bool} : allTargetsMatch entries targets pred=true ↔
      ∀n∈targets,∃row,byNode entries n=some row ∧ pred row=true := by
  simp only [allTargetsMatch,all_eq_true,Option.any_eq_true]

theorem upToDate_of_noneOffending {resources : List Resource}
    (h : NoneOffending x resources) (r : Resource) (hr : r∈resources)
    (ht : targetedReplica x r=true) : ∀d∈r.volumes,d=none ∨ d=some .upToDate := by
  rw [NoneOffending,offendingReplica,Option.map_eq_none_iff,find?_eq_none] at h
  have hfine := h r hr
  simp only [ht,Bool.true_and,Bool.not_eq_true,Bool.not_eq_false'] at hfine
  simpa [replicaUpToDate] using hfine

theorem Fetched.nodup_siblings {sh : State} (hf : Fetched sh m)
    (hsnap : m.snap=some snap) : (m.siblings.map Snapshot.name).Nodup := by
  by_cases hgroup : snap.groupID=""
  · simp [Note.siblings,hsnap,hgroup]
  · cases hl : m.listed with
    | none => simp [siblings_unlisted hsnap hgroup hl]
    | some items =>
      obtain ⟨snap',hs',_,hnodup,hself,_⟩ := hf.listed items hl
      rw [hsnap] at hs'
      cases hs'
      rw [siblings_group hsnap hgroup hl,map_name_withSelf items hself]
      exact hnodup

section

variable {m : Note} {snap : Snapshot} {a b : Bool}

theorem Note.Decided.taking (h : m.Decided snap a true) : a=true := by
  obtain ⟨_,_,⟨_,_,hfalse⟩|⟨_,_,_,hverdict⟩⟩ := h
  · cases hfalse
  · cases hverdict
    rfl

theorem Note.Decided.clearing (h : m.Decided snap false b) :
    m.aborting=true ∨ allSiblingsReady m.siblings=true := by
  obtain ⟨_,_,⟨haborting,_⟩|⟨_,_,_,hverdict⟩⟩ := h
  · exact .inl haborting
  · cases hverdict with
    | resume _ _ hready => exact .inr hready

end

theorem Fenced.showsBarrier (hs : Fenced s) {n : String}
    (hm : s.notes .controller=some m) (hd : m.Decided snap true true) (hz : z∈m.siblings)
    (hx : s.shared.get? n=some x) (hname : z.name=x.name) : ShowsBarrier m x := by
  have hf := hs.fetched _ m hm
  obtain ⟨hg,⟨z',hz',hsame⟩,hbatch⟩ := hf.mem_siblings hd.1 hz
  rw [hname,get?_name hx,hx] at hz'
  cases hz'
  obtain ⟨hsnap,_,⟨_,hfalse,_⟩|⟨_,_,_,hverdict⟩⟩ := hd
  · cases hfalse
  · cases hverdict with
    | take hsuspend _ hacked hfine =>
      refine ⟨⟨hf.nodup_siblings hsnap,fun y hy => ?_⟩,?_,fun y hy => ?_,fun y hy => ?_⟩
      · rw [hsame.batch,hbatch]
        exact (hf.mem_siblings hsnap hy).2.2
      · by_cases hgroup : snap.groupID=""
        · rw [hs.single n x hx (hsame.groupID.trans (hg.trans hgroup))]
          omega
        · obtain ⟨y,hy,hsnap'⟩ := hf.snap snap hsnap
          have hgid : x.groupID=snap.groupID := hsame.groupID.trans hg
          rw [hs.sizes n snap.name x y hx hy (hgid.trans hsnap'.groupID.symm) (hgid ▸ hgroup),
            hsnap'.groupSize]
          cases hl : m.listed with
          | none =>
            rw [siblings_unlisted hsnap hgroup hl] at hz
            cases hz
          | some items =>
            obtain ⟨snap',hs',_,_,hself,_⟩ := hf.listed items hl
            rw [hsnap] at hs'
            cases hs'
            rw [siblings_group hsnap hgroup hl,
              show (withSelf snap items).length=items.length by
                rw [← length_map Snapshot.name,map_name_withSelf items hself,length_map]]
            exact (hs.counted _ m hm snap hsnap hgroup hsuspend).2 items hl
      · exact allTargetsMatch_iff.mp (all_eq_true.mp hacked y hy)
      · obtain ⟨i,hi,rfl⟩ := getElem_of_mem hy
        have hlen := hfine.length_eq
        exact ⟨m.resources[i],getElem_mem _,
          upToDate_of_noneOffending (Forall₂.get hfine hi (hlen ▸ hi))⟩

/-- Two definitions are snapshotted as one group, on one node each. The controller opens the
barrier, both nodes report, and the controller is about to set `takeSnapshot`. -/
def pairOfSnapshots : List Turn :=
  [.other (.create "a" ⟨"ra","s",["n"],[0],"g",2,"",""⟩),
   .other (.create "b" ⟨"rb","s",["n"],[0],"g",2,"",""⟩),.other (.request .controller "a")]++
  replicate 8 (.go .controller)++
  [.stop .controller,.other (.writeStatus "a" [⟨"n",0,false,true,false⟩]),
   .other (.writeStatus "b" [⟨"n",0,false,true,false⟩])]++replicate 7 (.go .controller)

end Blockstor.Orchestration
