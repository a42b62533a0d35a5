import Blockstor.Orchestration.Protocol

namespace Blockstor.Orchestration

open Framework

variable {s t : State} {op : Op} {a : OpAnswer op} {name : String} {x y : Snapshot}

inductive Rewrite (s : State) (op : Op) (x : Snapshot) : Snapshot → Prop
  | same : Rewrite s op x x
  | patched (p : Patch) (y : Snapshot) (hop : op=.patch x.name p) (h : p.mutate s.now x=some y) :
      Rewrite s op x {y with resourceVersion := s.revision}
  | finalized (snap : Snapshot) (finalizers : List String)
      (hop : op=.updateFinalizers snap finalizers) (hname : snap.name=x.name)
      (hversion : x.resourceVersion=snap.resourceVersion) :
      Rewrite s op x {x with finalizers, resourceVersion := s.revision}

def Removes (op : Op) (x : Snapshot) : Prop :=
  x.deletionTimestamp≠none ∧ ∃snap,op=.updateFinalizers snap [] ∧ snap.name=x.name ∧
    x.resourceVersion=snap.resourceVersion

theorem get?_name (h : s.get? name=some x) : x.name=name :=
  ((s.snapshots.get?_eq_some name x).mp h).2

theorem get?_write (s : State) (name n : String) (f : Snapshot → Snapshot) (hf : ∀x,(f x).name=x.name) :
    (s.write n f hf).get? name=
      (s.get? name).map fun x => if x.name=n then {f x with resourceVersion := s.revision} else x :=
  s.snapshots.get?_modify n name (fun x => {f x with resourceVersion := s.revision}) hf

theorem get?_create (n : String) (w : Wire) (h : s.get? n=none) : (s.create n w h).get? name=
    if name=n then some (wireToCRDSnapshot n s.revision s.now w) else s.get? name :=
  s.snapshots.get?_insert (wireToCRDSnapshot n s.revision s.now w)
    ((s.snapshots.get?_eq_none n).mp h) name

theorem get?_sweep (s : State) (name n : String) : (s.sweep n).get? name=s.get? name ∨
    n=name ∧ (s.sweep n).get? name=none ∧
      ∃x,s.get? name=some x ∧ x.deletionTimestamp≠none ∧ x.finalizers=[] := by
  unfold State.sweep
  split
  · rename_i x hx
    split
    · rename_i hgone
      by_cases hn : name=n
      · subst hn
        exact .inr ⟨rfl,by simp [State.get?,Keyed.get?_erase],x,hx,hgone⟩
      · exact .inl (by simp [State.get?,Keyed.get?_erase,hn])
    · exact .inl rfl
  · exact .inl rfl

theorem serve_get? (op : Op) (h : s.get? name=some x) :
    (∃y,(serve s op).2.get? name=some y ∧ Rewrite s op x y) ∨
      (serve s op).2.get? name=none ∧ Removes op x := by
  have hname := get?_name h
  cases op with
  | patch n p =>
    left
    simp only [serve]
    split
    · exact ⟨x,h,.same⟩
    · rename_i y hy
      rw [get?_write,h]
      by_cases hn : x.name=n
      · -- the patched object is the one that was found
        have hx : s.get? n=some x := by rw [← hn,hname]; exact h
        rw [hx] at hy
        have hy : p.mutate s.now x=some y := hy
        have hp : p.apply s.now x=y := by rw [Patch.apply,hy]; rfl
        refine ⟨{y with resourceVersion := s.revision},?_,.patched p y (by rw [hn]) hy⟩
        rw [Option.map_some,if_pos hn,hp]
      · exact ⟨x,by rw [Option.map_some,if_neg hn],.same⟩
  | updateFinalizers snap finalizers =>
    simp only [serve]
    split
    · exact .inl ⟨x,h,.same⟩
    · rename_i z hz
      split
      · rename_i hversion
        have hwrite := get?_write s name snap.name
          (fun x => {x with finalizers}) fun _ => rfl
        rw [h] at hwrite
        by_cases hn : x.name=snap.name
        · obtain rfl : z=x := by
            rw [← hn,hname,h] at hz
            exact (Option.some.inj hz).symm
          rw [Option.map_some,if_pos hn] at hwrite
          rcases get?_sweep (s.write snap.name (fun x => {x with finalizers}) fun _ => rfl)
            name snap.name with hs|⟨_,hs,u,hu,hgone,hempty⟩
          · exact .inl ⟨_,hs.trans hwrite,.finalized snap finalizers rfl hn.symm hversion⟩
          · rw [hwrite] at hu
            cases hu
            have hempty : finalizers=[] := hempty
            subst hempty
            exact .inr ⟨hs,hgone,snap,rfl,hn.symm,hversion⟩
        · rw [Option.map_some,if_neg hn] at hwrite
          rcases get?_sweep (s.write snap.name (fun x => {x with finalizers}) fun _ => rfl)
            name snap.name with hs|⟨hsnap,_⟩
          · exact .inl ⟨x,hs.trans hwrite,.same⟩
          · exact absurd (hname.trans hsnap.symm) hn
      · exact .inl ⟨x,h,.same⟩
  | _ => exact .inl ⟨x,h,.same⟩

theorem serve_get?_none (op : Op) (h : s.get? name=none) : (serve s op).2.get? name=none := by
  cases op with
  | patch n p =>
    simp only [serve]
    split
    · exact h
    · rw [get?_write,h]
      rfl
  | updateFinalizers snap finalizers =>
    simp only [serve]
    split
    · exact h
    · split
      · have hwrite := get?_write s name snap.name
          (fun x => {x with finalizers}) fun _ => rfl
        rw [h] at hwrite
        rcases get?_sweep (s.write snap.name (fun x => {x with finalizers}) fun _ => rfl)
            name snap.name with hs|⟨_,hs,_⟩
        · exact hs.trans hwrite
        · exact hs
      · exact h
  | _ => exact h

theorem step_state (h : Step s op a t) : t=s ∨ t=(serve s op).2 := by
  rcases h with ⟨_,ht⟩|⟨_,ht|⟨_,ht⟩⟩
  · exact .inr ht
  · exact .inl ht
  · exact .inr ht

theorem step_get? (h : Step s op a t) (hx : s.get? name=some x) :
    (∃y,t.get? name=some y ∧ Rewrite s op x y) ∨ t.get? name=none ∧ Removes op x := by
  rcases step_state h with rfl|rfl
  · exact .inl ⟨x,hx,.same⟩
  · exact serve_get? op hx

theorem step_get?_none (h : Step s op a t) (hx : s.get? name=none) : t.get? name=none := by
  rcases step_state h with rfl|rfl
  · exact hx
  · exact serve_get?_none op hx

inductive Effect (s : State) : Op → State → Prop
  | objects (op : Op) (revision : Nat) (snapshots : Keyed Snapshot.name) :
      Effect s op {s with revision, snapshots}
  | abort (b : Batch) : Effect s (.abort b) {s with aborted := b::s.aborted}
  | suspend (node rd snap : String) : Effect s (.suspendResource node rd snap) {s with
      suspended := set₂ s.suspended node rd true, frozen := set₂ s.frozen node snap true}
  | resume (node rd snap : String) : Effect s (.resumeResource node rd snap) {s with
      suspended := set₂ s.suspended node rd false, frozen := set₂ s.frozen node snap false}
  | create (node rd snap : String) (vols : List Int) : Effect s (.createSnapshot node rd snap vols)
      {s with materialised := set₃ s.materialised node rd snap true}
  | delete (node rd snap : String) : Effect s (.deleteSnapshot node rd snap)
      {s with materialised := set₃ s.materialised node rd snap false}

theorem sweep_shape (s : State) (n : String) : ∃snapshots,s.sweep n={s with snapshots} := by
  unfold State.sweep
  split
  · split
    · exact ⟨_,rfl⟩
    · exact ⟨_,rfl⟩
  · exact ⟨_,rfl⟩

theorem sweep_gone (h : s.get? name=some x) (hgone : x.deletionTimestamp≠none)
    (hempty : x.finalizers=[]) : (s.sweep name).get? name=none := by
  unfold State.sweep
  rw [h]
  dsimp only
  rw [if_pos ⟨hgone,hempty⟩,State.get?,Keyed.get?_erase,if_pos rfl]

theorem sweep_kept (h : s.get? name=some x) (hne : x.finalizers≠[]) : s.sweep name=s := by
  unfold State.sweep
  rw [h]
  dsimp only
  rw [if_neg fun hx => hne hx.2]

theorem step_effect (h : Step s op a t) : Effect s op t := by
  rcases step_state h with rfl|rfl
  · exact .objects op t.revision t.snapshots
  · cases op with
    | abort b => exact .abort b
    | suspendResource n rd x => exact .suspend n rd x
    | resumeResource n rd x => exact .resume n rd x
    | createSnapshot n rd x vols => exact .create n rd x vols
    | deleteSnapshot n rd x => exact .delete n rd x
    | patch n p =>
      simp only [serve]
      split
      · exact .objects _ s.revision s.snapshots
      · exact .objects _ _ _
    | updateFinalizers snap fs =>
      simp only [serve]
      split
      · exact .objects _ s.revision s.snapshots
      · split
        · obtain ⟨snapshots,hs⟩ := sweep_shape
            (s.write snap.name (fun x => {x with finalizers := fs}) fun _ => rfl) snap.name
          rw [hs]
          exact .objects _ _ _
        · exact .objects _ s.revision s.snapshots
    | _ => exact .objects _ s.revision s.snapshots

theorem step_io (h : Step s op a t) : t.suspended=s.suspended ∧ t.frozen=s.frozen ∨
    (∃n rd x,(⟨op,a⟩ : Entry OpAnswer)=⟨.suspendResource n rd x,.ok ()⟩ ∧
      t.suspended=set₂ s.suspended n rd true ∧ t.frozen=set₂ s.frozen n x true) ∨
    ∃n rd x,(⟨op,a⟩ : Entry OpAnswer)=⟨.resumeResource n rd x,.ok ()⟩ ∧
      t.suspended=set₂ s.suspended n rd false ∧ t.frozen=set₂ s.frozen n x false := by
  have heffect := step_effect h
  cases heffect with
  | suspend n rd x =>
    rcases h with ⟨rfl,_⟩|⟨_,ht|⟨hland,_⟩⟩
    · exact .inr (.inl ⟨n,rd,x,rfl,rfl,rfl⟩)
    · rw [ht]
      exact .inl ⟨rfl,rfl⟩
    · cases hland
  | resume n rd x =>
    rcases h with ⟨rfl,_⟩|⟨_,ht|⟨hland,_⟩⟩
    · exact .inr (.inr ⟨n,rd,x,rfl,rfl,rfl⟩)
    · rw [ht]
      exact .inl ⟨rfl,rfl⟩
    · cases hland
  | _ => exact .inl ⟨rfl,rfl⟩

theorem changes_shape {c : Change} (h : Changes s c t) : ∃now revision snapshots resources requests,
      t={s with now, revision, snapshots, resources, requests} := by
  have hsweep (u : State) (n : String) (hu : ∃revision snapshots,u={s with revision, snapshots}) :
      ∃now revision snapshots resources requests,
        u.sweep n={s with now, revision, snapshots, resources, requests} := by
    obtain ⟨revision,snapshots,rfl⟩ := hu
    obtain ⟨snapshots',hs⟩ := sweep_shape {s with revision, snapshots} n
    exact ⟨_,_,_,_,_,hs⟩
  cases c with
  | tick now =>
    obtain ⟨_,rfl⟩ := h
    exact ⟨_,_,_,_,_,rfl⟩
  | create n w =>
    obtain ⟨_,_,rfl⟩ := h
    exact ⟨_,_,_,_,_,rfl⟩
  | delete n =>
    cases h
    exact hsweep _ _ ⟨_,_,rfl⟩
  | dropFinalizers n fs =>
    obtain ⟨_,rfl⟩ := h
    exact hsweep _ _ ⟨_,_,rfl⟩
  | _ =>
    cases h
    exact ⟨_,_,_,_,_,rfl⟩

inductive Rewritten (s : State) (e : Change) (x : Snapshot) : Snapshot → Prop
  | same : Rewritten s e x x
  | deleted (he : e=.delete x.name) : Rewritten s e x {x with
      deletionTimestamp := x.deletionTimestamp.or (some s.now), resourceVersion := s.revision}
  | status (nodeStatus : List NodeStatus) (he : e=.writeStatus x.name nodeStatus) :
      Rewritten s e x {x with nodeStatus, resourceVersion := s.revision}
  | dropped (finalizers : List String) (he : e=.dropFinalizers x.name finalizers)
      (hsat : satelliteSnapshotFinalizer∈x.finalizers → satelliteSnapshotFinalizer∈finalizers) :
      Rewritten s e x {x with finalizers, resourceVersion := s.revision}

theorem get?_swept (n : String) (f : Snapshot → Snapshot) (hf : ∀x,(f x).name=x.name)
    (h : s.get? name=some x) :
    (∃y,((s.write n f hf).sweep n).get? name=some y ∧
        (y=x ∨ x.name=n ∧ y={f x with resourceVersion := s.revision})) ∨
      ((s.write n f hf).sweep n).get? name=none ∧ x.name=n ∧
        (f x).deletionTimestamp≠none ∧ (f x).finalizers=[] := by
  have hname := get?_name h
  have hwrite := get?_write s name n f hf
  rw [h,Option.map_some] at hwrite
  rcases get?_sweep (s.write n f hf) name n with hs|⟨hn,hs,u,hu,hgone,hempty⟩
  · left
    rw [hs,hwrite]
    by_cases hn : x.name=n
    · exact ⟨_,by rw [if_pos hn],.inr ⟨hn,rfl⟩⟩
    · exact ⟨_,by rw [if_neg hn],.inl rfl⟩
  · right
    have hn : x.name=n := hname.trans hn.symm
    rw [hwrite,if_pos hn] at hu
    cases hu
    exact ⟨hs,hn,hgone,hempty⟩

theorem changes_get? {e : Change} (h : Changes s e t) (hx : s.get? name=some x) :
    (∃y,t.get? name=some y ∧ Rewritten s e x y) ∨
      t.get? name=none ∧ (e=.delete x.name ∧ x.finalizers=[] ∨
        x.deletionTimestamp≠none ∧ satelliteSnapshotFinalizer∉x.finalizers) := by
  cases e with
  | tick now =>
    obtain ⟨_,rfl⟩ := h
    exact .inl ⟨x,hx,.same⟩
  | request w n =>
    cases h
    exact .inl ⟨x,hx,.same⟩
  | create n w =>
    obtain ⟨_,hn,rfl⟩ := h
    refine .inl ⟨x,?_,.same⟩
    have hne : name≠n := by
      rintro rfl
      rw [hn] at hx
      cases hx
    rw [get?_create,if_neg hne]
    exact hx
  | delete n =>
    cases h
    rcases get?_swept n (fun x => {x with
      deletionTimestamp := x.deletionTimestamp.or (some s.now)}) (fun _ => rfl) hx with
        ⟨y,hy,rfl|⟨hn,rfl⟩⟩|⟨hy,hn,_,hempty⟩
    · exact .inl ⟨y,hy,.same⟩
    · exact .inl ⟨_,hy,.deleted (by rw [hn])⟩
    · exact .inr ⟨hy,.inl ⟨by rw [hn],hempty⟩⟩
  | writeStatus n rows =>
    cases h
    have hwrite := get?_write s name n (fun x => {x with nodeStatus := rows})
      fun _ => rfl
    rw [hx,Option.map_some] at hwrite
    by_cases hn : x.name=n
    · rw [if_pos hn] at hwrite
      exact .inl ⟨_,hwrite,.status rows (by rw [hn])⟩
    · rw [if_neg hn] at hwrite
      exact .inl ⟨x,hwrite,.same⟩
  | writeResources resources =>
    cases h
    exact .inl ⟨x,hx,.same⟩
  | dropFinalizers n fs =>
    obtain ⟨hfs,rfl⟩ := h
    have hsat (hn : x.name=n) := (hfs x (by rw [← hn,get?_name hx]; exact hx)).2
    rcases get?_swept n (fun x => {x with finalizers := fs}) (fun _ => rfl) hx with
      ⟨y,hy,rfl|⟨hn,rfl⟩⟩|⟨hy,hn,hgone,hempty⟩
    · exact .inl ⟨y,hy,.same⟩
    · exact .inl ⟨_,hy,.dropped fs (by rw [hn]) (hsat hn)⟩
    · have hempty : fs=[] := hempty
      subst hempty
      exact .inr ⟨hy,.inr ⟨hgone,fun h => List.not_mem_nil (hsat hn h)⟩⟩

theorem changes_get?_none {e : Change} (h : Changes s e t) (hx : s.get? name=none) :
    t.get? name=none ∨ ∃w,e=.create name w ∧ w.Batched s ∧
      t.get? name=some (wireToCRDSnapshot name s.revision s.now w) := by
  have hswept (n : String) (f : Snapshot → Snapshot) (hf : ∀x,(f x).name=x.name) :
      ((s.write n f hf).sweep n).get? name=none := by
    have hwrite := get?_write s name n f hf
    rw [hx] at hwrite
    rcases get?_sweep (s.write n f hf) name n with hs|⟨_,hs,_⟩
    · exact hs.trans hwrite
    · exact hs
  cases e with
  | tick now =>
    obtain ⟨_,rfl⟩ := h
    exact .inl hx
  | request w n =>
    cases h
    exact .inl hx
  | create n w =>
    obtain ⟨hw,hn,rfl⟩ := h
    by_cases hne : name=n
    · subst hne
      exact .inr ⟨w,rfl,hw,by rw [get?_create,if_pos rfl]⟩
    · rw [get?_create,if_neg hne]
      exact .inl hx
  | delete n =>
    cases h
    exact .inl (hswept _ _ _)
  | writeStatus n rows =>
    cases h
    rw [get?_write,hx]
    exact .inl rfl
  | writeResources resources =>
    cases h
    exact .inl hx
  | dropFinalizers n fs =>
    obtain ⟨_,rfl⟩ := h
    exact .inl (hswept _ _ _)

theorem Rewrite.same_fields (h : Rewrite s op x y) : y.Same x := by
  cases h with
  | same => exact .refl x
  | patched p y _ h => exact p.mutate_same s.now x y h
  | finalized _ _ _ _ _ => exact .refl x

theorem Rewritten.same_fields {e : Change} (h : Rewritten s e x y) : y.Same x := by
  cases h <;> exact .refl x

theorem Rewrite.deletionTimestamp (h : Rewrite s op x y) :
    y.deletionTimestamp=x.deletionTimestamp := by
  cases h with
  | same => rfl
  | patched p y _ h =>
    obtain ⟨_,_,_,rfl⟩ := p.mutate_shape s.now x y h
    rfl
  | finalized _ _ _ _ _ => rfl

theorem Rewrite.flags (h : Rewrite s op x y) :
    y.suspendIO = x.suspendIO ∧ y.takeSnapshot=x.takeSnapshot ∨
      ∃a b,op=.patch x.name (.flip a b) ∧ y.suspendIO=a ∧ y.takeSnapshot=b := by
  cases h with
  | same => exact .inl ⟨rfl,rfl⟩
  | patched p y hop h =>
    obtain ⟨_,_,_,rfl⟩ := p.mutate_shape s.now x y h
    cases p with
    | flip a b => exact .inr ⟨a,b,hop,rfl,rfl⟩
    | _ => exact .inl ⟨rfl,rfl⟩
  | finalized _ _ _ _ _ => exact .inl ⟨rfl,rfl⟩

theorem Rewritten.flags {e : Change} (h : Rewritten s e x y) :
    y.suspendIO = x.suspendIO ∧ y.takeSnapshot=x.takeSnapshot := by
  cases h <;> exact ⟨rfl,rfl⟩

theorem may_flip {w : Worker} {m : Note} {a b : Bool} (h : may w m (.patch name (.flip a b))) :
    w=.controller ∧ ∃snap,m.Decided snap a b ∧ snap.deletionTimestamp=none ∧
      ∃x∈m.siblings,x.name=name := by
  cases w with
  | controller => exact ⟨rfl,h⟩
  | satellite node => exact h.elim

end Blockstor.Orchestration
