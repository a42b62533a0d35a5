import Blockstor.Orchestration.Schedule

namespace Blockstor.Orchestration

open Framework Pool Satellite List

def SameDisk (x y : Snapshot) : Prop :=
  x.resourceDefinitionName=y.resourceDefinitionName ∧ x.snapshotName=y.snapshotName

structure DeleteRequested (s : State) (x : Snapshot) : Prop where
  found : s.get? x.name=some x
  deleting : x.deletionTimestamp≠none
  finalizer : satelliteSnapshotFinalizer∈x.finalizers
  unique : ∀n y,s.get? n=some y → n≠x.name → ¬SameDisk y x

def afterRequest : Event → Bool
  | .other (.create _ _) => false
  | _ => true

def OnDisk (s : State) (x : Snapshot) (node : String) : Prop :=
  s.materialised node x.resourceDefinitionName x.snapshotName=true

/-- However the reconciles go, the object disappears only when the snapshot is on no disk of its
nodes any more. -/
def OutlivesDisk (s : State) (x : Snapshot) : Prop :=
  ∀es t e u,Run (guarded (fun _ e => afterRequest e=true) (Pool.Step system)) (Pool.idle s) es t →
    afterRequest e=true → Pool.Step system t e u → t.shared.get? x.name≠none →
      u.shared.get? x.name=none → ∀n∈x.nodes,¬OnDisk t.shared x n

def OnOnlyNode (s : State) (x : Snapshot) : Prop := ∀n∈x.nodes,OnDisk s x n → ∀k∈x.nodes,k=n

variable {s : State} {t u : Cluster} {e : Event} {x y : Snapshot}

/-- What a worker has fetched, and that a satellite which had its snapshot deleted has none. -/
def Deleting (s : State) (x : Snapshot) (w : Worker) (m : Note) : Prop :=
  ∀z,m.snap=some z → (z.name≠x.name → ¬SameDisk z x) ∧
    (z.name=x.name → z.Same x ∧ z.deletionTimestamp≠none ∧
      ∀n,w=.satellite n → m.did=some .deleted → ¬OnDisk s x n)

structure Doomed (s : State) (x : Snapshot) (t : Cluster) : Prop where
  object : ∀y,t.shared.get? x.name=some y → y.Same x ∧ y.deletionTimestamp≠none ∧
    (satelliteSnapshotFinalizer∈y.finalizers ∨ ∀n∈x.nodes,¬OnDisk t.shared x n)
  others : ∀n y,t.shared.get? n=some y → n≠x.name → ¬SameDisk y x
  notes : ∀w m,t.notes w=some m → Deleting t.shared x w m
  fewer : ∀n,OnDisk t.shared x n → OnDisk s x n

theorem Snapshot.Same.sameDisk (h : y.Same x) : SameDisk y x := ⟨h.2.1,h.2.2.1⟩

theorem Doomed.onDisk_of (h : NoteStep system t e u) (ht : Doomed s x t) (n : String)
    (hn : OnDisk u.shared x n) : OnDisk t.shared x n := by
  cases h with
  | start i _ _ hs _ => rwa [hs] at hn
  | stop i _ hs _ => rwa [hs] at hn
  | other c _ hc _ =>
    obtain ⟨_,_,_,_,_,hshape⟩ := changes_shape hc
    rwa [hshape] at hn
  | call w op a m _ hm hmay henv _ =>
    have heffect := step_effect henv
    generalize u.shared=v at hn heffect
    cases heffect with
    | create k rd sn vols =>
      cases w with
      | controller => exact hmay.elim
      | satellite node =>
        obtain ⟨_,_,z,⟨⟨hz,_⟩,hlive,_⟩,rfl,rfl,_,_⟩ := hmay
        have hdisk : ¬SameDisk z x :=
          (ht.notes _ m hm z hz).1 fun hname => ((ht.notes _ m hm z hz).2 hname).2.1 hlive
        rcases of_set₃ hn with ⟨_,hrd,hsn,_⟩|hn
        · exact absurd ⟨hrd.symm,hsn.symm⟩ hdisk
        · exact hn
    | delete k rd sn =>
      rcases of_set₃ hn with ⟨_,_,_,hfalse⟩|hn
      · cases hfalse
      · exact hn
    | _ => exact hn

theorem step_deleteSnapshot {s t : State} {n rd sn : String}
    (h : Step s (.deleteSnapshot n rd sn) (.ok true) t) :
    t={s with materialised := set₃ s.materialised n rd sn false} := by
  rcases h with ⟨_,ht⟩|⟨hfail,_⟩
  · exact ht
  · cases hfail true rfl

theorem Doomed.deleting (h : NoteStep system t e u) (ht : Doomed s x t) :
    ∀w m,u.notes w=some m → Deleting u.shared x w m := by
  have hdisk := fun n => ht.onDisk_of h n
  have hkeep (w : Worker) (m : Note) (hm : Deleting t.shared x w m) : Deleting u.shared x w m :=
    fun z hz => ⟨(hm z hz).1,fun hname => ⟨((hm z hz).2 hname).1,((hm z hz).2 hname).2.1,
      fun n hw hdid hn => ((hm z hz).2 hname).2.2 n hw hdid (hdisk n hn)⟩⟩
  refine h.each (fun sh w m => Deleting sh x w m) ht.notes (fun _ _ hz => by cases hz) ?_ ?_
  · intro w op a m _ hm hmay henv
    refine ⟨?_,fun j n _ hn => hkeep j n (ht.notes j n hn)⟩
    rcases next_fetched m op a with ⟨hsnap,_⟩|⟨n,z,he,hnext⟩|⟨g,items,he,hnext⟩
    · intro z hz
      rw [show ((system.protocol w).next m op a).snap=m.snap from hsnap] at hz
      obtain ⟨hother,hsame⟩ := hkeep w m (ht.notes w m hm) z hz
      refine ⟨hother,fun hname => ⟨(hsame hname).1,(hsame hname).2.1,fun k hw hdid => ?_⟩⟩
      change (m.next op a).did=some .deleted at hdid
      rcases next_did m op a with hd|⟨_,_,_,_,hd⟩|⟨_,_,_,_,hd⟩|⟨_,_,_,_,_,_,_,hd⟩|⟨n,rd,sn,he,_⟩
      · rw [hd] at hdid
        exact (hsame hname).2.2 k hw hdid
      · rw [hd] at hdid
        cases hdid
      · rw [hd] at hdid
        cases hdid
      · rw [hd] at hdid
        cases hdid
      · cases he
        subst hw
        obtain ⟨rfl,_,z',⟨hz',_⟩,_,_,rfl,rfl⟩ := hmay
        rw [hz] at hz'
        cases hz'
        rw [step_deleteSnapshot henv]
        have hz : SameDisk z x := (hsame hname).1.sameDisk
        simp [OnDisk,set₃,hz.1,hz.2]
    · cases he
      obtain ⟨_,hz⟩ := step_getSnapshot henv
      obtain rfl := may_getSnapshot hmay
      intro z' hz'
      cases hz'
      have hn := get?_name hz
      constructor
      · intro hne
        exact ht.others n z hz (hn ▸ hne)
      · intro heq
        rw [← hn,heq] at hz
        obtain ⟨hsame,hgone,_⟩ := ht.object z hz
        exact ⟨hsame,hgone,fun _ _ hdid => by cases hdid⟩
    · cases he
      obtain ⟨_,snap,rfl,_⟩ := may_listSiblings hmay
      exact hkeep w _ (ht.notes w {Note.empty with snap := some snap} hm)
  · intro c _ _ j n hn
    exact hkeep j n (ht.notes j n hn)

theorem no_disk_of_strip (honly : OnOnlyNode s x) (ht : Doomed s x t) {w : Worker} {m : Note}
    {snap : Snapshot} {fs : List String} (hm : t.notes w=some m)
    (hmay : may w m (.updateFinalizers snap fs)) (hname : snap.name=x.name)
    (hfs : satelliteSnapshotFinalizer∉fs) : ∀n∈x.nodes,¬OnDisk t.shared x n := by
  cases w with
  | controller => exact hmay.elim
  | satellite k =>
    obtain ⟨⟨hsnap,hk⟩,⟨_,_,rfl⟩|⟨_,hdid,_⟩⟩ := hmay
    · exact absurd (mem_append_right _ (mem_singleton.mpr rfl)) hfs
    · obtain ⟨hsame,_,hclean⟩ := (ht.notes _ m hm snap hsnap).2 hname
      intro n hn hdisk
      have hkn : k=n := honly n hn (ht.fewer n hdisk) k (hsame.nodes ▸ hk)
      subst hkn
      exact hclean k rfl hdid hdisk

theorem Doomed.step (honly : OnOnlyNode s x) (h : NoteStep system t e u)
    (hafter : afterRequest e=true) (ht : Doomed s x t) : Doomed s x u := by
  have hdisk := fun n => ht.onDisk_of h n
  have hnone (P : Prop) (hP : P ∨ ∀n∈x.nodes,¬OnDisk t.shared x n) :
      P ∨ ∀n∈x.nodes,¬OnDisk u.shared x n :=
    hP.imp id fun hall n hn hn' => hall n hn (hdisk n hn')
  refine ⟨fun y hy => ?_,fun n y hy hne => ?_,ht.deleting h,fun n hn => ht.fewer n (hdisk n hn)⟩
  · rcases turned_back h hy with ⟨y',hy',hturn⟩|⟨_,w,rfl,_⟩
    · obtain ⟨hsame,hgone,hfin⟩ := ht.object y' hy'
      refine ⟨hturn.same_fields.trans hsame,?_,hnone _ ?_⟩
      · cases hturn with
        | same => exact hgone
        | called w op a m y _ _ _ hr =>
          rw [hr.deletionTimestamp]
          exact hgone
        | changed c y _ hr =>
          cases hr with
          | deleted _ =>
            cases hd : y'.deletionTimestamp with
            | none => exact absurd hd hgone
            | some d => simp
          | _ => exact hgone
      · -- the finalizer is still there, or a satellite that is done took it off
        cases hturn with
        | same => exact hfin
        | called w op a m y _ hm hmay hr =>
          cases hr with
          | same => exact hfin
          | patched p z _ hp =>
            obtain ⟨_,_,_,rfl⟩ := p.mutate_shape t.shared.now y' z hp
            exact hfin
          | finalized snap fs hop hname _ =>
            subst hop
            by_cases hfs : satelliteSnapshotFinalizer∈fs
            · exact .inl hfs
            · exact .inr (no_disk_of_strip honly ht hm hmay (hname.trans (get?_name hy')) hfs)
        | changed c y _ hr =>
          cases hr with
          | dropped fs _ hsat => exact hfin.imp hsat id
          | _ => exact hfin
    · cases hafter
  · rcases turned_back h hy with ⟨y',hy',hturn⟩|⟨_,w,rfl,_⟩
    · have hsame := hturn.same_fields.sameDisk
      exact fun hd => ht.others n y' hy' hne ⟨hsame.1.symm.trans hd.1,hsame.2.symm.trans hd.2⟩
    · cases hafter

theorem doomed_idle (h : DeleteRequested s x) : Doomed s x (Pool.idle s) where
  object y hy := by
    have hy : s.get? x.name=some y := hy
    rw [h.found] at hy
    cases hy
    exact ⟨.refl x,h.deleting,.inl h.finalizer⟩
  others := h.unique
  notes _ _ hm := by cases hm
  fewer _ hn := hn

theorem outlivesDisk_of_onOnlyNode (h : DeleteRequested s x) (honly : OnOnlyNode s x) :
    OutlivesDisk s x := by
  intro es t e u hrun _ hstep hthere hgone
  obtain ⟨hfollow,ht⟩ := (Pool.following_idle s).invariant system_sound _ (Doomed s x)
    (fun _ _ _ ht hafter hstep => ht.step honly hstep hafter) (doomed_idle h) hrun
  obtain ⟨y,hy⟩ := Option.ne_none_iff_exists'.mp hthere
  have hclean : satelliteSnapshotFinalizer∉y.finalizers → ∀n∈x.nodes,¬OnDisk t.shared x n :=
    fun hfs => (ht.object y hy).2.2.resolve_left hfs
  have hnote := hfollow.noteStep e hstep
  cases hnote with
  | start i _ _ hs _ => exact absurd (hs ▸ hgone) hthere
  | stop i _ hs _ => exact absurd (hs ▸ hgone) hthere
  | call w op a m _ hm hmay henv _ =>
    rcases step_get? henv hy with ⟨z,hz,_⟩|⟨_,_,snap,rfl,hname,_⟩
    · rw [hgone] at hz
      cases hz
    · exact no_disk_of_strip honly ht hm hmay (hname.trans (get?_name hy)) not_mem_nil
  | other c _ hc _ =>
    rcases changes_get? hc hy with ⟨z,hz,_⟩|⟨_,⟨_,hempty⟩|⟨_,hfs⟩⟩
    · rw [hgone] at hz
      cases hz
    · refine hclean ?_
      rw [hempty]
      exact not_mem_nil
    · exact hclean hfs

def deleted (k : String) (x : Snapshot) (a : Except Err Bool) : Prog Result := do
  let ok ← lift a
  if !ok then pure ⟨true,0⟩
  else
    lift (← ask (.updateFinalizers x
      (x.finalizers.filter fun f => f≠satelliteSnapshotFinalizer)))
    pure .none

theorem handle_deleting {k : String} (hk : k∈x.nodes) (h : DeleteRequested s x) :
    handle k x=
      .ask (.deleteSnapshot k x.resourceDefinitionName x.snapshotName) (deleted k x) := by
  rw [handle,if_neg (by simpa using hk),if_pos h.deleting,handleDelete,
    if_neg (by simpa using h.finalizer)]
  rfl

theorem not_outlivesDisk {n k : String} (h : DeleteRequested s x) (hn : n∈x.nodes)
    (hdisk : OnDisk s x n) (hk : k∈x.nodes) (hne : k≠n) : ¬OutlivesDisk s x := by
  intro hout
  let w := Worker.satellite k
  let fs := x.finalizers.filter fun f => f≠satelliteSnapshotFinalizer
  let s₁ : State := {s with requests := Function.update s.requests w x.name}
  let s₂ : State := {s₁ with
    materialised := set₃ s.materialised k x.resourceDefinitionName x.snapshotName false}
  have hget : s₂.get? x.name=some x := h.found
  have hrequest : Step s₁ (.dequeue w) x.name s₁ := by
    refine .inl ⟨?_,rfl⟩
    exact (Function.update_self w x.name s.requests).symm
  have hfetch : Step s₁ (.getSnapshot x.name) (.ok x) s₁ := by
    refine .inl ⟨?_,rfl⟩
    change Except.ok x=found (s.get? x.name)
    rw [h.found]
    rfl
  have hdelete : Step s₁ (.deleteSnapshot k x.resourceDefinitionName x.snapshotName) (.ok true) s₂ :=
    .inl ⟨rfl,rfl⟩
  -- the satellite runs up to its last write
  let m : Note := {Note.empty with snap := some x}
  let f : Worker → Option (Thread OpAnswer Err Result Note) := fun _ => none
  let on (u : State) (p : Prog Result) (m : Note) : Cluster :=
    ⟨u,Function.update f w (some ⟨p,m⟩)⟩
  let t := on s₂ (deleted k x (.ok true)) {m with did := some .deleted}
  have h₁ : Pool.Step system (Pool.idle s) (.other (.request w x.name)) ⟨s₁,f⟩ := ⟨rfl,rfl⟩
  have h₂ : Pool.Step system ⟨s₁,f⟩ (.start w) (on s₁ (Satellite.reconcile k) .empty) := ⟨rfl,rfl⟩
  have h₃ : Pool.Step system (on s₁ (Satellite.reconcile k) .empty)
      (.call w (.dequeue w) x.name)
      (on s₁ (.ask (.getSnapshot x.name) (answered k)) .empty) :=
    step_call system s₁ s₁ f w (.dequeue w) x.name
      (fun name => .ask (.getSnapshot name) (Satellite.answered k)) .empty hrequest
  have h₄ : Pool.Step system (on s₁ (.ask (.getSnapshot x.name) (Satellite.answered k)) .empty)
      (.call w (.getSnapshot x.name) (.ok x)) (on s₁ (Satellite.handle k x) m) :=
    step_call system s₁ s₁ f w (.getSnapshot x.name) (.ok x) (Satellite.answered k) .empty
      hfetch
  have h₅ : Pool.Step system (on s₁ (Satellite.handle k x) m)
      (.call w (.deleteSnapshot k x.resourceDefinitionName x.snapshotName) (.ok true)) t := by
    rw [handle_deleting hk h]
    exact step_call system s₁ s₂ f w
      (.deleteSnapshot k x.resourceDefinitionName x.snapshotName) (.ok true) (deleted k x) m hdelete
  have hrun : ∃es,Run (guarded (fun _ e => afterRequest e=true) (Pool.Step system))
      (idle s) es t :=
    ⟨_,.cons _ _ _ _ _ ⟨rfl,h₁⟩ <| .cons _ _ _ _ _ ⟨rfl,h₂⟩ <| .cons _ _ _ _ _ ⟨rfl,h₃⟩ <|
      .cons _ _ _ _ _ ⟨rfl,h₄⟩ <| .cons _ _ _ _ _ ⟨rfl,h₅⟩ (.nil t)⟩
  obtain ⟨es,hrun⟩ := hrun
  have hstill : OnDisk s₂ x n := by
    simpa [OnDisk,s₂,set₃,hne.symm] using hdisk
  let s₃ := (s₂.write x.name (fun x => {x with finalizers := fs}) fun _ => rfl).sweep x.name
  have hwrite : (s₂.write x.name (fun x => {x with finalizers := fs}) fun _ => rfl).get? x.name=
      some {x with finalizers := fs, resourceVersion := s₂.revision} := by
    rw [get?_write,hget,Option.map_some,if_pos rfl]
  have hstrip : Step s₂ (.updateFinalizers x fs) (.ok ()) s₃ := by
    have hserve : serve s₂ (.updateFinalizers x fs)=(.ok (),s₃) := by
      simp only [serve]
      rw [hget]
      dsimp only
      rw [if_pos rfl]
    exact .inl ⟨by rw [hserve],by rw [hserve]⟩
  have hlast : Pool.Step system t (.call w (.updateFinalizers x fs) (.ok ()))
      ⟨s₃,Function.update f w (some ⟨pure .none,{m with did := some .deleted}⟩)⟩ :=
    Pool.step_call system s₂ s₃ f w (.updateFinalizers x fs) (.ok ())
      (fun a => lift a >>= fun _ => pure .none) {m with did := some .deleted} hstrip
  by_cases hempty : fs=[]
  · refine hout es t _ _ hrun rfl hlast ?_ ?_ n hn hstill
    · change s₂.get? x.name≠none
      rw [hget]
      exact Option.some_ne_none _
    · exact sweep_gone hwrite h.deleting hempty
  · -- others take off theirs
    have hkept : s₃=s₂.write x.name (fun x => {x with finalizers := fs}) fun _ => rfl :=
      sweep_kept hwrite hempty
    have hget₃ : s₃.get? x.name=some {x with finalizers := fs, resourceVersion := s₂.revision} := by
      rw [hkept]
      exact hwrite
    have hrun' := hrun.append (.cons _ _ _ _ _ ⟨rfl,hlast⟩ (.nil _))
    refine hout _ _ (.other (.dropFinalizers x.name [])) ⟨(s₃.write x.name (fun x => {x with
      finalizers := []}) fun _ => rfl).sweep x.name,_⟩ hrun' rfl ⟨⟨?_,rfl⟩,rfl⟩ ?_ ?_ n hn ?_
    · intro y hy
      change y∈s₃.get? x.name at hy
      rw [hget₃] at hy
      cases hy
      refine ⟨fun _ h => absurd h not_mem_nil,fun h => ?_⟩
      simpa [fs] using (mem_filter.mp h).2
    · change s₃.get? x.name≠none
      rw [hget₃]
      exact Option.some_ne_none _
    · refine sweep_gone (x := {x with finalizers := [], resourceVersion := s₃.revision}) ?_
        h.deleting rfl
      rw [get?_write,hget₃,Option.map_some]
      exact congrArg some (if_pos rfl)
    · change OnDisk s₃ x n
      rw [hkept]
      exact hstill

/-- The object outlives its snapshots on disk exactly where no second node shares its finalizer. -/
theorem snapshot_outlives_disk_iff (h : DeleteRequested s x) : OutlivesDisk s x ↔ OnOnlyNode s x := by
  constructor
  · intro hout n hn hdisk k hk
    by_contra hne
    exact not_outlivesDisk h hn hdisk hk hne hout
  · exact outlivesDisk_of_onOnlyNode h

variable (nodes : List String)

def takenOn : Snapshot where
  name := "ra.s"
  resourceVersion := 0
  creationTimestamp := some 0
  deletionTimestamp := some 1
  finalizers := [satelliteSnapshotFinalizer]
  adopted := ""
  adoptedCreatedAt := ""
  resourceDefinitionName := "ra"
  snapshotName := "s"
  nodes := nodes
  volumeNumbers := [0]
  suspendIO := false
  takeSnapshot := false
  groupID := ""
  groupSize := 0
  nodeStatus := nodes.map fun n => ⟨n,1,true,false,false⟩
  flags := []
  conditions := []

def deletingOn : State :=
  {State.initial with
    snapshots := ⟨[takenOn nodes],nodup_singleton _⟩
    materialised := fun n rd sn => n∈nodes ∧ rd="ra" ∧ sn="s"}

theorem deleteRequested_deletingOn : DeleteRequested (deletingOn nodes) (takenOn nodes) where
  found := rfl
  deleting := Option.some_ne_none 1
  finalizer := mem_singleton.mpr rfl
  unique n y hy hne := by
    have hmem := ((deletingOn nodes).snapshots.get?_eq_some n y).mp hy
    obtain rfl := mem_singleton.mp hmem.1
    exact absurd hmem.2.symm hne

/-- On two nodes, the satellite that is done first takes the finalizer off. -/
theorem snapshot_object_lost : DeleteRequested (deletingOn ["n","m"]) (takenOn ["n","m"]) ∧
    ¬OutlivesDisk (deletingOn ["n","m"]) (takenOn ["n","m"]) := by
  have h := deleteRequested_deletingOn ["n","m"]
  exact ⟨h,not_outlivesDisk (n := "n") (k := "m") h (by decide) (by simp [OnDisk,deletingOn,takenOn])
    (by decide) (by decide)⟩

theorem snapshot_outlives_disk_one : DeleteRequested (deletingOn ["n"]) (takenOn ["n"]) ∧
    OutlivesDisk (deletingOn ["n"]) (takenOn ["n"]) := by
  have h := deleteRequested_deletingOn ["n"]
  refine ⟨h,(snapshot_outlives_disk_iff h).mpr fun n hn _ k hk => ?_⟩
  rw [mem_singleton.mp hn,mem_singleton.mp hk]

end Blockstor.Orchestration
