import Blockstor.Storage.ProviderSpec

namespace Blockstor.Storage

open Framework Shell Function

section

variable {α : Type} {blank : α → Prop} {p q : Pool α} (vol : Volume)

def Answered (p : Pool α) (c : Cmd α) (answer : Answer c) : Prop :=
  match c,answer with
  | .lookup name,answer => answer=(p name).isSome
  | .tagged name,answer => answer=((p name).map Obj.incomplete).getD false
  | _,_ => True

variable (blank) in
def Whole (p : Pool α) (c : Cmd α) (q : Pool α) : Prop :=
  match c with
  | .receive name stream => q=p ∨ Effect blank p (.receive name stream) q
  | _ => True

variable (blank) in
def Calm (p : Pool α) (c : Cmd α) (answer : Answer c) (q : Pool α) : Prop :=
  Step blank p c answer q ∧ Answered p c answer ∧ Whole blank p c q

theorem must_may {env : Pool α → (c : Cmd α) → Answer c → Pool α → Prop} (x : Prog α Bool)
    (e : Err) (h : Exec env x p (.ok true) q) : Exec env (must x e) p (.ok ()) q :=
  exec_must_ok.mpr h

variable (provider : Provider) (src : Snapshot) (o : Obj α)

theorem restore_existing_may (hp : p (volumeName vol)=some o) :
    Exec (Step blank) (restoreVolumeFromSnapshot provider vol src) p (.ok ()) p := by
  unfold restoreVolumeFromSnapshot
  cases provider with
  | zfs thin =>
    rw [exec_lookup,hp]
    exact .inl (ensureRefreservation_ok thin)
  | lvmThin =>
    rw [exec_lookup,hp]
    exact .inl (exec_pure.mpr ⟨rfl,rfl⟩)
  | lvmThick =>
    rw [exec_lookup,hp]
    left
    refine exec_ask.mpr ⟨false,p,⟨rfl,.inr rfl⟩,?_⟩
    exact exec_pure.mpr ⟨rfl,rfl⟩

theorem restore_missing_may : Exec (Step blank) (restoreVolumeFromSnapshot provider vol src) p
      (.error (.notFound (snapshotName provider src))) p :=
  restore_notFound_runs provider vol src ⟨rfl,.inr rfl⟩ (.inl ⟨rfl,.inr rfl⟩)

variable (blank) in
theorem copyAndClearSentinel_may (srcName tgtName : String) (o u : Obj α)
    (hs : p srcName=some o) (ht : p tgtName=some u) (hsize : o.sizeMiB ≤ u.sizeMiB) :
    ∃q o',Exec (Step blank) (copyAndClearSentinel srcName tgtName) p (.ok ()) q ∧
      q tgtName=some o' ∧ o'.content=o.content := by
  let p1 := update p tgtName (some {u with content := o.content})
  let p2 := update p1 tgtName (some ⟨o.content,u.sizeMiB,false⟩)
  refine ⟨p2,⟨o.content,u.sizeMiB,false⟩,?_,update_self ..,rfl⟩
  unfold copyAndClearSentinel
  refine exec_bind_ok.mpr ⟨(),p1,?_,?_⟩
  · exact must_may _ _ (exec_run_ok.mpr (changes_true.mpr ⟨o,u,hs,ht,hsize,rfl⟩))
  · exact must_may _ _ (exec_run_ok.mpr
      (changes_true.mpr ⟨{u with content := o.content},update_self ..,rfl⟩))

theorem restore_may (hp : p (volumeName vol)=none) (hs : p (snapshotName provider src)=some o)
    (hblank : ∃content,blank content) :
    ∃q o',Exec (Step blank) (restoreVolumeFromSnapshot provider vol src) p (.ok ()) q ∧
      q (volumeName vol)=some o' ∧ o'.content=o.content := by
  let clone : Obj α := ⟨o.content,o.sizeMiB,false⟩
  let q := update p (volumeName vol) (some clone)
  have hclone : Effect blank p (.snapshot (snapshotName provider src) (volumeName vol)) q :=
    ⟨hp,o,hs,rfl⟩
  have hq : q (volumeName vol)=some clone := update_self ..
  unfold restoreVolumeFromSnapshot
  cases provider with
  | zfs thin =>
    refine ⟨q,clone,?_,hq,rfl⟩
    refine (exec_lookup_absent hp).mpr ((exec_lookup _ _ _).mpr (.inl ?_))
    rw [hs]
    refine exec_bind_ok.mpr ⟨(),q,?_,ensureRefreservation_ok thin⟩
    exact must_may _ _ (exec_run_ok.mpr (changes_true.mpr hclone))
  | lvmThin =>
    refine ⟨q,clone,?_,hq,rfl⟩
    refine (exec_lookup_absent hp).mpr ((exec_lookup _ _ _).mpr (.inl ?_))
    rw [hs]
    exact must_may _ _ (exec_run_ok.mpr (changes_true.mpr hclone))
  | lvmThick =>
    obtain ⟨content,hcontent⟩ := hblank
    let size := sizeMiBOf (1024*o.sizeMiB)
    let p1 := update p (volumeName vol) (some ⟨content,size,true⟩)
    have hne : snapshotName .lvmThick src≠volumeName vol := by
      intro he
      rw [he,hp] at hs
      cases hs
    have hs1 : p1 (snapshotName .lvmThick src)=some o :=
      (update_of_ne hne _ _).trans hs
    have hsize : o.sizeMiB ≤ size := by
      simp only [size,sizeMiBOf,mibPerKib]
      rw [Int.mul_tdiv_cancel_left _ (by decide)]
      omega
    obtain ⟨q,o',hcopy,hq',hcontent'⟩ := copyAndClearSentinel_may blank
      (snapshotName .lvmThick src) (volumeName vol) o ⟨content,size,true⟩ hs1
      (update_self ..) hsize
    refine ⟨q,o',?_,hq',hcontent'⟩
    refine (exec_lookup_absent hp).mpr ((exec_lookup _ _ _).mpr (.inl ?_))
    rw [hs]
    refine exec_ask.mpr ⟨some (1024*o.sizeMiB),p,⟨rfl,.inl (by rw [hs]; rfl)⟩,?_⟩
    refine exec_bind_ok.mpr ⟨(),p1,?_,hcopy⟩
    exact must_may _ _ (exec_run_ok.mpr (changes_true.mpr ⟨hp,content,hcontent,rfl⟩))

theorem ensureRefreservation_calm (thin : Bool) (dataset : String) :
    Exec (Calm blank) (ensureRefreservation thin dataset) p (.ok ()) p := by
  unfold ensureRefreservation
  split
  · exact exec_pure.mpr ⟨rfl,rfl⟩
  refine exec_ask.mpr ⟨some 0,p,⟨rfl,trivial,trivial⟩,?_⟩
  refine exec_ask.mpr ⟨some 0,p,⟨rfl,trivial,trivial⟩,?_⟩
  exact exec_pure.mpr ⟨rfl,rfl⟩

/-- Creating an absent volume works on a calm pool, shows any content a new volume may show and
leaves every other object as it is. -/
theorem createVolume_calm (content : α) (hblank : blank content) (hp : p (volumeName vol)=none)
    (hleft : provider=.lvmThick → p (freshLVName (volumeName vol))=none) :
    ∃q,Exec (Calm blank) (createVolume provider vol) p (.ok ()) q ∧
      q (volumeName vol)=some ⟨content,sizeMiBOf vol.sizeKib,false⟩ ∧
      ∀name,name≠volumeName vol → name≠freshLVName (volumeName vol) → q name=p name := by
  let o : Obj α := ⟨content,sizeMiBOf vol.sizeKib,false⟩
  let q := update p (volumeName vol) (some o)
  have hcreate : Effect blank p (.create (volumeName vol) (sizeMiBOf vol.sizeKib) false) q :=
    ⟨hp,content,hblank,rfl⟩
  have hq : q (volumeName vol)=some o := update_self ..
  have habsent : Calm blank p (.lookup (volumeName vol)) false p := by
    refine ⟨⟨rfl,.inr rfl⟩,?_,trivial⟩
    change false=(p (volumeName vol)).isSome
    rw [hp]
    rfl
  unfold createVolume
  cases provider with
  | zfs thin =>
    refine ⟨q,exec_ask.mpr ⟨false,p,habsent,?_⟩,hq,
      fun name hname _ => update_of_ne hname ..⟩
    refine exec_bind_ok.mpr ⟨(),q,?_,ensureRefreservation_calm thin _⟩
    refine must_may _ _ (exec_run_ok.mpr ?_)
    exact ⟨changes_true.mpr hcreate,trivial,trivial⟩
  | lvmThin =>
    refine ⟨q,exec_ask.mpr ⟨false,p,habsent,?_⟩,hq,
      fun name hname _ => update_of_ne hname ..⟩
    refine must_may _ _ (exec_run_ok.mpr ?_)
    exact ⟨changes_true.mpr hcreate,trivial,trivial⟩
  | lvmThick =>
    have hfresh := hleft rfl
    let p1 := update p (freshLVName (volumeName vol)) (some o)
    let p2 := update p1 (freshLVName (volumeName vol)) (some {o with content := content})
    let p3 := update (update p2 (freshLVName (volumeName vol)) none)
      (volumeName vol) (some {o with content := content})
    have hself : p1 (freshLVName (volumeName vol))=some o := update_self ..
    have hother : ∀name,name≠freshLVName (volumeName vol) → p2 name=p name := by
      intro name hname
      change update p1 _ _ name=_
      rw [update_of_ne hname]
      exact update_of_ne hname ..
    have habsent : p2 (volumeName vol)=none :=
      (hother _ (volumeName_ne_fresh (volumeName vol))).trans hp
    refine ⟨p3,?_,update_self ..,fun name hname hne => ?_⟩
    · refine exec_ask.mpr
        ⟨some fun name => (p name).isSome,p,⟨⟨rfl,.inl rfl⟩,trivial,trivial⟩,?_⟩
      simp only [hp,hfresh,Option.isSome_none,Bool.false_eq_true,if_false,dropLeftover]
      refine exec_bind_ok.mpr ⟨(),p,exec_pure.mpr ⟨rfl,rfl⟩,?_⟩
      refine exec_bind_ok.mpr ⟨(),p1,?_,?_⟩
      · refine must_may _ _ (exec_run_ok.mpr ?_)
        exact ⟨changes_true.mpr ⟨hfresh,content,hblank,rfl⟩,trivial,trivial⟩
      refine exec_bind_ok.mpr ⟨(),p2,?_,?_⟩
      · refine must_may _ _ (exec_run_ok.mpr ?_)
        exact ⟨changes_true.mpr ⟨o,content,hself,hblank,rfl⟩,trivial,trivial⟩
      · refine must_may _ _ (exec_run_ok.mpr ?_)
        exact ⟨changes_true.mpr ⟨habsent,_,update_self ..,rfl⟩,trivial,trivial⟩
    · change update (update p2 _ _) _ _ name=_
      rw [update_of_ne hname,update_of_ne hne]
      exact hother name hne

theorem createVolume_may (content : α) (hblank : blank content) (hp : p (volumeName vol)=none)
    (hleft : provider=.lvmThick → p (freshLVName (volumeName vol))=none) :
    ∃q o,Exec (Step blank) (createVolume provider vol) p (.ok ()) q ∧
      q (volumeName vol)=some o ∧ o.content=content := by
  obtain ⟨q,hexec,hq,_⟩ := createVolume_calm vol provider content hblank hp hleft
  exact ⟨q,_,hexec.mono fun _ _ _ _ h => h.1,hq,rfl⟩

theorem restore_existing_calm
    (hp : p (volumeName vol)=some o) (htag : provider=.lvmThick → o.incomplete=false) :
    Exec (Calm blank) (restoreVolumeFromSnapshot provider vol src) p (.ok ()) p := by
  have hlookup : Calm blank p (.lookup (volumeName vol)) true p := by
    have hthere : true=(p (volumeName vol)).isSome := by
      rw [hp]
      rfl
    exact ⟨⟨rfl,.inl hthere⟩,hthere,trivial⟩
  unfold restoreVolumeFromSnapshot
  cases provider with
  | zfs thin => exact exec_ask.mpr ⟨true,p,hlookup,ensureRefreservation_calm thin _⟩
  | lvmThin => exact exec_ask.mpr ⟨true,p,hlookup,exec_pure.mpr ⟨rfl,rfl⟩⟩
  | lvmThick =>
    have hfalse : false=((p (volumeName vol)).map Obj.incomplete).getD false := by
      rw [hp]
      exact (htag rfl).symm
    refine exec_ask.mpr ⟨true,p,hlookup,?_⟩
    refine exec_ask.mpr ⟨false,p,⟨⟨rfl,.inl hfalse⟩,hfalse,trivial⟩,?_⟩
    exact exec_pure.mpr ⟨rfl,rfl⟩

theorem recvSnapshot_may (hship : provider.isShipper=true) (stream : α)
    (hblank : ∃content,blank content) (hp : p (volumeName vol)=none) :
    ∃q o,Exec (Step blank) (recvSnapshot provider vol stream) p (.ok ()) q ∧
      q (volumeName vol)=some o ∧ o.content=stream := by
  unfold recvSnapshot
  cases provider with
  | zfs thin =>
    let o : Obj α := ⟨stream,0,false⟩
    let q := update p (volumeName vol) (some o)
    refine ⟨q,o,(exec_lookup_absent hp).mpr ?_,update_self ..,rfl⟩
    refine exec_ask.mpr ⟨true,q,changes_true.mpr ⟨0,?_⟩,ensureRefreservation_ok thin⟩
    rw [hp]
    rfl
  | lvmThin =>
    obtain ⟨content,hcontent⟩ := hblank
    let size := sizeMiBOf vol.sizeKib
    let p1 := update p (volumeName vol) (some ⟨content,size,true⟩)
    let p2 := update p1 (volumeName vol) (some ⟨stream,size,true⟩)
    let p3 := update p2 (volumeName vol) (some ⟨stream,size,false⟩)
    have hself : p1 (volumeName vol)=some ⟨content,size,true⟩ := update_self ..
    refine ⟨p3,⟨stream,size,false⟩,(exec_lookup_absent hp).mpr ?_,update_self ..,rfl⟩
    refine exec_bind_ok.mpr ⟨(),p1,?_,?_⟩
    · exact must_may _ _ (exec_run_ok.mpr (changes_true.mpr ⟨hp,content,hcontent,rfl⟩))
    unfold ddRecvAndClearSentinel
    refine exec_ask.mpr ⟨true,p2,changes_true.mpr ⟨size,?_⟩,?_⟩
    · rw [hself]
      rfl
    · exact must_may _ _ (exec_run_ok.mpr
        (changes_true.mpr ⟨⟨stream,size,true⟩,update_self ..,rfl⟩))
  | lvmThick => cases hship

end

end Blockstor.Storage
