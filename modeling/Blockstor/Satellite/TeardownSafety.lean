import Blockstor.Satellite.Teardown
import Blockstor.Storage.ProviderSpec

namespace Blockstor.Teardown

open Framework Shell Storage Function

section Tools

variable {α : Type} {fails : Faults} {p q : Pool α} {n name dataset origin : String}
  {provider : Provider}

def Told (fails : Faults) (p : Pool α) (name : String) : Prop := p name=none ∨ fails name=false

theorem toolStep_keptByProbes : KeptByProbes (ToolStep (α := α) fails) where
  lookup _ _ _ _ h := h.1.1
  tagged _ _ _ _ h := h.1.1
  status _ _ _ _ h := h.1.1
  volsize _ _ _ _ h := h.1
  refreservation _ _ _ _ h := h.1
  setRefreservation _ _ _ _ _ h := h.1

theorem toolStep_lookup (name : String) (found : Bool) :
    ToolStep fails p (.lookup name) found p ↔ found=(!fails name && (p name).isSome) := by
  constructor
  · exact fun h => h.2
  · rintro rfl
    refine ⟨⟨rfl,?_⟩,rfl⟩
    cases fails name
    · exact .inl (Bool.true_and _)
    · exact .inr rfl

def Only (p q : Pool α) : Prop := ∀n,'@' ∉n.toList → q n=p n ∨ q n=none

theorem Only.refl : Only p p := fun _ _ => .inl rfl

theorem Only.trans {u : Pool α} (h : Only p q) (h' : Only q u) : Only p u := by
  intro n hn
  rcases h' n hn with h'|h'
  · rw [h']
    exact h n hn
  · exact .inr h'

theorem Only.none (h : Only p q) (hn : '@' ∉n.toList) (hp : p n=none) : q n=none := by
  rcases h n hn with h|h
  · rw [h,hp]
  · exact h

theorem Only.told (h : Only p q) (hn : '@' ∉n.toList) (htold : Told fails p n) : Told fails q n :=
  htold.imp_left (h.none hn)

theorem removeLV_ok (h : Exec (ToolStep fails) (removeLV name) p (.ok ()) q) :
    (Told fails p name → q name=none) ∧ ∀n,q n=p n ∨ q n=none := by
  unfold removeLV at h
  obtain ⟨found,u,hlookup,h₁⟩ := exec_ask.mp h
  obtain rfl := hlookup.1.1
  have hfound : found=(!fails name && (u name).isSome) := hlookup.2
  cases found with
  | true =>
    obtain ⟨hremove,_⟩ := exec_run_ok.mp (exec_must_ok.mp h₁)
    obtain rfl := changes_true.mp hremove
    refine ⟨fun _ => update_self ..,fun n => ?_⟩
    by_cases hn : n=name
    · exact .inr (by rw [hn,update_self])
    · exact .inl (update_of_ne hn ..)
  | false =>
    obtain ⟨_,rfl⟩ := exec_pure.mp h₁
    refine ⟨fun htold => ?_,fun _ => .inl rfl⟩
    rcases htold with hnone|hfails
    · exact hnone
    · rw [hfails] at hfound
      simpa using hfound.symm

theorem removeLV_runs (fails : Faults) (p : Pool α) (name : String) : ∃q : Pool α,
    Exec (ToolStep fails) (removeLV name) p (.ok ()) q ∧ (fails name=true → q name=p name) ∧
      ∀n,n≠name → q n=p n := by
  cases hfound : (!fails name && (p name).isSome) with
  | true =>
    refine ⟨update p name none,?_,fun hfails => ?_,fun n hn => update_of_ne hn ..⟩
    · refine exec_ask.mpr ⟨true,p,(toolStep_lookup name true).mpr hfound.symm,?_⟩
      exact exec_must_ok.mpr (exec_run_ok.mpr ⟨changes_true.mpr rfl,trivial⟩)
    · rw [hfails] at hfound
      cases hfound
  | false =>
    refine ⟨p,?_,fun _ => rfl,fun _ _ => rfl⟩
    exact exec_ask.mpr ⟨false,p,(toolStep_lookup name false).mpr hfound.symm,.done _ _⟩

theorem datasetExists_ok {r : Except Storage.Err Bool}
    (h : Exec (ZfsStep fails) (Zfs.datasetExists dataset) p r q) :
    q=p ∧ r=.ok (!fails dataset && (p dataset).isSome) := by
  unfold Zfs.datasetExists at h
  obtain ⟨answer,u,⟨rfl,hanswer⟩,h₁⟩ := exec_ask.mp h
  cases hfails : fails dataset with
  | true =>
    rw [hfails,if_pos rfl] at hanswer
    subst hanswer
    obtain ⟨rfl,rfl⟩ := exec_pure.mp h₁
    exact ⟨rfl,rfl⟩
  | false =>
    rw [hfails,if_neg Bool.false_ne_true] at hanswer
    cases hp : u dataset with
    | none =>
      rw [hp] at hanswer
      cases answer with
      | none =>
        obtain ⟨rfl,rfl⟩ := exec_pure.mp h₁
        exact ⟨rfl,rfl⟩
      | some out =>
        obtain ⟨rfl,rfl⟩ := exec_pure.mp h₁
        simp [hanswer out rfl]
    | some o =>
      rw [hp] at hanswer
      obtain ⟨out,rfl,hout⟩ := hanswer
      obtain ⟨rfl,rfl⟩ := exec_pure.mp h₁
      simp [hout]

theorem datasetExists_runs (fails : Faults) (p : Pool α) (dataset : String) :
    Exec (ZfsStep fails) (Zfs.datasetExists dataset) p
      (.ok (!fails dataset && (p dataset).isSome)) p := by
  have hanswer : ∃answer : Option String,ZfsStep fails p (.list dataset) answer p := by
    cases hfails : fails dataset with
    | true => exact ⟨none,rfl,by rw [hfails,if_pos rfl]⟩
    | false =>
      cases hp : p dataset with
      | none => exact ⟨none,rfl,by rw [hfails,if_neg Bool.false_ne_true,hp]; nofun⟩
      | some o =>
        exact ⟨some "x",rfl,by rw [hfails,if_neg Bool.false_ne_true,hp]; exact ⟨"x",rfl,by decide⟩⟩
  obtain ⟨answer,hanswer⟩ := hanswer
  obtain ⟨r,q,h⟩ : ∃r q,Exec (ZfsStep fails) (Zfs.datasetExists dataset) p r q := by
    cases answer <;> exact ⟨_,_,exec_ask.mpr ⟨_,_,hanswer,.done _ _⟩⟩
  obtain ⟨rfl,rfl⟩ := datasetExists_ok h
  exact h

theorem promoteEach_only {clones : List String} {r : Except Storage.Err Unit}
    (h : Exec (ZfsStep fails) (Zfs.promoteEach clones) p r q) : Only p q := by
  induction clones generalizing p with
  | nil =>
    obtain ⟨_,rfl⟩ := exec_pure.mp h
    exact .refl
  | cons clone clones ih =>
    unfold Zfs.promoteEach at h
    obtain ⟨answer,u,hu,h₁⟩ := exec_ask.mp h
    have hpu : Only p u := fun n hn => .inl (hu n hn)
    cases answer with
    | true => exact hpu.trans (ih h₁)
    | false =>
      obtain ⟨_,rfl⟩ := exec_throw.mp h₁
      exact hpu

theorem promoteDependentClones_only
    (h : Exec (ZfsStep fails) (Zfs.promoteDependentClones dataset) p (.ok ()) q) : Only p q := by
  obtain ⟨clones,u,hclones,hpromote⟩ := exec_bind_ok.mp h
  unfold Zfs.dependentClones at hclones
  obtain ⟨answer,v,hv,hdone⟩ := exec_ask.mp hclones
  obtain rfl : v=p := hv
  have huv : u=v := by
    cases answer <;> exact (exec_pure.mp hdone).2
  rw [huv] at hpromote
  exact promoteEach_only hpromote

theorem volumeOrigin_pool
    (h : Exec (ZfsStep fails) (Zfs.volumeOrigin dataset) p (.ok origin) q) : q=p := by
  unfold Zfs.volumeOrigin at h
  obtain ⟨answer,u,hu,hdone⟩ := exec_ask.mp h
  obtain rfl : u=p := hu
  cases answer <;> exact (exec_pure.mp hdone).2

theorem sweepOrigin_only
    (h : Exec (ZfsStep fails) (Zfs.sweepOrigin origin) p (.ok ()) q) : ∀n,q n=p n ∨ q n=none := by
  unfold Zfs.sweepOrigin at h
  split at h
  · obtain ⟨_,u,hu,hdone⟩ := exec_ask.mp h
    obtain ⟨_,rfl⟩ := exec_pure.mp hdone
    exact hu.2
  · obtain ⟨_,rfl⟩ := exec_pure.mp h
    exact fun _ => .inl rfl

theorem zfs_deleteVolume_ok {vol : Volume}
    (h : Exec (ZfsStep fails) (Zfs.deleteVolume vol) p (.ok ()) q) :
    (Told fails p (volumeName vol) → q (volumeName vol)=none) ∧ Only p q := by
  unfold Zfs.deleteVolume at h
  obtain ⟨found,u,hfound,h₁⟩ := exec_bind_ok.mp h
  obtain ⟨rfl,hr⟩ := datasetExists_ok hfound
  injection hr with hr
  cases found with
  | true =>
    obtain ⟨origin,v,horigin,h₂⟩ := exec_bind_ok.mp h₁
    obtain rfl := volumeOrigin_pool horigin
    obtain ⟨⟨⟩,w,hpromote,h₃⟩ := exec_bind_ok.mp h₂
    obtain ⟨answer,x,hdestroy,h₄⟩ := exec_ask.mp h₃
    cases answer with
    | ok =>
      have hsweep := sweepOrigin_only h₄
      refine ⟨fun _ => ?_,?_⟩
      · rcases hsweep (volumeName vol) with hkept|hgone
        · rw [hkept]
          exact hdestroy.1 rfl
        · exact hgone
      · exact (promoteDependentClones_only hpromote).trans
          (Only.trans (fun n _ => hdestroy.2 n) fun n _ => hsweep n)
    | dependentClones => cases (exec_throw.mp h₄).1
    | failed => cases (exec_throw.mp h₄).1
  | false =>
    obtain ⟨_,rfl⟩ := exec_pure.mp h₁
    refine ⟨fun htold => ?_,.refl⟩
    rcases htold with hnone|hfails
    · exact hnone
    · rw [hfails] at hr
      simpa using hr.symm

theorem zfs_deleteVolume_runs (fails : Faults) (p : Pool α) (vol : Volume) : ∃q : Pool α,
    Exec (ZfsStep fails) (Zfs.deleteVolume vol) p (.ok ()) q ∧
      (fails (volumeName vol)=true → q (volumeName vol)=p (volumeName vol)) ∧
      ∀n,n≠volumeName vol → q n=p n := by
  have hexists := datasetExists_runs fails p (volumeName vol)
  cases hfound : (!fails (volumeName vol) && (p (volumeName vol)).isSome) with
  | true =>
    rw [hfound] at hexists
    have hgone : ZfsStep fails p (.destroy true (volumeName vol)) .ok
        (update p (volumeName vol) none) := by
      refine ⟨fun _ => update_self ..,fun n => ?_⟩
      by_cases hn : n=volumeName vol
      · exact .inr (by rw [hn,update_self])
      · exact .inl (update_of_ne hn ..)
    refine ⟨update p (volumeName vol) none,?_,fun hfails => ?_,
      fun n hn => update_of_ne hn ..⟩
    · refine exec_bind_ok.mpr ⟨true,p,hexists,?_⟩
      refine exec_bind_ok.mpr ⟨"",p,exec_ask.mpr ⟨none,p,rfl,.done _ _⟩,?_⟩
      refine exec_bind_ok.mpr ⟨(),p,exec_ask.mpr ⟨none,p,rfl,.done _ _⟩,?_⟩
      exact exec_ask.mpr ⟨.ok,_,hgone,.done _ _⟩
    · rw [hfails] at hfound
      cases hfound
  | false =>
    rw [hfound] at hexists
    exact ⟨p,exec_bind_ok.mpr ⟨false,p,hexists,.done _ _⟩,fun _ => rfl,fun _ _ => rfl⟩

theorem zfs_deleteSnapshot_ok {now : Int} {snap : Snapshot}
    (h : Exec (ZfsStep fails) (Zfs.deleteSnapshot now snap) p (.ok ()) q)
    (htold : Told fails p (snapshotName (.zfs true) snap)) :
    q (snapshotName (.zfs true) snap)=none := by
  unfold Zfs.deleteSnapshot at h
  obtain ⟨found,u,hfound,h₁⟩ := exec_bind_ok.mp h
  obtain ⟨rfl,hr⟩ := datasetExists_ok hfound
  injection hr with hr
  cases found with
  | true =>
    obtain ⟨answer,v,hdestroy,h₂⟩ := exec_ask.mp h₁
    cases answer with
    | ok =>
      obtain ⟨_,rfl⟩ := exec_pure.mp h₂
      exact hdestroy.1 rfl
    | failed => cases (exec_throw.mp h₂).1
    | dependentClones =>
      obtain ⟨renamed,w,hrename,h₃⟩ := exec_ask.mp h₂
      cases renamed with
      | true =>
        obtain ⟨_,rfl⟩ := exec_pure.mp h₃
        exact hrename.1 rfl
      | false => cases (exec_throw.mp h₃).1
  | false =>
    obtain ⟨_,rfl⟩ := exec_pure.mp h₁
    rcases htold with hnone|hfails
    · exact hnone
    · rw [hfails] at hr
      simpa using hr.symm

theorem volumeDeleted_ok {vol : Volume} (h : VolumeDeleted fails provider vol p (.ok ()) q) :
    (Told fails p (volumeName vol) → q (volumeName vol)=none) ∧ Only p q := by
  cases provider with
  | zfs thin => exact zfs_deleteVolume_ok h
  | lvmThin =>
    obtain ⟨hgone,hkept⟩ := removeLV_ok h
    exact ⟨hgone,fun n _ => hkept n⟩
  | lvmThick =>
    obtain ⟨⟨⟩,u,hfinal,hfresh⟩ := exec_bind_ok.mp h
    obtain ⟨hgone,hkept⟩ := removeLV_ok hfinal
    have hkept' := (removeLV_ok hfresh).2
    refine ⟨fun htold => ?_,Only.trans (fun n _ => hkept n) fun n _ => hkept' n⟩
    rcases hkept' (volumeName vol) with h'|h'
    · rw [h']
      exact hgone htold
    · exact h'

/-- The deletion of a volume can work; a volume whose probe fails stays, and so does every name that
the volume does not use. -/
theorem volumeDeleted_runs (fails : Faults) (p : Pool α) (provider : Provider) (vol : Volume) : ∃q : Pool α,
    VolumeDeleted fails provider vol p (.ok ()) q ∧
      (fails (volumeName vol)=true → q (volumeName vol)=p (volumeName vol)) ∧
      ∀n,n≠volumeName vol → n≠freshLVName (volumeName vol) → q n=p n := by
  cases provider with
  | zfs thin =>
    obtain ⟨q,hq,hstays,hkept⟩ := zfs_deleteVolume_runs fails p vol
    exact ⟨q,hq,hstays,fun n hn _ => hkept n hn⟩
  | lvmThin =>
    obtain ⟨q,hq,hstays,hkept⟩ := removeLV_runs fails p (volumeName vol)
    exact ⟨q,hq,hstays,fun n hn _ => hkept n hn⟩
  | lvmThick =>
    obtain ⟨u,hu,hstays,hkept⟩ := removeLV_runs fails p (volumeName vol)
    obtain ⟨q,hq,_,hkept'⟩ :=
      removeLV_runs fails u (freshLVName (volumeName vol))
    refine ⟨q,exec_bind_ok.mpr ⟨(),u,hu,hq⟩,fun hfails => ?_,fun n hn hfresh => ?_⟩
    · rw [hkept' _ (volumeName_ne_fresh _)]
      exact hstays hfails
    · rw [hkept' n hfresh,hkept n hn]

theorem snapshotDeleted_ok {now : Int} {snap : Snapshot}
    (h : SnapshotDeleted fails provider now snap p (.ok ()) q)
    (htold : Told fails p (snapshotName provider snap)) : q (snapshotName provider snap)=none := by
  cases provider with
  | zfs thin => exact zfs_deleteSnapshot_ok h htold
  | lvmThin => exact (removeLV_ok h).1 htold
  | lvmThick => exact (removeLV_ok h).1 htold

theorem snapshotDeleted_runs (provider : Provider) (now : Int) (snap : Snapshot)
    (hfails : fails (snapshotName provider snap)=true) : ∃q : Pool α,
    SnapshotDeleted fails provider now snap p (.ok ()) q ∧
      q (snapshotName provider snap)=p (snapshotName provider snap) := by
  cases provider with
  | zfs thin =>
    have hexists := datasetExists_runs fails p (snapshotName (.zfs thin) snap)
    rw [hfails] at hexists
    exact ⟨p,exec_bind_ok.mpr ⟨false,p,hexists,.done _ _⟩,rfl⟩
  | lvmThin =>
    obtain ⟨q,hq,hstays,_⟩ := removeLV_runs fails p (snapshotLVName snap)
    exact ⟨q,hq,hstays hfails⟩
  | lvmThick =>
    obtain ⟨q,hq,hstays,_⟩ := removeLV_runs fails p (snapshotLVName snap)
    exact ⟨q,hq,hstays hfails⟩

end Tools

section Resource

variable {α : Type} {fails : Faults} {p q : Pool α} {cfg : Config} {req : DeleteResourceRequest}

def DeleteResourceRequest.volume (req : DeleteResourceRequest) (n : Int32) : Volume :=
  ⟨req.name,n.toInt,0⟩

theorem volumeName_not_mem (req : DeleteResourceRequest) (n : Int32) :
    '@' ∉(volumeName (req.volume n)).toList := by
  have hdigits := not_mem_fiveDigits n.toInt (c := '@') (by decide) (by decide)
  have hname := req.valid
  simp only [volumeName,DeleteResourceRequest.volume,String.toList_append,List.mem_append,not_or]
  exact ⟨⟨hname,by decide⟩,hdigits⟩

theorem takeDown_stays {resource : String} : Stays (Step (α := α) fails) (takeDown cfg resource) := by
  unfold takeDown
  split
  · refine (stays_call _ fun _ _ _ h => h).bind fun _ => (stays_call _ fun _ _ _ h => h).bind ?_
    rintro (_|_)
    · exact (stays_call _ fun _ _ _ h => h).bind fun _ => stays_pure _
    · exact stays_pure _
  · exact stays_pure _

theorem closeMappers_stays : Stays (Step (α := α) fails) (closeMappers cfg req) := by
  have hclose (numbers : List Int32) : Stays (Step (α := α) fails) (closeEach req.name numbers) := by
    induction numbers with
    | nil => exact stays_pure _
    | cons n numbers ih => exact (stays_call _ fun _ _ _ h => h).bind fun _ => ih
  unfold closeMappers
  split
  · exact hclose _
  · exact stays_pure _

theorem forgetState_stays (resource : String) :
    Stays (Step (α := α) fails) (forgetState cfg resource) := by
  have hfiles (suffixes : List String) :
      Stays (Step (α := α) fails) (removeFiles cfg.stateDir resource suffixes) := by
    induction suffixes with
    | nil => exact stays_pure _
    | cons suffix suffixes ih =>
      refine (stays_call _ fun _ _ _ h => h).bind ?_
      rintro (_|_)
      · exact stays_pure _
      · exact ih
  unfold forgetState
  split
  · exact stays_pure _
  · refine (hfiles _).bind ?_
    rintro (_|_)
    · exact stays_pure _
    · exact stays_call _ fun _ _ _ h => h

theorem takeDown_runs {resource : String} :
    Exec (Step fails) (takeDown cfg resource) p (.ok ()) p := by
  unfold takeDown
  split
  · exact exec_ask.mpr ⟨true,p,rfl,exec_ask.mpr ⟨true,p,rfl,.done _ _⟩⟩
  · exact .done _ _

theorem closeMappers_runs : Exec (Step fails) (closeMappers cfg req) p (.ok ()) p := by
  have hclose (numbers : List Int32) :
      Exec (Step fails) (closeEach req.name numbers) p (.ok ()) p := by
    induction numbers with
    | nil => exact .done _ _
    | cons n numbers ih => exact exec_ask.mpr ⟨true,p,rfl,ih⟩
  unfold closeMappers
  split
  · exact hclose _
  · exact .done _ _

theorem forgetState_runs (resource : String) :
    Exec (Step fails) (forgetState cfg resource) p (.ok true) p := by
  have hfiles (suffixes : List String) :
      Exec (Step fails) (removeFiles cfg.stateDir resource suffixes) p (.ok true) p := by
    induction suffixes with
    | nil => exact .done _ _
    | cons suffix suffixes ih => exact exec_ask.mpr ⟨true,p,rfl,ih⟩
  unfold forgetState
  split
  · exact .done _ _
  · exact exec_bind_ok.mpr ⟨true,p,hfiles _,exec_ask.mpr ⟨true,p,rfl,.done _ _⟩⟩

theorem deleteResource_ok (cfg : Config) (req : DeleteResourceRequest) :
    Exec (Step fails) (deleteResource cfg req) p (.ok ⟨true⟩) q ↔
      Exec (Step fails) (deleteStorage cfg req) p (.ok true) q := by
  constructor
  · intro h
    obtain ⟨_,u,hdown,h₁⟩ := exec_bind_ok.mp h
    obtain rfl := takeDown_stays _ _ _ hdown
    obtain ⟨_,v,hclose,h₂⟩ := exec_bind_ok.mp h₁
    obtain rfl := closeMappers_stays _ _ _ hclose
    obtain ⟨deleted,w,hstorage,h₃⟩ := exec_bind_ok.mp h₂
    cases deleted with
    | false => cases (exec_pure.mp h₃).1
    | true =>
      obtain ⟨forgotten,x,hforget,h₄⟩ := exec_bind_ok.mp h₃
      obtain rfl := forgetState_stays _ _ _ _ hforget
      cases forgotten with
      | false => cases (exec_pure.mp h₄).1
      | true =>
        obtain ⟨_,rfl⟩ := exec_pure.mp h₄
        exact hstorage
  · intro h
    refine exec_bind_ok.mpr ⟨(),p,takeDown_runs,?_⟩
    refine exec_bind_ok.mpr ⟨(),p,closeMappers_runs,?_⟩
    refine exec_bind_ok.mpr ⟨true,q,h,?_⟩
    exact exec_bind_ok.mpr ⟨true,q,forgetState_runs _,.done _ _⟩

theorem deleteVolumes_ok {provider : Provider} {numbers : List Int32}
    (h : Exec (Step fails) (deleteVolumes provider req.name numbers) p (.ok true) q)
    (htold : ∀n∈numbers,Told fails p (volumeName (req.volume n))) :
    Only p q ∧ ∀n∈numbers,q (volumeName (req.volume n))=none := by
  induction numbers generalizing p with
  | nil =>
    obtain ⟨_,rfl⟩ := exec_pure.mp h
    exact ⟨.refl,nofun⟩
  | cons n numbers ih =>
    obtain ⟨answer,u,hu,h₁⟩ := exec_ask.mp h
    cases answer with
    | error _ => cases (exec_pure.mp h₁).1
    | ok _ =>
      obtain ⟨hgone,honly⟩ := volumeDeleted_ok hu
      have htold' (m : Int32) (hm : m∈numbers) : Told fails u (volumeName (req.volume m)) :=
        honly.told (volumeName_not_mem req m) (htold m (List.mem_cons_of_mem _ hm))
      obtain ⟨honly',hgone'⟩ := ih h₁ htold'
      refine ⟨honly.trans honly',fun m hm => ?_⟩
      rcases List.mem_cons.mp hm with rfl|hm
      · exact honly'.none (volumeName_not_mem req m) (hgone (htold m List.mem_cons_self))
      · exact hgone' m hm

theorem deleteVolumes_runs (provider : Provider) (numbers : List Int32) (n : Int32)
    (hfails : fails (volumeName (req.volume n))=true) : ∃q : Pool α,
    Exec (Step fails) (deleteVolumes provider req.name numbers) p (.ok true) q ∧
      q (volumeName (req.volume n))=p (volumeName (req.volume n)) := by
  induction numbers generalizing p with
  | nil => exact ⟨p,.done _ _,rfl⟩
  | cons m numbers ih =>
    obtain ⟨u,hu,hstays,hkept⟩ := volumeDeleted_runs fails p provider (req.volume m)
    obtain ⟨q,hq,hqn⟩ := ih (p := u)
    refine ⟨q,exec_ask.mpr ⟨.ok (),u,hu,hq⟩,hqn.trans ?_⟩
    by_cases hmn : n=m
    · rw [hmn] at hfails ⊢
      exact hstays hfails
    · have hne : n.toInt≠m.toInt := fun h => hmn (Int32.toInt_inj.mp h)
      exact hkept _ (volumeName_ne hne).1 (volumeName_ne hne).2

end Resource

inductive Call
  | deleteVolume (provider : Provider) (vol : Volume)
  | deleteSnapshot (provider : Provider) (now : Int) (snap : Snapshot)
  | deleteResource (cfg : Config) (req : DeleteResourceRequest)
  | restore (provider : Provider) (target : Volume) (source : Snapshot)

section Calls

variable {α : Type}

/-- What is reported as deleted is gone afterwards, and a snapshot reported as missing is missing,
whatever the commands answer. -/
def Call.Honest (fails : Faults) (p : Pool α) : Call → Prop
  | .deleteVolume provider vol =>
      ∀q,VolumeDeleted fails provider vol p (.ok ()) q → q (volumeName vol)=none
  | .deleteSnapshot provider now snap =>
      ∀q,SnapshotDeleted fails provider now snap p (.ok ()) q → q (snapshotName provider snap)=none
  | .deleteResource cfg req =>
      ∀q,Exec (Step fails) (Teardown.deleteResource cfg req) p (.ok ⟨true⟩) q →
        ∀n∈req.volumeNumbers,q (volumeName (req.volume n))=none
  | .restore provider target source =>
      ∀name q,Exec (ToolStep fails) (restoreVolumeFromSnapshot provider target source) p
        (.error (.notFound name)) q → p (snapshotName provider source)=none

/-- The probes that decide the call are right. A restore does not look for its source while the target
is there, unless the target is an unfinished thick volume. -/
def Call.Told (fails : Faults) (p : Pool α) : Call → Prop
  | .deleteVolume _ vol => Teardown.Told fails p (volumeName vol)
  | .deleteSnapshot provider _ snap => Teardown.Told fails p (snapshotName provider snap)
  | .deleteResource cfg req => ∀n∈req.volumeNumbers,p (volumeName (req.volume n))=none ∨
      (cfg.providers req.storagePool).isSome ∧ fails (volumeName (req.volume n))=false
  | .restore provider target source => Teardown.Told fails p (snapshotName provider source) ∨
      fails (volumeName target)=false ∧ ∃o,p (volumeName target)=some o ∧
        (provider=.lvmThick → o.incomplete=false)

variable {fails : Faults} {p : Pool α}

theorem exists_of_not_told {name : String} (h : ¬Teardown.Told fails p name) :
    p name≠none ∧ fails name=true := by
  unfold Teardown.Told at h
  push Not at h
  exact ⟨h.1,Bool.not_eq_false _ |>.mp h.2⟩

variable (provider : Provider)

theorem honest_deleteVolume (vol : Volume) :
    (Call.deleteVolume provider vol).Honest fails p ↔ (Call.deleteVolume provider vol).Told fails p := by
  constructor
  · intro h
    by_contra hnot
    obtain ⟨hexists,hfails⟩ := exists_of_not_told hnot
    obtain ⟨q,hq,hstays,_⟩ := volumeDeleted_runs fails p provider vol
    exact hexists ((hstays hfails).symm.trans (h q hq))
  · exact fun htold q hq => (volumeDeleted_ok hq).1 htold

theorem honest_deleteSnapshot (now : Int) (snap : Snapshot) :
    (Call.deleteSnapshot provider now snap).Honest fails p ↔
      (Call.deleteSnapshot provider now snap).Told fails p := by
  constructor
  · intro h
    by_contra hnot
    obtain ⟨hexists,hfails⟩ := exists_of_not_told hnot
    obtain ⟨q,hq,hstays⟩ := snapshotDeleted_runs (p := p) provider now snap hfails
    exact hexists (hstays.symm.trans (h q hq))
  · exact fun htold q hq => snapshotDeleted_ok hq htold

theorem honest_deleteResource (cfg : Config) (req : DeleteResourceRequest) :
    (Call.deleteResource cfg req).Honest fails p ↔ (Call.deleteResource cfg req).Told fails p := by
  constructor
  · intro h n hn
    cases hprovider : cfg.providers req.storagePool with
    | none =>
      -- Nothing is deleted, and the response is the same.
      refine .inl (h p ((deleteResource_ok cfg req).mpr ?_) n hn)
      unfold deleteStorage
      rw [hprovider]
      exact .done _ _
    | some provider =>
      by_contra hnot
      push Not at hnot
      obtain ⟨hexists,hfails⟩ := hnot
      obtain ⟨q,hq,hstays⟩ := deleteVolumes_runs (p := p) provider req.volumeNumbers n
        (Bool.not_eq_false _ |>.mp (hfails rfl))
      refine hexists (hstays.symm.trans (h q ((deleteResource_ok cfg req).mpr ?_) n hn))
      unfold deleteStorage
      rw [hprovider]
      exact hq
  · intro htold q hq n hn
    have hstorage := (deleteResource_ok cfg req).mp hq
    unfold deleteStorage at hstorage
    cases hprovider : cfg.providers req.storagePool with
    | none =>
      rw [hprovider] at hstorage
      obtain ⟨_,rfl⟩ := exec_pure.mp hstorage
      rcases htold n hn with hnone|⟨hsome,_⟩
      · exact hnone
      · rw [hprovider] at hsome
        cases hsome
    | some provider =>
      rw [hprovider] at hstorage
      exact (deleteVolumes_ok hstorage fun m hm => (htold m hm).imp_right And.right).2 n hn

theorem honest_restore (target : Volume) (source : Snapshot) :
    (Call.restore provider target source).Honest fails p ↔
      (Call.restore provider target source).Told fails p := by
  constructor
  · intro h
    by_contra hnot
    unfold Call.Told at hnot
    push Not at hnot
    obtain ⟨hsource,htarget⟩ := hnot
    obtain ⟨hexists,hfails⟩ := exists_of_not_told hsource
    have hmissed : ToolStep fails p (.lookup (snapshotName provider source)) false p :=
      (toolStep_lookup _ _).mpr (by rw [hfails]; rfl)
    refine hexists (h _ _ (restore_notFound_runs provider target source hmissed ?_))
    cases hfound : (!fails (volumeName target) && (p (volumeName target)).isSome) with
    | false => exact .inl ((toolStep_lookup _ _).mpr hfound.symm)
    | true =>
      rw [Bool.and_eq_true,Bool.not_eq_true',Option.isSome_iff_exists] at hfound
      obtain ⟨htold,o,ho⟩ := hfound
      obtain ⟨hthick,htag⟩ := htarget htold o ho
      refine .inr ⟨hthick,(toolStep_lookup _ _).mpr (by rw [htold,ho]; rfl),⟨rfl,.inl ?_⟩,trivial⟩
      rw [ho]
      exact (Bool.not_eq_false _ |>.mp htag).symm
  · intro htold name q hq
    obtain ⟨_,hsource,htarget⟩ :=
      restore_notFound_of toolStep_keptByProbes provider target source name hq
    have hmissed := (toolStep_lookup _ _).mp hsource
    rcases htold with (hnone|hfails)|⟨hfails,o,ho,htag⟩
    · exact hnone
    · rw [hfails] at hmissed
      simpa using hmissed.symm
    · -- The target is there and finished, so the source was not looked for.
      rcases htarget with htarget|⟨hthick,_,hincomplete⟩
      · have hfound := (toolStep_lookup _ _).mp htarget
        rw [hfails,ho] at hfound
        cases hfound
      · rcases hincomplete.1.2 with htagged|htagged
        · rw [ho] at htagged
          exact absurd htagged.symm (by simp [htag hthick])
        · cases htagged

/-- A call is honest exactly when the probes that decide it are right. -/
theorem Call.honest_iff (fails : Faults) (p : Pool α) (call : Call) :
    call.Honest fails p ↔ call.Told fails p := by
  cases call with
  | deleteVolume provider vol => exact honest_deleteVolume provider vol
  | deleteSnapshot provider now snap => exact honest_deleteSnapshot provider now snap
  | deleteResource cfg req => exact honest_deleteResource cfg req
  | restore provider target source => exact honest_restore provider target source

end Calls

/-- With `lvs` failing, the deletion of a volume that is there reports success and keeps it. -/
theorem deleted_volume_stays : ¬(Call.deleteVolume .lvmThin ⟨"pvc",0,0⟩).Honest
    (fun _ => true) (fun _ => some (⟨(),1,false⟩ : Obj Unit)) := by
  intro h
  have hrun : VolumeDeleted (fun _ => true) .lvmThin ⟨"pvc",0,0⟩
      (fun _ => some (⟨(),1,false⟩ : Obj Unit)) (.ok ()) fun _ => some ⟨(),1,false⟩ :=
    exec_ask.mpr ⟨false,_,(toolStep_lookup _ _).mpr rfl,.done _ _⟩
  cases h _ hrun

end Blockstor.Teardown
