import Blockstor.Satellite.Provision
import Blockstor.Storage.ProviderSpec
import Blockstor.Storage.LvmNames

namespace Blockstor.Provision

open Framework Shell Satellite Function

def roundedKib (sizeKib : Int) : Int := 1024*Storage.sizeMiBOf sizeKib

theorem le_roundedKib_iff {sizeKib : Int} (h : 4096 ≤ sizeKib) :
    sizeKib ≤ roundedKib sizeKib ↔ 1024∣sizeKib := by
  have hdiv : sizeKib.tdiv 1024=sizeKib/1024 := Int.tdiv_eq_ediv_of_nonneg (by omega)
  have hmax : max (sizeKib/1024) 1=sizeKib/1024 := by omega
  rw [roundedKib,Storage.sizeMiBOf,Storage.mibPerKib,hdiv,hmax]
  omega

/-- What making a volume may do to a pool: the volume is there afterwards, with its size if it was
there before, and nothing else has changed but its temporary name. -/
structure Provisioned (name : String) (p q : Sizes) : Prop where
  exists_size : ∃e,q name=some e
  kept : ∀e,p name=some e → q name=some e
  frame : ∀n,n≠name → n≠Storage.freshLVName name → q n=p n

theorem Provisioned.refl {name : String} {p : Sizes} {e : KiB} (h : p name=some e) :
    Provisioned name p p :=
  ⟨⟨e,h⟩,fun _ h => h,fun _ _ _ => rfl⟩

theorem Provisioned.update {name : String} {p : Sizes} (h : p name=none) (e : KiB) :
    Provisioned name p (update p name (some e)) := by
  refine ⟨⟨e,update_self ..⟩,fun e' h' => ?_,fun n hn _ => update_of_ne hn ..⟩
  rw [h] at h'
  cases h'

section Provider

variable {p q : Sizes} {provider : Storage.Provider} {r : Except Storage.Err Unit}
  {dataset name fresh origin srcName tgtName : String} {vol target : Storage.Volume}
  {e : Storage.Err} {sizeKib sizeMiB : Int} {thin tagged leftover : Bool}
  {x : Storage.Prog KiB Bool}

theorem sizeStep_keptByProbes : Storage.KeptByProbes SizeStep where
  lookup _ _ _ _ h := h.1
  tagged _ _ _ _ h := h
  status _ _ _ _ h := h.1
  volsize _ _ _ _ h := h
  refreservation _ _ _ _ h := h
  setRefreservation _ _ _ _ _ h := h

theorem refreservation_sizes
    (h : Exec SizeStep (Storage.ensureRefreservation thin dataset) p r q) : q=p :=
  (Storage.ensureRefreservation_ended sizeStep_keptByProbes h).1

theorem exec_lookup {β : Type} {f : Bool → Storage.Prog KiB β}
    {r : Except Storage.Err β} (h : Exec SizeStep (Storage.run (.lookup name) >>= f) p r q) :
    Exec SizeStep (f (p name).isSome) p r q := by
  obtain ⟨found,p₁,⟨rfl,rfl⟩,h⟩ := exec_ask.mp h
  exact h

def Rounded (name : String) (sizeKib : Int) (p q : Sizes) : Prop :=
  p name=none → ∀e,q name=some e → e.val=roundedKib sizeKib

theorem Rounded.refl : Rounded name sizeKib p p := by
  intro hnone e he
  rw [hnone] at he
  cases he

theorem Rounded.update {p' : Sizes} {e : KiB} (he : e.val=1024*Storage.sizeMiBOf sizeKib) :
    Rounded name sizeKib p (update p' name (some e)) := by
  intro _ e' he'
  rw [update_self] at he'
  cases he'
  exact he

theorem must_create
    (h : Exec SizeStep (Storage.must (Storage.run (.create name sizeMiB tagged)) e) p r q) :
    (p name=none ∧ ∃e : KiB,e.val=1024*sizeMiB ∧ q=update p name (some e)) ∨
      r≠.ok () ∧ q=p := by
  rcases Storage.must_cases (fun _ _ => exec_call.mp) h with ⟨_,h|⟨h,_⟩⟩|⟨rfl,h|⟨_,rfl⟩⟩
  · exact .inl h
  · cases h
  · exact .inl h
  · exact .inr ⟨nofun,rfl⟩

theorem Rounded.absent (h : q name=none) : Rounded name sizeKib p q := by
  intro _ e he
  rw [h] at he
  cases he

theorem Provisioned.renamed {p p₁ : Sizes} (hnone : p name=none)
    (hp₁ : ∀n,n≠Storage.freshLVName name → p₁ n=p n) (e : KiB) : Provisioned name p
      (Function.update (Function.update (Function.update p₁ (Storage.freshLVName name) (some e))
        (Storage.freshLVName name) none) name (some e)) := by
  refine ⟨⟨e,update_self ..⟩,fun e' h => ?_,fun n hn hfresh => ?_⟩
  · rw [hnone] at h
    cases h
  · rw [update_of_ne hn,update_of_ne hfresh,update_of_ne hfresh]
    exact hp₁ n hfresh

theorem dropLeftover_sizes (h : Exec SizeStep (Storage.dropLeftover leftover fresh) p r q) :
    ∀n,n≠fresh → q n=p n := by
  unfold Storage.dropLeftover at h
  split at h
  · rcases Storage.must_cases (fun _ _ => exec_call.mp) h with ⟨_,rfl|⟨h,_⟩⟩|⟨rfl,rfl|⟨_,rfl⟩⟩
    · exact fun n hn => update_of_ne hn ..
    · cases h
    · exact fun n hn => update_of_ne hn ..
    · exact fun _ _ => rfl
  · obtain ⟨_,rfl⟩ := exec_pure.mp h
    exact fun _ _ => rfl

theorem createFresh_sizes (hnone : p (Storage.volumeName vol)=none) (h : Exec SizeStep (do
      Storage.dropLeftover leftover (Storage.freshLVName (Storage.volumeName vol))
      Storage.must (Storage.run (.create (Storage.freshLVName (Storage.volumeName vol))
        (Storage.sizeMiBOf vol.sizeKib) false))
        (.command "lvcreate" (Storage.freshLVName (Storage.volumeName vol)))
      Storage.must (Storage.run (.wipefs (Storage.freshLVName (Storage.volumeName vol))))
        (.command "wipefs" (Storage.freshLVName (Storage.volumeName vol)))
      Storage.must (Storage.run (.rename (Storage.freshLVName (Storage.volumeName vol))
        (Storage.volumeName vol)))
        (.command "lvrename" (Storage.freshLVName (Storage.volumeName vol)))) p r q) :
    (r=.ok () → Provisioned (Storage.volumeName vol) p q) ∧
      Rounded (Storage.volumeName vol) vol.sizeKib p q := by
  have hne := Storage.volumeName_ne_fresh (Storage.volumeName vol)
  rcases exec_bind.mp h with ⟨e,hdrop,rfl⟩|⟨_,p₁,hdrop,h₁⟩
  · exact ⟨nofun,.absent ((dropLeftover_sizes hdrop _ hne).trans hnone)⟩
  have hp₁ := dropLeftover_sizes hdrop
  have hnone₁ := (hp₁ _ hne).trans hnone
  rcases exec_bind.mp h₁ with ⟨_,hcreate,rfl⟩|⟨_,p₂,hcreate,h₂⟩
  · rcases must_create hcreate with ⟨_,e,_,rfl⟩|⟨_,rfl⟩
    · exact ⟨nofun,.absent ((update_of_ne hne ..).trans hnone₁)⟩
    · exact ⟨nofun,.absent hnone₁⟩
  rcases must_create hcreate with ⟨_,e,he,rfl⟩|⟨hr,_⟩
  case inr => exact absurd rfl hr
  have hnone₂ : update p₁ (Storage.freshLVName (Storage.volumeName vol)) (some e)
      (Storage.volumeName vol)=none := (update_of_ne hne ..).trans hnone₁
  rcases exec_bind.mp h₂ with ⟨_,hwipe,rfl⟩|⟨_,p₃,hwipe,h₃⟩
  · rcases Storage.must_cases (fun _ _ => exec_call.mp) hwipe with ⟨hr,_⟩|⟨_,rfl⟩
    · cases hr
    · exact ⟨nofun,.absent hnone₂⟩
  rcases Storage.must_cases (fun _ _ => exec_call.mp) hwipe with ⟨_,rfl⟩|⟨hr,_⟩
  case inr => cases hr
  rcases Storage.must_cases (fun _ _ => exec_call.mp) h₃ with ⟨rfl,hren⟩|⟨rfl,hren⟩
  · rcases hren with ⟨_,e',he',rfl⟩|⟨hfalse,_⟩
    · rw [update_self] at he'
      cases he'
      exact ⟨fun _ => .renamed hnone hp₁ e,.update he⟩
    · cases hfalse
  · rcases hren with ⟨_,e',he',rfl⟩|⟨_,rfl⟩
    · rw [update_self] at he'
      cases he'
      exact ⟨nofun,.update he⟩
    · exact ⟨nofun,.absent hnone₂⟩

theorem createVolume_sizes (h : Exec SizeStep (Storage.createVolume provider vol) p r q) :
    (r=.ok () → Provisioned (Storage.volumeName vol) p q) ∧
      Rounded (Storage.volumeName vol) vol.sizeKib p q := by
  unfold Storage.createVolume at h
  cases provider with
  | zfs thin =>
    have h := exec_lookup h
    cases hsize : p (Storage.volumeName vol) with
    | some e =>
      rw [hsize] at h
      obtain rfl := refreservation_sizes h
      exact ⟨fun _ => .refl hsize,.refl⟩
    | none =>
      rw [hsize] at h
      rcases exec_bind.mp h with ⟨_,hfail,rfl⟩|⟨_,p₁,h₁,h₂⟩
      · rcases must_create hfail with ⟨_,e,he,rfl⟩|⟨_,rfl⟩
        · exact ⟨nofun,.update he⟩
        · exact ⟨nofun,.refl⟩
      · obtain rfl := refreservation_sizes h₂
        rcases must_create h₁ with ⟨hnone,e,he,rfl⟩|⟨hr,_⟩
        · exact ⟨fun _ => .update hnone e,.update he⟩
        · exact absurd rfl hr
  | lvmThin =>
    have h := exec_lookup h
    cases hsize : p (Storage.volumeName vol) with
    | some e =>
      rw [hsize] at h
      obtain ⟨rfl,rfl⟩ := exec_pure.mp h
      exact ⟨fun _ => .refl hsize,.refl⟩
    | none =>
      rw [hsize] at h
      rcases must_create h with ⟨hnone,e,he,rfl⟩|⟨hr,rfl⟩
      · exact ⟨fun _ => .update hnone e,.update he⟩
      · exact ⟨fun hok => absurd hok hr,.refl⟩
  | lvmThick =>
    obtain ⟨names,p₁,⟨rfl,hnames⟩,h⟩ := exec_ask.mp h
    rcases hnames with rfl|rfl
    · cases hsize : p₁ (Storage.volumeName vol) with
      | some e =>
        simp only [hsize,Option.isSome_some,if_true] at h
        obtain ⟨rfl,rfl⟩ := exec_pure.mp h
        exact ⟨fun _ => .refl hsize,.refl⟩
      | none =>
        simp only [hsize,Option.isSome_none,Bool.false_eq_true,if_false] at h
        exact createFresh_sizes hsize h
    · obtain ⟨rfl,rfl⟩ := exec_throw.mp h
      exact ⟨nofun,.refl⟩

theorem refreservation_runs (thin : Bool) {dataset : String} :
    Exec SizeStep (Storage.ensureRefreservation thin dataset) p (.ok ()) p := by
  unfold Storage.ensureRefreservation
  split
  · exact .done _ _
  refine exec_ask.mpr ⟨some 0,p,rfl,?_⟩
  exact exec_ask.mpr ⟨some 0,p,rfl,.done _ _⟩

theorem must_runs
    (h : Exec SizeStep x p (.ok true) q) : Exec SizeStep (Storage.must x e) p (.ok ()) q :=
  Storage.exec_must_ok.mpr h

theorem createVolume_runs (provider : Storage.Provider) (vol : Storage.Volume) :
    ∃q,Exec SizeStep (Storage.createVolume provider vol) (fun _ => none) (.ok ()) q := by
  have hpos : 0<1024*Storage.sizeMiBOf vol.sizeKib := by
    unfold Storage.sizeMiBOf
    omega
  have hcreate (name : String) (tagged : Bool) : Exec SizeStep
      (Storage.run (.create name (Storage.sizeMiBOf vol.sizeKib) tagged)) (fun _ => none) (.ok true)
      (update (fun _ => none) name (some ⟨_,hpos⟩)) :=
    Storage.exec_run_ok.mpr (.inl ⟨rfl,⟨_,hpos⟩,rfl,rfl⟩)
  unfold Storage.createVolume
  cases provider with
  | zfs thin =>
    refine ⟨update (fun _ => none) (Storage.volumeName vol) (some ⟨_,hpos⟩),?_⟩
    refine exec_ask.mpr ⟨false,_,⟨rfl,rfl⟩,?_⟩
    exact exec_bind_ok.mpr ⟨(),_,must_runs (hcreate _ _),refreservation_runs thin⟩
  | lvmThin =>
    exact ⟨_,exec_ask.mpr ⟨false,_,⟨rfl,rfl⟩,must_runs (hcreate _ _)⟩⟩
  | lvmThick =>
    refine ⟨update (update (update (fun _ => none)
      (Storage.freshLVName (Storage.volumeName vol)) (some ⟨_,hpos⟩))
      (Storage.freshLVName (Storage.volumeName vol)) none) (Storage.volumeName vol)
      (some ⟨_,hpos⟩),?_⟩
    refine exec_ask.mpr ⟨some fun _ => false,_,⟨rfl,.inl rfl⟩,?_⟩
    refine exec_bind_ok.mpr ⟨(),_,.done _ _,?_⟩
    refine exec_bind_ok.mpr ⟨(),_,must_runs (hcreate _ _),?_⟩
    refine exec_bind_ok.mpr ⟨(),_,must_runs (Storage.exec_run_ok.mpr rfl),?_⟩
    refine must_runs (Storage.exec_run_ok.mpr (.inl ⟨?_,_,update_self ..,rfl⟩))
    exact update_of_ne (Storage.volumeName_ne_fresh _) ..

theorem copyAndClearSentinel_sizes
    (h : Exec SizeStep (Storage.copyAndClearSentinel srcName tgtName) p r q) : q=p := by
  unfold Storage.copyAndClearSentinel at h
  rcases exec_bind.mp h with ⟨_,hcopy,rfl⟩|⟨_,p₁,hcopy,huntag⟩
  · rcases Storage.must_cases (fun _ _ => exec_call.mp) hcopy with ⟨_,rfl⟩|⟨_,rfl⟩ <;> rfl
  · rcases Storage.must_cases (fun _ _ => exec_call.mp) hcopy with ⟨_,rfl⟩|⟨_,rfl⟩ <;>
      rcases Storage.must_cases (fun _ _ => exec_call.mp) huntag with ⟨_,rfl⟩|⟨_,rfl⟩ <;> rfl

theorem lookup_found (h : SizeStep p (.lookup name) true q) : ∃e,p name=some e :=
  Option.isSome_iff_exists.mp h.2.symm

theorem restore_sizes {src : Storage.Snapshot}
    (h : Exec SizeStep (Storage.restoreVolumeFromSnapshot provider target src) p (.ok ()) q) :
    Provisioned (Storage.volumeName target) p q := by
  cases Storage.restore_cases sizeStep_keptByProbes h with
  | kept hfound _ =>
    obtain ⟨e,he⟩ := lookup_found hfound
    exact .refl he
  | resumed _ _ hfound _ hcopy =>
    obtain ⟨e,he⟩ := lookup_found hfound
    obtain rfl := copyAndClearSentinel_sizes hcopy
    exact .refl he
  | cloned _ _ h =>
    rcases h with ⟨hnone,e,_,rfl⟩|⟨hfalse,_⟩
    · exact .update hnone e
    · cases hfalse
  | copied _ _ _ _ _ hcreate hcopy =>
    obtain rfl := copyAndClearSentinel_sizes hcopy
    rcases hcreate with ⟨hnone,e,_,rfl⟩|⟨hfalse,_⟩
    · exact .update hnone e
    · cases hfalse

theorem ddRecv_sizes {stream e : KiB} (hsize : p (Storage.volumeName target)=some e)
    (h : Exec SizeStep (Storage.ddRecvAndClearSentinel target stream) p (.ok ()) q) : q=p := by
  unfold Storage.ddRecvAndClearSentinel at h
  obtain ⟨received,p₁,hrecv,h₁⟩ := exec_ask.mp h
  cases received with
  | true =>
    rcases hrecv with rfl|⟨hfalse,_⟩
    · obtain rfl := Storage.exec_run_ok.mp (Storage.exec_must_ok.mp h₁)
      rw [hsize,Option.getD_some,← hsize,update_eq_self]
    · cases hfalse
  | false =>
    have h₂ := exec_lookup h₁
    split at h₂
    · obtain ⟨_,_,_,h₃⟩ := exec_ask.mp h₂
      cases h₃
    · cases h₂

theorem recv_sizes {stream : KiB}
    (h : Exec SizeStep (Storage.recvSnapshot provider target stream) p (.ok ()) q) :
    Provisioned (Storage.volumeName target) p q := by
  unfold Storage.recvSnapshot at h
  cases provider with
  | zfs thin =>
    have h := exec_lookup h
    cases hsize : p (Storage.volumeName target) with
    | some e =>
      rw [hsize] at h
      obtain rfl := refreservation_sizes h
      exact .refl hsize
    | none =>
      rw [hsize] at h
      obtain ⟨received,p₁,hrecv,h₁⟩ := exec_ask.mp h
      cases received with
      | true =>
        obtain rfl := refreservation_sizes h₁
        rcases hrecv with rfl|⟨hfalse,_⟩
        · exact .update hsize _
        · cases hfalse
      | false =>
        obtain ⟨_,_,_,h₂⟩ := exec_ask.mp h₁
        cases h₂
  | lvmThin =>
    have h := exec_lookup h
    cases hsize : p (Storage.volumeName target) with
    | some e =>
      rw [hsize] at h
      obtain ⟨tagged,_,rfl,h₁⟩ := exec_ask.mp h
      cases tagged with
      | true =>
        obtain rfl := ddRecv_sizes hsize h₁
        exact .refl hsize
      | false =>
        obtain ⟨_,rfl⟩ := exec_pure.mp h₁
        exact .refl hsize
    | none =>
      rw [hsize] at h
      obtain ⟨_,p₁,hcreate,h₁⟩ := exec_bind_ok.mp h
      rcases must_create hcreate with ⟨hnone,e,_,rfl⟩|⟨hr,_⟩
      · obtain rfl := ddRecv_sizes (update_self ..) h₁
        exact .update hnone e
      · exact absurd rfl hr
  | lvmThick => cases h

end Provider

section Materialize

variable {p q : Sizes} {provider : Storage.Provider} {fetcher : Bool} {rd : String}
  {vol : DesiredVolume} {target : Storage.Volume}

theorem createBlank_sizes (h : Exec (PoolStep provider) (createBlank rd target) p (.ok ()) q) :
    Provisioned (Storage.volumeName target) p q := by
  unfold createBlank at h
  obtain ⟨_,_,rfl,h₁⟩ := exec_ask.mp h
  obtain ⟨created,p₁,hcreate,h₂⟩ := exec_ask.mp h₁
  cases created with
  | error e => cases h₂
  | ok _ =>
    obtain ⟨_,rfl⟩ := exec_pure.mp h₂
    exact (createVolume_sizes hcreate).1 rfl

theorem crossNodeClone_sizes {srcRD snapName : String}
    (h : Exec (PoolStep provider) (crossNodeClone provider target rd srcRD snapName) p (.ok ()) q) :
    Provisioned (Storage.volumeName target) p q := by
  unfold crossNodeClone at h
  split at h
  · exact createBlank_sizes h
  · obtain ⟨fetched,_,rfl,h₁⟩ := exec_ask.mp h
    cases fetched with
    | notFound => exact createBlank_sizes h₁
    | failed => cases h₁
    | stream body =>
      obtain ⟨received,p₁,hrecv,h₂⟩ := exec_ask.mp h₁
      cases received with
      | error e => cases h₂
      | ok _ =>
        obtain ⟨_,_,rfl,h₃⟩ := exec_ask.mp h₂
        obtain ⟨_,rfl⟩ := exec_pure.mp h₃
        exact recv_sizes hrecv

theorem materializeVolume_sizes
    (h : Exec (PoolStep provider) (materializeVolume provider fetcher rd vol) p (.ok ()) q) :
    Provisioned (lvName rd vol) p q := by
  unfold materializeVolume at h
  dsimp only at h
  split at h
  · obtain ⟨created,p₁,hcreate,h₁⟩ := exec_ask.mp h
    cases created with
    | error e => cases h₁
    | ok _ =>
      obtain ⟨_,rfl⟩ := exec_pure.mp h₁
      exact (createVolume_sizes hcreate).1 rfl
  · split at h
    · cases h
    · obtain ⟨restored,p₁,hrestore,h₁⟩ := exec_ask.mp h
      cases restored with
      | ok _ =>
        obtain ⟨_,_,rfl,h₂⟩ := exec_ask.mp h₁
        obtain ⟨_,rfl,_⟩ := exec_call.mp h₂
        exact restore_sizes hrestore
      | error e =>
        cases e with
        | command verb name => cases h₁
        | notFound name =>
          obtain rfl := (Storage.restore_notFound_of sizeStep_keptByProbes _ _ _ _ hrestore).1
          dsimp only at h₁
          split at h₁
          · have hclone := crossNodeClone_sizes h₁
            exact hclone
          · obtain ⟨tries,_,rfl,h₂⟩ := exec_ask.mp h₁
            split at h₂
            · cases h₂
            · obtain ⟨_,_,rfl,h₃⟩ := exec_ask.mp h₂
              have hblank := createBlank_sizes h₃
              exact hblank

end Materialize

section Pass

variable {rd : String} {fetcher : Bool} {providers : String → Option Storage.Provider}
  {vol : DesiredVolume} {s t : Disk} {provider : Storage.Provider} {vols : List DesiredVolume}
  {status : VolumeStatus}

def Covers (rd : String) (s : Disk) (vol : DesiredVolume) : Prop :=
  ∃e,s.sizes vol.storagePool (lvName rd vol)=some e ∧ vol.sizeKib ≤ e.val

def Apart (rd : String) (vol : DesiredVolume) (s t : Disk) : Prop :=
  ∀pool name,pool≠vol.storagePool ∨ name≠lvName rd vol ∧ name≠Storage.freshLVName (lvName rd vol) →
    t.sizes pool name=s.sizes pool name

theorem Covers.apart {vol' : DesiredVolume} (h : Covers rd s vol)
    (hne : vol.volumeNumber≠vol'.volumeNumber) (hst : Apart rd vol' s t) : Covers rd t vol := by
  obtain ⟨e,he,hle⟩ := h
  exact ⟨e,(hst _ _ (.inr (Storage.volumeName_ne hne))).trans he,hle⟩

theorem Apart.refl : Apart rd vol s s := fun _ _ _ => rfl

theorem Apart.trans {u : Disk} (h : Apart rd vol s t) (h' : Apart rd vol t u) : Apart rd vol s u :=
  fun pool name hn => (h' pool name hn).trans (h pool name hn)

theorem materialize_step (h : Step rd fetcher s (.materializeVolume provider vol) (.ok ()) t) :
    Apart rd vol s t ∧ t.resizes=s.resizes ∧
      (∃e,t.sizes vol.storagePool (lvName rd vol)=some e) ∧
      ∀e,s.sizes vol.storagePool (lvName rd vol)=some e →
        t.sizes vol.storagePool (lvName rd vol)=some e := by
  obtain ⟨q,hq,rfl⟩ := h
  have hprov := materializeVolume_sizes hq
  refine ⟨fun pool name hn => ?_,rfl,?_,?_⟩
  · dsimp only
    by_cases hpool : pool=vol.storagePool
    · subst hpool
      obtain ⟨hname,hfresh⟩ := hn.resolve_left fun hne => hne rfl
      rw [update_self]
      exact hprov.frame name hname hfresh
    · rw [update_of_ne hpool]
  · dsimp only
    rw [update_self]
    exact hprov.exists_size
  · dsimp only
    rw [update_self]
    exact hprov.kept

theorem resizeVolume_ok (h : Exec (Step rd fetcher) (resizeVolume provider rd vol) s (.ok ()) t) :
    Apart rd vol s t ∧ ∃e : KiB,e.val=roundedKib vol.sizeKib ∧
      t.sizes vol.storagePool (lvName rd vol)=some e := by
  unfold resizeVolume at h
  obtain ⟨extended,u,⟨_,hext⟩,h₁⟩ := exec_ask.mp h
  cases extended with
  | false => cases h₁
  | true =>
    rcases hext with ⟨_,hfalse⟩|⟨e,he,_,hsizes⟩
    · cases hfalse
    have hu : Apart rd vol s u ∧ ∃e : KiB,e.val=roundedKib vol.sizeKib ∧
        u.sizes vol.storagePool (lvName rd vol)=some e := by
      rw [Apart,hsizes]
      refine ⟨fun pool name hn => ?_,e,he,by rw [update_self,update_self]⟩
      by_cases hpool : pool=vol.storagePool
      · subst hpool
        rw [update_self,update_of_ne (hn.resolve_left fun hne => hne rfl).1]
      · rw [update_of_ne hpool]
    cases provider with
    | zfs thin =>
      obtain ⟨reserved,_,rfl,h₂⟩ := exec_ask.mp h₁
      cases reserved with
      | error e => cases h₂
      | ok _ =>
        obtain ⟨_,rfl⟩ := exec_pure.mp h₂
        exact hu
    | lvmThin =>
      obtain ⟨_,rfl⟩ := exec_pure.mp h₁
      exact hu
    | lvmThick =>
      obtain ⟨_,rfl⟩ := exec_pure.mp h₁
      exact hu

theorem growVolume_ok {b : Bool} {e : KiB}
    (he : s.sizes vol.storagePool (lvName rd vol)=some e) (hstatus : status.usableKib=e.val)
    (h : Exec (Step rd fetcher) (growVolume provider rd vol status) s (.ok b) t) :
    Apart rd vol s t ∧ (vol.sizeKib ≤ roundedKib vol.sizeKib → Covers rd t vol) := by
  unfold growVolume at h
  split_ifs at h with hgrow
  · obtain ⟨_,u,hresize,h₁⟩ := exec_bind_ok.mp h
    obtain ⟨_,rfl⟩ := exec_pure.mp h₁
    obtain ⟨hst,e',he',hsize⟩ := resizeVolume_ok hresize
    exact ⟨hst,fun hle => ⟨e',hsize,he' ▸ hle⟩⟩
  · obtain ⟨_,rfl⟩ := exec_pure.mp h
    rw [hstatus] at hgrow
    have hle : vol.sizeKib ≤ e.val := Int.not_lt.mp fun hlt => hgrow ⟨hlt,e.property⟩
    exact ⟨.refl,fun _ => ⟨e,he,hle⟩⟩

theorem growVolume_covered (hle : vol.sizeKib ≤ status.usableKib) {r : Except Err Bool}
    (h : Exec (Step rd fetcher) (growVolume provider rd vol status) s r t) : t=s := by
  unfold growVolume at h
  rw [if_neg fun hgrow => absurd hgrow.1 (Int.not_lt.mpr hle)] at h
  exact (exec_pure.mp h).2

theorem applyVolume_ok {r : String × Bool}
    (halign : (providers vol.storagePool).isSome → vol.sizeKib ≤ roundedKib vol.sizeKib)
    (h : Exec (Step rd fetcher) (applyVolume rd providers vol) s (.ok r) t) :
    Apart rd vol s t ∧ Covers rd t vol := by
  unfold applyVolume at h
  cases hprovider : providers vol.storagePool with
  | none =>
    rw [hprovider] at h
    cases h
  | some provider =>
    rw [hprovider] at h halign
    obtain ⟨made,u,hmade,h₁⟩ := exec_ask.mp h
    cases made with
    | error e => cases h₁
    | ok _ =>
      obtain ⟨hsu,_,⟨e,he⟩,_⟩ := materialize_step hmade
      obtain ⟨answer,_,⟨rfl,hanswer⟩,h₂⟩ := exec_ask.mp h₁
      cases answer with
      | none => cases h₂
      | some status =>
        have hstatus : status.usableKib=e.val := by
          rw [hanswer status rfl,he]
          rfl
        obtain ⟨resized,v,hgrow,h₃⟩ := exec_bind_ok.mp h₂
        obtain ⟨huv,hcov⟩ := growVolume_ok he hstatus hgrow
        obtain ⟨ready,_,rfl,h₄⟩ := exec_ask.mp h₃
        cases ready with
        | false => cases h₄
        | true =>
          obtain ⟨_,rfl⟩ := exec_pure.mp h₄
          exact ⟨hsu.trans huv,hcov (halign rfl)⟩

theorem applyVolume_covered (hcov : Covers rd s vol) {r : Except Err (String × Bool)}
    (h : Exec (Step rd fetcher) (applyVolume rd providers vol) s r t) :
    t.resizes=s.resizes ∧ ∀a,r=.ok a → Apart rd vol s t := by
  obtain ⟨e,he,hle⟩ := hcov
  unfold applyVolume at h
  cases hprovider : providers vol.storagePool with
  | none =>
    rw [hprovider] at h
    obtain ⟨rfl,rfl⟩ := exec_throw.mp h
    exact ⟨rfl,nofun⟩
  | some provider =>
    rw [hprovider] at h
    obtain ⟨made,u,hmade,h₁⟩ := exec_ask.mp h
    cases made with
    | error e =>
      obtain ⟨q,_,rfl⟩ := hmade
      obtain ⟨rfl,rfl⟩ := exec_throw.mp h₁
      exact ⟨rfl,nofun⟩
    | ok _ =>
      obtain ⟨hsu,hresizes,_,hkept⟩ := materialize_step hmade
      rw [← hresizes]
      obtain ⟨answer,_,⟨rfl,hanswer⟩,h₂⟩ := exec_ask.mp h₁
      cases answer with
      | none =>
        obtain ⟨rfl,rfl⟩ := exec_throw.mp h₂
        exact ⟨rfl,nofun⟩
      | some status =>
        have hstatus : vol.sizeKib ≤ status.usableKib := by
          rw [hanswer status rfl,hkept e he]
          exact hle
        rcases exec_bind.mp h₂ with ⟨_,hgrow,rfl⟩|⟨_,v,hgrow,h₃⟩
        · obtain rfl := growVolume_covered hstatus hgrow
          exact ⟨rfl,nofun⟩
        obtain rfl := growVolume_covered hstatus hgrow
        obtain ⟨ready,_,rfl,h₄⟩ := exec_ask.mp h₃
        cases ready with
        | false =>
          obtain ⟨rfl,rfl⟩ := exec_throw.mp h₄
          exact ⟨rfl,nofun⟩
        | true =>
          obtain ⟨_,rfl⟩ := exec_pure.mp h₄
          exact ⟨rfl,fun _ _ => hsu⟩

theorem applyVolumes_ok (hdistinct : (vols.map DesiredVolume.volumeNumber).Nodup)
    (halign : ∀vol∈vols,(providers vol.storagePool).isSome → vol.sizeKib ≤ roundedKib vol.sizeKib)
    {a : Applied} (h : Exec (Step rd fetcher) (applyVolumes rd providers vols) s (.ok a) t) :
    (∀vol∈vols,Covers rd t vol) ∧
      ∀vol',vol'.volumeNumber∉vols.map DesiredVolume.volumeNumber → Covers rd s vol' →
        Covers rd t vol' := by
  induction vols generalizing s a with
  | nil =>
    obtain ⟨_,rfl⟩ := exec_pure.mp h
    exact ⟨(fun _ hv => by cases hv),fun _ _ hc => hc⟩
  | cons vol vols ih =>
    obtain ⟨hvol,hdistinct⟩ := List.nodup_cons.mp hdistinct
    unfold applyVolumes at h
    obtain ⟨r,u,hone,h₁⟩ := exec_bind_ok.mp h
    obtain ⟨rest,v,hrest,h₂⟩ := exec_bind_ok.mp h₁
    obtain ⟨_,rfl⟩ := exec_pure.mp h₂
    obtain ⟨hsu,hcov⟩ := applyVolume_ok (halign vol (.head _)) hone
    obtain ⟨hall,hkeep⟩ := ih hdistinct (fun v hv => halign v (.tail _ hv)) hrest
    refine ⟨fun v hv => ?_,fun vol' hne hc => ?_⟩
    · rcases List.mem_cons.mp hv with rfl|hv
      · exact hkeep v hvol hcov
      · exact hall v hv
    · obtain ⟨hne,hnot⟩ := not_or.mp (List.mem_cons.not.mp hne)
      exact hkeep vol' hnot (hc.apart hne hsu)

theorem applyVolumes_covered
    (hdistinct : (vols.map DesiredVolume.volumeNumber).Nodup) (hcov : ∀vol∈vols,Covers rd s vol)
    {r : Except Err Applied}
    (h : Exec (Step rd fetcher) (applyVolumes rd providers vols) s r t) : t.resizes=s.resizes := by
  induction vols generalizing s t r with
  | nil => rw [(exec_pure.mp h).2]
  | cons vol vols ih =>
    obtain ⟨hvol,hdistinct⟩ := List.nodup_cons.mp hdistinct
    unfold applyVolumes at h
    rcases exec_bind.mp h with ⟨_,hone,_⟩|⟨a,u,hone,h₁⟩
    · exact (applyVolume_covered (hcov vol (.head _)) hone).1
    obtain ⟨hresizes,hsu⟩ := applyVolume_covered (hcov vol (.head _)) hone
    have hcovu : ∀v∈vols,Covers rd u v := fun v hv =>
      (hcov v (.tail _ hv)).apart
        (fun heq => hvol (List.mem_map.mpr ⟨v,hv,heq⟩)) (hsu a rfl)
    rcases exec_bind.mp h₁ with ⟨_,hrest,_⟩|⟨_,v,hrest,h₂⟩
    · rw [ih hdistinct hcovu hrest,hresizes]
    · rw [(exec_pure.mp h₂).2,ih hdistinct hcovu hrest,hresizes]

end Pass

/-- What applying the storage of a request gives: after a pass that works every volume is as large as
asked for and the next pass issues no resize, and no volume is made too small. -/
structure Request.Provisions (req : Request) (crossNodeFetcher : Bool) : Prop where
  covers : ∀s a t,Exec (Step req.name crossNodeFetcher) (applyStorage req) s (.ok a) t →
    ∀vol∈req.volumes,Covers req.name t vol
  converges : ∀s a t,Exec (Step req.name crossNodeFetcher) (applyStorage req) s (.ok a) t →
    ∀r u,Exec (Step req.name crossNodeFetcher) (applyStorage req) t r u → u.resizes=t.resizes
  fresh : ∀vol∈req.volumes,∀provider,req.providers vol.storagePool=some provider → ∀p r q,
    Exec SizeStep (Storage.createVolume provider ⟨req.name,vol.volumeNumber,vol.sizeKib⟩) p r q →
    p (lvName req.name vol)=none → ∀e,q (lvName req.name vol)=some e → vol.sizeKib ≤ e.val

theorem Request.Provisions.fresh_size {req : Request} {fetcher : Bool} (h : req.Provisions fetcher)
    {vol : DesiredVolume} (hvol : vol∈req.volumes) {provider : Storage.Provider}
    (hprovider : req.providers vol.storagePool=some provider) :
    ∃e : KiB,e.val=roundedKib vol.sizeKib ∧ vol.sizeKib ≤ e.val := by
  obtain ⟨q,hq⟩ := createVolume_runs provider ⟨req.name,vol.volumeNumber,vol.sizeKib⟩
  obtain ⟨hprov,hround⟩ := createVolume_sizes hq
  obtain ⟨e,he⟩ := (hprov rfl).exists_size
  exact ⟨e,hround rfl e he,h.fresh vol hvol provider hprovider _ _ _ hq rfl e he⟩

theorem Request.provisions_iff (req : Request) (crossNodeFetcher : Bool) :
    req.Provisions crossNodeFetcher ↔
      ∀vol∈req.volumes,(req.providers vol.storagePool).isSome → 1024∣vol.sizeKib := by
  constructor
  · intro h vol hvol hsome
    obtain ⟨provider,hprovider⟩ := Option.isSome_iff_exists.mp hsome
    obtain ⟨e,he,hle⟩ := h.fresh_size hvol hprovider
    exact (le_roundedKib_iff (req.accepted vol hvol).1).mp (he ▸ hle)
  · intro h
    have halign : ∀vol∈req.volumes,(req.providers vol.storagePool).isSome →
        vol.sizeKib ≤ roundedKib vol.sizeKib := fun vol hvol hsome =>
      (le_roundedKib_iff (req.accepted vol hvol).1).mpr (h vol hvol hsome)
    have hcovers {s : Disk} {a : Applied} {t : Disk}
        (hrun : Exec (Step req.name crossNodeFetcher) (applyStorage req) s (.ok a) t) :=
      (applyVolumes_ok req.distinct halign hrun).1
    refine ⟨fun s a t hrun => hcovers hrun,fun s a t hrun r u hnext => ?_,?_⟩
    · exact applyVolumes_covered req.distinct (hcovers hrun) hnext
    · intro vol hvol provider hprovider p r q hrun hnone e he
      rw [(createVolume_sizes hrun).2 hnone e he]
      exact halign vol hvol (by rw [hprovider]; rfl)

def unaligned : Request where
  name := "pvc-1"
  volumes := [{volumeNumber := 0,sizeKib := 5000,storagePool := "pool"}]
  providers _ := some (.zfs true)
  distinct := List.nodup_singleton _
  accepted := by
    intro vol hvol
    obtain rfl := List.mem_singleton.mp hvol
    decide

/-- The volume is made with 4 MiB. -/
theorem fresh_volume_too_small : ¬∀(req : Request) (crossNodeFetcher : Bool),
    req.Provisions crossNodeFetcher := by
  intro h
  obtain ⟨e,he,hle⟩ := (h unaligned false).fresh_size (.head _) rfl
  rw [he] at hle
  exact absurd hle (by decide)

end Blockstor.Provision
