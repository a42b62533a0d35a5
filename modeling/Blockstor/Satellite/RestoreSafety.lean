import Blockstor.Satellite.RestoreSpec
import Blockstor.Satellite.SeedSafety

namespace Blockstor.Satellite

open Drbd Framework Shell Storage Function

section

variable {α : Type} (provider : Provider) (blank ships : α → Prop) (crossNodeFetcher : Bool)

/-- The content the snapshot call leaves under the snapshot's name: that of an object already
there, else that of volume 0, whichever volumes the request names. -/
def snapshotted (p : Pool α) (req : CreateSnapshotRequest) : Option α :=
  ((p (snapshotName provider ⟨req.resourceName,req.snapshotName⟩)).or
    (p (volumeName ⟨req.resourceName,0,0⟩))).map Obj.content

def Fallback (tries : Nat) (content : α) : Prop :=
  (crossNodeFetcher=true ∨ restoreSnapshotMissingBudget ≤ tries) ∧ blank content ∨
  crossNodeFetcher=true ∧ provider.isShipper=true ∧ ships content

variable {provider blank ships crossNodeFetcher} {p q : Pool α} (req : CreateSnapshotRequest)

theorem createSnapshot_answered (resp : CreateSnapshotResponse)
    (h : Exec (Step blank) (createSnapshot (some provider) req) p (.ok resp) q)
    (hok : resp.ok=true) :
    ∃o,q (snapshotName provider ⟨req.resourceName,req.snapshotName⟩)=some o ∧
      snapshotted provider p req=some o.content := by
  unfold createSnapshot at h
  obtain ⟨x,p1,hx,h⟩ := exec_bind_ok.mp h
  obtain ⟨y,hy,he⟩ := exec_attempt.mp hx
  cases he
  cases x with
  | error e =>
    cases e <;> cases h <;> cases hok
  | ok u =>
    cases h
    unfold snapshotted
    rcases createSnapshot_ok provider _ hy with ⟨o,ho,rfl⟩|⟨hnone,o,ho,rfl⟩
    · exact ⟨o,ho,by rw [ho]; rfl⟩
    · exact ⟨_,update_self ..,by rw [hnone,ho]; rfl⟩

variable (blank) in
theorem createSnapshot_may (content : α) (h : snapshotted provider p req=some content) :
    ∃q o,Exec (Step blank) (createSnapshot (some provider) req) p (.ok ⟨true,false⟩) q ∧
      q (snapshotName provider ⟨req.resourceName,req.snapshotName⟩)=some o ∧
      o.content=content := by
  let name := snapshotName provider ⟨req.resourceName,req.snapshotName⟩
  have hcall (q : Pool α) (hq : Exec (Step blank)
      (Storage.createSnapshot provider ⟨req.resourceName,req.snapshotName⟩) p (.ok ()) q) :
      Exec (Step blank) (createSnapshot (some provider) req) p (.ok ⟨true,false⟩) q :=
    exec_bind_ok.mpr ⟨.ok (),q,exec_attempt.mpr ⟨_,hq,rfl⟩,.done _ _⟩
  obtain ⟨o,ho,rfl⟩ := Option.map_eq_some_iff.mp h
  cases hp : p name with
  | some o' =>
    rw [show p (snapshotName provider ⟨req.resourceName,req.snapshotName⟩)=some o' from hp] at ho
    cases ho
    refine ⟨p,o,hcall p ((exec_lookup _ _ _).mpr (.inl ?_)),hp,rfl⟩
    rw [show p (snapshotName provider ⟨req.resourceName,req.snapshotName⟩)=some o from hp]
    exact .done _ _
  | none =>
    rw [show p (snapshotName provider ⟨req.resourceName,req.snapshotName⟩)=none from hp,
      Option.none_or] at ho
    refine ⟨update p name (some ⟨o.content,o.sizeMiB,false⟩),_,
      hcall _ ((exec_lookup_absent hp).mpr ?_),update_self ..,rfl⟩
    exact must_may _ _ (exec_run_ok.mpr (changes_true.mpr ⟨hp,o,ho,rfl⟩))

theorem freshLVName_ne_snapshot (final : String) (snap : Snapshot) :
    freshLVName final≠snapshotName .lvmThick snap := by
  intro h
  have hl := congrArg (fun s => s.toList.reverse.head?) h
  simp [freshLVName,snapshotName] at hl

variable (rd : String) (vol : DesiredVolume) {srcRD snapName : String} {s t : Node α}

/-- A pass over an absent target on a node that holds the snapshot ends with the content of the
snapshot or with that of a fallback. -/
theorem materialized_content {tries : Nat} {flag : Bool} (o : Obj α)
    (habsent : p (volumeName (targetOf rd vol))=none)
    (hsnap : p (snapshotName provider ⟨srcRD,snapName⟩)=some o)
    (h : Materialized provider blank ships crossNodeFetcher (targetOf rd vol) ⟨srcRD,snapName⟩
      tries p flag q) :
    ∃o',q (volumeName (targetOf rd vol))=some o' ∧ (o'.content=o.content ∨
      Fallback provider blank ships crossNodeFetcher tries o'.content) := by
  cases h with
  | restored _ h =>
    obtain ⟨o',ho,hc⟩ := restore_content _ provider _ o habsent hsnap h
    exact ⟨o',ho,.inl hc⟩
  | fellBack _ _ _ hgo h =>
    obtain ⟨o',ho,hb⟩ := createVolume_content _ provider habsent h
    exact ⟨o',ho,.inr (.inl ⟨hgo,hb⟩)⟩
  | shipped _ _ body _ hfetch hshipper hbody h =>
    obtain ⟨o',ho,rfl⟩ := recvSnapshot_content _ provider body habsent h
    exact ⟨o',ho,.inr (.inr ⟨hfetch,hshipper,hbody⟩)⟩

/-- A node that holds one object and has missed snapshots `tries` times. -/
def holdingOnly (name : String) (o : Obj α) (tries : Nat) : Node α :=
  ⟨update (fun _ => none) name (some o),fun _ _ => false,fun _ _ => tries⟩

@[simp] theorem holdingOnly_self (name : String) (o : Obj α) (tries : Nat) :
    (holdingOnly name o tries).pool name=some o := by simp [holdingOnly]

theorem holdingOnly_of_ne {name other : String} (h : other≠name) (o : Obj α) (tries : Nat) :
    (holdingOnly name o tries).pool other=none := by
  simp [holdingOnly,h]

theorem materialized_content_may (tries : Nat) (o : Obj α) (content : α)
    (hne : volumeName (targetOf rd vol)≠snapshotName provider ⟨srcRD,snapName⟩)
    (hblank : ∃c,blank c) (hcontent : content=o.content ∨
      Fallback provider blank ships crossNodeFetcher tries content) :
    ∃flag q o',Materialized provider blank ships crossNodeFetcher (targetOf rd vol)
      ⟨srcRD,snapName⟩ tries
      (holdingOnly (snapshotName provider ⟨srcRD,snapName⟩) o tries).pool flag q ∧
      q (volumeName (targetOf rd vol))=some o' ∧ o'.content=content := by
  let p := (holdingOnly (snapshotName provider ⟨srcRD,snapName⟩) o tries).pool
  have habsent : p (volumeName (targetOf rd vol))=none := holdingOnly_of_ne hne o tries
  have hmiss : Exec (Step blank) _ p _ p :=
    restore_missing_may (targetOf rd vol) provider ⟨srcRD,snapName⟩
  rcases hcontent with rfl|⟨hgo,hb⟩|⟨hfetch,hshipper,hbody⟩
  · obtain ⟨q,o',h,hq,hc⟩ := restore_may (targetOf rd vol) provider ⟨srcRD,snapName⟩ o habsent
      (holdingOnly_self ..) hblank
    exact ⟨false,q,o',.restored q h,hq,hc⟩
  · have hleft : provider=.lvmThick → p (freshLVName (volumeName (targetOf rd vol)))=none := by
      intro he
      subst he
      exact holdingOnly_of_ne (freshLVName_ne_snapshot _ _) o tries
    obtain ⟨q,o',h,hq,hc⟩ := createVolume_may (targetOf rd vol) provider content hb habsent hleft
    exact ⟨true,q,o',.fellBack q _ hmiss hgo h,hq,hc⟩
  · obtain ⟨q,o',h,hq,hc⟩ := recvSnapshot_may (targetOf rd vol) provider hshipper content hblank
      habsent
    exact ⟨false,q,o',.shipped q _ content hmiss hfetch hshipper hbody h,hq,hc⟩

variable (provider blank ships crossNodeFetcher) in
theorem snapshot_restore_may (tries : Nat) (taken content : α)
    (hparse : parseSourceSnapshot vol.sourceSnapshot=.ok (req.resourceName,req.snapshotName))
    (hne : volumeName (targetOf rd vol)≠
      snapshotName provider ⟨req.resourceName,req.snapshotName⟩)
    (hblank : ∃c,blank c) (htaken : snapshotted provider p req=some taken)
    (hcontent : content=taken ∨ Fallback provider blank ships crossNodeFetcher tries content) :
    ∃p1 s t o,Exec (Step blank) (createSnapshot (some provider) req) p (.ok ⟨true,false⟩) p1 ∧
      s.pool (snapshotName provider ⟨req.resourceName,req.snapshotName⟩)=
        p1 (snapshotName provider ⟨req.resourceName,req.snapshotName⟩) ∧
      s.pool (volumeName (targetOf rd vol))=none ∧
      s.restoreSnapshotMissingTries rd vol.volumeNumber=tries ∧
      Exec (NodeStep provider blank ships) (materializeVolume provider crossNodeFetcher rd vol)
        s (.ok ()) t ∧ t.pool (volumeName (targetOf rd vol))=some o ∧ o.content=content := by
  obtain ⟨p1,o,hcreate,ho,rfl⟩ := createSnapshot_may blank req taken htaken
  obtain ⟨flag,q,o',hm,hq,hc⟩ := materialized_content_may rd vol tries o content hne hblank hcontent
  obtain ⟨t,ht,_,rfl⟩ := materializeVolume_may (s := holdingOnly _ o tries) rd vol hparse hm
  exact ⟨p1,_,t,o',hcreate,(holdingOnly_self ..).trans ho.symm,holdingOnly_of_ne hne o tries,
    rfl,ht,hq,hc⟩

variable (provider blank ships crossNodeFetcher) in
/-- Whether a restore of volume `n` brings back what volume `n` of the source held when the
snapshot was taken. It does exactly when the object the snapshot call leaves, a copy of volume 0
unless its name was taken, has that content, and so has every fallback. -/
theorem restore_preserves_volume_iff (tries : Nat) (src : Obj α)
    (_hsrc : p (volumeName ⟨req.resourceName,vol.volumeNumber,0⟩)=some src)
    (hparse : parseSourceSnapshot vol.sourceSnapshot=.ok (req.resourceName,req.snapshotName))
    (hblank : ∃c,blank c) :
    (∀p1 resp,Exec (Step blank) (createSnapshot (some provider) req) p (.ok resp) p1 →
      resp.ok=true → ∀s t : Node α,
      s.pool (snapshotName provider ⟨req.resourceName,req.snapshotName⟩)=
        p1 (snapshotName provider ⟨req.resourceName,req.snapshotName⟩) →
      s.pool (volumeName (targetOf rd vol))=none →
      s.restoreSnapshotMissingTries rd vol.volumeNumber=tries →
      Exec (NodeStep provider blank ships) (materializeVolume provider crossNodeFetcher rd vol)
        s (.ok ()) t →
      ∃o,t.pool (volumeName (targetOf rd vol))=some o ∧ o.content=src.content) ↔
    volumeName (targetOf rd vol)=snapshotName provider ⟨req.resourceName,req.snapshotName⟩ ∨
      ∀taken,snapshotted provider p req=some taken → taken=src.content ∧
        ∀c,Fallback provider blank ships crossNodeFetcher tries c → c=src.content := by
  constructor
  · intro h
    by_cases hne : volumeName (targetOf rd vol)=
        snapshotName provider ⟨req.resourceName,req.snapshotName⟩
    · exact .inl hne
    refine .inr fun taken htaken => ?_
    have hall (content : α) (hc : content=taken ∨
        Fallback provider blank ships crossNodeFetcher tries content) : content=src.content := by
      obtain ⟨p1,s,t,o,hcreate,hs,habsent,htries,hm,ho,rfl⟩ :=
        snapshot_restore_may provider blank ships crossNodeFetcher req rd vol tries taken content hparse hne hblank htaken hc
      obtain ⟨o',ho',he⟩ := h p1 _ hcreate rfl s t hs habsent htries hm
      rw [ho] at ho'
      cases ho'
      exact he
    exact ⟨hall taken (.inl rfl),fun c hc => hall c (.inr hc)⟩
  · intro hcond p1 resp hcreate hok s t hs habsent htries hm
    obtain ⟨o,ho,htaken⟩ := createSnapshot_answered req resp hcreate hok
    rw [ho] at hs
    rcases hcond with he|hcond
    · rw [he,hs] at habsent
      cases habsent
    obtain ⟨hsame,hfall⟩ := hcond _ htaken
    obtain ⟨o',ho',hc⟩ := materialized_content rd vol o habsent hs
      (materializeVolume_inv rd vol hparse hm)
    rw [htries] at hc
    refine ⟨o',ho',?_⟩
    rcases hc with hc|hc
    · exact hc.trans hsame
    · exact hfall _ hc

end

def twoVolumePool : Pool String :=
  update (update (fun _ => none) "pvc-1_00001" (some ⟨"logs",1,false⟩))
    "pvc-1_00000" (some ⟨"rows",1,false⟩)

def nightlySnapshot : CreateSnapshotRequest := ⟨"pvc-1","nightly",[0,1]⟩

def restoredVolume : DesiredVolume := {volumeNumber := 1,sourceSnapshot := "pvc-1:nightly"}

def restoredFirstVolume : DesiredVolume := {restoredVolume with volumeNumber := 0}

/-- The request names volumes 0 and 1; the restore of volume 1 brings back volume 0. -/
theorem restored_volume_has_other_content : ¬∀p1 resp,
    Exec (Step (·="")) (createSnapshot (some .lvmThin) nightlySnapshot) twoVolumePool
      (.ok resp) p1 → resp.ok=true → ∀s t : Node String,
    s.pool (snapshotName .lvmThin ⟨"pvc-1","nightly"⟩)=
      p1 (snapshotName .lvmThin ⟨"pvc-1","nightly"⟩) →
    s.pool "pvc-2_00001"=none → s.restoreSnapshotMissingTries "pvc-2" 1=0 →
    Exec (NodeStep .lvmThin (·="") (fun _ => False)) (materializeVolume .lvmThin false "pvc-2"
      restoredVolume) s (.ok ()) t →
    ∃o,t.pool "pvc-2_00001"=some o ∧ o.content="logs" := by
  intro h
  obtain ⟨p1,s,t,o,hcreate,hs,habsent,htries,hm,ho,hc⟩ := snapshot_restore_may (p := twoVolumePool)
    .lvmThin (·="") (fun _ => False) false nightlySnapshot "pvc-2" restoredVolume 0 "rows" "rows"
    (by rfl) (by decide) ⟨"",rfl⟩ (by rfl) (.inl rfl)
  obtain ⟨o',ho',he⟩ := h p1 _ hcreate rfl s t hs habsent htries hm
  rw [show volumeName (targetOf "pvc-2" restoredVolume)="pvc-2_00001" by decide,ho'] at ho
  cases ho
  rw [he] at hc
  exact absurd hc (by decide)

/-- Volume 0 comes back, as long as no fallback is due. -/
theorem restored_first_volume_has_same_content : twoVolumePool "pvc-1_00000"=some ⟨"rows",1,false⟩ ∧
    ∀p1 resp,Exec (Step (·="")) (createSnapshot (some .lvmThin) nightlySnapshot) twoVolumePool
      (.ok resp) p1 → resp.ok=true → ∀s t : Node String,
    s.pool "pvc-1_nightly_00000"=p1 "pvc-1_nightly_00000" →
    s.pool "pvc-2_00000"=none → s.restoreSnapshotMissingTries "pvc-2" 0=0 →
    Exec (NodeStep .lvmThin (·="") (fun _ => False)) (materializeVolume .lvmThin false "pvc-2"
      restoredFirstVolume) s (.ok ()) t →
    ∃o,t.pool "pvc-2_00000"=some o ∧ o.content="rows" := by
  refine ⟨by decide,(restore_preserves_volume_iff (p := twoVolumePool) .lvmThin (·="")
    (fun _ => False) false nightlySnapshot "pvc-2" restoredFirstVolume 0 ⟨"rows",1,false⟩
    (by decide) (by rfl) ⟨"",rfl⟩).mpr (.inr fun taken htaken => ?_)⟩
  have hrows : snapshotted .lvmThin twoVolumePool nightlySnapshot=some "rows" := by decide
  rw [hrows] at htaken
  refine ⟨(Option.some.inj htaken).symm,fun c hc => ?_⟩
  rcases hc with ⟨hgo,_⟩|⟨hfetch,_⟩
  · exact absurd hgo (by decide)
  · cases hfetch

section

variable {α : Type} (provider : Provider) (blank ships : α → Prop) (crossNodeFetcher : Bool)

def providerKind : Provider → ProviderKind
  | .zfs false => .zfs
  | .zfs true => .zfsThin
  | .lvmThin => .lvmThin
  | .lvmThick => .lvm

structure PassInput where
  vol : DesiredVolume
  status : Status
  peerHasData : Bool
  isWinner : Bool
  skipInitialSync : Option Bool

def seedAfter (r : Reconciler) (rd : String) (i : PassInput) (t : Node α) : Option GISeed :=
  resolveVolumeSeed {r with restoreBlankFallback := t.restoreBlankFallback} i.status rd i.vol
    i.peerHasData i.isWinner i.skipInitialSync

def Evolves (s t : Node α) : Prop :=
  (∃rd vol res,Exec (NodeStep provider blank ships)
    (materializeVolume provider crossNodeFetcher rd vol) s res t) ∨
  t=⟨s.pool,fun _ _ => false,fun _ _ => 0⟩

def FallsBackBlank (rd : String) (vol : DesiredVolume) (s t : Node α) : Prop :=
  vol.sourceSnapshot≠"" ∧ s.pool (volumeName (targetOf rd vol))=none ∧
  Exec (NodeStep provider blank ships) (materializeVolume provider crossNodeFetcher rd vol)
    s (.ok ()) t ∧ t.restoreBlankFallback rd vol.volumeNumber=true

variable (r : Reconciler) (rd : String) (i : PassInput)

def WithholdsSeed : Prop :=
  i.peerHasData=true ∨ i.vol.seedFromGI="" ∧ (i.skipInitialSync≠some true ∨
    i.isWinner=false ∧ (provider=.lvmThick ∨
      anyConnectedPeerHasDataForVolume i.status i.vol.volumeNumber=true))

instance : Decidable (WithholdsSeed provider i) := inferInstanceAs (Decidable (_ ∨ _))

theorem seedAfter_withheld (hkind : r.providers i.vol.storagePool=some (providerKind provider))
    (h : WithholdsSeed provider i) (t : Node α) : seedAfter r rd i t=none := by
  rw [← Option.not_isSome_iff_eq_none,seedAfter,resolveVolumeSeed_isSome]
  intro hseed
  obtain ⟨hpeer,hseed⟩ := hseed
  rcases h with h|⟨hgi,h⟩
  · rw [h] at hpeer
    cases hpeer
  rcases hseed with hs|⟨hskip,hseed⟩
  · exact hs hgi
  rcases h with h|⟨hwinner,h⟩
  · simp [skipAllowed,h] at hskip
  rcases hseed with hw|⟨⟨kind,hk,hthin⟩,hgate⟩
  · rw [hwinner] at hw
    cases hw
  rcases h with rfl|h
  · rw [hkind] at hk
    cases hk
    cases hthin
  · rw [h] at hgate
    cases hgate

theorem seedAfter_given (hkind : r.providers i.vol.storagePool=some (providerKind provider))
    (h : ¬WithholdsSeed provider i) (t : Node α)
    (hflag : t.restoreBlankFallback rd i.vol.volumeNumber=false) : seedAfter r rd i t≠none := by
  rw [← Option.isSome_iff_ne_none,seedAfter,resolveVolumeSeed_isSome]
  simp only [WithholdsSeed,not_or,not_and,not_not,Bool.not_eq_true] at h
  obtain ⟨hpeer,h⟩ := h
  refine ⟨hpeer,?_⟩
  by_cases hgi : i.vol.seedFromGI=""
  case neg => exact .inl hgi
  obtain ⟨hskip,h⟩ := h hgi
  refine .inr ⟨by simp [skipAllowed,hskip,hflag],?_⟩
  cases hw : i.isWinner with
  | true => exact .inl rfl
  | false =>
    obtain ⟨hthick,hgate⟩ := h hw
    refine .inr ⟨⟨_,hkind,?_⟩,hgate⟩
    cases provider with
    | zfs thin => cases thin <;> rfl
    | lvmThin => rfl
    | lvmThick => exact absurd rfl hthick

theorem blank_then_restored {srcRD snapName : String} (vol : DesiredVolume)
    (hparse : parseSourceSnapshot vol.sourceSnapshot=.ok (srcRD,snapName)) (hblank : ∃c,blank c) :
    ∃s s' t,FallsBackBlank provider blank ships crossNodeFetcher rd vol s s' ∧
      Exec (NodeStep provider blank ships) (materializeVolume provider crossNodeFetcher rd vol)
        s' (.ok ()) t ∧ t.restoreBlankFallback rd vol.volumeNumber=false := by
  let s : Node α :=
    ⟨fun _ => none,fun _ _ => false,fun _ _ => restoreSnapshotMissingBudget⟩
  obtain ⟨c,hc⟩ := hblank
  obtain ⟨q,o,hcreate,ho,_⟩ := createVolume_may (p := s.pool) (targetOf rd vol) provider c hc rfl
    fun _ => rfl
  obtain ⟨s',hs',hflag,rfl⟩ := materializeVolume_may (s := s) rd vol hparse
    (.fellBack q _ (restore_missing_may (targetOf rd vol) provider ⟨srcRD,snapName⟩)
      (.inr (Nat.le_refl _)) hcreate)
  obtain ⟨t,ht,hcleared,_⟩ := materializeVolume_may (s := s') rd vol hparse
    (.restored s'.pool (restore_existing_may (targetOf rd vol) provider ⟨srcRD,snapName⟩ o ho))
  refine ⟨s,s',t,⟨?_,rfl,hs',hflag⟩,ht,hcleared⟩
  intro he
  rw [he] at hparse
  cases hparse

end

def stampedPass : PassInput where
  vol := {volumeNumber := 0,storagePool := "thin",sourceSnapshot := "pvc-1:nightly"}
  status := none
  peerHasData := false
  isWinner := false
  skipInitialSync := some true

end Blockstor.Satellite
