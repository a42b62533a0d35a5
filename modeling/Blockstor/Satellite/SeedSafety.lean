import Blockstor.Satellite.SeedLog

namespace Blockstor.Satellite

open Drbd Framework Shell

section

variable (r : Reconciler) (status : Status) (dr : DesiredResource) (devices : Int → String)

/-- With another volume to create, a pass after the first activation stamps a volume that has
metadata, a device and a seed. -/
theorem existing_restamped (mdMarkerPath : String) (vol u : DesiredVolume)
    (hvol : vol∈dr.volumes) (hu : u∈dr.volumes) (hne : u≠vol)
    (hdevice : devices vol.volumeNumber≠"")
    (hseed : (seedOf r status dr false vol).isSome=true) :
    ∃log res,Runs (ensureMetadata r status dr devices mdMarkerPath false) log res ∧
      Existed dr.name vol log ∧ RanSetGI dr.name vol.volumeNumber log := by
  let existing : Int → Bool := fun n => n=vol.volumeNumber
  have hex : existing vol.volumeNumber=true := by simp [existing]
  have hgo : false=true ∨ ∃u∈dr.volumes,existing u.volumeNumber=false := by
    refine .inr ⟨u,hu,?_⟩
    have hn : u.volumeNumber≠vol.volumeNumber := fun h => hne (dr.eq_of_number hu hvol h)
    simp [existing,hn]
  have hmem := ensureMetadata_eval r status dr devices existing mdMarkerPath false vol hvol hgo
  refine ⟨_,_,runs_eval (smoothAnswers existing) _,.inl ?_,?_⟩
  · apply hmem
    left
    rw [createIfMissing_eval,hex]
    exact List.mem_cons_self
  · have hw : isInitialUpToDateWinner dr false=false := rfl
    obtain ⟨gi,hgi⟩ := seedVolume_eval_mem r status dr devices existing false vol hdevice hseed
    rw [hw] at hmem
    exact ⟨_,_,_,_,hmem _ (.inr hgi)⟩

def thinSatellite : Reconciler where
  adm := true
  metadataCreatedStamper := true
  providers := fun _ => some .lvmThin
  restoreBlankFallback := fun _ _ => false

/-- Volume 1 next to volume 0 of a running resource, on the replica with the lowest node-id. -/
def grownResource : DesiredResource where
  name := "pvc-1"
  nodeName := "worker-1"
  volumes := [{volumeNumber := 0,storagePool := "thin"},{volumeNumber := 1,storagePool := "thin"}]
  peers := [{name := "worker-2",nodeID := some 1}]
  drbdOptions := fun key => if key="node-id" then some "0" else none
  peerHasData := false
  skipInitialSync := some true
  distinct := by decide

/-- Volume 0 has metadata, volume 1 does not: the same pass creates it for 1 and stamps a new
generation on 0. -/
theorem grown_resource_restamps_existing : ¬∀log res,
    Runs (ensureMetadata thinSatellite none grownResource (fun _ => "/dev/vg/lv")
      "/state/pvc-1.md-created" false) log res →
    Existed "pvc-1" {volumeNumber := 0,storagePool := "thin"} log →
    ¬RanCreateMD "pvc-1" 0 log ∧ ¬RanSetGI "pvc-1" 0 log := by
  intro h
  obtain ⟨log,res,hrun,hex,hset⟩ := existing_restamped thinSatellite none grownResource
    (fun _ => "/dev/vg/lv") "/state/pvc-1.md-created" {volumeNumber := 0,storagePool := "thin"}
    {volumeNumber := 1,storagePool := "thin"} (by decide) (by decide) (by decide) (by decide)
    (by decide)
  exact (h log res hrun hex).2 hset

/-- Whether a later `ensureMetadata` leaves the metadata of a volume alone, over every outcome of
the commands: it does exactly when the resource has no other volume, the volume has no device, or
the cascade gives it no seed. -/
theorem ensureMetadata_keeps_existing_iff (mdMarkerPath : String) (vol : DesiredVolume)
    (hvol : vol∈dr.volumes) :
    (∀log res,Runs (ensureMetadata r status dr devices mdMarkerPath false) log res →
      Existed dr.name vol log → ¬RanCreateMD dr.name vol.volumeNumber log ∧
        ¬RanSetGI dr.name vol.volumeNumber log) ↔
    (∀u∈dr.volumes,u=vol) ∨ devices vol.volumeNumber="" ∨
      resolveVolumeSeed r status dr.name vol dr.peerHasData false dr.skipInitialSync=none := by
  constructor
  · intro h
    by_contra hcond
    simp only [not_or,not_forall] at hcond
    obtain ⟨⟨u,hu,hne⟩,hdevice,hseed⟩ := hcond
    obtain ⟨log,res,hrun,hex,hset⟩ := existing_restamped r status dr devices mdMarkerPath vol u
      hvol hu hne hdevice (Option.isSome_iff_ne_none.mpr hseed)
    exact (h log res hrun hex).2 hset
  · intro hcond log res hrun hex
    obtain ⟨front,back,q,rfl,hfront,hback⟩ :=
      ensureMetadata_runs r status dr devices mdMarkerPath false log res hrun
    have hspec := createMissing_spec dr.name dr.volumes dr.distinct front q hfront
    have hex' : Existed dr.name vol front := by
      refine (existed_append_left _ _ _ _ ?_).mp hex
      intro x hx hprobe
      rcases hback x hx with (hc|⟨name,hc⟩)|⟨_,_,_,_,_,_,_,_,_,hc⟩ <;> rw [hc] at hprobe <;>
        cases hprobe
    refine ⟨?_,?_⟩
    · intro hc
      obtain ⟨a,ha⟩ := hc
      rcases List.mem_append.mp ha with ha|ha
      · exact hspec.created vol hvol ⟨a,ha⟩ hex'
      · rcases hback _ ha with (hc|⟨name,hc⟩)|⟨_,_,_,_,_,_,_,_,_,hc⟩ <;> cases hc
    · intro hs
      obtain ⟨device,id,gi,a,ha⟩ := hs
      rcases List.mem_append.mp ha with ha|ha
      · cases (createMissing_emits _ _ _ _ hfront _ ha).isSetGI
      rcases hback _ ha with (hc|⟨name,hc⟩)|⟨fresh,rfl,hfresh,u,hu,hdevice,hseed,_,_,hc⟩
      · cases hc
      · cases hc
      have hn : vol.volumeNumber=u.volumeNumber := (Cmd.setGI.inj hc).2.1
      obtain rfl := dr.eq_of_number hvol hu hn
      rcases hcond with honly|hno|hno
      · -- The only volume existed, so nothing was fresh and the pass ends before seeding.
        rcases hfresh with hfa|hne
        · cases hfa
        obtain ⟨n,hn⟩ := List.exists_mem_of_ne_nil fresh hne
        obtain ⟨v,hv,_,hno⟩ := (hspec.fresh fresh rfl n).mp hn
        rw [honly v hv] at hno
        exact hno hex'
      · exact hdevice hno
      · change (resolveVolumeSeed _ _ _ _ _ _ _).isSome=true at hseed
        have hw : isInitialUpToDateWinner dr false=false := rfl
        rw [hw,hno] at hseed
        cases hseed

def singleVolume : DesiredResource where
  name := "pvc-2"
  nodeName := "worker-1"
  volumes := [{volumeNumber := 0,storagePool := "thin"}]
  peers := []
  drbdOptions := fun _ => none
  peerHasData := false
  skipInitialSync := some true
  distinct := by decide

theorem single_volume_keeps_existing :
    {volumeNumber := 0,storagePool := "thin"}∈singleVolume.volumes ∧
    ∀log res,Runs (ensureMetadata thinSatellite none singleVolume (fun _ => "/dev/vg/lv")
        "/state/pvc-2.md-created" false) log res →
      Existed "pvc-2" {volumeNumber := 0,storagePool := "thin"} log →
      ¬RanCreateMD "pvc-2" 0 log ∧ ¬RanSetGI "pvc-2" 0 log :=
  ⟨by decide,(ensureMetadata_keeps_existing_iff thinSatellite none singleVolume
    (fun _ => "/dev/vg/lv") "/state/pvc-2.md-created" {volumeNumber := 0,storagePool := "thin"}
    (by decide)).mpr (.inl (by decide))⟩

theorem winner_stamped (path : SeedPath) (vol : DesiredVolume) (hvol : vol∈dr.volumes)
    (hwinner : path.winner r dr=true)
    (hskip : skipAllowed r dr.name vol dr.skipInitialSync=true) (hpeer : dr.peerHasData=false)
    (hdevice : devices vol.volumeNumber≠"") :
    ∃log res,Runs (path.prog r status dr devices) log res ∧
      Created dr.name vol.volumeNumber log ∧ RanSetGI dr.name vol.volumeNumber log := by
  let existing : Int → Bool := fun _ => false
  have hcreate : ⟨.createMD dr.name vol.volumeNumber,.ok⟩∈
      ((createIfMissing dr.name vol).eval (smoothAnswers existing)).1 := by
    rw [createIfMissing_eval]
    simp [existing]
  have hsome (isWinner : Bool) (hw : isWinner=true) :
      (seedOf r status dr isWinner vol).isSome=true := by
    apply (resolveVolumeSeed_isSome _ _ _ _ _ _ _).mpr
    exact ⟨hpeer,.inr ⟨hskip,.inl hw⟩⟩
  cases path with
  | activation mdMarkerPath firstActivation =>
    have hfirst : firstActivation=true := by
      simp only [SeedPath.winner,isInitialUpToDateWinner,Bool.and_eq_true] at hwinner
      exact hwinner.1.1
    have hmem := ensureMetadata_eval r status dr devices existing mdMarkerPath firstActivation
      vol hvol (.inl hfirst)
    obtain ⟨gi,hgi⟩ := seedVolume_eval_mem r status dr devices existing _ vol hdevice
      (hsome _ hwinner)
    exact ⟨_,_,runs_eval (smoothAnswers existing) _,hmem _ (.inl hcreate),_,_,_,_,
      hmem _ (.inr hgi)⟩
  | lateAdd diskless =>
    simp only [SeedPath.winner,Bool.and_eq_true,Bool.not_eq_true'] at hwinner
    obtain ⟨⟨rfl,hadm⟩,hlate⟩ := hwinner
    have hmem := ensurePerVolumeMetadata_eval r status dr devices existing hadm vol hvol rfl
    obtain ⟨gi,hgi⟩ := seedVolume_eval_mem r status dr devices existing _ vol hdevice
      (hsome _ hlate)
    exact ⟨_,_,runs_eval (smoothAnswers existing) _,hmem _ (.inl hcreate),_,_,_,_,
      hmem _ (.inr hgi)⟩

def peerUpToDate : Status :=
  some [⟨[⟨.connected,[⟨1,.upToDate⟩]⟩]⟩]

/-- Volume 1 is re-created on the replica with the lowest node-id while its peer is connected with
the data: the replica stamps itself up to date. -/
theorem late_add_winner_seeds_over_peer : ¬∀log res,
    Runs ((SeedPath.lateAdd false).prog thinSatellite peerUpToDate grownResource
      fun _ => "/dev/vg/lv") log res →
    Created "pvc-1" 1 log →
    grownResource.peerHasData=true ∨ ConnectedPeerHasData peerUpToDate 1 →
    ¬RanSetGI "pvc-1" 1 log := by
  intro h
  have hdata : ConnectedPeerHasData peerUpToDate 1 :=
    ⟨_,[],rfl,_,List.mem_singleton_self _,rfl,⟨1,.upToDate⟩,List.mem_singleton_self _,rfl,rfl⟩
  obtain ⟨log,res,hrun,hcreated,hset⟩ := winner_stamped thinSatellite peerUpToDate grownResource
    (fun _ => "/dev/vg/lv") (.lateAdd false) {volumeNumber := 1,storagePool := "thin"}
    (by decide) (by decide) (by decide) rfl (by decide)
  exact h log res hrun hcreated (.inr hdata) hset

/-- Whether no generation is ever stamped over a peer's data on a volume created in the pass,
over every outcome of the commands: it is so exactly when the volume does not meet the winner
branch, which returns before the kernel gate, while the kernel shows that data. -/
theorem no_seed_over_peer_data_iff (path : SeedPath) (vol : DesiredVolume)
    (hvol : vol∈dr.volumes) (hfrom : vol.seedFromGI="") :
    (∀log res,Runs (path.prog r status dr devices) log res →
      Created dr.name vol.volumeNumber log →
      dr.peerHasData=true ∨ ConnectedPeerHasData status vol.volumeNumber →
      ¬RanSetGI dr.name vol.volumeNumber log) ↔
    ¬(path.winner r dr=true ∧ skipAllowed r dr.name vol dr.skipInitialSync=true ∧
      dr.peerHasData=false ∧ devices vol.volumeNumber≠"" ∧
      ConnectedPeerHasData status vol.volumeNumber) := by
  constructor
  · intro h hbad
    obtain ⟨hwinner,hskip,hpeer,hdevice,hdata⟩ := hbad
    obtain ⟨log,res,hrun,hcreated,hset⟩ :=
      winner_stamped r status dr devices path vol hvol hwinner hskip hpeer hdevice
    exact h log res hrun hcreated (.inr hdata) hset
  · intro hgood log res hrun _ hdata hset
    obtain ⟨device,id,gi,a,ha⟩ := hset
    obtain ⟨u,hu,hdevice,hseed,_,_,hc⟩ :=
      path.stamps r status dr devices log res hrun _ ha rfl
    obtain rfl := dr.eq_of_number hvol hu (Cmd.setGI.inj hc).2.1
    obtain ⟨hpeer,hbranch⟩ := (resolveVolumeSeed_isSome _ _ _ _ _ _ _).mp hseed
    have hshown : ConnectedPeerHasData status vol.volumeNumber := by
      rcases hdata with hdata|hdata
      · rw [hpeer] at hdata
        cases hdata
      · exact hdata
    rcases hbranch with hfrom'|⟨hskip,hwinner|⟨_,hgate⟩⟩
    · exact hfrom' hfrom
    · exact hgood ⟨hwinner,hskip,hpeer,hdevice,hshown⟩
    · rw [hshown.gate] at hgate
      cases hgate

theorem activation_without_election_never_seeds_over_peer :
    {volumeNumber := 1,storagePool := "thin"}∈grownResource.volumes ∧
    ∀log res,Runs ((SeedPath.activation "/state/pvc-1.md-created" false).prog thinSatellite
        peerUpToDate grownResource fun _ => "/dev/vg/lv") log res →
      Created "pvc-1" 1 log →
      grownResource.peerHasData=true ∨ ConnectedPeerHasData peerUpToDate 1 →
      ¬RanSetGI "pvc-1" 1 log := by
  refine ⟨by decide,(no_seed_over_peer_data_iff thinSatellite peerUpToDate grownResource
    (fun _ => "/dev/vg/lv") (.activation "/state/pvc-1.md-created" false)
    {volumeNumber := 1,storagePool := "thin"} (by decide) rfl).mpr ?_⟩
  intro h
  exact absurd h.1 (by decide)

end

end Blockstor.Satellite
