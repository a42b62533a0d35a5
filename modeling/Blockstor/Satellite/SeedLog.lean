import Blockstor.Satellite.MetadataLog

namespace Blockstor.Satellite

open Drbd Framework Shell List

section

variable (r : Reconciler) (status : Status) (dr : DesiredResource) (devices : Int → String)

variable (isWinner : Bool)

variable (vol : DesiredVolume) (vols : List DesiredVolume) (rd : String)

def seedOf : Option GISeed :=
  resolveVolumeSeed r status dr.name vol dr.peerHasData isWinner dr.skipInitialSync

/-- A stamp on one of `vols`: the volume has a device and the cascade gave it a seed. -/
def Stamps (x : Entry Answer) : Prop :=
  ∃vol∈vols,devices vol.volumeNumber≠"" ∧ (seedOf r status dr isWinner vol).isSome=true ∧
    ∃nodeID gi,x.1=.setGI dr.name vol.volumeNumber (devices vol.volumeNumber) nodeID gi

theorem setGIEach_emits (vol : Int) (device gi : String) (ids : List Nat) :
    Emits (setGIEach rd vol device gi ids) fun x => ∃nodeID,x.1=.setGI rd vol device nodeID gi := by
  induction ids with
  | nil => exact emits_pure _
  | cons id ids ih =>
    refine Emits.ask (fun _ => ⟨id,rfl⟩) ?_
    intro done
    cases done with
    | false => exact emits_throw
    | true => exact ih

theorem seedPerPeerGI_emits (vol : Int) (device : String) (seed : GISeed) :
    Emits (seedPerPeerGI rd vol device seed) fun x =>
      ∃nodeID gi,x.1=.setGI rd vol device nodeID gi := by
  unfold seedPerPeerGI
  split
  · exact emits_throw
  · refine (setGIEach_emits rd vol device seed.string _).mono ?_
    intro x hx
    obtain ⟨id,hx⟩ := hx
    exact ⟨id,_,hx⟩

theorem seedVolume_emits : Emits (seedVolume r status dr devices isWinner vol)
      (Stamps r status dr devices isWinner [vol]) := by
  unfold seedVolume
  dsimp only
  split
  · exact emits_pure _
  · rename_i hdevice
    split
    · exact emits_pure _
    · rename_i seed hseed
      refine (seedPerPeerGI_emits _ _ _ seed).mono ?_
      intro x hx
      refine ⟨vol,mem_singleton_self _,hdevice,?_,hx⟩
      rw [seedOf,hseed]
      rfl

theorem Stamps.mono (us vs : List DesiredVolume) (hs : ∀u∈us,u∈vs)
    (x : Entry Answer) (h : Stamps r status dr devices isWinner us x) :
    Stamps r status dr devices isWinner vs x := by
  obtain ⟨vol,hvol,h⟩ := h
  exact ⟨vol,hs vol hvol,h⟩

theorem seedEach_emits :
    Emits (seedEach r status dr devices isWinner vols)
      (Stamps r status dr devices isWinner vols) := by
  induction vols with
  | nil => exact emits_pure _
  | cons vol rest ih =>
    have hhead := (seedVolume_emits r status dr devices isWinner vol).mono
      (Stamps.mono r status dr devices isWinner [vol] (vol::rest) (by simp))
    have htail := ih.mono
      (Stamps.mono r status dr devices isWinner rest (vol::rest) (by simp_all))
    exact hhead.bind fun _ => htail

/-- A log of `ensureMetadata` is that of its loop, then marker and stamps; generations are
stamped only after the loop went through. -/
theorem ensureMetadata_runs (mdMarkerPath : String) (firstActivation : Bool) (log : Log)
    (res : Except Err Unit)
    (h : Runs (ensureMetadata r status dr devices mdMarkerPath firstActivation) log res) :
    ∃front back q,log=front++back ∧ Runs (createMissing dr.name dr.volumes) front q ∧
      ∀x∈back,(x.1=.writeMarker mdMarkerPath ∨ ∃name,x.1=.stampMetadataCreated name) ∨
        ∃fresh,q=.ok fresh ∧ (firstActivation=true ∨ fresh≠[]) ∧
          Stamps r status dr devices (isInitialUpToDateWinner dr firstActivation) dr.volumes x := by
  unfold ensureMetadata at h
  rcases runs_bind.mp h with ⟨e,hp,rfl⟩|⟨fresh,front,back,hp,h2,rfl⟩
  · exact ⟨log,[],_,(append_nil log).symm,hp,by simp⟩
  refine ⟨front,back,_,rfl,hp,?_⟩
  refine Emits.ask (fun _ => .inl (.inl rfl)) ?_ back res h2
  intro written
  cases written with
  | false => exact emits_throw
  | true =>
    have hstamp : Emits (stampMetadataCreated r dr) fun x =>
        (x.1=.writeMarker mdMarkerPath ∨ ∃name,x.1=.stampMetadataCreated name) ∨
          ∃ns,(.ok fresh : Except Err (List Int))=.ok ns ∧ (firstActivation=true ∨ ns≠[]) ∧
            Stamps r status dr devices (isInitialUpToDateWinner dr firstActivation)
              dr.volumes x := by
      unfold stampMetadataCreated
      split
      · exact Emits.ask (fun _ => .inl (.inr ⟨_,rfl⟩)) fun _ => emits_pure _
      · exact emits_pure _
    refine hstamp.bind fun _ => ?_
    split
    · exact emits_pure _
    · rename_i hgo
      refine (seedEach_emits r status dr devices _ dr.volumes).mono ?_
      intro x hx
      refine .inr ⟨fresh,rfl,?_,hx⟩
      cases firstActivation <;> simp_all

/-- The two ways a pass stamps generations: activation, and volumes added to a running
resource. -/
inductive SeedPath
  | activation (mdMarkerPath : String) (firstActivation : Bool)
  | lateAdd (diskless : Bool)

def SeedPath.prog : SeedPath → Prog Unit
  | .activation mdMarkerPath firstActivation =>
    ensureMetadata r status dr devices mdMarkerPath firstActivation
  | .lateAdd diskless => ensurePerVolumeMetadata r status dr devices diskless

/-- The election of the path; the late-add path does nothing on a diskless replica or without
the DRBD tools. -/
def SeedPath.winner : SeedPath → Bool
  | .activation _ firstActivation => isInitialUpToDateWinner dr firstActivation
  | .lateAdd diskless => !diskless && r.adm && isLateAddWinner dr

theorem SeedPath.stamps (path : SeedPath) : Emits (path.prog r status dr devices) fun x =>
    x.1.isSetGI=true → Stamps r status dr devices (path.winner r dr) dr.volumes x := by
  have hloop : Emits (createMissing dr.name dr.volumes) fun x => x.1.isSetGI=true →
      Stamps r status dr devices (path.winner r dr) dr.volumes x := by
    refine (createMissing_emits dr.name dr.volumes).mono fun x hx hs => ?_
    rw [hx.isSetGI] at hs
    cases hs
  cases path with
  | activation mdMarkerPath firstActivation =>
    intro log res h x hx hs
    obtain ⟨front,back,q,rfl,hfront,hback⟩ :=
      ensureMetadata_runs r status dr devices mdMarkerPath firstActivation log res h
    rcases mem_append.mp hx with hx|hx
    · exact hloop front q hfront x hx hs
    · rcases hback x hx with (hc|⟨name,hc⟩)|⟨_,_,_,hstamp⟩
      · rw [hc] at hs
        cases hs
      · rw [hc] at hs
        cases hs
      · exact hstamp
  | lateAdd diskless =>
    unfold SeedPath.prog ensurePerVolumeMetadata
    cases diskless with
    | true => exact emits_pure _
    | false =>
      cases hadm : r.adm with
      | false => exact emits_pure _
      | true =>
        refine Emits.ask (fun _ hs => by cases hs) ?_
        intro rendered
        cases rendered with
        | false => exact emits_throw
        | true =>
          refine hloop.bind fun fresh => ?_
          split
          · exact emits_pure _
          · refine (seedEach_emits r status dr devices (isLateAddWinner dr) _).mono ?_
            intro x hx _
            have hw : SeedPath.winner r dr (.lateAdd false)=isLateAddWinner dr := by
              simp [SeedPath.winner,hadm]
            rw [hw]
            exact Stamps.mono r status dr devices _ _ dr.volumes
              (fun u hu => (mem_filter.mp hu).1) x hx

end

/-- Answers of an environment in which every command works and exactly the volumes of `existing`
have metadata. -/
def smoothAnswers (existing : Int → Bool) : ∀c,Answer c
  | .hasMD _ vol => if existing vol then .present else .absent
  | .recordedGIs _ _ => none
  | .applyAL _ _ => true
  | .metadataUUIDs _ _ => none
  | .createMD _ _ => .ok
  | .resourceOwningMinor _ => none
  | .setupDown _ => true
  | .renderResFile _ => true
  | .writeMarker _ => true
  | .stampMetadataCreated _ => true
  | .setGI _ _ _ _ _ => true

section

variable (r : Reconciler) (status : Status) (dr : DesiredResource) (devices : Int → String)
  (existing : Int → Bool)

variable (rd : String) (vol : DesiredVolume)

theorem probeMetadata_eval : (probeMetadata rd vol).eval (smoothAnswers existing)=
      ([⟨.hasMD rd vol.volumeNumber,if existing vol.volumeNumber then .present else .absent⟩],
        .ok (existing vol.volumeNumber)) := by
  unfold probeMetadata
  rw [eval_ask]
  cases h : existing vol.volumeNumber <;> simp [smoothAnswers,h]

theorem createIfMissing_eval : (createIfMissing rd vol).eval (smoothAnswers existing)=
      (⟨.hasMD rd vol.volumeNumber,if existing vol.volumeNumber then .present else .absent⟩::
        (if existing vol.volumeNumber then [] else [⟨.createMD rd vol.volumeNumber,.ok⟩]),
        .ok !existing vol.volumeNumber) := by
  have hp := probeMetadata_eval existing rd vol
  unfold createIfMissing
  rw [eval_bind_ok _ _ _ _ (congrArg Prod.snd hp),hp]
  cases existing vol.volumeNumber
  · rfl
  · rfl

variable (isWinner : Bool) (vols : List DesiredVolume)

theorem createMissing_eval :
    ((createMissing rd vols).eval (smoothAnswers existing)).2=
      .ok ((vols.map DesiredVolume.volumeNumber).filter fun n => !existing n) ∧
    ∀vol∈vols,∀x∈((createIfMissing rd vol).eval (smoothAnswers existing)).1,
      x∈((createMissing rd vols).eval (smoothAnswers existing)).1 := by
  induction vols with
  | nil => exact ⟨rfl,by simp⟩
  | cons vol rest ih =>
    have hone := createIfMissing_eval existing rd vol
    unfold createMissing
    rw [eval_bind_ok _ _ _ _ (congrArg Prod.snd hone),eval_bind_ok _ _ _ _ ih.1]
    refine ⟨?_,?_⟩
    · cases h : existing vol.volumeNumber <;> simp [h]
    · intro u hu x hx
      simp only [mem_append]
      rcases mem_cons.mp hu with rfl|hu
      · exact .inl hx
      · exact .inr (.inl (ih.2 u hu x hx))

theorem setGIEach_eval (vol : Int) (device gi : String) (ids : List Nat) :
    (setGIEach rd vol device gi ids).eval (smoothAnswers existing)=
      (ids.map fun id => ⟨.setGI rd vol device id gi,true⟩,.ok ()) := by
  induction ids with
  | nil => rfl
  | cons id ids ih =>
    unfold setGIEach
    rw [eval_ask]
    simp only [smoothAnswers,ih,map_cons]

theorem seedVolume_eval (vol : DesiredVolume) :
    ((seedVolume r status dr devices isWinner vol).eval (smoothAnswers existing)).2=.ok () := by
  unfold seedVolume
  dsimp only
  split
  · rfl
  · split
    · rfl
    · rename_i seed hseed
      unfold seedPerPeerGI
      rw [resolveVolumeSeed_validate _ _ _ _ _ _ _ seed hseed]
      exact congrArg Prod.snd (setGIEach_eval existing _ _ _ _ _)

theorem seedVolume_eval_mem (vol : DesiredVolume)
    (hdevice : devices vol.volumeNumber≠"")
    (hseed : (seedOf r status dr isWinner vol).isSome=true) :
    ∃gi,⟨.setGI dr.name vol.volumeNumber (devices vol.volumeNumber) 0 gi,true⟩∈
      ((seedVolume r status dr devices isWinner vol).eval (smoothAnswers existing)).1 := by
  obtain ⟨seed,hs⟩ := Option.isSome_iff_exists.mp hseed
  have hs' : resolveVolumeSeed r status dr.name vol dr.peerHasData isWinner
      dr.skipInitialSync=some seed := hs
  refine ⟨seed.string,?_⟩
  unfold seedVolume
  simp only [hdevice,if_false,hs']
  unfold seedPerPeerGI
  rw [resolveVolumeSeed_validate _ _ _ _ _ _ _ seed hs']
  dsimp only
  rw [setGIEach_eval]
  apply mem_map.mpr
  exact ⟨0,by decide,rfl⟩

theorem seedEach_eval :
    ((seedEach r status dr devices isWinner vols).eval (smoothAnswers existing)).2=.ok () ∧
    ∀vol∈vols,∀x∈((seedVolume r status dr devices isWinner vol).eval (smoothAnswers existing)).1,
      x∈((seedEach r status dr devices isWinner vols).eval (smoothAnswers existing)).1 := by
  induction vols with
  | nil => exact ⟨rfl,by simp⟩
  | cons vol rest ih =>
    unfold seedEach
    rw [eval_bind_ok _ _ _ _ (seedVolume_eval r status dr devices existing isWinner vol)]
    refine ⟨ih.1,?_⟩
    intro u hu x hx
    apply mem_append.mpr
    rcases mem_cons.mp hu with rfl|hu
    · exact .inl hx
    · exact .inr (ih.2 u hu x hx)

theorem ensureMetadata_eval (mdMarkerPath : String) (firstActivation : Bool) (vol : DesiredVolume)
    (hvol : vol∈dr.volumes)
    (hgo : firstActivation=true ∨ ∃u∈dr.volumes,existing u.volumeNumber=false)
    (x : Entry Answer)
    (hx : x∈((createIfMissing dr.name vol).eval (smoothAnswers existing)).1 ∨
      x∈((seedVolume r status dr devices (isInitialUpToDateWinner dr firstActivation)
        vol).eval (smoothAnswers existing)).1) :
    x∈((ensureMetadata r status dr devices mdMarkerPath firstActivation).eval
      (smoothAnswers existing)).1 := by
  have hloop := createMissing_eval existing dr.name dr.volumes
  have hseed := seedEach_eval r status dr devices existing
    (isInitialUpToDateWinner dr firstActivation) dr.volumes
  have hstamp : ((stampMetadataCreated r dr).eval (smoothAnswers existing)).2=.ok () := by
    unfold stampMetadataCreated
    split <;> rfl
  have hpass : (!firstActivation &&
      ((dr.volumes.map DesiredVolume.volumeNumber).filter fun n => !existing n).isEmpty)=false := by
    rcases hgo with rfl|⟨u,hu,he⟩
    · rfl
    · rw [Bool.and_eq_false_iff]
      right
      rw [isEmpty_eq_false_iff]
      apply ne_nil_of_mem (a := u.volumeNumber)
      exact mem_filter.mpr ⟨mem_map_of_mem hu,by simp [he]⟩
  unfold ensureMetadata
  rw [eval_bind_ok _ _ _ _ hloop.1,eval_ask]
  simp only [smoothAnswers]
  rw [eval_bind_ok _ _ _ _ hstamp]
  simp only [hpass,Bool.false_eq_true,if_false]
  apply mem_append.mpr
  rcases hx with hx|hx
  · exact .inl (hloop.2 vol hvol x hx)
  · right
    apply mem_cons_of_mem
    apply mem_append_right
    exact hseed.2 vol hvol x hx

theorem ensurePerVolumeMetadata_eval (hadm : r.adm=true) (vol : DesiredVolume)
    (hvol : vol∈dr.volumes) (hnew : existing vol.volumeNumber=false) (x : Entry Answer)
    (hx : x∈((createIfMissing dr.name vol).eval (smoothAnswers existing)).1 ∨
      x∈((seedVolume r status dr devices (isLateAddWinner dr) vol).eval
        (smoothAnswers existing)).1) :
    x∈((ensurePerVolumeMetadata r status dr devices false).eval (smoothAnswers existing)).1 := by
  have hloop := createMissing_eval existing dr.name dr.volumes
  have hfresh : vol.volumeNumber∈
      (dr.volumes.map DesiredVolume.volumeNumber).filter fun n => !existing n :=
    mem_filter.mpr ⟨mem_map_of_mem hvol,by simp [hnew]⟩
  have hsome : ((dr.volumes.map DesiredVolume.volumeNumber).filter
      fun n => !existing n).isEmpty=false :=
    isEmpty_eq_false_iff.mpr (ne_nil_of_mem hfresh)
  unfold ensurePerVolumeMetadata
  simp only [hadm,Bool.false_eq_true,Bool.not_true,if_false]
  rw [eval_ask]
  simp only [smoothAnswers]
  rw [eval_bind_ok _ _ _ _ hloop.1]
  simp only [hsome,Bool.false_eq_true,if_false]
  apply mem_cons_of_mem
  apply mem_append.mpr
  rcases hx with hx|hx
  · exact .inl (hloop.2 vol hvol x hx)
  · right
    refine (seedEach_eval r status dr devices existing _ _).2 vol ?_ x hx
    exact mem_filter.mpr ⟨hvol,by simpa using hfresh⟩

end

end Blockstor.Satellite
