import Blockstor.Satellite.Metadata

namespace Blockstor.Satellite

open Drbd Framework Shell List

variable {ns ms : List Int} {rd : String}

def Cmd.probes : Cmd → Option (String × Int)
  | .hasMD rd vol => some (rd,vol)
  | .recordedGIs rd vol => some (rd,vol)
  | .applyAL rd vol => some (rd,vol)
  | .metadataUUIDs rd vol => some (rd,vol)
  | _ => none

def Cmd.isSetGI : Cmd → Bool
  | .setGI _ _ _ _ _ => true
  | _ => false

/-- Metadata of the volume was there when the pass started: readable, or unclean and repaired as
the volume's own. -/
def Existed (rd : String) (vol : DesiredVolume) (log : Log) : Prop :=
  ⟨.hasMD rd vol.volumeNumber,.present⟩∈log ∨
  (⟨.hasMD rd vol.volumeNumber,.unclean⟩∈log ∧ ∃recorded onDisk,
    ⟨.recordedGIs rd vol.volumeNumber,some recorded⟩∈log ∧
    ⟨.applyAL rd vol.volumeNumber,true⟩∈log ∧
    ⟨.metadataUUIDs rd vol.volumeNumber,some onDisk⟩∈log ∧
    anySameGeneration onDisk (knownGIs vol recorded)=true)

def Created (rd : String) (vol : Int) (log : Log) : Prop := ⟨.createMD rd vol,.ok⟩∈log

def RanCreateMD (rd : String) (vol : Int) (log : Log) : Prop := ∃a,⟨.createMD rd vol,a⟩∈log

def RanSetGI (rd : String) (vol : Int) (log : Log) : Prop :=
  ∃device nodeID gi a,⟨.setGI rd vol device nodeID gi,a⟩∈log

theorem existed_congr (rd : String) (vol : DesiredVolume) (log log' : Log)
    (h : ∀x : Entry Answer,x.1.probes=some (rd,vol.volumeNumber) → (x∈log ↔ x∈log')) :
    Existed rd vol log ↔ Existed rd vol log' := by
  unfold Existed
  rw [h ⟨.hasMD rd vol.volumeNumber,.present⟩ rfl,h ⟨.hasMD rd vol.volumeNumber,.unclean⟩ rfl,
    h ⟨.applyAL rd vol.volumeNumber,true⟩ rfl]
  have hr (l : List String) := h ⟨.recordedGIs rd vol.volumeNumber,some l⟩ rfl
  have hm (l : List String) := h ⟨.metadataUUIDs rd vol.volumeNumber,some l⟩ rfl
  simp only [hr,hm]

theorem existed_append_left (rd : String) (vol : DesiredVolume) (front back : Log)
    (h : ∀x∈back,x.1.probes≠some (rd,vol.volumeNumber)) :
    Existed rd vol (front++back) ↔ Existed rd vol front := by
  apply existed_congr
  intro x hx
  have hb : x∉back := fun hm => h x hm hx
  simp [hb]

theorem existed_append_right (rd : String) (vol : DesiredVolume) (front back : Log)
    (h : ∀x∈front,x.1.probes≠some (rd,vol.volumeNumber)) :
    Existed rd vol (front++back) ↔ Existed rd vol back := by
  apply existed_congr
  intro x hx
  have hf : x∉front := fun hm => h x hm hx
  simp [hf]

theorem repair_emits (rd : String) (vol : DesiredVolume) :
    Emits (repairUncleanMetadata rd vol) fun x =>
      x.1.probes=some (rd,vol.volumeNumber) ∧ x.1≠.hasMD rd vol.volumeNumber := by
  unfold repairUncleanMetadata
  refine Emits.ask (fun _ => ⟨rfl,by simp⟩) ?_
  intro recorded
  cases recorded with
  | none => exact emits_throw
  | some recorded =>
    dsimp only
    split
    · exact emits_pure _
    refine Emits.ask (fun _ => ⟨rfl,by simp⟩) ?_
    intro applied
    cases applied with
    | false => exact emits_throw
    | true =>
      refine Emits.ask (fun _ => ⟨rfl,by simp⟩) ?_
      intro onDisk
      cases onDisk with
      | none => exact emits_throw
      | some onDisk => exact emits_pure _

theorem probe_emits (rd : String) (vol : DesiredVolume) :
    Emits (probeMetadata rd vol) fun x => x.1.probes=some (rd,vol.volumeNumber) := by
  unfold probeMetadata
  refine Emits.ask (fun _ => rfl) ?_
  intro has
  cases has with
  | present => exact emits_pure _
  | absent => exact emits_pure _
  | unclean => exact (repair_emits rd vol).mono fun _ h => h.1
  | failed => exact emits_throw

theorem repair_ok (rd : String) (vol : DesiredVolume) (log : Log) (b : Bool)
    (h : Runs (repairUncleanMetadata rd vol) log (.ok b)) :
    b=true ↔ ∃recorded onDisk,⟨.recordedGIs rd vol.volumeNumber,some recorded⟩∈log ∧
      ⟨.applyAL rd vol.volumeNumber,true⟩∈log ∧
      ⟨.metadataUUIDs rd vol.volumeNumber,some onDisk⟩∈log ∧
      anySameGeneration onDisk (knownGIs vol recorded)=true := by
  unfold repairUncleanMetadata at h
  obtain ⟨recorded,afterRecord,rfl,h1⟩ := runs_ask.mp h
  cases recorded with
  | none => cases h1
  | some recorded =>
    dsimp only at h1
    split at h1
    · cases h1
      simp
    obtain ⟨applied,afterApply,rfl,h2⟩ := runs_ask.mp h1
    cases applied with
    | false => cases h2
    | true =>
      obtain ⟨onDisk,afterDump,rfl,h3⟩ := runs_ask.mp h2
      cases onDisk with
      | none => cases h3
      | some onDisk =>
        cases h3
        simp

theorem probe_ok (rd : String) (vol : DesiredVolume) (log : Log) (b : Bool)
    (h : Runs (probeMetadata rd vol) log (.ok b)) : b=true ↔ Existed rd vol log := by
  unfold probeMetadata at h
  obtain ⟨has,rest,rfl,h1⟩ := runs_ask.mp h
  cases has with
  | present =>
    cases h1
    simp [Existed]
  | absent =>
    cases h1
    simp [Existed]
  | failed => cases h1
  | unclean =>
    have hp : ⟨.hasMD rd vol.volumeNumber,.present⟩∉rest :=
      fun hm => (repair_emits rd vol rest _ h1 _ hm).2 rfl
    rw [repair_ok rd vol rest b h1]
    simp [Existed,hp]

/-- Commands of the loop that probes and creates: they reach metadata of the given volumes
only, and never stamp a generation. -/
def Cmd.SetsUp (rd : String) (numbers : List Int) (c : Cmd) : Prop :=
  (∃n∈numbers,c.probes=some (rd,n) ∨ c=.createMD rd n) ∨
  (∃minor,c=.resourceOwningMinor minor) ∨ ∃owner,c=.setupDown owner

theorem Cmd.SetsUp.mono {c : Cmd} (h : c.SetsUp rd ns) (hs : ∀n∈ns,n∈ms) : c.SetsUp rd ms := by
  rcases h with ⟨n,hn,h⟩|h
  · exact .inl ⟨n,hs n hn,h⟩
  · exact .inr h

theorem Cmd.SetsUp.probes {c : Cmd} (h : c.SetsUp rd ns) {n : Int}
    (hn : n∉ns) : c.probes≠some (rd,n) := by
  intro hp
  rcases h with ⟨m,hm,h|h⟩|⟨m,rfl⟩|⟨o,rfl⟩
  · rw [h] at hp
    cases hp
    exact hn hm
  · subst h
    cases hp
  · cases hp
  · cases hp

theorem Cmd.SetsUp.createMD {n : Int} (h : (Cmd.createMD rd n).SetsUp rd ns) : n∈ns := by
  rcases h with ⟨m,hm,h|h⟩|⟨m,h⟩|⟨o,h⟩
  · cases h
  · cases h
    exact hm
  · cases h
  · cases h

theorem Cmd.SetsUp.isSetGI {c : Cmd} (h : c.SetsUp rd ns) : c.isSetGI=false := by
  rcases h with ⟨m,_,h|h⟩|⟨m,h⟩|⟨o,h⟩
  · cases c <;> first | rfl | cases h
  all_goals
    subst h
    rfl

theorem create_emits (rd : String) (vol : Int) :
    Emits (createMDWithCollisionRecovery rd vol) fun x => x.1=.createMD rd vol ∨
      (∃minor,x.1=.resourceOwningMinor minor) ∨ ∃owner,x.1=.setupDown owner := by
  unfold createMDWithCollisionRecovery
  refine Emits.ask (fun _ => .inl rfl) ?_
  intro first
  match first with
  | .ok => exact emits_pure _
  | .failed none => exact emits_throw
  | .failed (some minor) =>
    refine Emits.ask (fun _ => .inr (.inl ⟨minor,rfl⟩)) ?_
    intro owner
    match owner with
    | none => exact emits_throw
    | some owner =>
      dsimp only
      split
      · exact emits_throw
      refine Emits.ask (fun _ => .inr (.inr ⟨owner,rfl⟩)) ?_
      intro down
      match down with
      | false => exact emits_throw
      | true =>
        refine Emits.ask (fun _ => .inl rfl) ?_
        intro second
        match second with
        | .ok => exact emits_pure _
        | .failed _ => exact emits_throw

theorem createIfMissing_spec (rd : String) (vol : DesiredVolume) (log : Log) (r : Except Err Bool)
    (h : Runs (createIfMissing rd vol) log r) :
    (∀x∈log,x.1.SetsUp rd [vol.volumeNumber]) ∧
    (RanCreateMD rd vol.volumeNumber log → ¬Existed rd vol log) ∧
    ∀b,r=.ok b → (b=true ↔ ¬Existed rd vol log) := by
  have probed (l : Log) (q : Except Err Bool) (hr : Runs (probeMetadata rd vol) l q) :
      ∀x∈l,x.1.SetsUp rd [vol.volumeNumber] :=
    fun x hx => .inl ⟨_,mem_singleton_self _,.inl (probe_emits rd vol l q hr x hx)⟩
  have uncreated (l : Log) (q : Except Err Bool) (hr : Runs (probeMetadata rd vol) l q) :
      ¬RanCreateMD rd vol.volumeNumber l := by
    intro hc
    obtain ⟨a,ha⟩ := hc
    cases probe_emits rd vol l q hr _ ha
  unfold createIfMissing at h
  rcases runs_bind.mp h with ⟨e,hp,rfl⟩|⟨hasMD,front,back,hp,h2,rfl⟩
  · exact ⟨probed log _ hp,fun hc => absurd hc (uncreated log _ hp),fun b hb => by cases hb⟩
  have hex := probe_ok rd vol front hasMD hp
  cases hasMD with
  | true =>
    obtain ⟨rfl,rfl⟩ := (runs_pure _).mp h2
    rw [append_nil]
    refine ⟨probed front _ hp,fun hc => absurd hc (uncreated front _ hp),?_⟩
    intro b hb
    cases hb
    simp [hex.mp rfl]
  | false =>
    have hno : ¬Existed rd vol front := fun he => by cases hex.mpr he
    -- Either way the rest of the log is that of the creation alone.
    have hback : ∀x∈back,x.1=.createMD rd vol.volumeNumber ∨
        (∃minor,x.1=.resourceOwningMinor minor) ∨ ∃owner,x.1=.setupDown owner :=
      (create_emits rd vol.volumeNumber).bind (fun _ => emits_pure true) back r h2
    have hsame : Existed rd vol (front++back) ↔ Existed rd vol front := by
      apply existed_append_left
      intro x hx hprobe
      rcases hback x hx with hc|⟨m,hc⟩|⟨o,hc⟩ <;> rw [hc] at hprobe <;> cases hprobe
    rw [hsame]
    refine ⟨?_,fun _ => hno,?_⟩
    · intro x hx
      rcases mem_append.mp hx with hx|hx
      · exact probed front _ hp x hx
      · rcases hback x hx with hc|hc
        · exact .inl ⟨_,mem_singleton_self _,.inr hc⟩
        · exact .inr hc
    · intro b hb
      subst hb
      rcases runs_bind.mp h2 with ⟨e,_,he⟩|⟨_,_,_,_,h3,_⟩
      · cases he
      · cases h3
        simp [hno]

theorem createMissing_emits (rd : String) (vols : List DesiredVolume) :
    Emits (createMissing rd vols) fun x =>
      x.1.SetsUp rd (vols.map DesiredVolume.volumeNumber) := by
  induction vols with
  | nil => exact emits_pure _
  | cons vol rest ih =>
    have hhead : Emits (createIfMissing rd vol) fun x =>
        x.1.SetsUp rd ((vol::rest).map DesiredVolume.volumeNumber) := by
      intro log r h x hx
      apply ((createIfMissing_spec rd vol log r h).1 x hx).mono
      intro n hn
      rw [mem_singleton.mp hn]
      exact mem_cons_self
    have hrest := ih.mono fun x (h : x.1.SetsUp rd (rest.map DesiredVolume.volumeNumber)) =>
      h.mono fun n hn => mem_cons_of_mem vol.volumeNumber hn
    exact hhead.bind fun _ => hrest.bind fun _ => emits_pure _

/-- What the loop leaves behind: `create-md` ran on no volume whose metadata existed, and the
volumes it reports as fresh are those whose metadata did not. -/
structure LoopSpec (rd : String) (vols : List DesiredVolume) (log : Log)
    (r : Except Err (List Int)) : Prop where
  created : ∀vol∈vols,RanCreateMD rd vol.volumeNumber log → ¬Existed rd vol log
  fresh : ∀ns,r=.ok ns → ∀n,n∈ns ↔ ∃vol∈vols,vol.volumeNumber=n ∧ ¬Existed rd vol log

section

variable (rd : String) (vol : DesiredVolume) (rest : List DesiredVolume) (front back : Log)
  (hnew : vol.volumeNumber∉rest.map DesiredVolume.volumeNumber)
  (hfront : ∀x∈front,x.1.SetsUp rd [vol.volumeNumber])
  (hback : ∀x∈back,x.1.SetsUp rd (rest.map DesiredVolume.volumeNumber))

include hnew hback in
theorem existed_head : Existed rd vol (front++back) ↔ Existed rd vol front :=
  existed_append_left rd vol front back fun x hx => (hback x hx).probes hnew

include hnew hfront in
theorem existed_tail (u : DesiredVolume) (hu : u∈rest) :
    Existed rd u (front++back) ↔ Existed rd u back := by
  apply existed_append_right
  intro x hx
  apply (hfront x hx).probes
  intro hm
  apply hnew
  rw [← mem_singleton.mp hm]
  exact mem_map_of_mem hu

include hnew hfront hback in
theorem created_cons (hhead : RanCreateMD rd vol.volumeNumber front → ¬Existed rd vol front)
    (htail : ∀u∈rest,RanCreateMD rd u.volumeNumber back → ¬Existed rd u back)
    (u : DesiredVolume) (hu : u∈vol::rest)
    (h : RanCreateMD rd u.volumeNumber (front++back)) : ¬Existed rd u (front++back) := by
  obtain ⟨a,ha⟩ := h
  rcases mem_cons.mp hu with rfl|hu
  · rw [existed_head rd u rest front back hnew hback]
    rcases mem_append.mp ha with ha|ha
    · exact hhead ⟨a,ha⟩
    · exact absurd (hback _ ha).createMD hnew
  · rw [existed_tail rd vol rest front back hnew hfront u hu]
    rcases mem_append.mp ha with ha|ha
    · have hm := mem_singleton.mp (hfront _ ha).createMD
      exact absurd (hm ▸ mem_map_of_mem hu) hnew
    · exact htail u hu ⟨a,ha⟩

end

theorem createMissing_spec (rd : String) (vols : List DesiredVolume)
    (hn : (vols.map DesiredVolume.volumeNumber).Nodup) (log : Log) (r : Except Err (List Int))
    (h : Runs (createMissing rd vols) log r) : LoopSpec rd vols log r := by
  induction vols generalizing log r with
  | nil =>
    obtain ⟨rfl,rfl⟩ := (runs_pure _).mp h
    refine ⟨fun vol hvol => absurd hvol (not_mem_nil),?_⟩
    intro ns hns n
    cases hns
    simp
  | cons vol rest ih =>
    have hnew := (nodup_cons.mp hn).1
    have hrest := (nodup_cons.mp hn).2
    unfold createMissing at h
    rcases runs_bind.mp h with ⟨e,hp,rfl⟩|⟨created,front,back,hp,h2,rfl⟩
    · obtain ⟨hsets,hhead,_⟩ := createIfMissing_spec rd vol log _ hp
      refine ⟨?_,fun ns hns => by cases hns⟩
      have hcons := created_cons rd vol rest log [] hnew hsets (by simp) hhead
        (fun u _ hu => by obtain ⟨a,ha⟩ := hu; cases ha)
      rwa [append_nil] at hcons
    obtain ⟨hsets,hhead,hfresh⟩ := createIfMissing_spec rd vol front _ hp
    -- The rest of the log is the recursive call's, whatever the final `pure` does with it.
    have hloop : ∃q,Runs (createMissing rd rest) back q ∧ ∀ns,r=.ok ns →
        ∃ms,q=.ok ms ∧ ns=if created then vol.volumeNumber::ms else ms := by
      rcases runs_bind.mp h2 with ⟨e,h3,rfl⟩|⟨ms,l,l',h3,h4,rfl⟩
      · exact ⟨_,h3,fun ns hns => by cases hns⟩
      · obtain ⟨rfl,rfl⟩ := (runs_pure _).mp h4
        rw [append_nil]
        exact ⟨_,h3,fun ns hns => ⟨ms,rfl,by cases hns; rfl⟩⟩
    obtain ⟨q,h3,hq⟩ := hloop
    have hback := createMissing_emits rd rest back q h3
    have hspec := ih hrest back q h3
    refine ⟨created_cons rd vol rest front back hnew hsets hback hhead hspec.created,?_⟩
    intro ns hns n
    obtain ⟨ms,rfl,rfl⟩ := hq ns hns
    have hms := hspec.fresh ms rfl n
    have hhd := existed_head rd vol rest front back hnew hback
    have htl : (∃u∈rest,u.volumeNumber=n ∧ ¬Existed rd u (front++back)) ↔
        ∃u∈rest,u.volumeNumber=n ∧ ¬Existed rd u back := by
      apply exists_congr
      intro u
      apply and_congr_right
      intro hu
      rw [existed_tail rd vol rest front back hnew hsets u hu]
    have hc := hfresh created rfl
    simp only [mem_cons,exists_eq_or_imp,htl,hhd]
    cases created with
    | true => simp [hms,hc.mp rfl,eq_comm]
    | false =>
      have he : Existed rd vol front := by
        by_contra hno
        cases hc.mpr hno
      simp [hms,he]

end Blockstor.Satellite
