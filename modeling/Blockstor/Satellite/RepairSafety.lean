import Blockstor.Drbd.DumpMdSpec
import Blockstor.Drbd.SameGeneration
import Blockstor.Satellite.GiHistoryFile
import Blockstor.Satellite.MetadataLog

namespace Blockstor.Satellite

open Drbd Framework Shell List

/-- An unclean volume: its history file and whether it can be read, whether apply-al works, what
dump-md prints, and how all other commands end. -/
structure Repair where
  rd : String
  vol : DesiredVolume
  observed : vol.observedGI="" ∨ IsUuid vol.observedGI
  file : Option String
  readable : Bool
  applied : Bool
  dump : Option String
  others : ∀c : Cmd,Answer c

namespace Repair

variable (r : Repair)

def recorded (vol : Int) : Option (List String) :=
  if r.readable then
    match GiHistory.readGIHistory r.file with
    | .error _ => none
    | .ok history => some (GiHistory.listed history (Int32.ofInt vol))
  else none

def uuids : Option (List String) :=
  match r.dump with
  | none => none
  | some dump =>
    match DumpMd.parseMetadataUUIDs dump with
    | .error _ => none
    | .ok uuids => some uuids

def answer : ∀c : Cmd,Answer c
  | .hasMD _ _ => .unclean
  | .recordedGIs _ vol => r.recorded vol
  | .applyAL _ _ => r.applied
  | .metadataUUIDs _ _ => r.uuids
  | c => r.others c

def known : Option (List String) := (r.recorded r.vol.volumeNumber).map (knownGIs r.vol)

def Foreign : Prop :=
  ∃known,r.known=some known ∧ (known=[] ∨ r.applied=true ∧ ∃onDisk,r.uuids=some onDisk ∧
    ∀a∈onDisk,∀b∈known,uuidValue a/2≠uuidValue b/2)

def Broken : Prop :=
  r.known=none ∨ ∃known,r.known=some known ∧ known≠[] ∧ (r.applied=false ∨ r.uuids=none)

theorem recorded_uuid {vol : Int} {recorded : List String} (h : r.recorded vol=some recorded) :
    ∀b∈recorded,IsUuid b := by
  unfold Repair.recorded at h
  split at h
  · split at h
    · cases h
    · rename_i history hread
      cases h
      exact fun b hb => isUuid_of_generation (GiHistory.read_valid hread _ b hb)
  · cases h

theorem known_uuid {known : List String} (h : r.known=some known) : ∀b∈known,IsUuid b := by
  unfold Repair.known at h
  obtain ⟨recorded,hrecorded,rfl⟩ := Option.map_eq_some_iff.mp h
  intro b hb
  unfold knownGIs at hb
  split at hb
  · rename_i hobserved
    rcases mem_append.mp hb with hb|hb
    · exact r.recorded_uuid hrecorded b hb
    · rw [mem_singleton.mp hb]
      exact r.observed.resolve_left hobserved
  · exact r.recorded_uuid hrecorded b hb

theorem uuids_uuid {onDisk : List String} (h : r.uuids=some onDisk) : ∀a∈onDisk,IsUuid a := by
  unfold Repair.uuids at h
  split at h
  · cases h
  split at h
  · cases h
  · rename_i hparse
    cases h
    exact fun a ha => isUuid_of_generation (DumpMd.parse_valid hparse a ha)

theorem anySameGeneration_eq_false {onDisk known : List String} (ha : ∀a∈onDisk,IsUuid a)
    (hb : ∀b∈known,IsUuid b) : anySameGeneration onDisk known=false ↔
      ∀a∈onDisk,∀b∈known,uuidValue a/2≠uuidValue b/2 := by
  unfold anySameGeneration
  simp only [any_eq_false,Bool.not_eq_true]
  constructor
  · intro h a haa b hbb hsame
    have hfalse := h a haa b hbb
    rw [(sameGeneration_iff (ha a haa) (hb b hbb)).mpr hsame] at hfalse
    cases hfalse
  · intro h a haa b hbb
    rw [← Bool.not_eq_true,sameGeneration_iff (ha a haa) (hb b hbb)]
    exact h a haa b hbb

theorem repair_eval : ((repairUncleanMetadata r.rd r.vol).eval r.answer).2= match r.known with
    | none => .error (.dumpMD r.rd r.vol.volumeNumber)
    | some known =>
      if known.isEmpty then .ok false
      else if r.applied=false then .error (.dumpMD r.rd r.vol.volumeNumber)
      else
        match r.uuids with
        | none => .error (.dumpMD r.rd r.vol.volumeNumber)
        | some onDisk => .ok (anySameGeneration onDisk known) := by
  unfold repairUncleanMetadata Repair.known
  rw [eval_ask]
  have hanswer : r.answer (.recordedGIs r.rd r.vol.volumeNumber)=r.recorded r.vol.volumeNumber := rfl
  cases hrecorded : r.recorded r.vol.volumeNumber with
  | none =>
    simp only [hanswer,hrecorded]
    rfl
  | some recorded =>
    simp only [hanswer,hrecorded,Option.map_some]
    cases hempty : (knownGIs r.vol recorded).isEmpty with
    | true => rfl
    | false =>
      have happly : r.answer (.applyAL r.rd r.vol.volumeNumber)=r.applied := rfl
      have hdump : r.answer (.metadataUUIDs r.rd r.vol.volumeNumber)=r.uuids := rfl
      simp only [Bool.false_eq_true,if_false,eval_ask,happly]
      cases r.applied with
      | false => rfl
      | true =>
        simp only [eval_ask,hdump,Bool.true_eq_false,if_false]
        cases r.uuids with
        | none => rfl
        | some onDisk => rfl

theorem repair_false :
    ((repairUncleanMetadata r.rd r.vol).eval r.answer).2=.ok false ↔ r.Foreign := by
  rw [r.repair_eval,Foreign]
  cases hknown : r.known with
  | none => simp
  | some known =>
    simp only [Option.some.injEq,exists_eq_left']
    cases hempty : known.isEmpty with
    | true => simp [isEmpty_iff.mp hempty]
    | false =>
      have hne : known≠[] := isEmpty_eq_false_iff.mp hempty
      simp only [hne,false_or,Bool.false_eq_true,if_false]
      cases r.applied with
      | false => simp
      | true =>
        cases huuids : r.uuids with
        | none => simp
        | some onDisk =>
          have hsame := anySameGeneration_eq_false (r.uuids_uuid huuids) (r.known_uuid hknown)
          simp [hsame]

theorem repair_error :
    (∃e,((repairUncleanMetadata r.rd r.vol).eval r.answer).2=.error e) ↔ r.Broken := by
  rw [r.repair_eval,Broken]
  cases hknown : r.known with
  | none => simp
  | some known =>
    simp only [Option.some.injEq,exists_eq_left',reduceCtorEq,false_or]
    cases hempty : known.isEmpty with
    | true => simp [isEmpty_iff.mp hempty]
    | false =>
      have hne : known≠[] := isEmpty_eq_false_iff.mp hempty
      simp only [hne,ne_eq,not_false_eq_true,true_and,Bool.false_eq_true,if_false]
      cases r.applied with
      | false => simp
      | true =>
        cases r.uuids with
        | none => simp
        | some onDisk => simp

theorem probe_eval : ((probeMetadata r.rd r.vol).eval r.answer).2=
    ((repairUncleanMetadata r.rd r.vol).eval r.answer).2 := rfl

theorem createIfMissing_ran :
    RanCreateMD r.rd r.vol.volumeNumber ((createIfMissing r.rd r.vol).eval r.answer).1 ↔
      ((repairUncleanMetadata r.rd r.vol).eval r.answer).2=.ok false := by
  have hprobe : ¬RanCreateMD r.rd r.vol.volumeNumber
      ((probeMetadata r.rd r.vol).eval r.answer).1 := by
    rintro ⟨a,ha⟩
    cases probe_emits r.rd r.vol _ _ (runs_eval r.answer _) _ ha
  rw [← r.probe_eval]
  unfold createIfMissing
  cases hresult : ((probeMetadata r.rd r.vol).eval r.answer).2 with
  | error e =>
    rw [eval_bind_error _ _ _ e hresult]
    exact iff_of_false hprobe nofun
  | ok found =>
    rw [eval_bind_ok _ _ _ found hresult]
    cases found with
    | true =>
      simp only [if_true,eval_pure,append_nil]
      exact iff_of_false hprobe (by simp)
    | false =>
      refine iff_of_true ⟨r.answer (.createMD r.rd r.vol.volumeNumber),?_⟩ rfl
      exact mem_append_right _ mem_cons_self

end Repair

/-- Unclean metadata gives way to fresh metadata exactly when it is foreign, every failed step is an
error, and a dump whose current UUID is not zero reads as its UUIDs; any other dump is refused. -/
theorem unclean_metadata_foreign (r : Repair) (w : DumpMd.WellFormed) :
    (RanCreateMD r.rd r.vol.volumeNumber ((createIfMissing r.rd r.vol).eval r.answer).1 ↔ r.Foreign) ∧
    ((∃e,((repairUncleanMetadata r.rd r.vol).eval r.answer).2=.error e) ↔ r.Broken) ∧
    DumpMd.parseMetadataUUIDs w.text=if w.dump.current.isZero then .error .unreadable
      else .ok (DumpMd.nonZero w.dump.uuids) :=
  ⟨r.createIfMissing_ran.trans r.repair_false,r.repair_error,DumpMd.parse_text w⟩

def zeroDump : DumpMd.WellFormed where
  dump := .v09 [] ⟨"0000000000000000",rfl,by decide⟩ [] [] []
  fits := by decide

/-- It is refused, not read as a dump without UUIDs. -/
theorem zero_current_refused : DumpMd.parseMetadataUUIDs zeroDump.text≠
    .ok (DumpMd.nonZero zeroDump.dump.uuids) := by
  rw [DumpMd.parse_text,if_pos (by decide)]
  nofun

end Blockstor.Satellite
