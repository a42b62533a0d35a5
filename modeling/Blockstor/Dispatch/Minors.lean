import Blockstor.Dispatch.MeshAgreement

namespace Blockstor.Dispatch

open Framework

def drbdPath (minor : Int) : String := "/dev/drbd"++Text.formatInt minor

section

variable (dr : DesiredResource)

/-- The minor the satellite works out for a volume. -/
def satelliteMinor (vol : DesiredVolume) : Int :=
  volMinorOrBase vol (atoi (dr.drbdOptions.get "minor"))

def drbdDevicesForMkfs : List (Int32 × String) :=
  dr.volumes.map fun vol => (vol.volumeNumber,drbdPath (satelliteMinor dr vol))

def buildVolumeResults (devices : Int32 → Option String) (diskless withDRBD : Bool) :
    List (Int32 × String) :=
  if diskless then []
  else if withDRBD then dr.volumes.map fun vol => (vol.volumeNumber,drbdPath (satelliteMinor dr vol))
  else dr.volumes.filterMap fun vol => (devices vol.volumeNumber).map fun dev => (vol.volumeNumber,dev)

/-- The file, `mkfs` and the result of an apply know every volume by the minor it was given. -/
structure Rendered (rd : ResourceDefinition) (minor : VolumeDefinition → Int) : Prop where
  file : ∀localAddr devices,∀b∈(buildResFile dr localAddr devices).hosts,
    b.volumes.map (fun v => (v.number,v.minor,v.device))=
      rd.volumeDefinitions.items.map fun vd => (vd.volumeNumber.toInt,minor vd,drbdPath (minor vd))
  mkfs : drbdDevicesForMkfs dr=rd.volumeDefinitions.items.map fun vd =>
    (vd.volumeNumber,drbdPath (minor vd))
  applied : ∀devices,buildVolumeResults dr devices false true=drbdDevicesForMkfs dr

end

variable (unmarshal : String → Option (List Props)) (target : Resource) (peers : List Resource)
  (nodes : List Node) (pools : List StoragePool) (rd : ResourceDefinition)
  (effectiveProps : Option Props)

theorem minor_option :
    atoi ((BuildDesired unmarshal target peers nodes pools rd effectiveProps).drbdOptions.get "minor")=
      readDRBDMinor target rd := by
  have hget : (BuildDesired unmarshal target peers nodes pools rd effectiveProps).drbdOptions.get "minor"=
      Text.formatInt (readDRBDMinor target rd) := by
    rw [Props.get,drbdOptions_own _ _ _ _ _ _ _ (by decide) (by decide),ownOptions]
    cases (idOf target peers).find target.nodeName <;>
      cases electsSelf target peers rd <;> simp [Dict.setAll]
  rw [hget,atoi_readDRBDMinor]

theorem rendered_minorIn :
    Rendered (BuildDesired unmarshal target peers nodes pools rd effectiveProps) rd
      (MeshSnapshot.minorIn (readDRBDMinor target rd)) := by
  have hminor := minor_option unmarshal target peers nodes pools rd effectiveProps
  have hvols : (BuildDesired unmarshal target peers nodes pools rd effectiveProps).volumes=
      buildVolumes rd target := rfl
  refine ⟨fun localAddr devices b hb => ?_,?_,fun devices => rfl⟩
  · obtain ⟨host,_,rfl⟩ := List.mem_map.mp hb
    simp only [onBlock,buildResVolumes,hminor,hvols,buildVolumes,List.map_map]
    rfl
  · simp only [drbdDevicesForMkfs,satelliteMinor,hminor,hvols,buildVolumes,List.map_map]
    rfl

theorem drbdPath_inj {m n : Int} (h : drbdPath m=drbdPath n) : m=n := by
  have htext : Text.formatInt m=Text.formatInt n := (String.append_right_inj _).mp h
  have hparsed := congrArg (fun text : String => Text.parseSigned text.toList) htext
  simpa only [Text.parseSigned_formatInt,Option.some.injEq] using hparsed

def allocatedMinor (vd : VolumeDefinition) : Int := (vd.drbdMinor.getD 0).toInt

theorem minorIn_eq_iff (base : Int) (vd : VolumeDefinition) :
    MeshSnapshot.minorIn base vd=allocatedMinor vd ↔
      (allocatedMinor vd=0 → base+vd.volumeNumber.toInt=0) := by
  unfold MeshSnapshot.minorIn allocatedMinor
  split <;> omega

def Minored : Prop := ∀vd∈rd.volumeDefinitions,vd.drbdMinor.isSome

variable {unmarshal target peers nodes pools rd effectiveProps} in
theorem Rendered.base_of_zero
    (h : Rendered (BuildDesired unmarshal target peers nodes pools rd effectiveProps) rd allocatedMinor)
    {vd : VolumeDefinition} (hvd : vd∈rd.volumeDefinitions) (hzero : vd.drbdMinor=some 0) :
    readDRBDMinor target rd+vd.volumeNumber.toInt=0 := by
  have hin := rendered_minorIn unmarshal target peers nodes pools rd effectiveProps
  have hsame := List.map_inj_left.mp (hin.mkfs.symm.trans h.mkfs) vd hvd
  have hminor := drbdPath_inj (Prod.mk.inj hsame).2
  exact (minorIn_eq_iff _ vd).mp hminor (by rw [allocatedMinor,hzero]; rfl)

theorem rendered_iff :
    (Minored rd → Rendered (BuildDesired unmarshal target peers nodes pools rd effectiveProps) rd
      allocatedMinor) ↔
    (Minored rd → ∀vd∈rd.volumeDefinitions,vd.drbdMinor=some 0 →
      readDRBDMinor target rd+vd.volumeNumber.toInt=0) := by
  refine forall_congr' fun hminored => ⟨fun h vd => h.base_of_zero,fun h => ?_⟩
  have hin := rendered_minorIn unmarshal target peers nodes pools rd effectiveProps
  have hsame : ∀vd∈rd.volumeDefinitions.items,
      MeshSnapshot.minorIn (readDRBDMinor target rd) vd=allocatedMinor vd := by
    intro vd hvd
    obtain ⟨minor,hminor⟩ := Option.isSome_iff_exists.mp (hminored vd hvd)
    refine (minorIn_eq_iff _ vd).mpr fun hzero => h vd hvd ?_
    rw [allocatedMinor,hminor] at hzero
    have hzero' : minor=0 := Int32.toInt_inj.mp hzero
    rw [hminor,hzero']
  refine ⟨fun localAddr devices b hb => (hin.file localAddr devices b hb).trans ?_,
    hin.mkfs.trans ?_,hin.applied⟩
  · exact List.map_congr_left fun vd hvd => by rw [hsame vd hvd]
  · exact List.map_congr_left fun vd hvd => by rw [hsame vd hvd]

/-- Volume 0 has the minor 1, volume 1 the minor 0: volume 1 is rendered as `/dev/drbd2`. -/
theorem minor_zero_moved : ∃(target : Resource) (rd : ResourceDefinition),Minored rd ∧
    rd.volumeDefinitions.items.map allocatedMinor=[1,0] ∧ ∀unmarshal peers nodes pools props,
    ¬Rendered (BuildDesired unmarshal target peers nodes pools rd props) rd allocatedMinor := by
  refine ⟨reporting "n1" 0 1,⟨[],.empty,⟨[⟨0,1024,.empty,some 1⟩,⟨1,1024,.empty,some 0⟩],
    show [(0 : Int32),1].Nodup by decide⟩,none⟩,?_,rfl,fun unmarshal peers nodes pools props h => ?_⟩
  · intro vd hvd
    rcases List.mem_pair.mp hvd with rfl|rfl <;> rfl
  · have hzero := h.base_of_zero (.tail _ (.head _)) (show some (0 : Int32)=some 0 from rfl)
    exact absurd hzero (by decide)

end Blockstor.Dispatch
