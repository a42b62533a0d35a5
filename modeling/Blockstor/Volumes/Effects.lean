import Blockstor.Controller.MinorSafety
import Blockstor.Volumes.Objects

namespace Blockstor.Volumes

open Framework List

def Call.Writes : Call → List ResourceDefinitionVolume → List ResourceDefinitionVolume → Prop
  | .create vd,old,new => hasVolume old vd.volumeNumber=false ∧ new=old++[wireToCRDVD vd]
  | .createAutoNumbered vd,old,new =>
      new=old++[wireToCRDVD {vd with volumeNumber := smallestFreeVolumeNumber old}]
  | .update vd,old,new =>
      modifyVolume vd.volumeNumber (fun prev => .ok (wireToCRDVDPreserving prev vd)) old=.ok new
  | .patch number mutate,old,new => modifyVolume number
      (fun prev => (mutate (crdToWireVD prev)).map (wireToCRDVDPreserving prev)) old=.ok new
  | .delete number,old,new => new=old.eraseP fun vd => vd.volumeNumber=number
  | .stampMinors,old,new => ∃pool mutated,allocateRDVolumeMinors pool old=some (new,mutated)

def Call.On (number : Int32) : Call → Prop
  | .create vd => vd.volumeNumber=number
  | .update vd => vd.volumeNumber=number
  | .patch n _ => n=number
  | .delete n => n=number
  | .createAutoNumbered _ => False
  | .stampMinors => False

def Call.KeepsNumber : Call → Prop
  | .patch _ mutate => ∀vd wire,mutate vd=.ok wire → wire.volumeNumber=vd.volumeNumber
  | _ => True

def Call.IsDelete : Call → Prop
  | .delete _ => True
  | _ => False

def Call.edit : Call → Option (Int32 × (VolumeDefinition → Except Err VolumeDefinition))
  | .update vd => some (vd.volumeNumber,fun _ => .ok vd)
  | .patch number mutate => some (number,mutate)
  | _ => none

section

variable {old new : List ResourceDefinitionVolume} {v : ResourceDefinitionVolume} {n : Int32}
  {f : ResourceDefinitionVolume → Except Err ResourceDefinitionVolume}
  {vds filled seeded : List Controller.VolumeDefinition}
  {mutate edit : VolumeDefinition → Except Err VolumeDefinition} {call : Call}

theorem hasVolume_iff (vds : List ResourceDefinitionVolume) (n : Int32) :
    hasVolume vds n=true ↔ ∃v∈vds,v.volumeNumber=n := by
  simp [hasVolume]

theorem modifyVolume_ok
    (h : modifyVolume n f old=.ok new) : ∃front prev next back,old=front++prev::back ∧
      prev.volumeNumber=n ∧ f prev=.ok next ∧ new=front++next::back := by
  induction old generalizing new with
  | nil => cases h
  | cons vd vds ih =>
    rw [modifyVolume] at h
    split at h
    · rename_i hn
      cases hf : f vd with
      | error e =>
        rw [hf] at h
        cases h
      | ok next =>
        rw [hf] at h
        cases h
        exact ⟨[],vd,next,vds,rfl,hn,hf,rfl⟩
    · cases hrest : modifyVolume n f vds with
      | error e =>
        rw [hrest] at h
        cases h
      | ok rest =>
        rw [hrest] at h
        cases h
        obtain ⟨front,prev,next,back,rfl,hn,hf,rfl⟩ := ih hrest
        exact ⟨vd::front,prev,next,back,rfl,hn,hf,rfl⟩

def Stamped (v w : ResourceDefinitionVolume) : Prop :=
  crdToWireVD w=crdToWireVD v ∧ ∀m,v.drbdMinor=some m → w.drbdMinor=some m

def Kept (v w : Controller.VolumeDefinition) : Prop :=
  ∀m,v.drbdMinor=some m → w.drbdMinor=some m

theorem backfill_kept (rd : Controller.ResourceDefinition) :
    Forall₂ Kept rd.volumeDefinitions (Controller.backfillRDMinorsFromStatus rd).1 := by
  have hsame : Forall₂ Kept rd.volumeDefinitions rd.volumeDefinitions :=
    forall₂_same.mpr fun _ _ _ hm => hm
  unfold Controller.backfillRDMinorsFromStatus
  cases rd.statusDRBDMinor with
  | none => exact hsame
  | some base =>
    dsimp only
    split
    · exact hsame
    · rename_i hset
      rw [forall₂_map_right_iff,forall₂_same]
      intro vd hvd m hm
      refine absurd (any_eq_true.mpr ⟨vd,hvd,?_⟩) hset
      rw [hm]
      rfl

theorem fillMinors_kept {low high : Int32} {taken : List Int32}
    (h : Controller.fillMinors low high taken vds=some filled) : Forall₂ Kept vds filled := by
  refine (Controller.fillMinors_stamps h).imp fun v w hvw m hm => ?_
  rcases hvw.2.2 with hnone|rfl
  · rw [hm] at hnone
    cases hnone
  · exact hm

theorem kept_trans (h : Forall₂ Kept vds seeded) (h' : Forall₂ Kept seeded filled) :
    Forall₂ Kept vds filled := by
  induction h generalizing filled with
  | nil => exact h'
  | cons hvw _ ih =>
    cases h' with
    | cons hwx hrest => exact .cons (fun m hm => hwx m (hvw m hm)) (ih hrest)

theorem withMinors_stamped {vds : List ResourceDefinitionVolume}
    (h : Forall₂ (fun v (w : Controller.VolumeDefinition) =>
      ∀m,v.drbdMinor=some m → w.drbdMinor=some m) vds filled) :
    Forall₂ Stamped vds (withMinors vds filled) := by
  induction h with
  | nil => exact .nil
  | cons hvw _ ih => exact .cons ⟨rfl,hvw⟩ ih

theorem allocateRDVolumeMinors_stamped {pool : MinorPool} {mutated : Bool}
    (h : allocateRDVolumeMinors pool old=some (new,mutated)) : Forall₂ Stamped old new := by
  obtain ⟨filled,hfill,hnew⟩ := Option.map_eq_some_iff.mp h
  cases hnew
  refine withMinors_stamped ?_
  have hseed := backfill_kept (identities pool.base old)
  have hkept : Forall₂ Kept (identities pool.base old).volumeDefinitions filled :=
    kept_trans hseed (fillMinors_kept hfill)
  exact forall₂_map_left_iff.mp hkept

structure Continues (call : Call) (v w : ResourceDefinitionVolume) : Prop where
  number : w.volumeNumber=v.volumeNumber
  minor : ∀m,v.drbdMinor=some m → w.drbdMinor=some m
  wire : ¬call.On v.volumeNumber → crdToWireVD w=crdToWireVD v

theorem Continues.refl (call : Call) (v : ResourceDefinitionVolume) : Continues call v v :=
  ⟨rfl,fun _ h => h,fun _ => rfl⟩

theorem modifyVolume_continues
    (hf : ∀prev next,prev.volumeNumber=n → f prev=.ok next → Continues call prev next)
    (h : modifyVolume n f old=.ok new) (hv : v∈old) : ∃w∈new,Continues call v w := by
  obtain ⟨front,prev,next,back,rfl,hn,hnext,rfl⟩ := modifyVolume_ok h
  rcases mem_append.mp hv with hv|hv
  · exact ⟨v,mem_append_left _ hv,.refl call v⟩
  · rcases mem_cons.mp hv with rfl|hv
    · exact ⟨next,by simp,hf v next hn hnext⟩
    · exact ⟨v,by simp [hv],.refl call v⟩

theorem patched_continues
    (hkeep : (Call.patch n mutate).KeepsNumber) (prev next : ResourceDefinitionVolume)
    (hn : prev.volumeNumber=n)
    (h : (mutate (crdToWireVD prev)).map (wireToCRDVDPreserving prev)=.ok next) :
    Continues (.patch n mutate) prev next := by
  cases hm : mutate (crdToWireVD prev) with
  | error e =>
    rw [hm] at h
    cases h
  | ok wire =>
    rw [hm] at h
    cases h
    exact ⟨hkeep _ _ hm,fun _ h => h,fun hon => absurd hn.symm hon⟩

/-- Every call but its delete leaves a volume in the list, with its number and its minor, and one
that is not about it leaves the rest of it too. -/
theorem Call.Writes.continues (hkeep : call.KeepsNumber)
    (h : call.Writes old new) (hv : v∈old) (hdelete : call≠.delete v.volumeNumber) :
    ∃w∈new,Continues call v w := by
  cases call with
  | create vd =>
    obtain ⟨_,rfl⟩ := h
    exact ⟨v,mem_append_left _ hv,.refl _ v⟩
  | createAutoNumbered vd =>
    obtain rfl := h
    exact ⟨v,mem_append_left _ hv,.refl _ v⟩
  | update vd =>
    refine modifyVolume_continues (fun prev next hn hnext => ?_) h hv
    cases hnext
    exact ⟨hn.symm,fun _ h => h,fun hon => absurd hn.symm hon⟩
  | patch number mutate => exact modifyVolume_continues (patched_continues hkeep) h hv
  | delete number =>
    obtain rfl := h
    have hne : v.volumeNumber≠number := fun hn => hdelete (by rw [hn])
    exact ⟨v,(mem_eraseP_of_neg (by simpa using hne)).mpr hv,.refl _ v⟩
  | stampMinors =>
    obtain ⟨pool,mutated,h⟩ := h
    obtain ⟨w,hw,hwire,hminor⟩ := Controller.forall₂_mem_left (allocateRDVolumeMinors_stamped h) hv
    exact ⟨w,hw,congrArg VolumeDefinition.volumeNumber hwire,hminor,fun _ => hwire⟩

theorem Call.Writes.edited (hkeep : call.KeepsNumber) (h : call.Writes old new)
    (hedit : call.edit=some (n,edit)) :
    ∃prev∈old,∃wire,prev.volumeNumber=n ∧ edit (crdToWireVD prev)=.ok wire ∧
      wire.volumeNumber=n ∧ ∃v∈new,crdToWireVD v=wire := by
  cases call with
  | update vd =>
    cases hedit
    obtain ⟨front,prev,next,back,rfl,hn,hnext,rfl⟩ := modifyVolume_ok h
    cases hnext
    exact ⟨prev,by simp,vd,hn,rfl,rfl,wireToCRDVDPreserving prev vd,by simp,rfl⟩
  | patch number mutate =>
    cases hedit
    obtain ⟨front,prev,next,back,rfl,hn,hnext,rfl⟩ := modifyVolume_ok h
    cases hm : edit (crdToWireVD prev) with
    | error e =>
      rw [hm] at hnext
      cases hnext
    | ok wire =>
      rw [hm] at hnext
      cases hnext
      exact ⟨prev,by simp,wire,hn,hm,(hkeep _ _ hm).trans hn,
        wireToCRDVDPreserving prev wire,by simp,rfl⟩
  | _ => cases hedit

/-- Every number an `int32` counts from zero is in use. -/
def Full (vds : List ResourceDefinitionVolume) : Prop :=
  ∀k<2^31,hasVolume vds (Int32.ofNat k)=true

theorem smallestFreeFrom_free {used : Int32 → Bool} (steps : Nat) (candidate : Int32)
    (h : ∃k<steps,used (candidate+Int32.ofNat k)=false) :
    used (smallestFreeFrom used steps candidate)=false := by
  induction steps generalizing candidate with
  | zero =>
    obtain ⟨k,hk,_⟩ := h
    exact absurd hk (Nat.not_lt_zero k)
  | succ steps ih =>
    rw [smallestFreeFrom]
    split
    · rename_i hused
      refine ih (candidate+1) ?_
      obtain ⟨k,hk,hfree⟩ := h
      cases k with
      | zero =>
        rw [show candidate+Int32.ofNat 0=candidate from Int32.add_zero candidate,hused] at hfree
        cases hfree
      | succ k =>
        refine ⟨k,Nat.lt_of_succ_lt_succ hk,?_⟩
        rwa [Int32.ofNat_add,Int32.add_comm (Int32.ofNat k),← Int32.add_assoc] at hfree
    · exact Bool.eq_false_iff.mpr ‹_›

theorem smallestFreeVolumeNumber_free (h : ¬Full old) :
    hasVolume old (smallestFreeVolumeNumber old)=false := by
  unfold Full at h
  push Not at h
  obtain ⟨k,hk,hfree⟩ := h
  exact smallestFreeFrom_free (2^31) 0 ⟨k,hk,by simpa using hfree⟩

theorem nodup_append_volume (h : (old.map fun vd => vd.volumeNumber).Nodup)
    (hfree : hasVolume old v.volumeNumber=false) :
    ((old++[v]).map fun vd => vd.volumeNumber).Nodup := by
  have hnone : ¬∃vd∈old,vd.volumeNumber=v.volumeNumber :=
    fun hex => Bool.false_ne_true (hfree.symm.trans ((hasVolume_iff old _).mpr hex))
  exact ((⟨old,h⟩ : VolumeList).insert v fun vd hvd hn => hnone ⟨vd,hvd,hn⟩).nodup

theorem modifyVolume_numbers (hf : ∀prev next,prev.volumeNumber=n → f prev=.ok next →
      next.volumeNumber=prev.volumeNumber) (h : modifyVolume n f old=.ok new) :
    (new.map fun vd => vd.volumeNumber)=old.map fun vd => vd.volumeNumber := by
  obtain ⟨front,prev,next,back,rfl,hn,hnext,rfl⟩ := modifyVolume_ok h
  simp [hf prev next hn hnext]

theorem Call.Writes.nodup (hkeep : call.KeepsNumber) (h : call.Writes old new)
    (hfull : ¬Full old) (hold : (old.map fun vd => vd.volumeNumber).Nodup) :
    (new.map fun vd => vd.volumeNumber).Nodup := by
  cases call with
  | create vd =>
    obtain ⟨hfree,rfl⟩ := h
    exact nodup_append_volume hold hfree
  | createAutoNumbered vd =>
    obtain rfl := h
    exact nodup_append_volume hold (smallestFreeVolumeNumber_free hfull)
  | update vd =>
    rw [modifyVolume_numbers (fun prev next hn hnext => ?_) h]
    · exact hold
    · cases hnext
      exact hn.symm
  | patch number mutate =>
    rw [modifyVolume_numbers (fun prev next hn hnext =>
      (patched_continues hkeep prev next hn hnext).number) h]
    exact hold
  | delete number =>
    obtain rfl := h
    exact hold.sublist (eraseP_sublist.map _)
  | stampMinors =>
    obtain ⟨pool,mutated,h⟩ := h
    have hmap : (new.map fun vd => vd.volumeNumber)=old.map fun vd => vd.volumeNumber := by
      rw [← forall₂_eq_eq_eq,forall₂_map_left_iff,forall₂_map_right_iff]
      exact (allocateRDVolumeMinors_stamped h).flip.imp fun w v hvw =>
        congrArg VolumeDefinition.volumeNumber hvw.1
    rw [hmap]
    exact hold

end

end Blockstor.Volumes
