import Blockstor.Placer.Objects

namespace Blockstor.Evacuation

open Framework Shell Placer

def resourceCRDName (rd node : String) : String := rd++"."++node

variable (vds : List VolumeDefinition) (r : Resource)

def allVolumesUpToDate : Bool :=
  !r.volumes.isEmpty && r.volumes.all fun v => v.diskState="UpToDate"

def reportsUpToDate (n : Nat) : Bool :=
  r.volumes.any fun v => v.volumeNumber=n && v.diskState="UpToDate"

def completeFor : Bool :=
  vds.all fun vd => reportsUpToDate r vd.volumeNumber

def covers : Bool :=
  vds.all fun vd => r.volumes.any fun v => v.volumeNumber=vd.volumeNumber

theorem completeFor_of_covers {vds : List VolumeDefinition} {r : Resource}
    (h : allVolumesUpToDate r=true) (hcovers : covers vds r=true) : completeFor vds r=true := by
  obtain ⟨_,hall⟩ := (Bool.and_eq_true _ _).mp h
  refine List.all_eq_true.mpr fun vd hvd => ?_
  obtain ⟨v,hv,hnumber⟩ := List.any_eq_true.mp (List.all_eq_true.mp hcovers vd hvd)
  refine List.any_eq_true.mpr ⟨v,hv,?_⟩
  rw [Bool.and_eq_true]
  exact ⟨hnumber,List.all_eq_true.mp hall v hv⟩

theorem covers_of_completeFor {vds : List VolumeDefinition} {r : Resource}
    (h : completeFor vds r=true) : covers vds r=true := by
  refine List.all_eq_true.mpr fun vd hvd => ?_
  obtain ⟨v,hv,hreport⟩ := List.any_eq_true.mp (List.all_eq_true.mp h vd hvd)
  exact List.any_eq_true.mpr ⟨v,hv,((Bool.and_eq_true _ _).mp hreport).1⟩

def Live (s : State) (name : String) : Prop :=
  ∃r,s.resources.get? name=some r ∧ r.deleting=false

def Deleted (s t : State) (name : String) : Prop := Live s name ∧ ¬Live t name

theorem not_deleted_self {s : State} {name : String} : ¬Deleted s s name := fun h => h.2 h.1

variable {s t : State} {name other : String}

theorem not_live_delete (s : State) {name : String} : ¬Live (serve s (.delete name)).2 name := by
  rintro ⟨r,hget,hlive⟩
  simp only [serve] at hget
  split at hget
  · rename_i hnone
    rw [hnone] at hget
    cases hget
  · rename_i x hx
    split at hget
    · dsimp only at hget
      rw [s.resources.get?_modify,hx] at hget
      have hkey := ((s.resources.get?_eq_some _ _).mp hx).2
      cases hget
      dsimp only at hlive
      rw [if_pos hkey] at hlive
      cases hlive
    · change (s.resources.erase name).get? name=some r at hget
      rw [s.resources.get?_erase,if_pos rfl] at hget
      cases hget

theorem delete_ok {r : Resource} (h : s.resources.get? name=some r) :
    (serve s (.delete name)).1=.ok () := by
  simp only [serve,h]
  split <;> rfl

theorem get?_delete_other (s : State) (hne : other≠name) :
    (serve s (.delete name)).2.resources.get? other=s.resources.get? other := by
  simp only [serve]
  split
  · rfl
  · split
    · dsimp only
      rw [s.resources.get?_modify]
      cases hget : s.resources.get? other with
      | none => rfl
      | some r =>
        have hkey := ((s.resources.get?_eq_some _ _).mp hget).2
        rw [Option.map_some,if_neg fun h => hne (hkey.symm.trans h)]
    · change (s.resources.erase name).get? other=_
      rw [s.resources.get?_erase,if_neg hne]

theorem live_update (s : State) {r : Resource} :
    Live (serve s (.update name r)).2 other ↔ Live s other := by
  simp only [serve]
  split
  · rfl
  · unfold Live
    dsimp only
    rw [s.resources.get?_modify]
    cases s.resources.get? other with
    | none => simp
    | some x =>
      simp only [Option.map_some,Option.some.injEq,exists_eq_left']
      split <;> rfl

end Blockstor.Evacuation
