import Blockstor.Framework.Transition
import Blockstor.Storage.LvmNames

namespace Blockstor.Storage

open Framework Shell

variable (thin : Bool)

def lvm : Provider := if thin then .lvmThin else .lvmThick

section

variable {α : Type}

def removeLV (name : String) : Prog α Unit := do
  if ← run (.lookup name) then must (run (.remove name)) (.command "lvremove" name)
  else pure ()

def deleteVolume (thin : Bool) (vol : Volume) : Prog α Unit :=
  if thin then removeLV (volumeName vol)
  else do
    removeLV (volumeName vol)
    removeLV (freshLVName (volumeName vol))

def deleteSnapshot (snap : Snapshot) : Prog α Unit := removeLV (snapshotLVName snap)

end

/-- A volume of a thin pool, a thick volume, and a thick snapshot of `origin`. -/
inductive LVKind
  | virtual
  | linear
  | cow (origin : String)
  deriving DecidableEq

structure LV where
  name : String
  kind : LVKind
  madeFor : Object
  deriving DecidableEq

abbrev VG := List LV

/-- The first attribute characters `lvs` may show. -/
def LVKind.types : LVKind → List Char
  | .virtual => ['V']
  | .linear => ['-','o']
  | .cow _ => ['s']

def Reports (g : VG) (rows : List LVRow) : Prop :=
  List.Forall₂ (fun lv row => row.name=lv.name ∧ row.volType∈lv.kind.types) g rows

def VG.holds (g : VG) (name : String) : Bool := g.any fun lv => lv.name=name

section Group

variable {α : Type} (thin : Bool) (o : Object)

/-- What a command of a call for `o` does to the group when it works. Removing a thick volume
takes its snapshots along. -/
def VG.effect (g : VG) : Cmd α → Option VG
  | .create name _ _ =>
    if g.holds name then none
    else some (g++[⟨name,if thin then .virtual else .linear,o⟩])
  | .snapshot origin name =>
    if g.holds name ∨ g.holds origin=false then none
    else some (g++[⟨name,if thin then .virtual else .cow origin,o⟩])
  | .remove name => some (g.filter fun lv => lv.name≠name ∧ lv.kind≠.cow name)
  | .rename source target =>
    if g.holds target ∨ g.holds source=false then none
    else some (g.map fun lv => if lv.name=source then {lv with name := target} else lv)
  | _ => some g

def VG.Changes (g : VG) (c : Cmd α) (answer : Bool) (t : VG) : Prop :=
  (answer=true ∧ g.effect thin o c=some t) ∨
  (answer=false ∧ (t=g ∨ g.effect thin o c=some t))

def VG.Step (g : VG) (c : Cmd α) (answer : Answer c) (t : VG) : Prop :=
  match c,answer with
  | .lookup name,answer => t=g ∧ (answer=g.holds name ∨ answer=false)
  | .names,answer => t=g ∧ (answer=some g.holds ∨ answer=none)
  | .tagged _,_ => t=g
  | .status _,_ => t=g
  | .volsize _,_ => t=g
  | .refreservation _,_ => t=g
  | .create name sizeMiB tagged,answer =>
      g.Changes thin o (.create name sizeMiB tagged : Cmd α) answer t
  | .snapshot origin name,answer => g.Changes thin o (.snapshot origin name : Cmd α) answer t
  | .copy source target,answer => g.Changes thin o (.copy source target : Cmd α) answer t
  | .untag name,answer => g.Changes thin o (.untag name : Cmd α) answer t
  | .remove name,answer => g.Changes thin o (.remove name : Cmd α) answer t
  | .rename source target,answer => g.Changes thin o (.rename source target : Cmd α) answer t
  | .wipefs name,answer => g.Changes thin o (.wipefs name : Cmd α) answer t
  | .receive name stream,answer => g.Changes thin o (.receive name stream : Cmd α) answer t
  | .setRefreservation name bytes,answer =>
      g.Changes thin o (.setRefreservation name bytes : Cmd α) answer t

end Group

def Volume.ref (vol : Volume) : VolumeRef := ⟨vol.resourceName,vol.volumeNumber⟩

inductive Call
  | createVolume (vol : Volume)
  | createSnapshot (snap : Snapshot)
  | restoreVolumeFromSnapshot (target : Volume) (src : Snapshot)
  | deleteVolume (vol : Volume)
  | deleteSnapshot (snap : Snapshot)
  deriving DecidableEq

def Call.prog : Call → Prog Unit Unit
  | .createVolume vol => Storage.createVolume (lvm thin) vol
  | .createSnapshot snap => Storage.createSnapshot (lvm thin) snap
  | .restoreVolumeFromSnapshot target src =>
    Storage.restoreVolumeFromSnapshot (lvm thin) target src
  | .deleteVolume vol => Storage.deleteVolume thin vol
  | .deleteSnapshot snap => Storage.deleteSnapshot snap

def Call.object : Call → Object
  | .createVolume vol => .volume vol.ref
  | .createSnapshot snap => .snapshot snap
  | .restoreVolumeFromSnapshot target _ => .volume target.ref
  | .deleteVolume vol => .volume vol.ref
  | .deleteSnapshot snap => .snapshot snap

def Call.objects : Call → List Object
  | .restoreVolumeFromSnapshot target src => [.volume target.ref,.snapshot src]
  | call => [call.object]

structure Site where
  vg : VG
  objects : List Object
  deriving DecidableEq

def Site.step (s : Site) (call : Call) (t : Site) : Prop :=
  (∀o∈call.objects,o.accepted=true) ∧
  ∃r,Exec (VG.Step thin call.object) (call.prog thin) s.vg r t.vg ∧
    t.objects=s.objects++call.objects

def Site.empty : Site := ⟨[],[]⟩

/-- Every object has a name of its own, and what the listing returns was created as what it is
returned as. -/
structure Site.Identified (s : Site) : Prop where
  distinct : ∀o∈s.objects,∀o'∈s.objects,o.lvName=o'.lvName → o=o'
  listed : ∀rows,Reports s.vg rows → ∀ref∈listLVMVolumes rows,
    ∃lv∈s.vg,lv.name=ref.lvName ∧ lv.madeFor=.volume ref

/-- No object of the call reads as the volume an object named before it reads as, and the call
takes no snapshot in a thin pool. -/
def Site.Unambiguous (s : Site) (call : Call) : Prop :=
  (∀o∈call.objects,∀o'∈s.objects++call.objects,o.alias=o'.alias → o=o') ∧
  (thin=true → ∀snap,call≠.createSnapshot snap)

end Blockstor.Storage
