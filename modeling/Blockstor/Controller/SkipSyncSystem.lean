import Blockstor.Controller.Identity
import Blockstor.Controller.SkipSyncPass
import Blockstor.Framework.Pool

namespace Blockstor.Controller

open Drbd Framework Shell

inductive Change
  | create (r : Resource)
  | delete (name : String)
  | report (name : String) (volumes : List ResourceVolumeStatus) (inUse : Bool)

def Resource.reported (volumes : List ResourceVolumeStatus) (inUse : Bool) (r : Resource) :
    Resource :=
  {r with status := {r.status with volumes := volumes, inUse := inUse}}

def Cluster.report (name : String) (volumes : List ResourceVolumeStatus) (inUse : Bool)
    (c : Cluster) : Cluster :=
  {c with resources := c.resources.modify name (.reported volumes inUse) fun _ => rfl}

variable (rd : String) (c : Cluster)

def Changes (e : Change) (t : Cluster) : Prop :=
  match e with
  | .create r => ∃h,t=c.create r h
  | .delete name => t=c.delete name
  | .report name volumes inUse => t=c.report name volumes inUse

/-- Passes over the replicas, one at a time for each, and what the definition `rd` needs noted. -/
def passes : Workload Cluster String Answer AllocErr Bool Seen Change where
  prog := reconcile
  protocol := passProtocol rd
  env := Step
  other := Changes

abbrev Passes := Pool Cluster String Answer AllocErr Bool Seen

theorem passes_sound : Pool.Sound (passes rd) where
  follows _ := reconcile_follows
  answers _ s c a t h := by
    cases c with
    | getResource name =>
      cases a with
      | error e => trivial
      | ok r =>
        rcases h.2 with h|⟨e,h,_⟩
        · exact found_key s.resources name r h.symm
        · cases h
    | cachedResource name =>
      cases a with
      | error e => trivial
      | ok r => exact h.2 r rfl
    | _ => trivial

def Initialized : Prop :=
  ∃d∈c.definitions,d.name=rd ∧ d.initialized=some true

/-- The replica has a disk and reports a volume with committed data: its identifier is known and
is not that of day0. -/
def HoldsData (r : Resource) : Prop :=
  r.name≠"" ∧ resourceFlagDiskless∉r.spec.flags ∧ ∃v∈r.status.volumes,v.diskState.hasData=true ∧
    v.currentGI≠"" ∧ Text.equalFold v.currentGI
      (day0GIFor r.spec.resourceDefinitionName v.volumeNumber.toInt)=false

def DataProven : Prop :=
  ∃r∈c.resources,r.spec.resourceDefinitionName=rd ∧ HoldsData r

theorem shows_iff : Seen.shows rd c.resources.items=true ↔ DataProven rd c := by
  simp only [Seen.shows,anyProvenDataBearingDiskfulPeer,scanDataBearingDiskfulPeers,List.any_eq_true,
    List.mem_filter,isDay0SeededDiskfulVolume,DataProven,HoldsData]
  constructor
  · intro h
    obtain ⟨r,⟨hr,hrd⟩,h⟩ := h
    simp only [Bool.and_eq_true,decide_eq_true_eq,List.any_eq_true] at h
    obtain ⟨⟨hname,hdisk⟩,v,hv,⟨hdata,hgi⟩,hday0⟩ := h
    have hgi' : v.currentGI≠"" := by simpa using hgi
    exact ⟨r,hr,by simpa using hrd,hname,by simpa using hdisk,v,hv,hdata,hgi',
      by simpa [hgi'] using hday0⟩
  · intro h
    obtain ⟨r,hr,hrd,hname,hdisk,v,hv,hdata,hgi,hday0⟩ := h
    refine ⟨r,⟨hr,by simpa using hrd⟩,?_⟩
    simp only [Bool.and_eq_true,decide_eq_true_eq,List.any_eq_true]
    exact ⟨⟨hname,by simpa using hdisk⟩,v,hv,⟨hdata,by simpa using hgi⟩,by simp [hday0]⟩

/-- Whether a command may turn the stamp of a replica from `old` into `new`. -/
def Cmd.Restamps : Cmd → String → Option Bool → Option Bool → Prop
  | .patchSpec x _ _ skip,name,old,new => name=x ∧ settableOnce old skip=true ∧ new=skip
  | .patchSkipInitialSync x skip,name,old,new =>
      name=x ∧ settableOnce old (some skip)=true ∧ new=some skip
  | .updateResource seen changed,name,old,new =>
      name=changed.name ∧ old=seen.spec.skipInitialSync ∧ new=changed.spec.skipInitialSync
  | _,_,_,_ => False

def Cmd.GivesData : Cmd → Resource → Prop
  | .updateResource _ changed,r => r.name=changed.name ∧ r.spec.resourceDefinitionName=rd ∧
      HoldsData (changed.updated r)
  | _,_ => False

structure Effect (rd : String) (cmd : Cmd) (c t : Cluster) : Prop where
  replicas : ∀b∈t.resources,∃a∈c.resources,b.name=a.name ∧
    b.spec.resourceDefinitionName=a.spec.resourceDefinitionName ∧
    (b.spec.skipInitialSync=a.spec.skipInitialSync ∨
      cmd.Restamps a.name a.spec.skipInitialSync b.spec.skipInitialSync)
  data : DataProven rd t → DataProven rd c ∨ ∃r∈c.resources,cmd.GivesData rd r
  latched : Initialized rd c → Initialized rd t
  latch : Initialized rd t → Initialized rd c ∨ cmd=.patchInitialized rd

section

variable {rd : String} {cmd : Cmd} {c t : Cluster}

theorem effect_refl (rd : String) (cmd : Cmd) (c : Cluster) : Effect rd cmd c c where
  replicas b hb := ⟨b,hb,rfl,rfl,.inl rfl⟩
  data h := .inl h
  latched h := h
  latch h := .inl h

theorem effect_modify (x : String) {f : Resource → Resource} {hf : ∀a,(f a).name=a.name}
    (h : ∀a∈c.resources,a.name=x →
      (f a).spec.resourceDefinitionName=a.spec.resourceDefinitionName ∧
      ((f a).spec.skipInitialSync=a.spec.skipInitialSync ∨
        cmd.Restamps a.name a.spec.skipInitialSync (f a).spec.skipInitialSync) ∧
      (a.spec.resourceDefinitionName=rd → HoldsData (f a) → HoldsData a ∨ cmd.GivesData rd a)) :
    Effect rd cmd c {c with resources := c.resources.modify x f hf} where
  replicas b hb := by
    rcases (c.resources.mem_modify x f hf b).mp hb with ⟨a,ha,hx,rfl⟩|⟨hb,_⟩
    · exact ⟨a,ha,hf a,(h a ha hx).1,(h a ha hx).2.1⟩
    · exact ⟨b,hb,rfl,rfl,.inl rfl⟩
  data hp := by
    obtain ⟨b,hb,hrd,hdata⟩ := hp
    rcases (c.resources.mem_modify x f hf b).mp hb with ⟨a,ha,hx,rfl⟩|⟨hb,_⟩
    · have hrd' : a.spec.resourceDefinitionName=rd := (h a ha hx).1.symm.trans hrd
      rcases (h a ha hx).2.2 hrd' hdata with hd|hd
      · exact .inl ⟨a,ha,hrd',hd⟩
      · exact .inr ⟨a,ha,hd⟩
    · exact .inl ⟨b,hb,hrd,hdata⟩
  latched hi := hi
  latch hi := .inl hi

theorem effect_erase (x : String) : Effect rd cmd c {c with resources := c.resources.erase x} where
  replicas b hb := ⟨b,((c.resources.mem_erase x b).mp hb).1,rfl,rfl,.inl rfl⟩
  data hp := by
    obtain ⟨b,hb,hrd,hdata⟩ := hp
    exact .inl ⟨b,((c.resources.mem_erase x b).mp hb).1,hrd,hdata⟩
  latched hi := hi
  latch hi := .inl hi

theorem effect_modify_definition (x : String) {f : ResourceDefinition → ResourceDefinition}
    {hf : ∀a,(f a).name=a.name}
    (hkeep : ∀d : ResourceDefinition,d.initialized=some true → (f d).initialized=some true)
    (hset : ∀d : ResourceDefinition,(f d).initialized=some true →
      d.initialized=some true ∨ cmd=.patchInitialized x) :
    Effect rd cmd c {c with definitions := c.definitions.modify x f hf} where
  replicas b hb := ⟨b,hb,rfl,rfl,.inl rfl⟩
  data hp := .inl hp
  latched hi := by
    obtain ⟨d,hd,hname,hinit⟩ := hi
    by_cases hx : d.name=x
    · exact ⟨f d,(c.definitions.mem_modify x f hf _).mpr (.inl ⟨d,hd,hx,rfl⟩),
        (hf d).trans hname,hkeep d hinit⟩
    · exact ⟨d,(c.definitions.mem_modify x f hf _).mpr (.inr ⟨hd,hx⟩),hname,hinit⟩
  latch hi := by
    obtain ⟨d,hd,hname,hinit⟩ := hi
    rcases (c.definitions.mem_modify x f hf d).mp hd with ⟨d',hd',hx,rfl⟩|⟨hd,_⟩
    · have hrd : x=rd := hx.symm.trans ((hf d').symm.trans hname)
      rcases hset d' hinit with h|h
      · exact .inl ⟨d',hd',hx.trans hrd,h⟩
      · exact .inr (hrd ▸ h)
    · exact .inl ⟨d,hd,hname,hinit⟩

theorem Writes.effect {changed : Cluster} {answer : Except ApiErr Unit}
    (h : Writes changed answer c t) (heffect : Effect rd cmd c changed) : Effect rd cmd c t := by
  rcases h with ⟨_,rfl⟩|⟨_,rfl|rfl⟩
  · exact heffect
  · exact effect_refl rd cmd t
  · exact heffect

theorem Admits.effect {valid : Bool} {changed : Cluster} {answer : Except ApiErr Unit}
    (h : Admits valid changed answer c t) (heffect : valid=true → Effect rd cmd c changed) :
    Effect rd cmd c t := by
  cases valid with
  | true => exact Writes.effect h (heffect rfl)
  | false => exact h.1 ▸ effect_refl rd cmd c

theorem admit_any (x : String) {p : Resource → Bool} (h : (c.resources.get? x).any p=true)
    (a : Resource) (ha : a∈c.resources) (hx : a.name=x) : p a=true := by
  rw [(c.resources.get?_eq_some x a).mpr ⟨ha,hx⟩] at h
  exact h

theorem step_effect (name : String) (m : Seen) (hmay : Seen.may name m cmd) (answer : Answer cmd)
    (h : Step c cmd answer t) : Effect rd cmd c t := by
  cases cmd with
  | patchSpec x i p skip =>
    refine Admits.effect h fun hvalid => effect_modify x fun a ha hx => ?_
    have hadmits := admit_any x hvalid a ha hx
    simp only [ResourceSpec.admits,Bool.and_eq_true] at hadmits
    exact ⟨rfl,.inr ⟨hx,hadmits.2,rfl⟩,fun _ hd => .inl hd⟩
  | patchSkipInitialSync x skip =>
    refine Admits.effect h fun hvalid => effect_modify x fun a ha hx => ?_
    exact ⟨rfl,.inr ⟨hx,admit_any x hvalid a ha hx,rfl⟩,fun _ hd => .inl hd⟩
  | updateResource seen changed =>
    obtain ⟨hseen,hchanged,hrd,_⟩ := hmay
    refine Admits.effect h fun hvalid => effect_modify _ fun a ha hx => ?_
    have hget : c.resources.get? seen.name=some seen := of_decide_eq_true hvalid
    have hmem := (c.resources.get?_eq_some _ _).mp hget
    obtain rfl : a=seen :=
      c.resources.eq_of_key ha hmem.1 (hx.trans (hchanged.trans hseen.symm))
    exact ⟨hrd,.inr ⟨hx,rfl,rfl⟩,fun hrd hd => .inr ⟨hx,hrd,hd⟩⟩
  | patchStatus x i p minor =>
    exact Writes.effect h (effect_modify x fun a _ _ => ⟨rfl,.inl rfl,fun _ hd => .inl hd⟩)
  | patchVolumes x volumes =>
    exact Writes.effect h (effect_modify_definition x (fun _ h => h) fun _ h => .inl h)
  | patchInitialized x =>
    exact Writes.effect h (effect_modify_definition x (fun _ _ => rfl) fun _ _ => .inr rfl)
  | deleteResource x =>
    refine Writes.effect h ?_
    unfold Cluster.deleteResource
    split
    · exact effect_modify x fun a _ _ => ⟨rfl,.inl rfl,fun _ hd => .inl hd⟩
    · exact effect_erase x
  | _ =>
    obtain rfl := step_read _ rfl _ h
    exact effect_refl rd _ t

end

end Blockstor.Controller
