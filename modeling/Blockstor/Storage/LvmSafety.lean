import Blockstor.Storage.LvmGroup

namespace Blockstor.Storage

open Framework Shell List

section Commands

variable {α : Type}

/-- A command of a call for `o` adds logical volumes under the names of `o` only, and no snapshot
in a thin pool. -/
def Adds (thin : Bool) (o : Object) : Entry (@Answer α) → Prop
  | ⟨.create name _ _,_⟩ => ∃ref,o=.volume ref ∧ (name=ref.lvName ∨ name=freshLVName ref.lvName)
  | ⟨.snapshot _ name,_⟩ => name=o.lvName ∧ (thin=true → ∃ref,o=.volume ref)
  | ⟨.rename source target,_⟩ =>
    ∃ref,o=.volume ref ∧ source=freshLVName ref.lvName ∧ target=ref.lvName
  | _ => True

variable {P : Entry (@Answer α) → Prop} (thin : Bool)

theorem emits_run (c : Cmd α) (h : ∀a,P ⟨c,a⟩) : Emits (run c) P := by
  intro log r hr x hx
  obtain ⟨a,rfl,_⟩ := (runs_call c).mp hr
  obtain rfl := mem_singleton.mp hx
  exact h a

theorem emits_must {p : Prog α Bool} (e : Err) (h : Emits p P) : Emits (must p e) P := by
  refine h.bind fun ok => ?_
  cases ok with
  | true => exact emits_pure _
  | false => exact emits_throw

theorem emits_removeLV (o : Object) (name : String) : Emits (removeLV (α := α) name) (Adds thin o) := by
  refine Emits.ask (fun _ => trivial) fun found => ?_
  cases found with
  | true => exact emits_must _ (emits_run _ fun _ => trivial)
  | false => exact emits_pure _

theorem emits_copyAndClearSentinel (o : Object) (srcName tgtName : String) :
    Emits (copyAndClearSentinel (α := α) srcName tgtName) (Adds thin o) := by
  refine Emits.bind (emits_must _ (emits_run _ fun _ => trivial)) fun _ => ?_
  exact emits_must _ (emits_run _ fun _ => trivial)

theorem emits_createVolume (vol : Volume) :
    Emits (createVolume (α := α) (lvm thin) vol) (Adds thin (.volume vol.ref)) := by
  cases thin with
  | true =>
    refine Emits.ask (fun _ => trivial) fun found => ?_
    cases found with
    | true => exact emits_pure _
    | false => exact emits_must _ (emits_run _ fun _ => ⟨vol.ref,rfl,.inl rfl⟩)
  | false =>
    refine Emits.ask (fun _ => trivial) fun names => ?_
    cases names with
    | none => exact emits_throw
    | some names =>
      dsimp only
      split
      · exact emits_pure _
      · have hdrop : Emits (dropLeftover (α := α) (names (freshLVName (volumeName vol)))
            (freshLVName (volumeName vol))) (Adds false (.volume vol.ref)) := by
          unfold dropLeftover
          split
          · exact emits_must _ (emits_run _ fun _ => trivial)
          · exact emits_pure _
        refine hdrop.bind fun _ => ?_
        refine Emits.bind (emits_must _ (emits_run _ fun _ => ⟨vol.ref,rfl,.inr rfl⟩)) fun _ => ?_
        refine Emits.bind (emits_must _ (emits_run _ fun _ => trivial)) fun _ => ?_
        exact emits_must _ (emits_run _ fun _ => ⟨vol.ref,rfl,rfl,rfl⟩)

theorem emits_createSnapshot (snap : Snapshot) :
    Emits (createSnapshot (α := α) .lvmThick snap) (Adds false (.snapshot snap)) := by
  refine Emits.ask (fun _ => trivial) fun found => ?_
  cases found with
  | true => exact emits_pure _
  | false => exact emits_must _ (emits_run _ fun _ => ⟨rfl,nofun⟩)

theorem emits_restoreVolumeFromSnapshot (target : Volume) (src : Snapshot) :
    Emits (restoreVolumeFromSnapshot (α := α) (lvm thin) target src)
      (Adds thin (.volume target.ref)) := by
  cases thin with
  | true =>
    refine Emits.ask (fun _ => trivial) fun found => ?_
    cases found with
    | true => exact emits_pure _
    | false =>
      refine Emits.ask (fun _ => trivial) fun found => ?_
      cases found with
      | true => exact emits_must _ (emits_run _ fun _ => ⟨rfl,fun _ => ⟨target.ref,rfl⟩⟩)
      | false => exact emits_throw
  | false =>
    refine Emits.ask (fun _ => trivial) fun found => ?_
    cases found with
    | true =>
      refine Emits.ask (fun _ => trivial) fun tagged => ?_
      cases tagged with
      | false => exact emits_pure _
      | true =>
        refine Emits.ask (fun _ => trivial) fun found => ?_
        cases found with
        | true => exact emits_copyAndClearSentinel _ _ _ _
        | false => exact emits_throw
    | false =>
      refine Emits.ask (fun _ => trivial) fun found => ?_
      cases found with
      | false => exact emits_throw
      | true =>
        refine Emits.ask (fun _ => trivial) fun usable => ?_
        cases usable with
        | none => exact emits_throw
        | some usableKib =>
          refine Emits.bind (emits_must _ (emits_run _ fun _ => ⟨target.ref,rfl,.inl rfl⟩))
            fun _ => ?_
          exact emits_copyAndClearSentinel _ _ _ _

theorem Call.emits (call : Call) (h : thin=true → ∀snap,call≠.createSnapshot snap) :
    Emits (call.prog thin) (Adds thin call.object) := by
  cases call with
  | createVolume vol => exact emits_createVolume thin vol
  | createSnapshot snap =>
    cases thin with
    | true => exact absurd rfl (h rfl snap)
    | false => exact emits_createSnapshot snap
  | restoreVolumeFromSnapshot target src => exact emits_restoreVolumeFromSnapshot thin target src
  | deleteVolume vol =>
    cases thin with
    | true => exact emits_removeLV _ _ _
    | false => exact Emits.bind (emits_removeLV _ _ _) fun _ => emits_removeLV _ _ _
  | deleteSnapshot snap => exact emits_removeLV _ _ _

end Commands

section Group

/-- A logical volume is a thick snapshot, or it was created for an accepted volume and carries
that volume's name or its temporary name. -/
def LV.Named (lv : LV) : Prop :=
  (∃origin,lv.kind=.cow origin) ∨ ∃ref,(Object.volume ref).accepted=true ∧
    lv.madeFor=.volume ref ∧ (lv.name=ref.lvName ∨ lv.name=freshLVName ref.lvName)

variable {α : Type} {thin : Bool} {o : Object} {g t : VG}

theorem VG.effect_named {c : Cmd α} {a : Answer c} (hadds : Adds thin o ⟨c,a⟩)
    (haccepted : o.accepted=true) (hg : ∀lv∈g,lv.Named) (h : g.effect thin o c=some t) : ∀lv∈t,lv.Named := by
  cases c with
  | create name sizeMiB tagged =>
    obtain ⟨ref,rfl,hname⟩ := hadds
    rw [VG.effect] at h
    split at h
    · cases h
    · cases h
      intro lv hlv
      rcases mem_append.mp hlv with hlv|hlv
      · exact hg lv hlv
      · obtain rfl := mem_singleton.mp hlv
        exact .inr ⟨ref,haccepted,rfl,hname⟩
  | snapshot origin name =>
    obtain ⟨rfl,hvolume⟩ := hadds
    rw [VG.effect] at h
    split at h
    · cases h
    · cases h
      intro lv hlv
      rcases mem_append.mp hlv with hlv|hlv
      · exact hg lv hlv
      · obtain rfl := mem_singleton.mp hlv
        cases thin with
        | false => exact .inl ⟨origin,rfl⟩
        | true =>
          obtain ⟨ref,rfl⟩ := hvolume rfl
          exact .inr ⟨ref,haccepted,rfl,.inl rfl⟩
  | remove name =>
    cases h
    intro lv hlv
    exact hg lv (mem_of_mem_filter hlv)
  | rename source target =>
    obtain ⟨ref,rfl,rfl,rfl⟩ := hadds
    rw [VG.effect] at h
    split at h
    · cases h
    · cases h
      intro lv hlv
      obtain ⟨old,hold,rfl⟩ := mem_map.mp hlv
      by_cases hsource : old.name=freshLVName ref.lvName
      · rw [if_pos hsource]
        rcases hg old hold with ⟨origin,hcow⟩|⟨ref',haccepted',hmade,hname⟩
        · exact .inl ⟨origin,hcow⟩
        · obtain ⟨h0,h1⟩ := Object.alias_range haccepted
          obtain ⟨h0',h1'⟩ := Object.alias_range haccepted'
          -- A temporary name is a volume's name for no volume, and for one volume only.
          have hfresh : freshLVName ref.lvName=freshLVName ref'.lvName := by
            rcases hname with hname|hname
            · have hlin : linstorName ref'.resourceName=true := by
                simp only [Object.accepted,Bool.and_eq_true] at haccepted'
                exact haccepted'.1.1
              exact absurd (hname.symm.trans hsource)
                (VolumeRef.lvName_ne_fresh hlin h0' ref.lvName)
            · exact hsource.symm.trans hname
          have hsame : ref=ref' := VolumeRef.lvName_inj h0 h1 h0' h1' (freshLVName_inj hfresh)
          subst hsame
          exact .inr ⟨ref,haccepted,hmade,.inl rfl⟩
      · rw [if_neg hsource]
        exact hg old hold
  | _ =>
    cases h
    exact hg

theorem VG.step_named {c : Cmd α} {a : Answer c} (hadds : Adds thin o ⟨c,a⟩)
    (haccepted : o.accepted=true) (hg : ∀lv∈g,lv.Named) (h : g.Step thin o c a t) : ∀lv∈t,lv.Named := by
  have hchanges : ∀b,g.Changes thin o c b t → ∀lv∈t,lv.Named := by
    intro b hb
    rcases hb with ⟨_,hb⟩|⟨_,rfl|hb⟩
    · exact VG.effect_named hadds haccepted hg hb
    · exact hg
    · exact VG.effect_named hadds haccepted hg hb
  have hsame : t=g → ∀lv∈t,lv.Named := by
    rintro rfl
    exact hg
  cases c with
  | lookup name => exact hsame h.1
  | names => exact hsame h.1
  | tagged name => exact hsame h
  | status name => exact hsame h
  | volsize name => exact hsame h
  | refreservation name => exact hsame h
  | _ => exact hchanges a h

theorem Reports.row_of {rows : List LVRow} (h : Reports g rows) {row : LVRow} (hrow : row∈rows) :
    ∃lv∈g,row.name=lv.name ∧ row.volType∈lv.kind.types := by
  induction h with
  | nil => cases hrow
  | cons hhead _ ih =>
    rcases mem_cons.mp hrow with rfl|hrow
    · exact ⟨_,.head _,hhead⟩
    · obtain ⟨lv,hlv,hshown⟩ := ih hrow
      exact ⟨lv,.tail _ hlv,hshown⟩

theorem listed_of_named (hg : ∀lv∈g,lv.Named) {rows : List LVRow} (hrows : Reports g rows)
    {ref : VolumeRef} (href : ref∈listLVMVolumes rows) :
    ∃lv∈g,lv.name=ref.lvName ∧ lv.madeFor=.volume ref := by
  obtain ⟨row,hrow,hparse⟩ := mem_filterMap.mp href
  obtain ⟨lv,hlv,hname,htype⟩ := hrows.row_of hrow
  split at hparse
  · cases hparse
  · rename_i hlists
    rcases hg lv hlv with ⟨origin,hcow⟩|⟨ref',haccepted,hmade,hlvName⟩
    · -- A thick snapshot shows the type `s`, which the listing skips.
      rw [hcow] at htype
      obtain hs : row.volType= 's' := mem_singleton.mp htype
      rw [hs] at hlists
      exact absurd ⟨by decide,by decide⟩ hlists
    · obtain ⟨h0,h1⟩ : 0 ≤ ref'.volumeNumber ∧ ref'.volumeNumber ≤ 99999 :=
        Object.alias_range haccepted
      rw [hname] at hparse
      rcases hlvName with hlvName|hlvName
      · rw [hlvName,parseLVName_lvName h0 h1] at hparse
        cases hparse
        exact ⟨lv,hlv,hlvName,hmade⟩
      · rw [hlvName,parseLVName_freshLVName h0 h1] at hparse
        cases hparse

end Group

section Runs

variable {thin : Bool} {s t : Site} {call : Call}

/-- Every object named so far is accepted and read as its own volume, and the group holds named
logical volumes only. -/
structure Site.Clean (s : Site) : Prop where
  accepted : ∀o∈s.objects,o.accepted=true
  apart : ∀o∈s.objects,∀o'∈s.objects,o.alias=o'.alias → o=o'
  named : ∀lv∈s.vg,lv.Named

theorem Call.object_mem (call : Call) : call.object∈call.objects := by
  cases call <;> exact .head _

theorem Site.clean_step (hs : s.Clean)
    (h : guarded (Site.Unambiguous thin) (Site.step thin) s call t) : t.Clean := by
  obtain ⟨⟨hapart,hthin⟩,haccepted,r,hexec,hobjects⟩ := h
  refine ⟨fun o ho => ?_,fun o ho o' ho' heq => ?_,?_⟩
  · rw [hobjects] at ho
    rcases mem_append.mp ho with ho|ho
    · exact hs.accepted o ho
    · exact haccepted o ho
  · rw [hobjects] at ho ho'
    rcases mem_append.mp ho with ho|ho
    · rcases mem_append.mp ho' with ho'|ho'
      · exact hs.apart o ho o' ho' heq
      · exact (hapart o' ho' o (mem_append_left _ ho) heq.symm).symm
    · exact hapart o ho o' ho' heq
  · exact hexec.invariant (Adds thin call.object) (fun g => ∀lv∈g,lv.Named)
      (Call.emits thin call hthin)
      (fun _ _ _ _ hadds hg hc =>
        VG.step_named hadds (haccepted _ call.object_mem) hg hc) hs.named

theorem Site.Clean.identified (hs : s.Clean) : s.Identified where
  distinct o ho o' ho' h :=
    hs.apart o ho o' ho' ((Object.lvName_eq_iff (hs.accepted o ho) (hs.accepted o' ho')).mp h)
  listed _ hrows _ href := listed_of_named hs.named hrows href

/-- As long as no two objects read as one volume and no snapshot is taken in a thin pool, names
tell the objects apart and the listing returns volumes only. -/
theorem lv_names_identify (thin : Bool) (calls : List Call) (s : Site)
    (h : Run (guarded (Site.Unambiguous thin) (Site.step thin)) Site.empty calls s) :
    s.Identified := by
  have hempty : Site.empty.Clean := ⟨nofun,nofun,nofun⟩
  exact (h.invariant Site.Clean (fun _ _ _ hs hstep => Site.clean_step hs hstep) hempty).identified

end Runs

section Concrete

variable (thin : Bool)

variable (o : Object) (s : Site) (g : VG) (call : Call) (c : Cmd Unit)

def VG.serve : Answer c × VG :=
  let change : Bool × VG :=
    match g.effect thin o c with
    | some t => (true,t)
    | none => (false,g)
  match c with
  | .lookup name => (g.holds name,g)
  | .names => (some g.holds,g)
  | .tagged _ => (false,g)
  | .status _ => (none,g)
  | .volsize _ => (none,g)
  | .refreservation _ => (none,g)
  | .create _ _ _ => change
  | .snapshot _ _ => change
  | .copy _ _ => change
  | .untag _ => change
  | .remove _ => change
  | .rename _ _ => change
  | .wipefs _ => change
  | .receive _ _ => change
  | .setRefreservation _ _ => change

theorem VG.step_serve :
    g.Step thin o c (g.serve thin o c).1 (g.serve thin o c).2 := by
  have hchange : g.Changes thin o c
      (match g.effect thin o c with
        | some t => (true,t)
        | none => (false,g)).1
      (match g.effect thin o c with
        | some t => (true,t)
        | none => (false,g)).2 := by
    cases heffect : g.effect thin o c with
    | none => exact .inr ⟨rfl,.inl rfl⟩
    | some t => exact .inl ⟨rfl,heffect⟩
  cases c with
  | lookup name => exact ⟨rfl,.inl rfl⟩
  | names => exact ⟨rfl,.inl rfl⟩
  | tagged name => rfl
  | status name => rfl
  | volsize name => rfl
  | refreservation name => rfl
  | _ => exact hchange

def Site.after : Site :=
  ⟨((call.prog thin).simulate (VG.serve thin call.object) s.vg).2,s.objects++call.objects⟩

theorem Site.step_after
    (h : ∀o∈call.objects,o.accepted=true) : Site.step thin s call (s.after thin call) :=
  ⟨h,_,exec_simulate _ (VG.step_serve thin call.object) _ _,rfl⟩

def firstVolume : Call := .createVolume ⟨"pvc",0,1024⟩

def firstSnapshot : Call := .createSnapshot ⟨"pvc","s1"⟩

/-- A thick volume and its snapshot. -/
theorem lv_names_identify_thick :
    ((Site.empty.after false firstVolume).after false firstSnapshot).Identified := by
  refine lv_names_identify false [firstVolume,firstSnapshot] _ ?_
  refine .cons _ (Site.empty.after false firstVolume) _ _ _ ⟨?_,?_⟩
    (.cons _ _ _ _ _ ⟨?_,?_⟩ (.nil _))
  · exact ⟨by decide,nofun⟩
  · exact Site.step_after _ _ _ (by decide)
  · exact ⟨by decide,nofun⟩
  · exact Site.step_after _ _ _ (by decide)

/-- In a thin pool the listing returns the snapshot of a volume as a volume, and with either
provider a volume may find the snapshot of another resource under its name. -/
theorem lv_names_collide :
    (∃s,Run (Site.step true) Site.empty [firstVolume,firstSnapshot] s ∧ ¬s.Identified) ∧
    ∀thin,∃s,Run (Site.step thin) Site.empty
      [firstVolume,firstSnapshot,.createVolume ⟨"pvc_s1",0,1024⟩] s ∧ ¬s.Identified := by
  have hrun : ∀thin,Run (Site.step thin) Site.empty [firstVolume,firstSnapshot]
      ((Site.empty.after thin firstVolume).after thin firstSnapshot) := fun thin =>
    .cons _ _ _ _ _ (Site.step_after _ _ _ (by decide))
      (.cons _ _ _ _ _ (Site.step_after _ _ _ (by decide)) (.nil _))
  refine ⟨⟨_,hrun true,fun h => ?_⟩,fun thin => ?_⟩
  · have hrows : Reports ((Site.empty.after true firstVolume).after true firstSnapshot).vg
        [⟨"pvc_00000", 'V'⟩,⟨"pvc_s1_00000", 'V'⟩] :=
      .cons ⟨by decide,by decide⟩ (.cons ⟨by decide,by decide⟩ .nil)
    obtain ⟨lv,hlv,hlvName,hmade⟩ := h.listed _ hrows ⟨"pvc_s1",0⟩ (by decide)
    revert lv
    decide
  · refine ⟨_,(hrun thin).append
      (.cons _ _ _ _ _ (Site.step_after _ _ _ (by decide)) (.nil _)),fun h => ?_⟩
    have hsame := h.distinct (.snapshot ⟨"pvc","s1"⟩) (by cases thin <;> decide)
      (.volume ⟨"pvc_s1",0⟩) (by cases thin <;> decide) (by decide)
    cases hsame

end Concrete

end Blockstor.Storage
