import Blockstor.Satellite.Toggle

namespace Blockstor.Toggle

open Drbd Dispatch Framework Shell Text List

def diskText : DiskState → String
  | .diskless => "Diskless"
  | .attaching => "Attaching"
  | .detaching => "Detaching"
  | .failed => "Failed"
  | .negotiating => "Negotiating"
  | .inconsistent => "Inconsistent"
  | .outdated => "Outdated"
  | .dUnknown => "DUnknown"
  | .consistent => "Consistent"
  | .upToDate => "UpToDate"
  | .other => ""

def attachedState : DiskState → Bool
  | .diskless => false
  | .detaching => false
  | .failed => false
  | _ => true

abbrev Slot := List (Int32 × DiskState)

def Slot.detached (slot : Slot) : Slot := slot.map fun v => (v.1,.diskless)

def attachedTo (slot : Option Slot) (number : Int32) : Bool :=
  slot.any fun l => l.any fun v => v.1=number && attachedState v.2

inductive Line
  | volume (disk : DiskState)
  | peerDevice (disk : DiskState)
  | other

def Line.diskField : Line → Option String
  | .volume disk => some ("disk:"++diskText disk)
  | .peerDevice disk => some ("peer-disk:"++diskText disk)
  | .other => none

def Line.Reads (line : Line) (text : String) : Prop :=
  (∀f,line.diskField=some f → f∈split ' ' text) ∧
  ∀f∈split ' ' text,contains f "disk:"=true → line.diskField=some f

def Line.localDisk : Line → Option DiskState
  | .volume disk => some disk
  | _ => none

def Prints (slot : Slot) (out : String) : Prop :=
  ∃lines : List Line,lines.filterMap Line.localDisk=slot.map Prod.snd ∧
    Forall₂ Line.Reads lines (split '\n' out)

theorem token_volume : ∀tok∈notAttached,∀disk,contains ("disk:"++diskText disk) tok=true ↔
    attachedState disk=false ∧ tok="disk:"++diskText disk := by
  intro tok htok disk
  simp only [notAttached,mem_cons,not_mem_nil,or_false] at htok
  rcases htok with rfl|rfl|rfl <;> cases disk <;> decide

theorem token_peer : ∀tok∈notAttached,∀disk,contains ("peer-disk:"++diskText disk) tok=true →
    contains ("peer-disk:"++diskText disk) ("peer-"++tok)=true := by
  intro tok htok disk
  simp only [notAttached,mem_cons,not_mem_nil,or_false] at htok
  rcases htok with rfl|rfl|rfl <;> cases disk <;> decide

theorem not_peer_of_volume : ∀tok∈notAttached,∀disk,
    contains ("disk:"++diskText disk) ("peer-"++tok)=false := by
  intro tok htok disk
  simp only [notAttached,mem_cons,not_mem_nil,or_false] at htok
  rcases htok with rfl|rfl|rfl <;> cases disk <;> decide

theorem token_begins_peer : ∀tok∈notAttached,∀disk,
    ¬tok.toList <+: ("peer-disk:"++diskText disk).toList := by
  intro tok htok disk
  simp only [notAttached,mem_cons,not_mem_nil,or_false] at htok
  rcases htok with rfl|rfl|rfl <;> simp

theorem detached_token (disk : DiskState) (h : attachedState disk=false) :
    ∃tok∈notAttached,"disk:"++diskText disk=tok := by
  cases disk with
  | diskless => exact ⟨"disk:Diskless",by decide,rfl⟩
  | detaching => exact ⟨"disk:Detaching",by decide,rfl⟩
  | failed => exact ⟨"disk:Failed",by decide,rfl⟩
  | _ => cases h

theorem token_plain : ∀tok∈notAttached,contains tok "disk:"=true ∧ ' ' ∉tok.toList ∧
    ' ' ∉("peer-"++tok).toList ∧ contains ("peer-"++tok) "disk:"=true := by
  decide

section Lines

variable {line : Line} {text : String}

theorem Line.Reads.field (h : line.Reads text) {tok : String} (hblank : ' ' ∉tok.toList)
    (hdisk : contains tok "disk:"=true) (hin : contains text tok=true) :
    ∃f,line.diskField=some f ∧ contains f tok=true := by
  obtain ⟨f,hf,hin⟩ := field_of_contains hin hblank
  exact ⟨f,h.2 f hf (contains_trans hin hdisk),hin⟩

theorem Line.Reads.shows (h : line.Reads text) :
    notAttached.any (showsToken text)=line.localDisk.any fun disk => !attachedState disk := by
  rw [Bool.eq_iff_iff,any_eq_true]
  simp only [showsToken,Bool.and_eq_true,Bool.not_eq_true',Bool.and_eq_false_iff]
  constructor
  · rintro ⟨tok,htok,hin,hpeer⟩
    obtain ⟨hdisk,hblank,hblank',hdisk'⟩ := token_plain tok htok
    obtain ⟨f,hf,hftok⟩ := h.field hblank hdisk hin
    cases line with
    | volume disk =>
      cases hf
      simpa [Line.localDisk] using ((token_volume tok htok disk).mp hftok).1
    | peerDevice disk =>
      cases hf
      rcases hpeer with hpeer|hblanktok
      · have hfield := contains_of_field (h.1 _ rfl)
        rw [contains_trans hfield (token_peer tok htok disk hftok)] at hpeer
        cases hpeer
      · -- a field that begins with the token would be that of a local disk
        have hsep : contains text (String.singleton ' ' ++tok)=true :=
          by simpa using hblanktok
        obtain ⟨g,hg,hbegin⟩ := field_of_sep hsep hblank
        have hgdisk := contains_trans (contains_iff.mpr hbegin.isInfix) hdisk
        cases h.2 g hg hgdisk
        exact absurd hbegin (token_begins_peer tok htok disk)
    | other => cases hf
  · intro hlocal
    cases line with
    | volume disk =>
      have hstate : attachedState disk=false := by simpa [Line.localDisk] using hlocal
      obtain ⟨tok,htok,heq⟩ := detached_token disk hstate
      have hin : contains text tok=true := contains_of_field (heq ▸ h.1 _ rfl)
      refine ⟨tok,htok,hin,.inl ?_⟩
      rw [Bool.eq_false_iff]
      intro hpeer
      obtain ⟨_,_,hblank,hdisk⟩ := token_plain tok htok
      obtain ⟨f,hf,hftok⟩ := h.field hblank hdisk hpeer
      cases hf
      rw [not_peer_of_volume tok htok disk] at hftok
      cases hftok
    | peerDevice disk => cases hlocal
    | other => cases hlocal

end Lines

theorem any_shows {lines : List Line} {texts : List String}
    (h : Forall₂ Line.Reads lines texts) :
    (texts.any fun text => notAttached.any (showsToken text))=
      (lines.filterMap Line.localDisk).any fun disk => !attachedState disk := by
  induction h with
  | nil => rfl
  | @cons line text lines texts hline _ ih =>
    rw [any_cons,hline.shows,ih]
    cases hdisk : line.localDisk with
    | none => rw [filterMap_cons_none hdisk,Option.any_none,Bool.false_or]
    | some disk => rw [filterMap_cons_some hdisk,any_cons,Option.any_some]

theorem showsDetached_eq {slot : Slot} {out : String} (h : Prints slot out) :
    showsDetached out=slot.any fun v => !attachedState v.2 := by
  obtain ⟨lines,hlocal,hreads⟩ := h
  rw [showsDetached,any_shows hreads,hlocal,any_map]
  rfl

theorem exists_prints (slot : Slot) : ∃out,Prints slot out := by
  have hplain (disk : DiskState) : ' ' ∉("disk:"++diskText disk).toList ∧
      '\n' ∉("disk:"++diskText disk).toList := by
    cases disk <;> decide
  have hline (disk : DiskState) : (Line.volume disk).Reads ("disk:"++diskText disk) := by
    have hsplit : split ' ' ("disk:"++diskText disk)=["disk:"++diskText disk] := by
      rw [split,splitList_of_notMem (hplain disk).1,map_singleton,
        String.ofList_toList]
    unfold Line.Reads
    rw [hsplit]
    refine ⟨fun f hf => ?_,fun f hf _ => ?_⟩
    · cases hf
      exact .head _
    · rw [mem_singleton.mp hf]
      rfl
  cases slot with
  | nil =>
    refine ⟨"",[.other],rfl,.cons ⟨(fun f hf => by cases hf),fun f hf hdisk => ?_⟩ .nil⟩
    rw [mem_singleton.mp hf] at hdisk
    exact absurd hdisk (by decide)
  | cons v slot =>
    have hlines : ∀l∈(v::slot).map fun v => "disk:"++diskText v.2,'\n' ∉l.toList := by
      intro l hl
      obtain ⟨v,_,rfl⟩ := mem_map.mp hl
      exact (hplain v.2).2
    obtain ⟨out,hout⟩ := exists_split (by simp) hlines
    refine ⟨out,(v::slot).map fun v => .volume v.2,?_,?_⟩
    · rw [filterMap_map]
      exact congrFun filterMap_eq_map (v::slot)
    · rw [hout,forall₂_map_left_iff,forall₂_map_right_iff]
      exact forall₂_same.mpr fun v _ => hline v.2

structure Faults where
  isLoaded : Bool
  hasDisklessVolume : Bool
  detach : Bool

/-- The kernel's slot for the resource, and the volumes that were deleted while it was attached to
them. -/
structure Node where
  slot : Option Slot
  torn : List Int32

def Node.delete (s : Node) (number : Int32) : Node where
  slot := s.slot
  torn := if attachedTo s.slot number then number::s.torn else s.torn

/-- How a node answers. A slot that is there is reported, one that is not is an error or an empty
text; a detach that works detaches every volume. -/
def Step (faults : Faults) (s : Node) (c : Cmd) (answer : Answer c) (t : Node) : Prop :=
  match c,answer with
  | .status _,answer => t=s ∧
      if faults.isLoaded then answer=none
      else match s.slot with
        | none => ∀out,answer=some out → trimSpace out=""
        | some _ => ∃out,answer=some out ∧ trimSpace out≠""
  | .statusVerbose _,answer => t=s ∧
      if faults.hasDisklessVolume then answer=none
      else match s.slot with
        | none => answer=none
        | some slot => ∃out,answer=some out ∧ Prints slot out
  | .detach _,answer => answer= !faults.detach ∧ t.torn=s.torn ∧
      (answer=true → t.slot=s.slot.map Slot.detached)
  | .luksClose _,_ => t=s
  | .deleteVolume _ _ number,_ => t=s.delete number

section

variable {faults : Faults} {cfg : Config} {dr : DesiredResource} {s t : Node}

/-- The detach is issued: both probes work and no volume reads as detached, or only the first one
works. -/
def issued (faults : Faults) (cfg : Config) (slot : Option Slot) : Bool :=
  cfg.adm && !faults.isLoaded &&
    slot.any fun l => faults.hasDisklessVolume || l.all fun v => attachedState v.2

theorem isLoaded_exec {resource : String} {r : Except Err Bool}
    (h : Exec (Step faults) (isLoaded resource) s r t) :
    t=s ∧ r=.ok (!faults.isLoaded && s.slot.isSome) := by
  unfold isLoaded at h
  obtain ⟨answer,s',⟨rfl,hanswer⟩,h⟩ := exec_ask.mp h
  cases hfault : faults.isLoaded with
  | true =>
    rw [hfault,if_pos rfl] at hanswer
    subst hanswer
    obtain ⟨rfl,rfl⟩ := exec_pure.mp h
    exact ⟨rfl,rfl⟩
  | false =>
    rw [hfault,if_neg Bool.false_ne_true] at hanswer
    cases hslot : s'.slot with
    | none =>
      rw [hslot] at hanswer
      cases answer with
      | none =>
        obtain ⟨rfl,rfl⟩ := exec_pure.mp h
        exact ⟨rfl,rfl⟩
      | some out =>
        obtain ⟨rfl,rfl⟩ := exec_pure.mp h
        simp [hanswer out rfl]
    | some slot =>
      rw [hslot] at hanswer
      obtain ⟨out,rfl,hout⟩ := hanswer
      obtain ⟨rfl,rfl⟩ := exec_pure.mp h
      simp [hout]

theorem hasDisklessVolume_exec {resource : String} {slot : Slot} (hslot : s.slot=some slot)
    {r : Except Err Bool} (h : Exec (Step faults) (hasDisklessVolume resource) s r t) :
    t=s ∧ r=.ok (!faults.hasDisklessVolume && slot.any fun v => !attachedState v.2) := by
  unfold hasDisklessVolume at h
  obtain ⟨answer,s',⟨rfl,hanswer⟩,h⟩ := exec_ask.mp h
  cases hfault : faults.hasDisklessVolume with
  | true =>
    rw [hfault,if_pos rfl] at hanswer
    subst hanswer
    obtain ⟨rfl,rfl⟩ := exec_pure.mp h
    exact ⟨rfl,rfl⟩
  | false =>
    rw [hfault,if_neg Bool.false_ne_true,hslot] at hanswer
    obtain ⟨out,rfl,hout⟩ := hanswer
    obtain ⟨rfl,rfl⟩ := exec_pure.mp h
    rw [showsDetached_eq hout]
    exact ⟨rfl,rfl⟩

theorem isLoaded_runs {resource : String} : Exec (Step faults) (isLoaded resource) s
    (.ok (!faults.isLoaded && s.slot.isSome)) s := by
  have hanswer : ∃answer : Option String,Step faults s (.status resource) answer s := by
    cases hfault : faults.isLoaded with
    | true => exact ⟨none,rfl,by rw [hfault,if_pos rfl]⟩
    | false =>
      cases hslot : s.slot with
      | none => exact ⟨none,rfl,by rw [hfault,if_neg Bool.false_ne_true,hslot]; nofun⟩
      | some slot =>
        exact ⟨some "x",rfl,by
          rw [hfault,if_neg Bool.false_ne_true,hslot]; exact ⟨"x",rfl,by decide⟩⟩
  obtain ⟨answer,hanswer⟩ := hanswer
  obtain ⟨r,t,h⟩ : ∃r t,Exec (Step faults) (isLoaded resource) s r t := by
    cases answer with
    | none => exact ⟨_,_,exec_ask.mpr ⟨_,_,hanswer,.done _ _⟩⟩
    | some out => exact ⟨_,_,exec_ask.mpr ⟨_,_,hanswer,.done _ _⟩⟩
  obtain ⟨rfl,rfl⟩ := isLoaded_exec h
  exact h

theorem hasDisklessVolume_runs {resource : String} {slot : Slot} (hslot : s.slot=some slot) :
    Exec (Step faults) (hasDisklessVolume resource) s
      (.ok (!faults.hasDisklessVolume && slot.any fun v => !attachedState v.2)) s := by
  have hanswer : ∃answer : Option String,Step faults s (.statusVerbose resource) answer s := by
    cases hfault : faults.hasDisklessVolume with
    | true => exact ⟨none,rfl,by rw [hfault,if_pos rfl]⟩
    | false =>
      obtain ⟨out,hout⟩ := exists_prints slot
      exact ⟨some out,rfl,by rw [hfault,if_neg Bool.false_ne_true,hslot]; exact ⟨out,rfl,hout⟩⟩
  obtain ⟨answer,hanswer⟩ := hanswer
  obtain ⟨r,t,h⟩ : ∃r t,Exec (Step faults) (hasDisklessVolume resource) s r t := by
    cases answer with
    | none => exact ⟨_,_,exec_ask.mpr ⟨_,_,hanswer,.done _ _⟩⟩
    | some out => exact ⟨_,_,exec_ask.mpr ⟨_,_,hanswer,.done _ _⟩⟩
  obtain ⟨rfl,rfl⟩ := hasDisklessVolume_exec hslot h
  exact h

theorem detach_exec {r : Except Err Unit}
    (h : Exec (Step faults) (detachIfStillAttached cfg dr) s r t) :
    t.torn=s.torn ∧ (r=.ok () → t.slot=
      if issued faults cfg s.slot then s.slot.map Slot.detached else s.slot) := by
  unfold detachIfStillAttached at h
  cases hadm : cfg.adm with
  | false =>
    rw [hadm,if_neg Bool.false_ne_true] at h
    obtain ⟨rfl,rfl⟩ := exec_pure.mp h
    simp [issued,hadm]
  | true =>
    rw [hadm,if_pos rfl] at h
    rcases exec_bind.mp h with ⟨e,he,_⟩|⟨loaded,u,hu,h⟩
    · cases (isLoaded_exec he).2
    obtain ⟨rfl,hloaded⟩ := isLoaded_exec hu
    cases hloaded
    split at h
    · rename_i hload
      obtain ⟨hfault,hsome⟩ := by simpa using hload
      obtain ⟨slot,hslot⟩ := Option.isSome_iff_exists.mp hsome
      rcases exec_bind.mp h with ⟨e,he,_⟩|⟨diskless,v,hv,h⟩
      · cases (hasDisklessVolume_exec hslot he).2
      obtain ⟨rfl,hdiskless⟩ := hasDisklessVolume_exec hslot hv
      cases hdiskless
      split at h
      · rename_i hdetached
        obtain ⟨rfl,rfl⟩ := exec_pure.mp h
        have hnot : issued faults cfg t.slot=false := by
          rw [issued,hslot,Option.any_some,Bool.and_eq_false_iff]
          simp only [Bool.and_eq_true,Bool.not_eq_true'] at hdetached
          rw [hdetached.1,Bool.false_or,all_eq_not_any_not,hdetached.2]
          exact .inr rfl
        rw [hnot]
        exact ⟨rfl,fun _ => rfl⟩
      · rename_i hdetached
        obtain ⟨answer,w,⟨_,htorn,hslot'⟩,h⟩ := exec_ask.mp h
        cases answer with
        | false =>
          obtain ⟨rfl,rfl⟩ := exec_throw.mp h
          exact ⟨htorn,fun hok => by cases hok⟩
        | true =>
          obtain ⟨rfl,rfl⟩ := exec_pure.mp h
          have hissued : issued faults cfg v.slot=true := by
            rw [issued,hslot,Option.any_some,hadm,hfault,all_eq_not_any_not]
            cases hf : faults.hasDisklessVolume <;> simp_all
          rw [hissued]
          exact ⟨htorn,fun _ => hslot' rfl⟩
    · rename_i hload
      obtain ⟨rfl,rfl⟩ := exec_pure.mp h
      have hnot : issued faults cfg t.slot=false := by
        unfold issued
        cases hslot : t.slot <;> simp_all
      rw [hnot]
      exact ⟨rfl,fun _ => rfl⟩

theorem not_issued_runs (h : issued faults cfg s.slot=false) :
    Exec (Step faults) (detachIfStillAttached cfg dr) s (.ok ()) s := by
  unfold detachIfStillAttached
  split_ifs with hadm
  · refine exec_bind.mpr (.inr ⟨_,_,isLoaded_runs,?_⟩)
    split
    · rename_i hload
      obtain ⟨hfault,hsome⟩ := by simpa using hload
      obtain ⟨slot,hslot⟩ := Option.isSome_iff_exists.mp hsome
      refine exec_bind.mpr (.inr ⟨_,_,hasDisklessVolume_runs hslot,?_⟩)
      rw [issued,hslot,Option.any_some,hadm,hfault,all_eq_not_any_not] at h
      split
      · exact .done _ _
      · cases hf : faults.hasDisklessVolume <;> simp_all
    · exact .done _ _
  · exact .done _ _

def Reclaims (cfg : Config) (vol : DesiredVolume) : Prop :=
  vol.storagePool≠"" ∧ vol.storagePool∈cfg.providers

variable (rdName : String) (vols : List DesiredVolume)

theorem closeMappers_stays : Stays (Step faults) (closeMappers rdName vols) := by
  induction vols with
  | nil => exact stays_pure ()
  | cons vol vols ih => exact (stays_call _ fun _ _ _ h => h).bind fun _ => ih

theorem closeLUKS_stays : Stays (Step faults) (closeLUKS cfg dr) := by
  unfold closeLUKS
  split
  · exact closeMappers_stays _ _
  · exact stays_pure ()

theorem closeMappers_runs : Exec (Step faults) (closeMappers rdName vols) s (.ok ()) s := by
  induction vols with
  | nil => exact .done _ _
  | cons vol vols ih => exact exec_ask.mpr ⟨true,s,rfl,ih⟩

theorem closeLUKS_runs : Exec (Step faults) (closeLUKS cfg dr) s (.ok ()) s := by
  unfold closeLUKS
  split
  · exact closeMappers_runs _ _
  · exact .done _ _

theorem reclaim_exec {vols : List DesiredVolume}
    (hvols : ∀vol∈vols,Reclaims cfg vol → attachedTo s.slot vol.volumeNumber=false)
    {rdName : String} {r : Except Err Unit}
    (h : Exec (Step faults) (reclaimVolumesForDiskless cfg rdName vols) s r t) : t=s := by
  induction vols with
  | nil => exact (exec_pure.mp h).2
  | cons vol vols ih =>
    have hrest := ih fun v hv => hvols v (.tail _ hv)
    unfold reclaimVolumesForDiskless at h
    split_ifs at h with hempty hpool
    · exact hrest h
    · obtain ⟨answer,u,rfl,h⟩ := exec_ask.mp h
      have hsame : s.delete vol.volumeNumber=s := by
        rw [Node.delete,hvols vol (.head _) ⟨hempty,hpool⟩,if_neg Bool.false_ne_true]
      rw [hsame] at h
      cases answer with
      | true => exact hrest h
      | false => exact (exec_throw.mp h).2
    · exact hrest h

theorem reclaim_runs (faults : Faults) (cfg : Config) (s : Node) (rdName : String)
    (vols : List DesiredVolume) :
    ∃t,Exec (Step faults) (reclaimVolumesForDiskless cfg rdName vols) s (.ok ()) t ∧
      (∀n∈s.torn,n∈t.torn) ∧ ∀vol∈vols,Reclaims cfg vol →
        attachedTo s.slot vol.volumeNumber=true → vol.volumeNumber∈t.torn := by
  induction vols generalizing s with
  | nil => exact ⟨s,.done _ _,fun _ h => h,fun _ h => by cases h⟩
  | cons vol vols ih =>
    unfold reclaimVolumesForDiskless
    split_ifs with hempty hpool
    · obtain ⟨t,ht,hkeep,hall⟩ := ih s
      refine ⟨t,ht,hkeep,fun v hv hrec hatt => ?_⟩
      rcases mem_cons.mp hv with rfl|hv
      · exact absurd hempty hrec.1
      · exact hall v hv hrec hatt
    · obtain ⟨t,ht,hkeep,hall⟩ := ih (s.delete vol.volumeNumber)
      refine ⟨t,exec_ask.mpr ⟨true,_,rfl,ht⟩,fun n hn => hkeep n ?_,fun v hv hrec hatt => ?_⟩
      · unfold Node.delete
        split_ifs
        · exact .tail _ hn
        · exact hn
      · rcases mem_cons.mp hv with rfl|hv
        · refine hkeep _ ?_
          rw [Node.delete,hatt,if_pos rfl]
          exact .head _
        · exact hall v hv hrec hatt
    · obtain ⟨t,ht,hkeep,hall⟩ := ih s
      refine ⟨t,ht,hkeep,fun v hv hrec hatt => ?_⟩
      rcases mem_cons.mp hv with rfl|hv
      · exact absurd hrec.2 hpool
      · exact hall v hv hrec hatt

end

def DetachedFirst (cfg : Config) (dr : DesiredResource) (applyStorage : Prog Applied)
    (faults : Faults) (slot : Option Slot) : Prop :=
  ∀r t,Exec (Step faults) (applyStorageIfDiskful cfg dr true applyStorage) ⟨slot,[]⟩ r t → t.torn=[]

theorem attachedTo_detached (slot : Option Slot) {number : Int32} :
    attachedTo (slot.map Slot.detached) number=false := by
  cases slot with
  | none => rfl
  | some l => simp [attachedTo,Slot.detached,attachedState]

theorem detachedFirst_iff (cfg : Config) (dr : DesiredResource) (applyStorage : Prog Applied)
    (faults : Faults) (slot : Option Slot) :
    DetachedFirst cfg dr applyStorage faults slot ↔
      (∀vol∈dr.volumes,Reclaims cfg vol → attachedTo slot vol.volumeNumber=false) ∨
      issued faults cfg slot=true := by
  constructor
  · intro h
    by_contra hcond
    obtain ⟨hvol,hissued⟩ := not_or.mp hcond
    push Not at hvol
    obtain ⟨vol,hvol,hreclaims,hatt⟩ := hvol
    obtain ⟨t,ht,_,htorn⟩ :=
      reclaim_runs faults cfg ⟨slot,[]⟩ dr.name dr.volumes
    have hrun : Exec (Step faults) (applyStorageIfDiskful cfg dr true applyStorage) ⟨slot,[]⟩
        (.ok ⟨[],false,false⟩) t := by
      refine exec_bind_ok.mpr ⟨(),_,not_issued_runs (Bool.eq_false_iff.mpr hissued),?_⟩
      refine exec_bind_ok.mpr ⟨(),_,closeLUKS_runs,?_⟩
      exact exec_bind_ok.mpr ⟨(),t,ht,.done _ _⟩
    have hmem := htorn vol hvol hreclaims (eq_true_of_ne_false hatt)
    rw [h _ _ hrun] at hmem
    cases hmem
  · rintro hcond r t h
    rcases exec_bind.mp h with ⟨e,he,_⟩|⟨_,u,hu,h₁⟩
    · exact (detach_exec he).1
    obtain ⟨htorn,hslot⟩ := detach_exec hu
    have hsafe : ∀vol∈dr.volumes,Reclaims cfg vol → attachedTo u.slot vol.volumeNumber=false := by
      intro vol hvol hreclaims
      rw [hslot rfl]
      split_ifs with hissued
      · exact attachedTo_detached slot
      · exact (hcond.resolve_right hissued) vol hvol hreclaims
    rcases exec_bind.mp h₁ with ⟨e,he,_⟩|⟨_,v,hv,h₂⟩
    · rw [closeLUKS_stays _ _ _ he]
      exact htorn
    rw [closeLUKS_stays _ _ _ hv] at h₂
    rcases exec_bind.mp h₂ with ⟨e,he,_⟩|⟨_,w,hw,h₃⟩
    · rw [reclaim_exec hsafe he]
      exact htorn
    · rw [(exec_pure.mp h₃).2,reclaim_exec hsafe hw]
      exact htorn

/-- A diskless replica of `pvc-1` with one volume left in `pool`. -/
def toggled : DesiredResource where
  name := "pvc-1"
  nodeName := "n1"
  flags := ["DISKLESS"]
  props := .empty
  volumes := [⟨0,1024,"pool","","","","",1000⟩]
  peers := []
  drbdOptions := .empty
  layerStack := []
  connections := []
  peerHasData := false
  skipInitialSync := none
  distinct := nodup_singleton _

/-- The first probe fails, and the volume is deleted under the attached slot. -/
theorem attached_volume_deleted : ¬∀cfg dr applyStorage faults slot,
    DetachedFirst cfg dr applyStorage faults slot := by
  intro h
  have hsafe := h ⟨true,false,["pool"]⟩ toggled (pure ⟨[],false,false⟩) ⟨true,false,false⟩
    (some [(0,.upToDate)])
  have hrun : Exec (Step ⟨true,false,false⟩) (applyStorageIfDiskful ⟨true,false,["pool"]⟩ toggled true
      (pure ⟨[],false,false⟩)) ⟨some [(0,.upToDate)],[]⟩ (.ok ⟨[],false,false⟩)
      ⟨some [(0,.upToDate)],[0]⟩ := by
    refine exec_bind_ok.mpr ⟨(),_,not_issued_runs (by decide),?_⟩
    refine exec_bind_ok.mpr ⟨(),_,closeLUKS_runs,?_⟩
    exact exec_bind_ok.mpr ⟨(),_,exec_ask.mpr ⟨true,_,rfl,.done _ _⟩,.done _ _⟩
  exact absurd (hsafe _ _ hrun) (cons_ne_nil _ _)

end Blockstor.Toggle
