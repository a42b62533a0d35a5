import Blockstor.Framework.Transition
import Blockstor.Satellite.GiHistoryFile

namespace Blockstor.GiHistory

open Drbd Framework Text Function List

inductive Call
  | record (vol : Int32) (generation : String) (fault : Option WriteFault)
  | keep (vols : List Int32) (fault : Option WriteFault)
  | forget (fails : Bool)

/-- The record, for each volume the last generation whose call reported success since the volume was
last dropped, and whether the volume was dropped and not recorded again. -/
structure Track where
  record : Record
  recorded : Int32 → Option String
  dropped : Int32 → Bool

variable (v : Int32) (t : Track)

def Track.afterRecord (vol : Int32) (generation : String) : Record × Recorded → Track
  | (r,.ignored) => {t with record := r}
  | (r,.onFile) => ⟨r,update t.recorded vol (some generation),
      update t.dropped vol false⟩
  | (r,.failed) => {t with record := r,dropped := update t.dropped vol false}

def Track.afterForget : Record × Bool → Track
  | (r,true) => ⟨r,fun _ => none,fun _ => true⟩
  | (r,false) => {t with record := r}

def Track.step (rdName : String) (t : Track) : Call → Track
  | .record vol generation fault => t.afterRecord vol (toUpper generation)
      (recordObservedGI t.record rdName vol generation fault)
  | .keep vols fault => ⟨keepGIHistoryOf t.record rdName vols fault,
      fun v => if vols.contains v then t.recorded v else none,
      fun v => t.dropped v || !vols.contains v⟩
  | .forget fails => t.afterForget (forgetGIHistory t.record rdName fails)

structure Start where
  file : Option String
  history : History
  read : readGIHistory file=.ok history
  bounded : ∀v,(listed history v).length ≤ giHistoryPerVolume

def Start.track (start : Start) : Track :=
  ⟨⟨start.file,fun _ => none⟩,fun _ => none,fun _ => false⟩

/-- What the file lists is bounded, has what was recorded, and has nothing of a dropped volume. -/
structure Lists (t : Track) (history : History) : Prop where
  bounded : ∀v,(listed history v).length ≤ giHistoryPerVolume
  recorded : ∀v g,t.recorded v=some g → g∈listed history v
  dropped : ∀v,t.dropped v=true → listed history v=[]

def Track.Sound : Prop :=
  ∃history,readGIHistory t.record.file=.ok history ∧ Lists t history

/-- A write that fails after the rename does not push out the last generation that was recorded, and a
write that fails before it has nothing to drop. -/
def Call.Meets : Call → Prop
  | .record vol generation fault => ∀f history g,fault=some f → f.renamed=true →
      isGenerationUUID generation=true → readGIHistory t.record.file=.ok history →
      toUpper generation∉listed history vol → t.recorded vol=some g →
      (listed history vol).length < giHistoryPerVolume ∨ g∈(listed history vol).tail
  | .keep vols fault => ∀f history v,fault=some f → f.renamed=false →
      readGIHistory t.record.file=.ok history → v∉vols → listed history v=[]
  | .forget _ => True

section Runs

variable {t : Track} {history : History} {rdName generation g : String} {u v vol : Int32}
  {fault : Option WriteFault}

structure Inv (rdName : String) (t : Track) : Prop where
  sound : t.Sound
  cached : ∀v g,t.record.lastRecordedGI (giKey rdName v)=some g → t.recorded v=some g

theorem giKey_inj (h : giKey rdName u=giKey rdName v) : u=v := by
  have htext : formatInt u.toInt=formatInt v.toInt := String.append_right_inj _ |>.mp h
  have hparse := parseSigned_formatInt u.toInt
  rw [htext,parseSigned_formatInt] at hparse
  exact (Int32.toInt_inj.mp (Option.some.inj hparse)).symm

theorem file_write (fault : Option WriteFault) (file : Option String) (new : History) :
    (writeGIHistory fault file new).1=
      if fault.all WriteFault.renamed then some (renderHistory new) else file := by
  cases fault with
  | none => rfl
  | some f => rfl

theorem listed_appendGI (vol : Int32) (generation : String) (v : Int32) :
    listed (appendGI history vol generation) v=
      if v=vol then (listed history vol++[generation]).drop
        ((listed history vol).length+1-giHistoryPerVolume) else listed history v := by
  rw [listed,appendGI,Dict.find_set]
  split
  · rw [length_append]
    rfl
  · rfl

theorem listed_keep (vols : List Int32) (v : Int32) :
    listed (history.keep vols.contains) v=if vols.contains v then listed history v else [] := by
  rw [listed,Dict.find_keep]
  split
  · rfl
  · rfl

theorem record_cases (rdName : String) (r : Record) (vol : Int32) (generation : String) (fault : Option WriteFault)
    (hread : readGIHistory r.file=.ok history) :
    isGenerationUUID generation=false ∧
      recordObservedGI r rdName vol generation fault=(r,.ignored) ∨
    isGenerationUUID generation=true ∧
      (r.lastRecordedGI (giKey rdName vol)=some (toUpper generation) ∧
        recordObservedGI r rdName vol generation fault=(r,.onFile) ∨
      toUpper generation∈listed history vol ∧
        recordObservedGI r rdName vol generation fault=
          (remember r rdName vol (toUpper generation),.onFile) ∨
      toUpper generation∉listed history vol ∧
        (fault=none ∧ recordObservedGI r rdName vol generation fault=
            (remember {r with file := (writeGIHistory fault r.file
              (appendGI history vol (toUpper generation))).1} rdName vol
              (toUpper generation),.onFile) ∨
          fault≠none ∧ recordObservedGI r rdName vol generation fault=
            ({r with file := (writeGIHistory fault r.file
              (appendGI history vol (toUpper generation))).1},.failed))) := by
  unfold recordObservedGI
  by_cases hempty : generation=""
  · exact .inl ⟨by rw [hempty]; decide,if_pos hempty⟩
  rw [if_neg hempty]
  cases huuid : isGenerationUUID generation with
  | false => exact .inl ⟨rfl,if_pos rfl⟩
  | true =>
    rw [if_neg Bool.noConfusion]
    refine .inr ⟨rfl,?_⟩
    by_cases hcached : r.lastRecordedGI (giKey rdName vol)=some (toUpper generation)
    · exact .inl ⟨hcached,if_pos hcached⟩
    simp only [if_neg hcached,hread]
    by_cases hlisted : toUpper generation∈listed history vol
    · exact .inr (.inl ⟨hlisted,if_pos hlisted⟩)
    simp only [if_neg hlisted]
    refine .inr (.inr ⟨hlisted,?_⟩)
    cases fault with
    | none => exact .inl ⟨rfl,rfl⟩
    | some f => exact .inr ⟨nofun,rfl⟩

theorem cached_remember {r : Record}
    (h : (remember r rdName vol generation).lastRecordedGI (giKey rdName v)=some g) :
    v=vol ∧ g=generation ∨ v≠vol ∧ r.lastRecordedGI (giKey rdName v)=some g := by
  change update r.lastRecordedGI (giKey rdName vol) _ _=_ at h
  by_cases hv : v=vol
  · rw [hv,update_self] at h
    exact .inl ⟨hv,(Option.some.inj h).symm⟩
  · rw [update_of_ne fun hkey => hv (giKey_inj hkey)] at h
    exact .inr ⟨hv,h⟩

theorem mem_pushed {l : List String} (hl : l.length ≤ giHistoryPerVolume) :
    g∈(l++[generation]).drop (l.length+1-giHistoryPerVolume) ↔
      g=generation ∨ g∈l ∧ (l.length < giHistoryPerVolume ∨ g∈l.tail) := by
  rcases Nat.lt_or_eq_of_le hl with hlt|heq
  · rw [Nat.sub_eq_zero_of_le hlt,drop_zero,mem_append,mem_singleton,or_comm]
    simp only [hlt,true_or,and_true]
  · have hcons : l≠[] := by
      rintro rfl
      cases heq
    rw [heq,Nat.add_sub_cancel_left,drop_one,tail_append_of_ne_nil hcons,mem_append,
      mem_singleton,or_comm]
    refine or_congr_right ⟨fun h => ⟨mem_of_mem_tail h,.inr h⟩,fun h => ?_⟩
    exact h.2.resolve_left (Nat.lt_irrefl _)

theorem length_pushed {l : List String} {generation : String} :
    ((l++[generation]).drop (l.length+1-giHistoryPerVolume)).length ≤ giHistoryPerVolume := by
  rw [length_drop,length_append,length_singleton]
  omega

theorem dropped_update {dropped : Int32 → Bool}
    (h : update dropped vol false v=true) : v≠vol ∧ dropped v=true := by
  by_cases hv : v=vol
  · rw [hv,update_self] at h
    cases h
  · rw [update_of_ne hv] at h
    exact ⟨hv,h⟩

theorem lists_onFile (h : Lists t history) (hlisted : generation∈listed history vol) {r : Record} :
    Lists ⟨r,update t.recorded vol (some generation),update t.dropped vol false⟩
      history := by
  refine ⟨h.bounded,fun v g hg => ?_,fun v hv => ?_⟩
  · change update t.recorded vol (some generation) v=some g at hg
    by_cases hvol : v=vol
    · rw [hvol,update_self] at hg
      cases hg
      rw [hvol]
      exact hlisted
    · rw [update_of_ne hvol] at hg
      exact h.recorded v g hg
  · exact h.dropped v (dropped_update hv).2

theorem lists_pushed {history' : History} (h : Lists t history)
    (hlisted : ∀v,listed history' v=listed (appendGI history vol generation) v) {r : Record}
    {recorded : Int32 → Option String} (hother : ∀v,v≠vol → recorded v=t.recorded v)
    (hvol : ∀g,recorded vol=some g → g=generation ∨
      g∈listed history vol ∧ ((listed history vol).length < giHistoryPerVolume ∨
        g∈(listed history vol).tail)) :
    Lists ⟨r,recorded,update t.dropped vol false⟩ history' := by
  have hat (v : Int32) := (hlisted v).trans (listed_appendGI vol generation v)
  refine ⟨fun v => ?_,fun v g hg => ?_,fun v hv => ?_⟩
  · rw [hat v]
    split
    · exact length_pushed
    · exact h.bounded v
  · rw [hat v]
    split
    · rename_i hv
      rw [hv] at hg
      exact (mem_pushed (h.bounded vol)).mpr (hvol g hg)
    · rename_i hv
      exact h.recorded v g ((hother v hv).symm.trans hg)
  · obtain ⟨hne,hv⟩ := dropped_update hv
    rw [hat v,if_neg hne]
    exact h.dropped v hv

theorem valid_appendGI (vol : Int32) (hvalid : ∀v,∀g∈listed history v,isGenerationUUID g=true)
    (hgeneration : isGenerationUUID generation=true) :
    ∀v,∀g∈listed (appendGI history vol generation) v,isGenerationUUID g=true := by
  intro v g hg
  rw [listed_appendGI] at hg
  split at hg
  · rcases mem_append.mp (mem_of_mem_drop hg) with hg|hg
    · exact hvalid vol g hg
    · rw [mem_singleton.mp hg]
      exact hgeneration
  · exact hvalid v g hg

theorem cached_onFile (hinv : Inv rdName t) (r : Record)
    (hr : r.lastRecordedGI=t.record.lastRecordedGI) (v : Int32) (g : String)
    (hg : (remember r rdName vol generation).lastRecordedGI (giKey rdName v)=some g) :
    update t.recorded vol (some generation) v=some g := by
  rcases cached_remember hg with ⟨rfl,rfl⟩|⟨hv,hg⟩
  · exact update_self ..
  · rw [hr] at hg
    exact (update_of_ne hv ..).trans (hinv.cached v g hg)

theorem sound_failed (hread : readGIHistory t.record.file=.ok history) (hlists : Lists t history)
    {file : Option String}
    (huuid : isGenerationUUID generation=true) (hnew : generation∉listed history vol)
    (hfile : file=(writeGIHistory fault t.record.file (appendGI history vol generation)).1) :
    Track.Sound (t.afterRecord vol generation ({t.record with file := file},.failed)) ↔
      (fault.all WriteFault.renamed=true → ∀g,t.recorded vol=some g →
        (listed history vol).length < giHistoryPerVolume ∨ g∈(listed history vol).tail) := by
  rw [file_write] at hfile
  cases hrenamed : fault.all WriteFault.renamed with
  | false =>
    rw [hrenamed,if_neg Bool.false_ne_true] at hfile
    refine iff_of_true ⟨history,hfile ▸ hread,hlists.bounded,hlists.recorded,fun v hv => ?_⟩ nofun
    exact hlists.dropped v (dropped_update hv).2
  | true =>
    rw [hrenamed,if_pos rfl] at hfile
    have hread' : readGIHistory file=.ok (reread (appendGI history vol generation)) := by
      rw [hfile]
      exact read_render (valid_appendGI vol (read_valid hread) huuid)
    constructor
    · rintro ⟨history',hread'',hlists'⟩ _ g hg
      obtain rfl := Except.ok.inj (hread''.symm.trans hread')
      have hmem := hlists'.recorded vol g hg
      rw [listed_reread,listed_appendGI,if_pos rfl] at hmem
      rcases (mem_pushed (hlists.bounded vol)).mp hmem with rfl|hkept
      · exact absurd (hlists.recorded vol g hg) hnew
      · exact hkept.2
    · intro hkept
      refine ⟨_,hread',lists_pushed hlists listed_reread (fun _ _ => rfl) fun g hg => ?_⟩
      exact .inr ⟨hlists.recorded vol g hg,hkept rfl g hg⟩

theorem record_keeps (hinv : Inv rdName t) (hmeets : (Call.record vol generation fault).Meets t) :
    Inv rdName (t.step rdName (.record vol generation fault)) := by
  obtain ⟨history,hread,hlists⟩ := hinv.sound
  change Inv rdName (t.afterRecord vol _ (recordObservedGI t.record rdName vol generation fault))
  rcases record_cases rdName t.record vol generation fault hread with
    ⟨_,hr⟩|⟨huuid,⟨hcached,hr⟩|⟨hlisted,hr⟩|⟨hnew,⟨rfl,hr⟩|⟨hfault,hr⟩⟩⟩
  · rw [hr]
    exact hinv
  · rw [hr]
    have hrecorded := hinv.cached vol _ hcached
    refine ⟨⟨history,hread,lists_onFile hlists (hlists.recorded vol _ hrecorded)⟩,fun v g hg => ?_⟩
    refine cached_onFile hinv t.record rfl v g ?_
    rw [remember,← hcached,update_eq_self]
    exact hg
  · rw [hr]
    exact ⟨⟨history,hread,lists_onFile hlists hlisted⟩,cached_onFile hinv t.record rfl⟩
  · have hread' := read_render (valid_appendGI vol (read_valid hread)
      (isGenerationUUID_toUpper huuid))
    rw [hr]
    refine ⟨⟨_,hread',lists_pushed hlists listed_reread (fun v hv => ?_) fun g hg => ?_⟩,
      cached_onFile hinv _ rfl⟩
    · exact update_of_ne hv ..
    · rw [update_self] at hg
      exact .inl (Option.some.inj hg).symm
  · rw [hr]
    refine ⟨(sound_failed hread hlists (isGenerationUUID_toUpper huuid) hnew rfl).mpr ?_,hinv.cached⟩
    intro hrenamed g hg
    obtain ⟨f,rfl⟩ := Option.ne_none_iff_exists'.mp hfault
    exact hmeets f history g rfl hrenamed huuid hread hnew hg

theorem record_needs (hinv : Inv rdName t)
    (h : (t.step rdName (.record vol generation fault)).Sound) :
    (Call.record vol generation fault).Meets t := by
  rintro f history g rfl hrenamed huuid hread hnew hg
  obtain ⟨history',hread',hlists⟩ := hinv.sound
  obtain rfl : history'=history := Except.ok.inj (hread'.symm.trans hread)
  change Track.Sound (t.afterRecord vol _
    (recordObservedGI t.record rdName vol generation (some f))) at h
  rcases record_cases rdName t.record vol generation (some f) hread with
    ⟨hnone,_⟩|⟨_,⟨hcached,_⟩|⟨hlisted,_⟩|⟨_,⟨hfault,_⟩|⟨_,hr⟩⟩⟩
  · rw [huuid] at hnone
    cases hnone
  · exact absurd (hlists.recorded vol _ (hinv.cached vol _ hcached)) hnew
  · exact absurd hlisted hnew
  · cases hfault
  · rw [hr] at h
    exact (sound_failed hread hlists (isGenerationUUID_toUpper huuid) hnew rfl).mp h hrenamed g hg

theorem mem_items_of_listed (h : listed history v≠[]) : ∃x∈history.items,x.1=v := by
  cases hfind : history.find v with
  | none =>
    rw [listed,hfind] at h
    exact absurd rfl h
  | some l => exact ⟨(v,l),Dict.find_eq_some.mp hfind,rfl⟩

theorem lists_kept {vols : List Int32} {history' : History} (hlists : Lists t history)
    (hkept : ∀v,listed history' v=if vols.contains v then listed history v else []) (r : Record) :
    Lists ⟨r,fun v => if vols.contains v then t.recorded v else none,
      fun v => t.dropped v || !vols.contains v⟩ history' := by
  refine ⟨fun v => ?_,fun v g hg => ?_,fun v hv => ?_⟩
  · rw [hkept]
    split
    · exact hlists.bounded v
    · exact Nat.zero_le _
  · change (if vols.contains v then t.recorded v else none)=some g at hg
    rw [hkept]
    split at hg
    · rename_i hvol
      rw [if_pos hvol]
      exact hlists.recorded v g hg
    · cases hg
  · rw [hkept]
    split
    · rename_i hvol
      change (t.dropped v || !vols.contains v)=true at hv
      rw [hvol,Bool.not_true,Bool.or_false] at hv
      exact hlists.dropped v hv
    · rfl

theorem keep_sound (hread : readGIHistory t.record.file=.ok history) (hlists : Lists t history)
    (vols : List Int32) (fault : Option WriteFault) :
    (t.step rdName (.keep vols fault)).Sound ↔ (fault.all WriteFault.renamed=false →
      ∀v,v∉vols → listed history v=[]) := by
  have hsame (r : Record) (hr : readGIHistory r.file=.ok history) :
      Track.Sound ⟨r,fun v => if vols.contains v then t.recorded v else none,
        fun v => t.dropped v || !vols.contains v⟩ ↔ ∀v,v∉vols → listed history v=[] := by
    constructor
    · rintro ⟨history',hread',hlists'⟩ v hv
      obtain rfl : history'=history := Except.ok.inj (hread'.symm.trans hr)
      exact hlists'.dropped v (by simp [hv])
    · intro h
      refine ⟨history,hr,lists_kept hlists (fun v => ?_) r⟩
      split
      · rfl
      · rename_i hv
        exact h v (by simpa using hv)
  unfold Track.step keepGIHistoryOf
  rw [hread]
  cases hdrops : history.items.any fun x => !vols.contains x.1 with
  | false =>
    have hnone (v : Int32) (hv : v∉vols) : listed history v=[] := by
      by_contra hlisted
      obtain ⟨x,hx,rfl⟩ := mem_items_of_listed hlisted
      have hkept := any_eq_false.mp hdrops x hx
      simp [hv] at hkept
    simp only [hdrops,Bool.false_eq_true,if_false]
    exact iff_of_true ((hsame t.record hread).mpr hnone) fun _ => hnone
  | true =>
    simp only [hdrops,if_true,file_write]
    cases hrenamed : fault.all WriteFault.renamed with
    | false =>
      simp only [Bool.false_eq_true,if_false,forall_true_left]
      exact hsame _ hread
    | true =>
      simp only [if_true]
      have hvalid (v : Int32) (g : String) (hg : g∈listed (history.keep vols.contains) v) :
          isGenerationUUID g=true := by
        rw [listed_keep] at hg
        split at hg
        · exact read_valid hread v g hg
        · cases hg
      refine iff_of_true ⟨_,read_render hvalid,lists_kept hlists (fun v => ?_) _⟩ nofun
      rw [listed_reread,listed_keep]

theorem keep_cached (hinv : Inv rdName t) (vols : List Int32) (fault : Option WriteFault) (v : Int32)
    (g : String)
    (hg : (t.step rdName (.keep vols fault)).record.lastRecordedGI (giKey rdName v)=some g) :
    (t.step rdName (.keep vols fault)).recorded v=some g := by
  obtain ⟨history,hread,hlists⟩ := hinv.sound
  change (keepGIHistoryOf t.record rdName vols fault).lastRecordedGI (giKey rdName v)=some g at hg
  change (if vols.contains v then t.recorded v else none)=some g
  have hcached : t.record.lastRecordedGI (giKey rdName v)=some g ∧
      ∀x∈history.items,x.1=v → vols.contains v=true := by
    unfold keepGIHistoryOf at hg
    rw [hread] at hg
    cases hdrops : history.items.any fun x => !vols.contains x.1 with
    | false =>
      simp only [hdrops,Bool.false_eq_true,if_false] at hg
      refine ⟨hg,fun x hx hxv => ?_⟩
      have hkept := any_eq_false.mp hdrops x hx
      rw [hxv] at hkept
      simpa using hkept
    | true =>
      simp only [hdrops,if_true,forgetVolumes] at hg
      split at hg
      · cases hg
      · rename_i hnone
        refine ⟨hg,fun x hx hxv => ?_⟩
        by_contra hvol
        refine hnone (any_eq_true.mpr ⟨x,hx,?_⟩)
        rw [hxv,Bool.not_eq_true _ |>.mp hvol]
        simp
  have hrecorded := hinv.cached v g hcached.1
  have hlisted := ne_nil_of_mem (hlists.recorded v g hrecorded)
  obtain ⟨x,hx,hxv⟩ := mem_items_of_listed hlisted
  rw [if_pos (hcached.2 x hx hxv)]
  exact hrecorded

theorem forget_keeps (hinv : Inv rdName t) (fails : Bool) :
    Inv rdName (t.step rdName (.forget fails)) := by
  have hcut (v : Int32) : (cutPrefix (rdName++"/") (giKey rdName v)).isSome=true := by
    have hkey : giKey rdName v=rdName++"/"++formatInt v.toInt := rfl
    rw [cutPrefix_eq_some.mpr hkey]
    rfl
  have hcache (r : Record) (v : Int32) : (forgetGIHistory r rdName fails).1.lastRecordedGI
      (giKey rdName v)=none := by
    unfold forgetGIHistory
    split <;> exact if_pos (hcut v)
  obtain ⟨history,hread,hlists⟩ := hinv.sound
  have hnever (v : Int32) (g : String) {recorded : Option String}
      (hg : (forgetGIHistory t.record rdName fails).1.lastRecordedGI (giKey rdName v)=some g) :
      recorded=some g := by
    rw [hcache] at hg
    cases hg
  change Inv rdName (t.afterForget (forgetGIHistory t.record rdName fails))
  cases hr : forgetGIHistory t.record rdName fails with
  | mk r removed =>
    rw [hr] at hnever
    unfold forgetGIHistory at hr
    split at hr
    · cases hr
      exact ⟨⟨history,hread,hlists.bounded,hlists.recorded,hlists.dropped⟩,fun v g hg => hnever v g hg⟩
    · cases hr
      refine ⟨⟨.empty,rfl,fun _ => Nat.zero_le _,nofun,fun _ _ => rfl⟩,fun v g hg => hnever v g hg⟩

theorem step_keeps (call : Call) (hinv : Inv rdName t) (hmeets : call.Meets t) :
    Inv rdName (t.step rdName call) := by
  cases call with
  | record vol generation fault => exact record_keeps hinv hmeets
  | keep vols fault =>
    obtain ⟨history,hread,hlists⟩ := hinv.sound
    refine ⟨(keep_sound hread hlists vols fault).mpr fun hrenamed v hv => ?_,
      keep_cached hinv vols fault⟩
    cases fault with
    | none => cases hrenamed
    | some f => exact hmeets f history v rfl hrenamed hread hv
  | forget fails => exact forget_keeps hinv fails

theorem step_needs (call : Call) (hinv : Inv rdName t) (h : (t.step rdName call).Sound) :
    call.Meets t := by
  cases call with
  | record vol generation fault => exact record_needs hinv h
  | keep vols fault =>
    rintro f history v rfl hrenamed hread hv
    obtain ⟨history',hread',hlists⟩ := hinv.sound
    obtain rfl : history'=history := Except.ok.inj (hread'.symm.trans hread)
    exact (keep_sound hread hlists vols (some f)).mp h hrenamed v hv
  | forget fails => trivial

theorem start_inv (start : Start) : Inv rdName start.track where
  sound := ⟨start.history,start.read,start.bounded,nofun,nofun⟩
  cached := nofun

/-- The record is sound after every call of a sequence exactly when every call meets the condition. -/
theorem always_sound_iff (rdName : String) (start : Start) (calls : List Call) :
    Always (Track.step rdName) Track.Sound start.track calls ↔
      Each (Track.step rdName) (fun t call => call.Meets t) start.track calls :=
  always_iff_each (Track.step rdName) (fun _ hinv => hinv.sound)
    (fun _ call hinv hmeets => step_keeps call hinv hmeets)
    (fun _ call hinv h => step_needs call hinv h) start.track calls (start_inv start)

theorem record_listed (rdName : String) (hread : readGIHistory t.record.file=.ok history) (vol : Int32)
    (generation : String) (huuid : isGenerationUUID generation=true)
    (hlisted : toUpper generation∈listed history vol) (fault : Option WriteFault) :
    (t.step rdName (.record vol generation fault)).record.file=t.record.file ∧
      (t.step rdName (.record vol generation fault)).recorded vol=some (toUpper generation) := by
  change (t.afterRecord vol _ (recordObservedGI t.record rdName vol generation fault)).record.file=_ ∧
    (t.afterRecord vol _ (recordObservedGI t.record rdName vol generation fault)).recorded vol=_
  rcases record_cases rdName t.record vol generation fault hread with
    ⟨hnone,_⟩|⟨_,⟨_,hr⟩|⟨_,hr⟩|⟨hnew,_⟩⟩
  · rw [huuid] at hnone
    cases hnone
  · rw [hr]
    exact ⟨rfl,update_self ..⟩
  · rw [hr]
    exact ⟨rfl,update_self ..⟩
  · exact absurd hlisted hnew

end Runs

def Start.ofHistory (history : History) (hvalid : ∀v,∀g∈listed history v,isGenerationUUID g=true)
    (hbounded : ∀v,(listed history v).length ≤ giHistoryPerVolume) : Start where
  file := some (renderHistory history)
  history := reread history
  read := read_render hvalid
  bounded v := by
    rw [listed_reread]
    exact hbounded v

def fullHistory : History :=
  ⟨[(0,(range 32).map fun n => "00000000000000"++toString (n+10))],by decide⟩

theorem listed_fullHistory : listed fullHistory v=
    if v=0 then (range 32).map fun n => "00000000000000"++toString (n+10) else [] := by
  unfold fullHistory listed Dict.find Keyed.get?
  by_cases hv : v=0
  · simp [hv]
  · simp [hv,Ne.symm hv]

theorem valid_fullHistory : ∀g∈listed fullHistory v,isGenerationUUID g=true := by
  rw [listed_fullHistory]
  split
  · decide
  · nofun

theorem bounded_fullHistory : (listed fullHistory v).length ≤ giHistoryPerVolume := by
  rw [listed_fullHistory]
  split
  · decide
  · exact Nat.zero_le _

/-- The oldest generation is seen again and taken for recorded; the next one pushes it out of the file
by a write that reports a failure of the last sync. -/
theorem recorded_generation_lost : ¬Always (Track.step "pvc") Track.Sound
    (Start.ofHistory fullHistory valid_fullHistory bounded_fullHistory).track
    [.record 0 "0000000000000010" none,.record 0 "0000000000000042" (some .syncDir)] := by
  rintro ⟨_,_,hlast⟩
  generalize hstart : Start.ofHistory fullHistory valid_fullHistory bounded_fullHistory=start at hlast
  have hlisted : listed start.history 0=
      (range 32).map fun n => "00000000000000"++toString (n+10) := by
    rw [← hstart]
    exact (listed_reread 0).trans (listed_fullHistory 0)
  have hinv : Inv "pvc" start.track := start_inv start
  obtain ⟨hfile,hrecorded⟩ := record_listed (t := start.track) "pvc" start.read 0
    "0000000000000010" (by decide) (by rw [hlisted]; decide) none
  have hinv' := step_keeps (.record 0 "0000000000000010" none) hinv nofun
  have hkept := step_needs _ hinv' hlast .syncDir start.history "0000000000000010" rfl rfl (by decide)
    (by rw [hfile]; exact start.read) (by rw [hlisted]; decide) (hrecorded.trans (by decide))
  rw [hlisted] at hkept
  revert hkept
  decide

end Blockstor.GiHistory
