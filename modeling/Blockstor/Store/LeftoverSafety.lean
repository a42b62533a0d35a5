import Blockstor.Store.PropEdits
import Blockstor.Store.SnapshotDelete

namespace Blockstor.Store

open Framework Shell Text List

section Judgement

variable {s : State} {rd : String} {vds : List VolumeDef} {snap : Option (List VolumeDef)}
  {needReplica : Bool}

def State.replicasOf (s : State) (rd : String) : List Replica :=
  s.replicas.filter fun r => r.resourceName=rd

def State.recorded (s : State) (rd : String) : Option (List VolumeDef) :=
  (s.definition rd).bind fun d => recordedRestoreVolumes d.props

def shapeOf (reference : Option (List VolumeDef)) (vds : List VolumeDef) : LeftoverShape :=
  match reference with
  | none => ⟨false,false,false⟩
  | some snap => leftoverAgainstSnapshot snap vds

def judgement (count : ReplicaCount) (reference : Option (List VolumeDef)) (vds : List VolumeDef)
    (needReplica : Bool) : LeftoverProgress :=
  if vds.isEmpty then if count.total>0 ∧ count.live=0 then .tearingDown else .unfinished
  else judgeLeftover count (shapeOf reference vds) needReplica

theorem simulate_unlessMissing {α β : Type} (o : Option α) {missing : Prog β} {f : α → Prog β} :
    simulate answer (unlessMissing (found o) missing f) s=
      o.elim (simulate answer missing s) fun a => simulate answer (f a) s := by
  cases o <;> rfl

theorem simulate_referenceShape :
    simulate answer (referenceShape none rd snap) s=(.ok (snap.or (s.recorded rd)),s) := by
  cases snap with
  | some snap => rfl
  | none =>
    refine (simulate_unlessMissing (s.definition rd)).trans ?_
    unfold State.recorded
    cases s.definition rd <;> rfl

theorem simulate_assessLeftover : simulate answer (assessLeftover none rd vds snap needReplica) s=
    (.ok (judgement (tally (s.replicasOf rd)) (snap.or (s.recorded rd)) vds needReplica),s) := by
  unfold assessLeftover judgement
  change simulate answer (ite _ _ _) s=_
  cases vds.isEmpty with
  | true => rfl
  | false =>
    simp only [Bool.false_eq_true,if_false]
    rw [simulate_bind,simulate_referenceShape]
    cases snap.or (s.recorded rd) <;> rfl

theorem simulate_readsAsFinished : simulate answer (readsAsFinished none rd needReplica) s=
    (.ok ((s.definition rd).any fun d => !d.deleting &&
      judgement (tally (s.replicasOf rd)) (s.recorded rd) d.volumes needReplica=.finished),s) := by
  refine (simulate_unlessMissing (s.definition rd)).trans ?_
  cases hd : s.definition rd with
  | none => rfl
  | some d =>
    dsimp only [Option.elim_some,Option.any_some]
    cases d.deleting with
    | true => rfl
    | false =>
      refine (simulate_unlessMissing ((s.definition rd).map Definition.volumes)).trans ?_
      rw [hd]
      dsimp only [Option.map_some,Option.elim_some]
      rw [simulate_bind,simulate_assessLeftover]
      rfl

theorem shapeOf_missing {reference : Option (List VolumeDef)} {vds : List VolumeDef} :
    (shapeOf reference vds).missing=false ↔ ∀snap∈reference,∀v∈snap,
      ∃u∈vds,u.volumeNumber=v.volumeNumber := by
  cases reference <;> simp [shapeOf,leftoverAgainstSnapshot]

theorem holding_pos {rs : List Replica} :
    0<(tally rs).holding ↔ ∃r∈rs,isLive r=true ∧ holdsData r=true := by
  simp [tally,length_pos_iff_exists_mem]

end Judgement

section Record

def VolumeDef.InRange (v : VolumeDef) : Prop :=
  (-2^31 ≤ v.volumeNumber ∧ v.volumeNumber < 2^31) ∧ (-2^63 ≤ v.sizeKib ∧ v.sizeKib < 2^63)

def pairText (v : VolumeDef) : String :=
  formatInt v.volumeNumber++"="++formatInt v.sizeKib

theorem notMem_formatInt {n : Int} {c : Char} (hdigit : c.isDigit=false) (hsign : c≠ '-') :
    c∉(formatInt n).toList := by
  intro hc
  rcases mem_formatInt hc with h|h
  · rw [hdigit] at h
    cases h
  · exact hsign h

theorem toList_pairText (v : VolumeDef) : (pairText v).toList=
    (formatInt v.volumeNumber).toList++ '='::(formatInt v.sizeKib).toList := by
  simp [pairText]

theorem decodePair_pairText {v : VolumeDef} (h : v.InRange) : decodePair (pairText v)=some v := by
  have hcut : cut '=' (pairText v)=
      some (formatInt v.volumeNumber,formatInt v.sizeKib) := by
    rw [cut,toList_pairText,cutList_append _ (notMem_formatInt (by decide) (by decide))]
    simp
  simp [decodePair,hcut,parseInt32_formatInt h.1,parseInt64_formatInt h.2]

theorem split_encode {snap : List VolumeDef} (hne : snap≠[]) :
    split ',' (encodeRestoreVolumes snap)=snap.map pairText := by
  have hparts : ∀part∈(snap.map pairText).map String.toList,','∉part := by
    intro part hpart
    rw [map_map] at hpart
    obtain ⟨v,_,rfl⟩ := mem_map.mp hpart
    have hnumber := notMem_formatInt (n := v.volumeNumber) (c := ',') (by decide) (by decide)
    have hsize := notMem_formatInt (n := v.sizeKib) (c := ',') (by decide) (by decide)
    simp [toList_pairText,hnumber,hsize]
  have htext : encodeRestoreVolumes snap=String.intercalate "," (snap.map pairText) := rfl
  rw [split,htext,String.toList_intercalate]
  change map _ (splitList ',' ([','].intercalate _))=_
  rw [splitList_intercalate (by simpa using hne) hparts]
  simp

theorem recorded_encode {props : DefinitionProps} {snap : List VolumeDef}
    (hprops : props.restoreVolumes=some (encodeRestoreVolumes snap)) (h : ∀v∈snap,v.InRange) :
    recordedRestoreVolumes props=some snap := by
  unfold recordedRestoreVolumes
  rw [hprops]
  by_cases hne : snap=[]
  · subst hne
    rfl
  · have hraw : encodeRestoreVolumes snap≠"" := by
      intro hempty
      obtain ⟨v,hv⟩ := exists_mem_of_ne_nil snap hne
      have hpair : pairText v∈split ',' "" := by
        rw [← hempty,split_encode hne]
        exact mem_map_of_mem hv
      have hdecode := decodePair_pairText (h v hv)
      rw [mem_singleton.mp hpair] at hdecode
      cases hdecode
    have hpairs : (snap.map pairText).mapM decodePair=some snap := by
      clear hprops hne hraw
      induction snap with
      | nil => rfl
      | cons v snap ih =>
        rw [map_cons,mapM_cons,decodePair_pairText (h v (.head _)),
          ih fun u hu => h u (.tail _ hu)]
        rfl
    simp only [Option.bind_eq_bind,Option.bind_some,if_neg hraw,split_encode hne,hpairs]

end Record

section Resume

variable {snap vds vds' : List VolumeDef} {count : ReplicaCount} {needReplica : Bool}

def judged (s : State) (rd : String) (vds : List VolumeDef) (snap : Option (List VolumeDef))
    (needReplica : Bool) : Except Err LeftoverProgress :=
  (simulate answer (assessLeftover none rd vds snap needReplica) s).1

def Adds (snap vds vds' : List VolumeDef) : Prop :=
  ∃n size,captured snap n=some size ∧ (∀u∈vds,u.volumeNumber≠n) ∧ vds'.Perm (⟨n,size⟩::vds)

def Fits (snap vds : List VolumeDef) : Prop :=
  ∀u∈vds,∃size,captured snap u.volumeNumber=some size ∧ size ≤ u.sizeKib

theorem fits_iff : Fits snap vds ↔ (leftoverAgainstSnapshot snap vds).smaller=false ∧
    (leftoverAgainstSnapshot snap vds).extra=false := by
  simp only [leftoverAgainstSnapshot,any_eq_false]
  constructor
  · intro h
    constructor
    · intro u hu
      obtain ⟨size,hsize,hle⟩ := h u hu
      simpa [hsize] using hle
    · intro u hu
      obtain ⟨size,hsize,_⟩ := h u hu
      simp [hsize]
  · rintro ⟨hsmaller,hextra⟩ u hu
    obtain ⟨size,hsize⟩ := Option.ne_none_iff_exists'.mp (by simpa using hextra u hu)
    exact ⟨size,hsize,by simpa [hsize] using hsmaller u hu⟩

theorem judgeLeftover_unfinished {shape : LeftoverShape}
    (h : judgeLeftover count shape needReplica=.unfinished) :
    shape.smaller=false ∧ shape.extra=false := by
  obtain ⟨missing,smaller,extra⟩ := shape
  unfold judgeLeftover at h
  by_cases hh : 0<count.holding <;> by_cases ht : 0<count.total ∧ count.live=0 <;>
    cases needReplica <;> cases missing <;> cases smaller <;> cases extra <;> simp [hh,ht] at h ⊢

theorem fits_of_unfinished (h : judgement count (some snap) vds needReplica=.unfinished) :
    Fits snap vds := by
  cases vds with
  | nil => exact fun u hu => nomatch hu
  | cons v vds =>
    exact fits_iff.mpr (judgeLeftover_unfinished h)

theorem Fits.adds (h : Fits snap vds) (hadd : Adds snap vds vds') : Fits snap vds' := by
  obtain ⟨n,size,hsize,_,hperm⟩ := hadd
  intro u hu
  rcases mem_cons.mp (hperm.mem_iff.mp hu) with rfl|hu
  · exact ⟨size,hsize,Int.le_refl _⟩
  · exact h u hu

theorem Fits.resumes (h : Fits snap vds) (hrun : Relation.ReflTransGen (Adds snap) vds vds') :
    Fits snap vds' := by
  induction hrun with
  | refl => exact h
  | tail _ hadd ih => exact ih.adds hadd

theorem Fits.not_foreign (h : Fits snap vds) :
    judgement count (some snap) vds needReplica≠.foreign := by
  obtain ⟨hsmaller,hextra⟩ := fits_iff.mp h
  unfold judgement judgeLeftover
  simp only [shapeOf,hsmaller,hextra,Bool.false_eq_true,and_false,or_false,if_false]
  repeat' split
  all_goals nofun

theorem Fits.finished (h : Fits snap vds) (hne : vds≠[])
    (hall : ∀v∈snap,∃u∈vds,u.volumeNumber=v.volumeNumber) (hholding : 0<count.holding) :
    judgement count (some snap) vds needReplica=.finished := by
  have hsmaller : (shapeOf (some snap) vds).smaller=false := (fits_iff.mp h).1
  have hmissing : (shapeOf (some snap) vds).missing=false :=
    shapeOf_missing.mpr fun _ hsnap => Option.some.inj hsnap ▸ hall
  have hempty : vds.isEmpty=false := by simpa using hne
  simp [judgement,judgeLeftover,hempty,hsmaller,hmissing,hholding]

def NeverForeign (rd : String) (snap vds : List VolumeDef) (needReplica : Bool) : Prop :=
  ∀s vds',Relation.ReflTransGen (Adds snap) vds vds' →
    judged s rd vds' (some snap) needReplica≠.ok .foreign

/-- With all of the snapshot's volumes added and one live replica with a disk it is finished. -/
def Finishes (rd : String) (snap vds : List VolumeDef) (needReplica : Bool) : Prop :=
  ∀s vds',Relation.ReflTransGen (Adds snap) vds vds' →
    (∀v∈snap,∃u∈vds',u.volumeNumber=v.volumeNumber) →
    (∃r∈s.replicasOf rd,isLive r=true ∧ holdsData r=true) →
    judged s rd vds' (some snap) needReplica=.ok .finished

theorem leftover_resumes (s : State) (rd : String) (d : Definition) (snap vds : List VolumeDef)
    (needReplica : Bool) (hd : s.definition rd=some d) (hrange : ∀v∈snap,v.InRange)
    (hprops : d.props.restoreVolumes=some (encodeRestoreVolumes snap)) :
    recordedRestoreVolumes d.props=some snap ∧
    judged s rd vds (some snap) needReplica=judged s rd vds none needReplica ∧
    (judged s rd vds (some snap) needReplica=.ok .unfinished →
      NeverForeign rd snap vds needReplica ∧ (snap≠[] → Finishes rd snap vds needReplica)) := by
  have hread := recorded_encode hprops hrange
  have hrecorded : s.recorded rd=some snap := by
    rw [State.recorded,hd,Option.bind_some,hread]
  refine ⟨hread,?_,fun hunfinished => ?_⟩
  · unfold judged
    rw [simulate_assessLeftover,simulate_assessLeftover,hrecorded,Option.none_or,Option.some_or]
  · rw [judged,simulate_assessLeftover] at hunfinished
    have hfits := fits_of_unfinished (Except.ok.inj hunfinished)
    constructor
    · intro t vds' hrun hforeign
      rw [judged,simulate_assessLeftover] at hforeign
      exact (hfits.resumes hrun).not_foreign (Except.ok.inj hforeign)
    · intro hne t vds' hrun hall hdisk
      obtain ⟨v,hv⟩ := exists_mem_of_ne_nil snap hne
      obtain ⟨u,hu,_⟩ := hall v hv
      rw [judged,simulate_assessLeftover]
      exact congrArg Except.ok ((hfits.resumes hrun).finished (ne_nil_of_mem hu) hall
        (holding_pos.mpr hdisk))

end Resume

/-- A definition restored from a snapshot with the volumes `snap`, and its one replica. -/
def restoring (snap volumes : List VolumeDef) (reports : List Volume) : State where
  now := 0
  tokens := 0
  uids := 1
  definitions := ⟨[⟨"pvc-2",0,{DefinitionProps.empty with
    restoreFromSnapshot := "pvc-1:snap",restoreVolumes := some (encodeRestoreVolumes snap)},false,
    volumes⟩],nodup_singleton _⟩
  replicas := [⟨"pvc-2",[],reports⟩]
  snapshots := ⟨[],nodup_nil⟩
  claims := []
  reached := []

theorem leftover_resumes_one :
    judged (restoring [⟨0,1024⟩] [] []) "pvc-2" [] (some [⟨0,1024⟩]) true=.ok .unfinished ∧
    Finishes "pvc-2" [⟨0,1024⟩] [] true := by
  have hrange : ∀v∈[(⟨0,1024⟩ : VolumeDef)],v.InRange := by
    intro v hv
    obtain rfl := mem_singleton.mp hv
    exact ⟨⟨by decide,by decide⟩,by decide,by decide⟩
  obtain ⟨_,_,h⟩ :=
    leftover_resumes (restoring [⟨0,1024⟩] [] []) "pvc-2" _ [⟨0,1024⟩] [] true rfl hrange rfl
  exact ⟨rfl,(h rfl).2 (cons_ne_nil _ _)⟩

/-- A snapshot without volumes is never finished: the definition has nothing to be judged by. -/
theorem empty_snapshot_unfinished :
    judged (restoring [] [] []) "pvc-2" [] (some []) true=.ok .unfinished ∧ ¬Finishes "pvc-2" [] [] true := by
  refine ⟨rfl,fun h => ?_⟩
  have hdisk : ∃r∈(restoring [] [] []).replicasOf "pvc-2",isLive r=true ∧ holdsData r=true :=
    ⟨⟨"pvc-2",[],[]⟩,.head _,rfl,rfl⟩
  have hjudged := h (restoring [] [] []) [] .refl (fun _ hv => nomatch hv) hdisk
  exact absurd hjudged (by decide)

section Marker

variable {s : State} {rd : String}

theorem judgement_finished {count : ReplicaCount} {reference : Option (List VolumeDef)}
    {vds : List VolumeDef} : judgement count reference vds true=.finished ↔ vds≠[] ∧
      (shapeOf reference vds).smaller=false ∧ (shapeOf reference vds).missing=false ∧
      0<count.holding := by
  unfold judgement judgeLeftover
  generalize shapeOf reference vds=shape
  obtain ⟨missing,smaller,extra⟩ := shape
  cases vds with
  | nil => by_cases h : count.total>0 ∧ count.live=0 <;> simp [h]
  | cons v vds =>
    by_cases h : count.total>0 ∧ count.live=0 <;> by_cases hh : 0<count.holding <;>
      cases missing <;> cases smaller <;> cases extra <;> simp [h,hh]

def State.lets (s : State) (rd : String) : Bool :=
  ((s.definition rd).any fun d => !d.deleting &&
    judgement (tally (s.replicasOf rd)) (s.recorded rd) d.volumes true=.finished) &&
  (s.replicasOf rd).any fun r => holdsData r && volumesUpToDate r.volumes

theorem simulate_restoreMarkerClearRefusal : simulate answer (restoreMarkerClearRefusal none rd) s=
    (if s.lets rd then .ok () else .error (.restoreUnfinished rd),s) := by
  unfold restoreMarkerClearRefusal State.lets
  rw [simulate_bind,simulate_readsAsFinished]
  dsimp only
  cases (s.definition rd).any _ with
  | false => rfl
  | true =>
    have hholds : simulate answer (holdsARestoredReplica none rd) s=
      (.ok ((s.replicasOf rd).any fun r => holdsData r && volumesUpToDate r.volumes),s) := rfl
    rw [Bool.not_true,if_neg Bool.false_ne_true,simulate_bind,hholds]
    dsimp only
    cases (s.replicasOf rd).any _ <;> rfl

/-- The three ways the marker goes: the check itself lets it, an operator's edit that deletes it is
not refused, or it is released for a delete of the snapshot. -/
def Clears (s : State) (rd : String) : Prop :=
  (simulate answer (restoreMarkerClearRefusal none rd) s).1=.ok () ∨
  (∃patch : PropEdits.PropsModify,
    PropEdits.deletesRestoreMarker patch.overrideProps patch.deleteProps=true ∧
    (simulate answer (PropEdits.refuseOwnedPropEdits none rd patch) s).1=.ok false) ∨
  ∃marker,(simulate answer (releaseRestoreMarker none rd marker) s).2.definition rd≠s.definition rd

theorem clears_iff : Clears s rd ↔ s.lets rd=true := by
  have hcheck : simulate answer (restoreMarkerClearRefusal none rd) s=_ :=
    simulate_restoreMarkerClearRefusal
  constructor
  · intro h
    cases hlets : s.lets rd with
    | true => rfl
    | false =>
      rw [hlets,if_neg Bool.false_ne_true] at hcheck
      rcases h with h|⟨patch,hdel,h⟩|⟨marker,h⟩
      · rw [hcheck] at h
        cases h
      · unfold PropEdits.refuseOwnedPropEdits at h
        split at h
        · cases h
        · rw [simulate_bind,simulate_attempt,hcheck] at h
          cases h
      · unfold releaseRestoreMarker at h
        rw [simulate_bind,simulate_attempt,hcheck] at h
        exact absurd rfl h
  · intro h
    rw [h,if_pos rfl] at hcheck
    exact .inl (congrArg Prod.fst hcheck)

def Replica.UpToDateOn (r : Replica) (n : Int) : Prop :=
  ∃v∈r.volumes,v.volumeNumber=n ∧ v.diskState=.upToDate

def State.Complete (s : State) (rd : String) (d : Definition) : Prop :=
  ∃r∈s.replicasOf rd,holdsData r=true ∧ isLive r=true ∧ ∀u∈d.volumes,r.UpToDateOn u.volumeNumber

def ClearsRestored (s : State) (rd : String) : Prop :=
  ∀d,s.definition rd=some d → d.props.restoreFromSnapshot≠"" → Clears s rd →
    (∀snap∈s.recorded rd,∀v∈snap,∃u∈d.volumes,u.volumeNumber=v.volumeNumber) ∧ s.Complete rd d

structure Assigned (s : State) (rd : String) (d : Definition) : Prop where
  marked : d.props.restoreFromSnapshot≠""
  kept : d.deleting=false
  volumes : d.volumes≠[]
  present : (shapeOf (s.recorded rd) d.volumes).missing=false
  sized : (shapeOf (s.recorded rd) d.volumes).smaller=false
  disk : ∃r∈s.replicasOf rd,isLive r=true ∧ holdsData r=true

/-- Where the definition is whole, a replica with a disk whose reports are all up to date stands
beside a live one that reports every volume. -/
def ReportsComplete (s : State) (rd : String) : Prop :=
  ∀d,s.definition rd=some d → Assigned s rd d → ∀r∈s.replicasOf rd,holdsData r=true →
    r.volumes≠[] → (∀v∈r.volumes,v.diskState=.upToDate) → s.Complete rd d

theorem lets_iff {d : Definition} (hd : s.definition rd=some d)
    (hmarked : d.props.restoreFromSnapshot≠"") : s.lets rd=true ↔ Assigned s rd d ∧
      ∃r∈s.replicasOf rd,holdsData r=true ∧ r.volumes≠[] ∧ ∀v∈r.volumes,v.diskState=.upToDate := by
  simp only [State.lets,hd,Option.any_some,Bool.and_eq_true,Bool.not_eq_true',decide_eq_true_eq,
    judgement_finished,holding_pos,any_eq_true,volumesUpToDate,isEmpty_eq_false_iff,
    all_eq_true]
  constructor
  · rintro ⟨⟨hkept,hvolumes,hsized,hpresent,hdisk⟩,hr⟩
    exact ⟨⟨hmarked,hkept,hvolumes,hpresent,hsized,hdisk⟩,hr⟩
  · rintro ⟨h,hr⟩
    exact ⟨⟨h.kept,h.volumes,h.sized,h.present,h.disk⟩,hr⟩

theorem clearsRestored_iff (s : State) (rd : String) :
    ClearsRestored s rd ↔ ReportsComplete s rd := by
  constructor
  · intro h d hd hassigned r hr hdisk hvolumes hup
    have hlets := (lets_iff hd hassigned.marked).mpr ⟨hassigned,r,hr,hdisk,hvolumes,hup⟩
    exact (h d hd hassigned.marked (clears_iff.mpr hlets)).2
  · intro h d hd hmarked hclears
    obtain ⟨hassigned,r,hr,hdisk,hvolumes,hup⟩ := (lets_iff hd hmarked).mp (clears_iff.mp hclears)
    exact ⟨shapeOf_missing.mp hassigned.present,h d hd hassigned r hr hdisk hvolumes hup⟩

end Marker

/-- A restore of two volumes; the satellite of its only replica has reported the first one. -/
def halfRestored : State :=
  restoring [⟨0,1024⟩,⟨1,1024⟩] [⟨0,1024⟩,⟨1,1024⟩] [⟨0,.upToDate⟩]

theorem marker_cleared_early : ¬ClearsRestored halfRestored "pvc-2" := by
  intro h
  have hclears : Clears halfRestored "pvc-2" := clears_iff.mpr (by decide)
  obtain ⟨_,r,hr,_,_,hup⟩ := h _ rfl (by decide) hclears
  obtain rfl : r=⟨"pvc-2",[],[⟨0,.upToDate⟩]⟩ := mem_singleton.mp hr
  obtain ⟨v,hv,hn,_⟩ := hup ⟨1,1024⟩ (.tail _ (.head _))
  obtain rfl := mem_singleton.mp hv
  cases hn

end Blockstor.Store
