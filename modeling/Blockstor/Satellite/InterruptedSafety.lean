import Blockstor.Satellite.Interrupted

namespace Blockstor.Satellite

open Framework Shell Storage Setting Function

section Invariant

variable {α : Type} {blank : α → Prop} {snap : α} {S : Setting} {p q : Storage.Pool α}
  {target : Volume} {src : Snapshot} {o u : Obj α}
  {dataset srcName name origin : String}

/-- The target does not exist, or holds the snapshot, or is a thick volume with the sentinel. -/
def Setting.Good (S : Setting) (snap : α) (target : Volume) (p : Storage.Pool α) : Prop :=
  ∀o,p (volumeName target)=some o →
    o.content=snap ∨ (S.provider=.lvmThick ∧ o.incomplete=true)

theorem Setting.exec_step {β : Type} {x : Storage.Prog α β} {r : Except Storage.Err β}
    (h : Exec (S.poolStep blank) x p r q) : Exec (Step blank) x p r q :=
  h.mono fun _ _ _ _ hstep => hstep.1

theorem cut_run {env : PoolEnv α} {c : Storage.Cmd α} (h : Cut env (Storage.run c) p q) :
    q=p ∨ ∃a,env p c a q := by
  cases h with
  | here => exact .inl rfl
  | ask _ _ a _ p' _ hc h =>
    obtain rfl := (cut_pure (α := Storage.Answer c)).mp h
    exact .inr ⟨a,hc⟩

theorem cut_must {env : PoolEnv α} {x : Storage.Prog α Bool} {e : Storage.Err}
    (h : Cut env (must x e) p q) : Cut env x p q := by
  rcases cut_bind.mp h with h|⟨ok,p',hx,h⟩
  · exact h
  · cases ok with
    | true =>
      obtain rfl := cut_pure.mp h
      exact hx.cut
    | false =>
      obtain rfl := cut_throw.mp h
      exact hx.cut

theorem cut_ensureRefreservation {thin : Bool}
    (h : Cut (S.poolStep blank) (ensureRefreservation thin dataset) p q) : q=p := by
  unfold ensureRefreservation at h
  split at h
  · exact cut_pure.mp h
  rcases cut_ask.mp h with rfl|⟨volsize,p1,⟨hstep,_⟩,h⟩
  · rfl
  obtain rfl : p1=p := hstep
  cases volsize with
  | none => exact cut_throw.mp h
  | some volsize =>
    rcases cut_ask.mp h with rfl|⟨refres,p2,⟨hstep,_⟩,h⟩
    · rfl
    obtain rfl : p2=p1 := hstep
    cases refres with
    | none => exact cut_throw.mp h
    | some refres =>
      dsimp only at h
      split at h
      · exact cut_pure.mp h
      · rcases cut_run (cut_must h) with rfl|⟨_,hstep,_⟩
        · rfl
        · exact hstep

theorem changes_inv {c : Storage.Cmd α} {a : Bool} (h : Changes blank p c a q) :
    q=p ∨ Partial p c q ∨ Effect blank p c q := by
  rcases h with ⟨_,h⟩|⟨_,h⟩
  · exact .inr (.inr h)
  · exact h

theorem Setting.good_of_content (hq : q (volumeName target)=some o)
    (ho : o.content=snap) : S.Good snap target q := by
  intro o' ho'
  rw [hq] at ho'
  cases ho'
  exact .inl ho

theorem Setting.good_of_tag (hthick : S.provider=.lvmThick)
    (hq : q (volumeName target)=some o) (ho : o.incomplete=true) :
    S.Good snap target q := by
  intro o' ho'
  rw [hq] at ho'
  cases ho'
  exact .inr ⟨hthick,ho⟩

theorem Setting.good_snapshot (hgood : S.Good snap target p) (hsrc : S.Holds snap src p)
    {a : Bool} (h : Changes blank p
      (.snapshot (snapshotName S.provider src) (volumeName target)) a q) :
    S.Good snap target q := by
  rcases changes_inv h with rfl|h|⟨_,o,ho,rfl⟩
  · exact hgood
  · cases h
  · exact good_of_content (update_self ..) (hsrc.content o ho)

theorem Setting.good_copy (hthick : S.provider=.lvmThick)
    (htgt : p (volumeName target)=some u) (htag : u.incomplete=true)
    (hsrc : ∀o,p srcName=some o → o.content=snap)
    (h : Cut (S.poolStep blank) (copyAndClearSentinel srcName (volumeName target))
      p q) : S.Good snap target q := by
  rcases cut_bind.mp h with h|⟨_,p1,hcopy,h⟩
  · rcases cut_run (cut_must h) with rfl|⟨_,hstep,_⟩
    · exact good_of_tag hthick htgt htag
    · rcases changes_inv hstep with rfl|⟨v,content,hv,rfl⟩|⟨o,v,ho,_,_,rfl⟩
      · exact good_of_tag hthick htgt htag
      · rw [htgt] at hv
        cases hv
        exact good_of_tag hthick (update_self ..) htag
      · exact good_of_content (update_self ..) (hsrc o ho)
  · -- The copy is done, and taking the sentinel off does not touch the content.
    obtain ⟨o,v,ho,_,_,rfl⟩ := changes_true.mp
      (exec_run_ok.mp (exec_must_ok.mp (S.exec_step hcopy)))
    rcases cut_run (cut_must h) with rfl|⟨_,hstep,_⟩
    · exact good_of_content (update_self ..) (hsrc o ho)
    · rcases changes_inv hstep with rfl|h|⟨w,hw,rfl⟩
      · exact good_of_content (update_self ..) (hsrc o ho)
      · cases h
      · rw [update_self] at hw
        cases hw
        exact good_of_content (update_self ..) (hsrc o ho)

theorem lookup_true (h : S.poolStep blank p (.lookup name) true q) : q=p ∧ ∃o,p name=some o := by
  obtain ⟨⟨rfl,hanswer⟩,_⟩ := h
  refine ⟨rfl,Option.isSome_iff_exists.mp ?_⟩
  rcases hanswer with h|h
  · exact h.symm
  · cases h

theorem Setting.restore_cut (hgood : S.Good snap target p) (hsrc : S.Holds snap src p)
    (h : Cut (S.poolStep blank) (restoreVolumeFromSnapshot S.provider target src) p q) :
    S.Good snap target q := by
  unfold restoreVolumeFromSnapshot at h
  split at h
  · rename_i thin hprovider
    rcases cut_ask.mp h with rfl|⟨found,p1,⟨⟨rfl,_⟩,_⟩,h⟩
    · exact hgood
    cases found with
    | true =>
      obtain rfl := cut_ensureRefreservation h
      exact hgood
    | false =>
      rcases cut_ask.mp h with rfl|⟨found,p2,⟨⟨rfl,_⟩,_⟩,h⟩
      · exact hgood
      cases found with
      | false =>
        obtain rfl := cut_throw.mp h
        exact hgood
      | true =>
        rcases cut_bind.mp h with h|⟨_,p3,hclone,h⟩
        · rcases cut_run (cut_must h) with rfl|⟨_,hstep,_⟩
          · exact hgood
          · exact good_snapshot hgood hsrc hstep
        · obtain rfl := cut_ensureRefreservation h
          exact good_snapshot hgood hsrc
            (exec_run_ok.mp (exec_must_ok.mp (S.exec_step hclone)))
  · rcases cut_ask.mp h with rfl|⟨found,p1,⟨⟨rfl,_⟩,_⟩,h⟩
    · exact hgood
    cases found with
    | true =>
      obtain rfl := cut_pure.mp h
      exact hgood
    | false =>
      rcases cut_ask.mp h with rfl|⟨found,p2,⟨⟨rfl,_⟩,_⟩,h⟩
      · exact hgood
      cases found with
      | false =>
        obtain rfl := cut_throw.mp h
        exact hgood
      | true =>
        rcases cut_run (cut_must h) with rfl|⟨_,hstep,_⟩
        · exact hgood
        · exact good_snapshot hgood hsrc hstep
  · rename_i hthick
    rcases cut_ask.mp h with rfl|⟨found,p1,hlookup,h1⟩
    · exact hgood
    cases found with
    | true =>
      obtain ⟨rfl,u,hu⟩ := lookup_true hlookup
      rcases cut_ask.mp h1 with rfl|⟨tagged,p2,⟨⟨rfl,htagged⟩,_⟩,h2⟩
      · exact hgood
      cases tagged with
      | false =>
        obtain rfl := cut_pure.mp h2
        exact hgood
      | true =>
        have htag : u.incomplete=true := by simpa [hu] using htagged.symm
        rcases cut_ask.mp h2 with rfl|⟨found,p3,⟨⟨rfl,_⟩,_⟩,h3⟩
        · exact hgood
        cases found with
        | false =>
          obtain rfl := cut_throw.mp h3
          exact hgood
        | true => exact good_copy hthick hu htag hsrc.content h3
    | false =>
      obtain ⟨⟨rfl,_⟩,_⟩ := hlookup
      rcases cut_ask.mp h1 with rfl|⟨found,p2,hlookup,h2⟩
      · exact hgood
      cases found with
      | false =>
        obtain ⟨⟨rfl,_⟩,_⟩ := hlookup
        obtain rfl := cut_throw.mp h2
        exact hgood
      | true =>
        obtain ⟨rfl,o,ho⟩ := lookup_true hlookup
        rcases cut_ask.mp h2 with rfl|⟨usable,p3,⟨⟨rfl,_⟩,_⟩,h3⟩
        · exact hgood
        cases usable with
        | none =>
          obtain rfl := cut_throw.mp h3
          exact hgood
        | some usable =>
          -- The volume is created with the sentinel on it.
          rcases cut_bind.mp h3 with h4|⟨_,p4,hcreate,h4⟩
          · rcases cut_run (cut_must h4) with rfl|⟨_,hstep,_⟩
            · exact hgood
            · rcases changes_inv hstep with rfl|htorn|⟨_,content,_,rfl⟩
              · exact hgood
              · cases htorn
              · exact good_of_tag hthick (update_self ..) rfl
          · obtain ⟨habsent,content,_,rfl⟩ := changes_true.mp
              (exec_run_ok.mp (exec_must_ok.mp (S.exec_step hcreate)))
            refine good_copy hthick (update_self ..) rfl (fun o' ho' => ?_) h4
            have hne : snapshotName S.provider src≠volumeName target := by
              intro he
              rw [he,habsent] at ho
              cases ho
            rw [update_of_ne hne] at ho'
            exact hsrc.content o' ho'

theorem Setting.keptByProbes : KeptByProbes (S.poolStep blank) where
  lookup _ _ _ _ h := h.1.1
  tagged _ _ _ _ h := h.1.1
  status _ _ _ _ h := h.1.1
  volsize _ _ _ _ h := h.1
  refreservation _ _ _ _ h := h.1
  setRefreservation _ _ _ _ _ h := h.1

theorem Setting.restore_complete (hgood : S.Good snap target p) (hsrc : S.Holds snap src p)
    (hprobes : S.provider=.lvmThick → S.probes=true)
    (h : Exec (S.poolStep blank) (restoreVolumeFromSnapshot S.provider target src) p
      (.ok ()) q) : ∃o,q (volumeName target)=some o ∧ o.content=snap := by
  cases restore_cases S.keptByProbes h with
  | kept hfound htag =>
    obtain ⟨_,u,hu⟩ := lookup_true hfound
    rcases hgood u hu with hcontent|⟨hthick,hincomplete⟩
    · exact ⟨u,hu,hcontent⟩
    · have htruth : false=((p (volumeName target)).map Obj.incomplete).getD false :=
        (htag hthick).2.1 (hprobes hthick)
      rw [hu] at htruth
      exact absurd (htruth.trans hincomplete) nofun
  | resumed _ _ _ _ hcopy =>
    obtain ⟨o,o',ho,ho',hcontent⟩ := copyAndClearSentinel_content _ _ (S.exec_step hcopy)
    exact ⟨o',ho',hcontent.trans (hsrc.content o ho)⟩
  | cloned _ _ h =>
    obtain ⟨_,o,ho,rfl⟩ := changes_true.mp h.1
    exact ⟨_,update_self ..,hsrc.content o ho⟩
  | copied _ _ _ _ hfound hcreate hcopy =>
    obtain ⟨_,o,ho⟩ := lookup_true hfound
    obtain ⟨habsent,content,_,rfl⟩ := changes_true.mp hcreate.1
    obtain ⟨o₁,o',ho₁,ho',hcontent⟩ :=
      copyAndClearSentinel_content _ _ (S.exec_step hcopy)
    have hne : snapshotName S.provider src≠volumeName target := by
      intro he
      rw [he,habsent] at ho
      cases ho
    rw [update_of_ne hne] at ho₁
    exact ⟨o',ho',hcontent.trans (hsrc.content o₁ ho₁)⟩

theorem Setting.restore_finds (hsrc : S.Holds snap src p) (hprobes : S.probes=true)
    (honNode : S.onNode=true)
    (h : Exec (S.poolStep blank) (restoreVolumeFromSnapshot S.provider target src) p
      (.error (.notFound name)) q) : False := by
  obtain ⟨_,hmissed,_⟩ := restore_notFound_of S.keptByProbes _ _ _ _ h
  have htruth : false=(p (snapshotName S.provider src)).isSome := hmissed.2.1 hprobes
  exact hsrc.present honNode (Option.not_isSome_iff_eq_none.mp (Bool.eq_false_iff.mp htruth.symm))

section Receive

variable (hzfs : isZfs S.provider=true)

include hzfs

theorem Setting.good_of_zfs (hgood : S.Good snap target p) {u : Obj α}
    (hu : p (volumeName target)=some u) : u.content=snap := by
  rcases hgood u hu with hcontent|⟨hthick,_⟩
  · exact hcontent
  · rw [hthick] at hzfs
    cases hzfs

theorem Setting.good_receive (hgood : S.Good snap target p) {a : Bool}
    (h : S.poolStep blank p (.receive (volumeName target) snap) a q) :
    S.Good snap target q := by
  rcases h.2.2 hzfs with rfl|⟨sizeMiB,rfl⟩
  · exact hgood
  · exact good_of_content (update_self ..) rfl

theorem Setting.recv_cut (hgood : S.Good snap target p)
    (h : Cut (S.poolStep blank) (recvSnapshot S.provider target snap) p q) :
    S.Good snap target q := by
  unfold recvSnapshot at h
  split at h
  · rcases cut_ask.mp h with rfl|⟨found,p1,⟨⟨rfl,_⟩,_⟩,h1⟩
    · exact hgood
    cases found with
    | true =>
      obtain rfl := cut_ensureRefreservation h1
      exact hgood
    | false =>
      rcases cut_ask.mp h1 with rfl|⟨received,p2,hreceive,h2⟩
      · exact hgood
      have hgood' := good_receive hzfs hgood hreceive
      cases received with
      | true =>
        obtain rfl := cut_ensureRefreservation h2
        exact hgood'
      | false =>
        rcases cut_ask.mp h2 with rfl|⟨_,p3,⟨hremove,_⟩,h3⟩
        · exact hgood'
        obtain rfl := cut_throw.mp h3
        rcases changes_inv hremove with rfl|htorn|rfl
        · exact hgood'
        · cases htorn
        · intro o ho
          rw [update_self] at ho
          cases ho
  · rename_i hthin
    rw [hthin] at hzfs
    cases hzfs
  · rename_i hthick
    rw [hthick] at hzfs
    cases hzfs

theorem Setting.recv_complete (hgood : S.Good snap target p)
    (h : Exec (S.poolStep blank) (recvSnapshot S.provider target snap) p (.ok ()) q) :
    ∃o,q (volumeName target)=some o ∧ o.content=snap := by
  unfold recvSnapshot at h
  split at h
  · rename_i thin hprovider
    obtain ⟨found,p1,hlookup,h1⟩ := exec_ask.mp h
    cases found with
    | true =>
      obtain ⟨rfl,u,hu⟩ := lookup_true hlookup
      obtain rfl := ensureRefreservation_pool thin (S.exec_step h1)
      exact ⟨u,hu,good_of_zfs hzfs hgood hu⟩
    | false =>
      obtain ⟨received,p2,⟨hreceive,_⟩,h2⟩ := exec_ask.mp h1
      cases received with
      | true =>
        obtain ⟨sizeMiB,rfl⟩ := changes_true.mp hreceive
        obtain rfl := ensureRefreservation_pool thin (S.exec_step h2)
        exact ⟨_,update_self ..,rfl⟩
      | false =>
        obtain ⟨_,p3,_,h3⟩ := exec_ask.mp h2
        cases h3
  · rename_i hthin
    rw [hthin] at hzfs
    cases hzfs
  · rename_i hthick
    rw [hthick] at hzfs
    cases hzfs

end Receive

section Runs

variable {rd : String} {vol : DesiredVolume} {srcRD snapName : String} {s t u : Node α}
  {tries : Nat}

theorem exec_nodeCut {β : Type} {provider : Provider} {env : PoolEnv α}
    {fetches : Fetched α → Prop} {x : NodeProg α β} {r : Except RestoreErr β}
    (h : Exec (PassStep provider env fetches) x s r t) :
    NodeCut provider env fetches x s t.pool := by
  induction h with
  | done a s => exact .here _ _
  | fail e s => exact .here _ _
  | ask c next a s s' t r hc _ ih => exact .ask c next a s s' t.pool hc ih

theorem Setting.Sourced.no_fallback (hsourced : S.Sourced) (hsrc : S.Holds snap src p)
    {name : String}
    (hmiss : Exec (S.poolStep blank) (restoreVolumeFromSnapshot S.provider target src) p
      (.error (.notFound name)) q) :
    ¬FallsBack S.provider (S.fetches snap) S.crossNodeFetcher tries := by
  rcases hsourced with ⟨hzfs,hfetcher,hshipped⟩|⟨hprobes,honNode⟩
  · intro hgo
    rcases hgo with ⟨_,hship|hnotFound⟩|⟨hfetcher',_⟩
    · cases hprovider : S.provider with
      | zfs thin =>
        rw [hprovider] at hship
        cases hship
      | lvmThin =>
        rw [hprovider] at hzfs
        cases hzfs
      | lvmThick =>
        rw [hprovider] at hzfs
        cases hzfs
    · have hnotShipped : S.shipped=false := hnotFound
      rw [hshipped] at hnotShipped
      cases hnotShipped
    · rw [hfetcher] at hfetcher'
      cases hfetcher'
  · exact (restore_finds hsrc hprobes honNode hmiss).elim

theorem Setting.Sourced.zfs_of_miss (hsourced : S.Sourced) (hsrc : S.Holds snap src p)
    {name : String}
    (hmiss : Exec (S.poolStep blank) (restoreVolumeFromSnapshot S.provider target src) p
      (.error (.notFound name)) q) : isZfs S.provider=true := by
  rcases hsourced with ⟨hzfs,_⟩|⟨hprobes,honNode⟩
  · exact hzfs
  · exact (restore_finds hsrc hprobes honNode hmiss).elim

theorem Setting.Sourced.good_cut (hsourced : S.Sourced) (hsrc : S.Holds snap src p)
    (hgood : S.Good snap target p)
    (h : PassCut S.provider (S.poolStep blank) (S.fetches snap) S.crossNodeFetcher target src tries
      p q) : S.Good snap target q := by
  cases h with
  | restoring _ h => exact restore_cut hgood hsrc h
  | creating p' _ name hmiss hgo h => exact absurd hgo (hsourced.no_fallback hsrc hmiss)
  | receiving p' _ name body hmiss _ _ hbody h =>
    obtain rfl : body=snap := hbody
    obtain rfl := restore_notFound _ S.provider _ name (S.exec_step hmiss)
    exact recv_cut (hsourced.zfs_of_miss hsrc hmiss) hgood h

theorem Setting.Sourced.good_next (hsourced : S.Sourced)
    (hparse : parseSourceSnapshot vol.sourceSnapshot=.ok (srcRD,snapName)) {e : Happening}
    (hgood : S.Good snap (targetOf rd vol) s.pool)
    (h : S.Next blank snap rd vol ⟨srcRD,snapName⟩ s e t) :
    S.Good snap (targetOf rd vol) t.pool := by
  cases h with
  | pass _ r hsrc h =>
    exact hsourced.good_cut hsrc hgood (materializeVolume_cut rd vol hparse (exec_nodeCut h))
  | crash q hsrc h => exact hsourced.good_cut hsrc hgood (materializeVolume_cut rd vol hparse h)
  | other q h =>
    intro o ho
    exact hgood o (h.symm.trans ho)

theorem Setting.Sourced.pass_complete (hsourced : S.Sourced) (hsrc : S.Holds snap src p)
    (hgood : S.Good snap target p)
    (h : PassDone S.provider (S.poolStep blank) (S.fetches snap) S.crossNodeFetcher target src
      tries p false q) : ∃o,q (volumeName target)=some o ∧ o.content=snap := by
  have hprobes : S.provider=.lvmThick → S.probes=true := by
    intro hthick
    rcases hsourced with ⟨hzfs,_⟩|⟨hprobes,_⟩
    · rw [hthick] at hzfs
      cases hzfs
    · exact hprobes
  cases h with
  | restored _ h => exact restore_complete hgood hsrc hprobes h
  | shipped p' _ name body hmiss _ _ hbody h =>
    obtain rfl : body=snap := hbody
    obtain rfl := restore_notFound _ S.provider _ name (S.exec_step hmiss)
    exact recv_complete (hsourced.zfs_of_miss hsrc hmiss) hgood h

theorem Setting.Sourced.trusted (hsourced : S.Sourced) : S.Trusted blank snap := by
  intro rd vol srcRD snapName hparse hvol s t u happenings habsent hrun hpass hflag
  have hstart : S.Good snap (targetOf rd vol) s.pool := by
    intro o ho
    rw [habsent] at ho
    cases ho
  have hgood := hrun.invariant (fun s => S.Good snap (targetOf rd vol) s.pool)
    (fun _ _ _ hgood hnext => hsourced.good_next hparse hgood hnext) hstart
  cases hpass with
  | pass _ _ hsrc h =>
    have hdone := materializeVolume_done rd vol hparse h
    rw [hvol,hflag] at hdone
    exact hsourced.pass_complete hsrc hgood hdone

end Runs

section Failures

theorem Setting.poolStep_of_calm {c : Storage.Cmd α} {a : Storage.Answer c}
    (h : Calm blank p c a q) : S.poolStep blank p c a q :=
  ⟨h.1,fun _ => h.2.1,fun _ => h.2.2⟩

theorem Setting.restore_misses (habsent : p (volumeName target)=none)
    (hmiss : S.probes=true → p (snapshotName S.provider src)=none) :
    Exec (S.poolStep blank) (restoreVolumeFromSnapshot S.provider target src) p
      (.error (.notFound (snapshotName S.provider src))) p := by
  have htarget : S.poolStep blank p (.lookup (volumeName target)) false p := by
    refine ⟨⟨rfl,.inr rfl⟩,fun _ => ?_,fun _ => trivial⟩
    change false=(p _).isSome
    rw [habsent]
    rfl
  have hsource : S.poolStep blank p (.lookup (snapshotName S.provider src)) false p := by
    refine ⟨⟨rfl,.inr rfl⟩,fun hprobes => ?_,fun _ => trivial⟩
    change false=(p _).isSome
    rw [hmiss hprobes]
    rfl
  exact restore_notFound_runs _ _ _ hsource (.inl htarget)

/-- A volume that is restored from the snapshot `nightly` of another resource. -/
def restoredVol : DesiredVolume :=
  {volumeNumber := 0,sizeKib := 1024,sourceSnapshot := "pvc-1:nightly"}

def nightly : Snapshot := ⟨"pvc-1","nightly"⟩

def Setting.firstPool (S : Setting) (snap : α) : Storage.Pool α := fun name =>
  if S.onNode=true ∧ name=snapshotName S.provider nightly then some ⟨snap,1,false⟩ else none

theorem nightly_ne_target (provider : Provider) :
    snapshotName provider nightly≠volumeName (targetOf "pvc-2" restoredVol) := by
  cases provider with
  | zfs thin => decide +revert
  | lvmThin => decide
  | lvmThick => decide

theorem nightly_ne_fresh (provider : Provider) : snapshotName provider nightly≠
    freshLVName (volumeName (targetOf "pvc-2" restoredVol)) := by
  cases provider with
  | zfs thin => decide +revert
  | lvmThin => decide
  | lvmThick => decide

theorem Setting.firstPool_target :
    S.firstPool snap (volumeName (targetOf "pvc-2" restoredVol))=none :=
  if_neg fun h => nightly_ne_target S.provider h.2.symm

theorem Setting.firstPool_fresh :
    S.firstPool snap (freshLVName (volumeName (targetOf "pvc-2" restoredVol)))=
      none := if_neg fun h => nightly_ne_fresh S.provider h.2.symm

theorem Setting.holds_of_first (hq : q (snapshotName S.provider nightly)=
    S.firstPool snap (snapshotName S.provider nightly)) : S.Holds snap nightly q := by
  constructor
  · intro o ho
    rw [hq,firstPool] at ho
    split at ho
    · cases ho
      rfl
    · cases ho
  · intro honNode
    rw [hq,firstPool,if_pos ⟨honNode,rfl⟩]
    nofun

def Setting.firstNode (S : Setting) (snap : α) : Node α :=
  ⟨S.firstPool snap,fun _ _ => false,fun _ _ => restoreSnapshotMissingBudget⟩

theorem Setting.not_trusted_of {t : Node α} {happenings : List Happening} {u : Obj α}
    (hrun : Run (S.Next blank snap "pvc-2" restoredVol nightly) (S.firstNode snap) happenings t)
    (hu : t.pool (volumeName (targetOf "pvc-2" restoredVol))=some u)
    (hcontent : u.content≠snap) (htag : S.provider=.lvmThick → u.incomplete=false)
    (hsrc : S.Holds snap nightly t.pool) : ¬S.Trusted blank snap := by
  intro htrusted
  have hrestored : PassDone S.provider (S.poolStep blank) (S.fetches snap) S.crossNodeFetcher
      (targetOf "pvc-2" restoredVol) nightly
      (t.restoreSnapshotMissingTries "pvc-2" restoredVol.volumeNumber) t.pool false t.pool :=
    .restored _ ((restore_existing_calm _ S.provider nightly u hu htag).mono
      fun _ _ _ _ h => poolStep_of_calm h)
  obtain ⟨v,hpass,hflag,hpool⟩ := materializeVolume_of_done "pvc-2" restoredVol rfl hrestored
  obtain ⟨o,ho,hsnap⟩ := htrusted "pvc-2" restoredVol "pvc-1" "nightly" rfl rfl _ t v happenings
    firstPool_target hrun (.pass _ _ _ hsrc hpass) hflag
  rw [hpool,hu] at ho
  cases ho
  exact hcontent hsnap

variable {content : α}

theorem Setting.not_trusted_of_fallback (hblank : blank content) (hcontent : content≠snap)
    (hmiss : S.probes=true → S.onNode=false)
    (hgo : FallsBack S.provider (S.fetches snap) S.crossNodeFetcher restoreSnapshotMissingBudget) :
    ¬S.Trusted blank snap := by
  obtain ⟨q,hcreate,hq,hother⟩ := createVolume_calm (targetOf "pvc-2" restoredVol)
    S.provider content hblank (show S.firstPool snap _=none from S.firstPool_target)
    fun _ => S.firstPool_fresh
  have hnone : S.probes=true →
      S.firstPool snap (snapshotName S.provider nightly)=none := by
    intro hprobes
    refine if_neg fun h => ?_
    rw [hmiss hprobes] at h
    cases h.1
  have hdone : PassDone S.provider (S.poolStep blank) (S.fetches snap) S.crossNodeFetcher
      (targetOf "pvc-2" restoredVol) nightly restoreSnapshotMissingBudget (S.firstPool snap)
      true q :=
    .fellBack _ _ _ (restore_misses S.firstPool_target hnone) hgo
      (hcreate.mono fun _ _ _ _ h => poolStep_of_calm h)
  obtain ⟨t,hpass,_,rfl⟩ := materializeVolume_of_done (s := S.firstNode snap) "pvc-2" restoredVol
    rfl hdone
  refine not_trusted_of (.cons _ t _ _ _ (.pass _ _ _ ?_ hpass) (.nil _)) hq hcontent
    (fun _ => rfl) ?_
  · exact holds_of_first rfl
  · exact holds_of_first
      (hother _ (nightly_ne_target S.provider) (nightly_ne_fresh S.provider))

/-- What a thin receive leaves when the process dies after allocating the target is what the next
pass takes for the snapshot. -/
theorem Setting.not_trusted_of_crash (hblank : blank content) (hcontent : content≠snap)
    (hmiss : S.probes=true → S.onNode=false) (hthin : S.provider=.lvmThin)
    (hfetcher : S.crossNodeFetcher=true) : ¬S.Trusted blank snap := by
  let T := volumeName (targetOf "pvc-2" restoredVol)
  let q := update (S.firstPool snap) T
    (some ⟨content,sizeMiBOf restoredVol.sizeKib,true⟩)
  have hnone : S.probes=true →
      S.firstPool snap (snapshotName S.provider nightly)=none := by
    intro hprobes
    refine if_neg fun h => ?_
    rw [hmiss hprobes] at h
    cases h.1
  have hlookup : S.poolStep blank (S.firstPool snap) (.lookup T) false (S.firstPool snap) := by
    refine ⟨⟨rfl,.inr rfl⟩,fun _ => ?_,fun _ => trivial⟩
    change false=(S.firstPool snap T).isSome
    rw [firstPool_target]
    rfl
  have hallocate : S.poolStep blank (S.firstPool snap)
      (.create T (sizeMiBOf restoredVol.sizeKib) true) true q :=
    ⟨changes_true.mpr ⟨firstPool_target,content,hblank,rfl⟩,
      fun _ => trivial,fun _ => trivial⟩
  have hcut : Cut (S.poolStep blank)
      (recvSnapshot S.provider (targetOf "pvc-2" restoredVol) snap) (S.firstPool snap) q := by
    rw [hthin]
    refine cut_ask.mpr (.inr ⟨false,_,hlookup,?_⟩)
    refine cut_bind.mpr (.inl ?_)
    exact cut_ask.mpr (.inr ⟨true,q,hallocate,.here _ _⟩)
  have hshipper : S.provider.isShipper=true := by
    rw [hthin]
    rfl
  have hcrash : NodeCut S.provider (S.poolStep blank) (S.fetches snap)
      (materializeVolume S.provider S.crossNodeFetcher "pvc-2" restoredVol) (S.firstNode snap)
      q := by
    refine .ask (.restoreVolumeFromSnapshot (targetOf "pvc-2" restoredVol) nightly) _
      (.error (.notFound (snapshotName S.provider nightly))) _ (S.firstNode snap) _
      ⟨S.firstPool snap,rfl,restore_misses S.firstPool_target hnone⟩ ?_
    simp only [hfetcher,if_true,crossNodeClone,hshipper,Bool.not_true,Bool.false_eq_true,if_false]
    refine .ask (.fetch "pvc-1" "nightly" 0) _ (.stream snap) _ (S.firstNode snap) _ ⟨rfl,rfl⟩ ?_
    exact .within _ _ _ _ hcut
  have hq : q T=some ⟨content,sizeMiBOf restoredVol.sizeKib,true⟩ :=
    update_self ..
  refine not_trusted_of (.cons _ _ _ _ _ (.crash _ q (holds_of_first rfl) hcrash)
    (.nil _)) hq hcontent (fun hthick => ?_) ?_
  · rw [hthin] at hthick
    cases hthick
  · exact holds_of_first (update_of_ne (nightly_ne_target S.provider) ..)

end Failures

/-- What a pass takes for the snapshot is the snapshot exactly where every pass finds it: on the
node, by probes that are answered, or with ZFS at a peer. -/
theorem restored_data_trusted_iff (S : Setting) (blank : α → Prop) (snap : α)
    (hblank : ∃content,blank content ∧ content≠snap) : S.Trusted blank snap ↔ S.Sourced := by
  refine ⟨fun htrusted => ?_,fun hsourced => hsourced.trusted⟩
  obtain ⟨content,hcontent,hne⟩ := hblank
  by_contra hnot
  obtain ⟨hpeers,hlocal⟩ := not_or.mp hnot
  have hmiss : S.probes=true → S.onNode=false := by
    intro hprobes
    exact Bool.eq_false_iff.mpr fun honNode => hlocal ⟨hprobes,honNode⟩
  cases hfetcher : S.crossNodeFetcher with
  | false =>
    exact not_trusted_of_fallback hcontent hne hmiss (.inr ⟨hfetcher,Nat.le_refl _⟩) htrusted
  | true =>
    cases hshipped : S.shipped with
    | false =>
      exact not_trusted_of_fallback hcontent hne hmiss (.inl ⟨hfetcher,.inr hshipped⟩)
        htrusted
    | true =>
      cases hprovider : S.provider with
      | zfs thin =>
        refine hpeers ⟨?_,hfetcher,hshipped⟩
        rw [hprovider]
        rfl
      | lvmThin => exact not_trusted_of_crash hcontent hne hmiss hprovider hfetcher htrusted
      | lvmThick =>
        refine not_trusted_of_fallback hcontent hne hmiss (.inl ⟨hfetcher,.inl ?_⟩) htrusted
        rw [hprovider]
        rfl

/-- A thick restore on a node that keeps its snapshot: every crash is made good. -/
theorem thick_restore_trusted :
    Trusted (fun content => content="old bytes") "rows" ⟨.lvmThick,true,true,false,true⟩ :=
  (restored_data_trusted_iff ⟨.lvmThick,true,true,false,true⟩
    (fun content => content="old bytes") "rows"
    ⟨"old bytes",rfl,by decide⟩).mpr (.inr ⟨rfl,rfl⟩)

/-- On a thin pool whose peers always ship the snapshot, with every probe answered. -/
theorem interrupted_thin_receive_passes :
    ¬Trusted (fun content => content="old bytes") "rows" ⟨.lvmThin,true,false,true,true⟩ :=
  not_trusted_of_crash rfl (by decide) (fun _ => rfl) rfl rfl

end Invariant

end Blockstor.Satellite
