import Blockstor.Framework.Crash
import Blockstor.Satellite.Restore

namespace Blockstor.Satellite

open Framework Shell Storage

abbrev targetOf (rd : String) (vol : DesiredVolume) : Volume :=
  ⟨rd,vol.volumeNumber,vol.sizeKib⟩

@[simp] theorem updateKey_self {β : Type} (f : String → Int → β) (rd : String) (vol : Int)
    (b : β) : updateKey f rd vol b rd vol=b := by simp [updateKey]

abbrev PoolEnv (α : Type) :=
  Storage.Pool α → (c : Storage.Cmd α) → Storage.Answer c → Storage.Pool α → Prop

section

variable {α : Type} (provider : Provider) (env : PoolEnv α) (fetches : Fetched α → Prop)
  (crossNodeFetcher : Bool)

def PassStep (s : Node α) (c : NodeCmd α) (answer : NodeAnswer c) (t : Node α) : Prop :=
  match c,answer with
  | .createVolume vol,answer => ∃q,t={s with pool := q} ∧
      Exec env (createVolume provider vol) s.pool answer q
  | .restoreVolumeFromSnapshot target src,answer => ∃q,t={s with pool := q} ∧
      Exec env (restoreVolumeFromSnapshot provider target src) s.pool answer q
  | .recvSnapshot target stream,answer => ∃q,t={s with pool := q} ∧
      Exec env (recvSnapshot provider target stream) s.pool answer q
  | .fetch _ _ _,answer => t=s ∧ fetches answer
  | .recordRestoreBlankFallback rd vol b,_ =>
      t={s with restoreBlankFallback := updateKey s.restoreBlankFallback rd vol b}
  | .bumpRestoreSnapshotMissing rd vol,answer => answer=s.restoreSnapshotMissingTries rd vol+1 ∧
      t={s with restoreSnapshotMissingTries :=
        updateKey s.restoreSnapshotMissingTries rd vol (s.restoreSnapshotMissingTries rd vol+1)}
  | .clearRestoreSnapshotMissing rd vol,_ =>
      t={s with restoreSnapshotMissingTries := updateKey s.restoreSnapshotMissingTries rd vol 0}

def FallsBack (tries : Nat) : Prop :=
  (crossNodeFetcher=true ∧ (provider.isShipper=false ∨ fetches .notFound)) ∨
  (crossNodeFetcher=false ∧ restoreSnapshotMissingBudget ≤ tries)

/-- What a pass over a restore-backed volume that answers well did to the pool, with the
blank-fallback record it leaves: it restored the snapshot, created a blank volume after missing
the snapshot, or received the snapshot from a peer. -/
inductive PassDone (target : Volume) (src : Snapshot) (tries : Nat)
    (p : Storage.Pool α) : Bool → Storage.Pool α → Prop
  | restored (q : Storage.Pool α)
      (h : Exec env (restoreVolumeFromSnapshot provider target src) p (.ok ()) q) :
      PassDone target src tries p false q
  | fellBack (p' q : Storage.Pool α) (name : String)
      (hmiss : Exec env (restoreVolumeFromSnapshot provider target src) p
        (.error (.notFound name)) p')
      (hgo : FallsBack provider fetches crossNodeFetcher tries)
      (h : Exec env (createVolume provider target) p' (.ok ()) q) :
      PassDone target src tries p true q
  | shipped (p' q : Storage.Pool α) (name : String) (body : α)
      (hmiss : Exec env (restoreVolumeFromSnapshot provider target src) p
        (.error (.notFound name)) p')
      (hfetch : crossNodeFetcher=true) (hshipper : provider.isShipper=true)
      (hbody : fetches (.stream body))
      (h : Exec env (recvSnapshot provider target body) p' (.ok ()) q) :
      PassDone target src tries p false q

inductive PassCut (target : Volume) (src : Snapshot) (tries : Nat)
    (p : Storage.Pool α) : Storage.Pool α → Prop
  | restoring (q : Storage.Pool α)
      (h : Cut env (restoreVolumeFromSnapshot provider target src) p q) :
      PassCut target src tries p q
  | creating (p' q : Storage.Pool α) (name : String)
      (hmiss : Exec env (restoreVolumeFromSnapshot provider target src) p
        (.error (.notFound name)) p')
      (hgo : FallsBack provider fetches crossNodeFetcher tries)
      (h : Cut env (createVolume provider target) p' q) : PassCut target src tries p q
  | receiving (p' q : Storage.Pool α) (name : String) (body : α)
      (hmiss : Exec env (restoreVolumeFromSnapshot provider target src) p
        (.error (.notFound name)) p')
      (hfetch : crossNodeFetcher=true) (hshipper : provider.isShipper=true)
      (hbody : fetches (.stream body))
      (h : Cut env (recvSnapshot provider target body) p' q) :
      PassCut target src tries p q

def CallCut (c : NodeCmd α) (p q : Storage.Pool α) : Prop :=
  match c with
  | .createVolume vol => Cut env (createVolume provider vol) p q
  | .restoreVolumeFromSnapshot target src =>
      Cut env (restoreVolumeFromSnapshot provider target src) p q
  | .recvSnapshot target stream => Cut env (recvSnapshot provider target stream) p q
  | _ => False

/-- A program of the node that is cut off between two calls or within one, with the pool it
leaves. -/
inductive NodeCut {β : Type} : NodeProg α β → Node α → Storage.Pool α → Prop
  | here (x : NodeProg α β) (s : Node α) : NodeCut x s s.pool
  | within (c : NodeCmd α) (next : NodeAnswer c → NodeProg α β) (s : Node α)
      (q : Storage.Pool α) (h : CallCut provider env c s.pool q) : NodeCut (.ask c next) s q
  | ask (c : NodeCmd α) (next : NodeAnswer c → NodeProg α β) (a : NodeAnswer c) (s s' : Node α)
      (q : Storage.Pool α) (hc : PassStep provider env fetches s c a s')
      (h : NodeCut (next a) s' q) : NodeCut (.ask c next) s q

variable {provider env fetches crossNodeFetcher} {s t : Node α}

section Calls

theorem pass_lift_ok (e : Except Storage.Err Unit) (wrap : Storage.Err → RestoreErr) (u : Unit) :
    Exec (PassStep provider env fetches) (lift e wrap) s (.ok u) t ↔ e=.ok () ∧ t=s := by
  cases e with
  | ok v => simp [lift]
  | error e => simp [lift]

theorem pass_createBlank_ok (rd : String) (target : Volume) (u : Unit) :
    Exec (PassStep provider env fetches) (createBlank rd target) s (.ok u) t ↔
      ∃q,Exec env (createVolume provider target) s.pool (.ok ()) q ∧
        t=⟨q,updateKey s.restoreBlankFallback rd target.volumeNumber true,
          s.restoreSnapshotMissingTries⟩ := by
  unfold createBlank
  constructor
  · intro h
    obtain ⟨_,s1,rfl,h⟩ := exec_ask.mp h
    obtain ⟨created,s2,⟨q,rfl,hq⟩,h⟩ := exec_ask.mp h
    obtain ⟨rfl,rfl⟩ := (pass_lift_ok _ _ _).mp h
    exact ⟨q,hq,rfl⟩
  · intro h
    obtain ⟨q,hq,rfl⟩ := h
    refine exec_ask.mpr ⟨(),_,rfl,?_⟩
    refine exec_ask.mpr ⟨.ok (),_,⟨q,rfl,hq⟩,?_⟩
    exact (pass_lift_ok _ _ _).mpr ⟨rfl,rfl⟩

variable {β : Type} {q : Storage.Pool α}

theorem nodeCut_pure (b : β) (h : NodeCut provider env fetches (pure b) s q) : q=s.pool := by
  cases h
  rfl

theorem nodeCut_throw (e : RestoreErr)
    (h : NodeCut (β := β) provider env fetches (throw e) s q) : q=s.pool := by
  cases h
  rfl

theorem nodeCut_lift (e : Except Storage.Err Unit) (wrap : Storage.Err → RestoreErr)
    (h : NodeCut provider env fetches (lift e wrap) s q) : q=s.pool := by
  cases e with
  | ok u => exact nodeCut_pure _ h
  | error e => exact nodeCut_throw _ h

theorem nodeCut_ask (c : NodeCmd α) (f : NodeAnswer c → NodeProg α β)
    (h : NodeCut provider env fetches (act c >>= f) s q) :
    q=s.pool ∨ CallCut provider env c s.pool q ∨
      ∃a s',PassStep provider env fetches s c a s' ∧ NodeCut provider env fetches (f a) s' q := by
  cases h with
  | here => exact .inl rfl
  | within _ _ _ _ h => exact .inr (.inl h)
  | ask _ _ a _ s' _ hc h => exact .inr (.inr ⟨a,s',hc,h⟩)

theorem nodeCut_createBlank (rd : String) (target : Volume)
    (h : NodeCut provider env fetches (createBlank rd target) s q) :
    Cut env (createVolume provider target) s.pool q := by
  rcases nodeCut_ask _ _ h with rfl|h|⟨_,s1,rfl,h⟩
  · exact .here _ _
  · cases h
  rcases nodeCut_ask _ _ h with rfl|h|⟨created,s2,⟨q',rfl,hq⟩,h⟩
  · exact .here _ _
  · exact h
  · obtain rfl := nodeCut_lift _ _ h
    exact hq.cut

end Calls

variable (rd : String) (vol : DesiredVolume) {srcRD snapName : String}
  (hparse : parseSourceSnapshot vol.sourceSnapshot=.ok (srcRD,snapName))
include hparse

theorem sourceSnapshot_ne : vol.sourceSnapshot≠"" := by
  intro he
  rw [he] at hparse
  cases hparse

theorem materializeVolume_done
    (h : Exec (PassStep provider env fetches) (materializeVolume provider crossNodeFetcher rd vol)
      s (.ok ()) t) :
    PassDone provider env fetches crossNodeFetcher (targetOf rd vol) ⟨srcRD,snapName⟩
      (s.restoreSnapshotMissingTries rd vol.volumeNumber) s.pool
      (t.restoreBlankFallback rd vol.volumeNumber) t.pool := by
  unfold materializeVolume at h
  simp only [sourceSnapshot_ne vol hparse,if_false,hparse] at h
  obtain ⟨answer,s1,⟨q,rfl,hq⟩,h⟩ := exec_ask.mp h
  cases answer with
  | ok u =>
    obtain ⟨_,s2,rfl,h⟩ := exec_ask.mp h
    obtain ⟨_,rfl,_⟩ := exec_call.mp h
    simpa using PassDone.restored q hq
  | error e =>
    cases e with
    | command verb name => cases h
    | notFound name =>
      dsimp only at h
      split at h
      · rename_i hfetch
        unfold crossNodeClone at h
        split at h
        · rename_i hship
          obtain ⟨q',hc,rfl⟩ := (pass_createBlank_ok _ _ _).mp h
          simpa using PassDone.fellBack q q' name hq (.inl ⟨hfetch,.inl (by simpa using hship)⟩) hc
        · rename_i hship
          obtain ⟨fetched,s2,⟨rfl,hfetched⟩,h⟩ := exec_ask.mp h
          cases fetched with
          | notFound =>
            obtain ⟨q',hc,rfl⟩ := (pass_createBlank_ok _ _ _).mp h
            simpa using PassDone.fellBack q q' name hq (.inl ⟨hfetch,.inr hfetched⟩) hc
          | failed => cases h
          | stream body =>
            obtain ⟨received,s3,⟨q',rfl,hr⟩,h⟩ := exec_ask.mp h
            cases received with
            | error e => cases h
            | ok u =>
              obtain ⟨_,s4,rfl,h⟩ := exec_ask.mp h
              obtain ⟨_,rfl⟩ := exec_pure.mp h
              simpa using PassDone.shipped q q' name body hq hfetch (by simpa using hship) hfetched hr
      · rename_i hfetch
        obtain ⟨tries,s2,⟨rfl,rfl⟩,h⟩ := exec_ask.mp h
        split at h
        · cases h
        · rename_i hgt
          obtain ⟨_,s3,rfl,h⟩ := exec_ask.mp h
          obtain ⟨q',hc,rfl⟩ := (pass_createBlank_ok _ _ _).mp h
          have hle : restoreSnapshotMissingBudget ≤
              s.restoreSnapshotMissingTries rd vol.volumeNumber :=
            Nat.le_of_lt_succ (Nat.lt_of_not_le hgt)
          simpa using PassDone.fellBack q q' name hq (.inr ⟨by simpa using hfetch,hle⟩) hc

theorem materializeVolume_of_done {flag : Bool} {q : Storage.Pool α}
    (h : PassDone provider env fetches crossNodeFetcher (targetOf rd vol) ⟨srcRD,snapName⟩
      (s.restoreSnapshotMissingTries rd vol.volumeNumber) s.pool flag q) :
    ∃t,Exec (PassStep provider env fetches) (materializeVolume provider crossNodeFetcher rd vol)
      s (.ok ()) t ∧ t.restoreBlankFallback rd vol.volumeNumber=flag ∧ t.pool=q := by
  unfold materializeVolume
  simp only [sourceSnapshot_ne vol hparse,if_false,hparse]
  let fallback := s.restoreBlankFallback
  let tries := s.restoreSnapshotMissingTries
  cases h with
  | restored _ h =>
    refine ⟨⟨q,updateKey fallback rd vol.volumeNumber false,updateKey tries rd vol.volumeNumber 0⟩,
      ?_,updateKey_self ..,rfl⟩
    refine exec_ask.mpr ⟨.ok (),_,⟨q,rfl,h⟩,?_⟩
    refine exec_ask.mpr ⟨(),_,rfl,?_⟩
    exact exec_call.mpr ⟨(),rfl,rfl⟩
  | fellBack p' _ name hmiss hgo h =>
    rcases hgo with ⟨hfetch,hgo⟩|⟨hfetch,hgo⟩
    · refine ⟨⟨q,updateKey fallback rd vol.volumeNumber true,tries⟩,?_,updateKey_self ..,rfl⟩
      refine exec_ask.mpr ⟨.error (.notFound name),_,⟨p',rfl,hmiss⟩,?_⟩
      simp only [hfetch,if_true,crossNodeClone]
      split
      · exact (pass_createBlank_ok _ _ _).mpr ⟨q,h,rfl⟩
      · rename_i hship
        have hnotFound : fetches .notFound := hgo.resolve_left (by simpa using hship)
        refine exec_ask.mpr ⟨.notFound,_,⟨rfl,hnotFound⟩,?_⟩
        exact (pass_createBlank_ok _ _ _).mpr ⟨q,h,rfl⟩
    · have hgt : ¬tries rd vol.volumeNumber+1 ≤ restoreSnapshotMissingBudget := by
        have hle : restoreSnapshotMissingBudget ≤ tries rd vol.volumeNumber := hgo
        omega
      refine ⟨⟨q,updateKey fallback rd vol.volumeNumber true,
        updateKey (updateKey tries rd vol.volumeNumber (tries rd vol.volumeNumber+1))
          rd vol.volumeNumber 0⟩,?_,updateKey_self ..,rfl⟩
      refine exec_ask.mpr ⟨.error (.notFound name),_,⟨p',rfl,hmiss⟩,?_⟩
      simp only [hfetch,Bool.false_eq_true,if_false]
      refine exec_ask.mpr ⟨_,_,⟨rfl,rfl⟩,?_⟩
      rw [if_neg hgt]
      refine exec_ask.mpr ⟨(),_,rfl,?_⟩
      exact (pass_createBlank_ok _ _ _).mpr ⟨q,h,rfl⟩
  | shipped p' _ name body hmiss hfetch hshipper hbody h =>
    refine ⟨⟨q,updateKey fallback rd vol.volumeNumber false,tries⟩,?_,updateKey_self ..,rfl⟩
    refine exec_ask.mpr ⟨.error (.notFound name),_,⟨p',rfl,hmiss⟩,?_⟩
    simp only [hfetch,if_true,crossNodeClone,hshipper,Bool.not_true,Bool.false_eq_true,if_false]
    refine exec_ask.mpr ⟨.stream body,_,⟨rfl,hbody⟩,?_⟩
    refine exec_ask.mpr ⟨.ok (),_,⟨q,rfl,h⟩,?_⟩
    exact exec_ask.mpr ⟨(),_,rfl,exec_pure.mpr ⟨rfl,rfl⟩⟩

theorem materializeVolume_cut {q : Storage.Pool α}
    (h : NodeCut provider env fetches (materializeVolume provider crossNodeFetcher rd vol) s q) :
    PassCut provider env fetches crossNodeFetcher (targetOf rd vol) ⟨srcRD,snapName⟩
      (s.restoreSnapshotMissingTries rd vol.volumeNumber) s.pool q := by
  unfold materializeVolume at h
  simp only [sourceSnapshot_ne vol hparse,if_false,hparse] at h
  rcases nodeCut_ask _ _ h with rfl|h|⟨answer,s1,⟨q1,rfl,hq⟩,h⟩
  · exact .restoring _ (.here _ _)
  · exact .restoring _ h
  cases answer with
  | ok u =>
    rcases nodeCut_ask _ _ h with rfl|h|⟨_,s2,rfl,h⟩
    · exact .restoring _ hq.cut
    · cases h
    · cases h with
      | here => exact .restoring _ hq.cut
      | within _ _ _ _ h => cases h
      | ask _ _ a _ s' _ hc h =>
        obtain rfl := hc
        obtain rfl := nodeCut_pure _ h
        exact .restoring _ hq.cut
  | error e =>
    cases e with
    | command verb name =>
      obtain rfl := nodeCut_throw _ h
      exact .restoring _ hq.cut
    | notFound name =>
      dsimp only at h
      split at h
      · rename_i hfetch
        unfold crossNodeClone at h
        split at h
        · rename_i hship
          exact .creating q1 q name hq (.inl ⟨hfetch,.inl (by simpa using hship)⟩)
            (nodeCut_createBlank _ _ h)
        · rename_i hship
          rcases nodeCut_ask _ _ h with rfl|h|⟨fetched,s2,⟨rfl,hfetched⟩,h⟩
          · exact .restoring _ hq.cut
          · cases h
          cases fetched with
          | notFound =>
            exact .creating q1 q name hq (.inl ⟨hfetch,.inr hfetched⟩) (nodeCut_createBlank _ _ h)
          | failed =>
            obtain rfl := nodeCut_throw _ h
            exact .restoring _ hq.cut
          | stream body =>
            have hreceiving : ∀q',Cut env (recvSnapshot provider (targetOf rd vol) body)
                q1 q' → PassCut provider env fetches crossNodeFetcher (targetOf rd vol)
                  ⟨srcRD,snapName⟩ (s.restoreSnapshotMissingTries rd vol.volumeNumber) s.pool q' :=
              fun q' hr => .receiving q1 q' name body hq hfetch (by simpa using hship) hfetched hr
            rcases nodeCut_ask _ _ h with rfl|h|⟨received,s3,⟨q2,rfl,hr⟩,h⟩
            · exact hreceiving _ (.here _ _)
            · exact hreceiving _ h
            · cases received with
              | error e =>
                obtain rfl := nodeCut_throw _ h
                exact hreceiving _ hr.cut
              | ok u =>
                rcases nodeCut_ask _ _ h with rfl|h|⟨_,s4,rfl,h⟩
                · exact hreceiving _ hr.cut
                · cases h
                · obtain rfl := nodeCut_pure _ h
                  exact hreceiving _ hr.cut
      · rename_i hfetch
        rcases nodeCut_ask _ _ h with rfl|h|⟨tries,s2,⟨rfl,rfl⟩,h⟩
        · exact .restoring _ hq.cut
        · cases h
        split at h
        · obtain rfl := nodeCut_throw _ h
          exact .restoring _ hq.cut
        · rename_i hgt
          rcases nodeCut_ask _ _ h with rfl|h|⟨_,s3,rfl,h⟩
          · exact .restoring _ hq.cut
          · cases h
          have hle : restoreSnapshotMissingBudget ≤
              s.restoreSnapshotMissingTries rd vol.volumeNumber :=
            Nat.le_of_lt_succ (Nat.lt_of_not_le hgt)
          exact .creating q1 q name hq (.inr ⟨by simpa using hfetch,hle⟩)
            (nodeCut_createBlank _ _ h)

end

end Blockstor.Satellite
