import Blockstor.Satellite.RestorePass
import Blockstor.Storage.ProviderRuns

namespace Blockstor.Satellite

open Framework Shell Storage

section

variable {α : Type} (provider : Provider) (blank ships : α → Prop)
  (crossNodeFetcher : Bool)

/-- What a successful pass over a restore-backed volume did to the pool, with the blank-fallback
record it leaves: it restored the snapshot, created a blank volume after missing the snapshot, or
received the snapshot from a peer. -/
inductive Materialized (target : Volume) (src : Snapshot) (tries : Nat)
    (p : Storage.Pool α) : Bool → Storage.Pool α → Prop
  | restored (q : Storage.Pool α)
      (h : Exec (Step blank) (restoreVolumeFromSnapshot provider target src)
        p (.ok ()) q) : Materialized target src tries p false q
  | fellBack (q : Storage.Pool α) (name : String)
      (hmiss : Exec (Step blank) (restoreVolumeFromSnapshot provider target src)
        p (.error (.notFound name)) p)
      (hgo : crossNodeFetcher=true ∨ restoreSnapshotMissingBudget ≤ tries)
      (h : Exec (Step blank) (createVolume provider target) p (.ok ()) q) :
      Materialized target src tries p true q
  | shipped (q : Storage.Pool α) (name : String) (body : α)
      (hmiss : Exec (Step blank) (restoreVolumeFromSnapshot provider target src)
        p (.error (.notFound name)) p)
      (hfetch : crossNodeFetcher=true) (hshipper : provider.isShipper=true) (hbody : ships body)
      (h : Exec (Step blank) (recvSnapshot provider target body) p (.ok ()) q) :
      Materialized target src tries p false q

variable {provider blank ships crossNodeFetcher} {s t : Node α} (rd : String) (vol : DesiredVolume)
  {srcRD snapName : String}

theorem nodeStep_eq : NodeStep provider blank ships=
    PassStep provider (Step blank) fun fetched => ∀body,fetched=.stream body → ships body := by
  funext s c answer t
  cases c <;> rfl

theorem materializeVolume_inv (hparse : parseSourceSnapshot vol.sourceSnapshot=.ok (srcRD,snapName))
    (h : Exec (NodeStep provider blank ships) (materializeVolume provider crossNodeFetcher rd vol)
      s (.ok ()) t) :
    Materialized provider blank ships crossNodeFetcher (targetOf rd vol) ⟨srcRD,snapName⟩
      (s.restoreSnapshotMissingTries rd vol.volumeNumber) s.pool
      (t.restoreBlankFallback rd vol.volumeNumber) t.pool := by
  rw [nodeStep_eq] at h
  have hdone := materializeVolume_done rd vol hparse h
  generalize t.restoreBlankFallback rd vol.volumeNumber=flag,t.pool=q at hdone ⊢
  cases hdone with
  | restored _ h => exact .restored _ h
  | fellBack p' _ name hmiss hgo h =>
    obtain rfl := restore_notFound _ provider _ name hmiss
    exact .fellBack _ name hmiss (hgo.imp And.left And.right) h
  | shipped p' _ name body hmiss hfetch hshipper hbody h =>
    obtain rfl := restore_notFound _ provider _ name hmiss
    exact .shipped _ name body hmiss hfetch hshipper (hbody body rfl) h

theorem materializeVolume_may
    (hparse : parseSourceSnapshot vol.sourceSnapshot=.ok (srcRD,snapName)) {flag : Bool}
    {q : Storage.Pool α}
    (h : Materialized provider blank ships crossNodeFetcher (targetOf rd vol) ⟨srcRD,snapName⟩
      (s.restoreSnapshotMissingTries rd vol.volumeNumber) s.pool flag q) :
    ∃t,Exec (NodeStep provider blank ships) (materializeVolume provider crossNodeFetcher rd vol)
      s (.ok ()) t ∧ t.restoreBlankFallback rd vol.volumeNumber=flag ∧ t.pool=q := by
  rw [nodeStep_eq]
  refine materializeVolume_of_done rd vol hparse ?_
  cases h with
  | restored _ h => exact .restored _ h
  | fellBack _ name hmiss hgo h =>
    refine .fellBack _ _ name hmiss ?_ h
    cases crossNodeFetcher with
    | true => exact .inl ⟨rfl,.inr nofun⟩
    | false => exact .inr ⟨rfl,hgo.resolve_left nofun⟩
  | shipped _ name body hmiss hfetch hshipper hbody h =>
    refine .shipped _ _ name body hmiss hfetch hshipper (fun b hb => ?_) h
    cases hb
    exact hbody

end

end Blockstor.Satellite
