import Blockstor.Framework.Transition
import Blockstor.Satellite.RestorePass
import Blockstor.Storage.ProviderRuns

namespace Blockstor.Satellite

open Framework Shell Storage

/-- Where the passes over a restore-backed volume run: the provider, whether peers are asked,
whether the snapshot is on this node at every pass, whether a peer that is asked always has it,
and whether the existence and tag probes are always answered. -/
structure Setting where
  provider : Provider
  crossNodeFetcher : Bool
  onNode : Bool
  shipped : Bool
  probes : Bool
  deriving DecidableEq

def isZfs : Provider → Bool
  | .zfs _ => true
  | _ => false

section

variable {α : Type} (blank : α → Prop) (snap : α) (S : Setting)

def Setting.poolStep : PoolEnv α := fun p c answer q =>
  Step blank p c answer q ∧ (S.probes=true → Answered p c answer) ∧
    (isZfs S.provider=true → Whole blank p c q)

def Setting.fetches : Fetched α → Prop
  | .stream body => body=snap
  | .notFound => S.shipped=false
  | .failed => True

structure Setting.Holds (src : Snapshot) (p : Storage.Pool α) : Prop where
  content : ∀o,p (snapshotName S.provider src)=some o → o.content=snap
  present : S.onNode=true → p (snapshotName S.provider src)≠none

inductive Happening
  | pass (r : Except RestoreErr Unit)
  | crash
  | other

/-- A pass runs to its end, or the process dies on the way and loses its tables; in between other
objects of the pool may come and go. -/
inductive Setting.Next (rd : String) (vol : DesiredVolume) (src : Snapshot) :
    Node α → Happening → Node α → Prop
  | pass (s t : Node α) (r : Except RestoreErr Unit) (hs : S.Holds snap src s.pool)
      (h : Exec (PassStep S.provider (S.poolStep blank) (S.fetches snap))
        (materializeVolume S.provider S.crossNodeFetcher rd vol) s r t) :
      Next rd vol src s (.pass r) t
  | crash (s : Node α) (q : Storage.Pool α) (hs : S.Holds snap src s.pool)
      (h : NodeCut S.provider (S.poolStep blank) (S.fetches snap)
        (materializeVolume S.provider S.crossNodeFetcher rd vol) s q) :
      Next rd vol src s .crash ⟨q,fun _ _ => false,fun _ _ => 0⟩
  | other (s : Node α) (q : Storage.Pool α)
      (h : q (volumeName (targetOf rd vol))=s.pool (volumeName (targetOf rd vol))) :
      Next rd vol src s .other {s with pool := q}

/-- However the passes over a volume 0 that does not exist at first go, one that answers well
without recording a blank fallback leaves the volume with the content of the snapshot. -/
def Setting.Trusted : Prop :=
  ∀(rd : String) (vol : DesiredVolume) (srcRD snapName : String),
    parseSourceSnapshot vol.sourceSnapshot=.ok (srcRD,snapName) → vol.volumeNumber=0 →
    ∀(s t u : Node α) (happenings : List Happening),
      s.pool (volumeName (targetOf rd vol))=none →
      Run (S.Next blank snap rd vol ⟨srcRD,snapName⟩) s happenings t →
      S.Next blank snap rd vol ⟨srcRD,snapName⟩ t (.pass (.ok ())) u →
      u.restoreBlankFallback rd 0=false →
      ∃o,u.pool (volumeName (targetOf rd vol))=some o ∧ o.content=snap

/-- Every pass finds the snapshot: on its own node, by probes that are answered, or with a peer,
from where a receive leaves all of it or nothing. -/
def Setting.Sourced : Prop :=
  (isZfs S.provider=true ∧ S.crossNodeFetcher=true ∧ S.shipped=true) ∨
  (S.probes=true ∧ S.onNode=true)

end

end Blockstor.Satellite
