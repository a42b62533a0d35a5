import Blockstor.Controller.SkipSync

namespace Blockstor.Controller

open Drbd Framework Shell

/-- A revision of a replica that differs from another in nothing the definition or the stamp
depends on. -/
structure SameStamp (a b : Resource) : Prop where
  name : b.name=a.name
  definition : b.spec.resourceDefinitionName=a.spec.resourceDefinitionName
  skip : b.spec.skipInitialSync=a.spec.skipInitialSync

theorem seedVolumes_sameStamp (peers : List Resource) (vds : List VolumeDefinition)
    (target : Resource) : SameStamp target (seedVolumes peers vds target) := by
  induction vds generalizing target with
  | nil => exact ⟨rfl,rfl,rfl⟩
  | cons vd vds ih =>
    unfold seedVolumes
    dsimp only
    split
    · exact ih target
    · have h := ih (setSeedFromGI target vd.volumeNumber
        (pickSeedFromPeers peers target.name vd.volumeNumber))
      exact ⟨h.name,h.definition,h.skip⟩

section

variable {rd name : String}

theorem Keeps.bind {α β : Type} {p : Prog α} {f : α → Prog β} (hp : Keeps rd name p)
    (hf : ∀a,Keeps rd name (f a)) : Keeps rd name (p >>= f) :=
  Advances.bind (fun _ _ _ h h' => h.trans _ _ _ h') hp hf

theorem keeps_pure {α : Type} {a : α} : Keeps rd name (pure a) := advances_pure .refl a

variable (rd) in
theorem follows_update (seen changed : Resource) (m : Seen)
    (h : Seen.may name m (.updateResource seen changed)) :
    (api (.updateResource seen changed)).Follows (passProtocol rd name) m fun _ n => m.Rises n := by
  refine ⟨h,fun a _ => ?_⟩
  cases a with
  | ok u => exact ⟨id,id,id⟩
  | error e => exact ⟨id,id,id⟩

variable (target : Resource)

theorem keeps_update (changed : Resource) (hname : target.name=name)
    (h : SameStamp target changed) : Keeps rd name (api (.updateResource target changed)) :=
  fun m => follows_update rd target changed m ⟨hname,h.name.trans hname,h.definition,.inl h.skip⟩

theorem keeps_pruneStaleResourceVolumes (hname : target.name=name)
    (d : Option ResourceDefinition) : Keeps rd name (pruneStaleResourceVolumes target d) := by
  cases d with
  | none => exact keeps_pure
  | some d =>
    unfold pruneStaleResourceVolumes
    dsimp only
    split
    · exact keeps_pure
    split
    · exact keeps_pure
    refine Keeps.bind (keeps_update _ _ hname ?_) fun _ => keeps_pure
    exact ⟨rfl,rfl,rfl⟩

theorem keeps_ensureSeedFromGI (hname : target.name=name)
    (peers : List Resource) (d : Option ResourceDefinition) :
    Keeps rd name (ensureSeedFromGI target peers d) := by
  cases d with
  | none => exact keeps_pure
  | some d =>
    unfold ensureSeedFromGI
    dsimp only
    split
    · exact keeps_pure
    split
    · exact keeps_pure
    exact (keeps_update _ _ hname (seedVolumes_sameStamp _ _ _)).bind fun _ => keeps_pure

theorem keeps_ensureVolumeProjection (hname : target.name=name)
    (peers : List Resource) (d : Option ResourceDefinition) :
    Keeps rd name (ensureVolumeProjection target peers d) := by
  refine (keeps_pruneStaleResourceVolumes target hname d).bind fun pruned => ?_
  cases pruned with
  | true => exact keeps_pure
  | false => exact keeps_ensureSeedFromGI target hname peers d

variable (rd) in
theorem ensureSkipInitSyncDecision_follows (hname : target.name=name)
    (peers : List Resource) (d : Option ResourceDefinition) (m : Seen)
    (hclear : ∀x,d=some x → rdInitialized x=false →
      anyProvenDataBearingDiskfulPeer peers ""=false → m.Clear) :
    (ensureSkipInitSyncDecision target peers d).Follows (passProtocol rd name) m fun res n =>
      m.Rises n ∧ ∀b current,res=.ok (b,current) → current.name=name ∧
        current.spec.resourceDefinitionName=target.spec.resourceDefinitionName ∧
        n.Updates target current := by
  have hsame (n : Seen) (hn : m.Rises n) (b : Bool) : m.Rises n ∧ ∀b' current,
      (.ok (b,target) : Except AllocErr (Bool × Resource))=.ok (b',current) → current.name=name ∧
        current.spec.resourceDefinitionName=target.spec.resourceDefinitionName ∧
        n.Updates target current := by
    refine ⟨hn,fun b' current h => ?_⟩
    cases h
    exact ⟨hname,rfl,.inl rfl⟩
  cases d with
  | none => exact hsame m (.refl m) false
  | some x =>
    unfold ensureSkipInitSyncDecision
    dsimp only
    split
    · refine ⟨trivial,fun a _ => ?_⟩
      rcases a with e|u
      · cases e with
        | notFound => exact hsame _ (.refl m) false
        | conflict => exact ⟨.refl m,fun _ _ h => by cases h⟩
        | other => exact ⟨.refl m,fun _ _ h => by cases h⟩
      · exact hsame _ (.refl m) true
    rename_i hlatch
    split
    · exact hsame m (.refl m) false
    rename_i hunset
    have hnone : target.spec.skipInitialSync=none := by simpa using hunset
    have hskip : (!rdInitialized x)=true → m.Clear := by
      intro hinit
      have hx : rdInitialized x=false := by simpa using hinit
      exact hclear x rfl hx (by simpa [hx] using hlatch)
    let n : Seen := {m with stamp := none}
    have hn : m.Rises n := ⟨id,id,id⟩
    have hwrite (b : Bool) : m.Rises n ∧ ∀b' current,
        (.ok (b,target.withSkip (!rdInitialized x)) : Except AllocErr (Bool × Resource))=
          .ok (b',current) → current.name=name ∧
        current.spec.resourceDefinitionName=target.spec.resourceDefinitionName ∧
        n.Updates target current := by
      refine ⟨hn,fun b' current h => ?_⟩
      cases h
      refine ⟨hname,rfl,.inr ⟨hnone,fun hb => ?_⟩⟩
      exact (hskip (Option.some.inj hb)).rises hn
    refine ⟨⟨hname,hskip⟩,fun a _ => ?_⟩
    rcases a with e|u
    · cases e with
      | notFound => exact hwrite false
      | conflict => exact ⟨hn,fun _ _ h => by cases h⟩
      | other => exact ⟨hn,fun _ _ h => by cases h⟩
    · exact hwrite true

theorem maybeAutoDiskful_follows (seen current : Resource) (hseen : seen.name=name)
    (hname : current.name=name)
    (hrd : current.spec.resourceDefinitionName=seen.spec.resourceDefinitionName) (m : Seen)
    (hup : m.Updates seen current) :
    (maybeAutoDiskful seen current).Follows (passProtocol rd name) m fun _ _ => True := by
  unfold maybeAutoDiskful
  split
  · trivial
  refine follows_api m trivial (fun pools _ => ?_) fun _ => trivial
  dsimp only
  split
  · trivial
  have hwrite := follows_update rd seen
    (current.promoted (firstAvailablePool current.spec.nodeName pools)) m ⟨hseen,hname,hrd,hup⟩
  exact hwrite.bind (fun _ _ _ => trivial) fun _ _ _ => trivial

theorem lookupRD_follows (rdName : String) (m : Seen) :
    (lookupRD rdName).Follows (passProtocol rd name) m fun res n => m.Rises n ∧
      ∀d,res=.ok (some d) → rdName=rd → rdInitialized d=false → n.latchUnset=true := by
  have hrises (a : Answer (.cachedDefinition rdName)) :
      m.Rises ((passProtocol rd name).next m _ a) := (next_grows rd m _ a rfl).toRises
  refine ⟨trivial,fun a _ => ?_⟩
  rcases a with e|d
  · cases e <;> exact ⟨hrises _,fun _ h => by cases h⟩
  · refine ⟨hrises _,fun x h hrd hinit => ?_⟩
    obtain rfl := Option.some.inj (Except.ok.inj h)
    simp [passProtocol,Seen.next,hrd,hinit]

theorem runApply_follows (hname : target.name=name) (m : Seen) (hr : m.Reads rd target) :
    (runApply target).Follows (passProtocol rd name) m fun _ _ => True := by
  unfold runApply
  refine follows_api m trivial (fun list _ => ?_) fun _ => trivial
  let peers := list.filter fun r =>
    r.spec.resourceDefinitionName=target.spec.resourceDefinitionName
  let n := (passProtocol rd name).next m .cachedResources (.ok list)
  have hn : m.Rises n := (next_grows rd m .cachedResources (.ok list) rfl).toRises
  have hdata : target.spec.resourceDefinitionName=rd →
      anyProvenDataBearingDiskfulPeer peers ""=false → n.noData=true := by
    intro hrd hnone
    simp only [peers,hrd] at hnone
    simp [n,passProtocol,Seen.next,Seen.shows,hnone]
  refine follows_api n trivial (fun _ _ => ?_) fun _ => trivial
  refine (lookupRD_follows _ n).bind (fun d k hk => ?_) fun _ _ _ => trivial
  refine (keeps_ensureVolumeProjection target hname peers d k).bind (fun projected l hl => ?_)
    fun _ _ _ => trivial
  cases projected with
  | true => trivial
  | false =>
    have hml : m.Rises l := hn.trans _ _ _ (hk.1.trans _ _ _ hl)
    have hclear : ∀x,d=some x → rdInitialized x=false →
        anyProvenDataBearingDiskfulPeer peers ""=false → l.Clear := by
      intro x hx hinit hnone
      by_cases hrd : target.spec.resourceDefinitionName=rd
      · exact .inr ⟨hl.latchUnset (hk.2 x (congrArg _ hx) hrd hinit),
          hl.noData (hk.1.noData (hdata hrd hnone))⟩
      · exact .inl (hml.foreign (hr hrd))
    refine (ensureSkipInitSyncDecision_follows rd target hname peers d l hclear).bind
      (fun res j hj => ?_) fun _ _ _ => trivial
    obtain ⟨stamped,current⟩ := res
    cases stamped with
    | true => trivial
    | false =>
      obtain ⟨hcurrent,hrd,hup⟩ := hj.2 false current rfl
      exact maybeAutoDiskful_follows target current hname hcurrent hrd j hup

theorem watches_handleOrphan : Watches rd name (handleOrphan target) := by
  unfold handleOrphan
  split
  · exact watches_of_calls trivial
  refine watches_of_calls (calls_ask rfl fun a => ?_)
  rcases a with e|d
  · cases e with
    | notFound =>
      refine calls_ask rfl fun deleted => ?_
      rcases deleted with e|u
      · cases e <;> trivial
      · trivial
    | conflict => trivial
    | other => trivial
  · trivial

/-- A pass stamps its own replica only, and lets it skip the initial sync only if it has found the
latch unset and no data. -/
theorem reconcile_follows : (reconcile name).Follows (passProtocol rd name) {} fun _ _ => True := by
  refine ⟨trivial,fun a ha => ?_⟩
  rcases a with e|target
  · cases e <;> trivial
  let m := (passProtocol rd name).next {} (.cachedResource name) (.ok target)
  have hname : target.name=name := ha
  have hr : m.Reads rd target := Seen.sawReplica_reads _ _
  have hstrip : SameStamp target target.withoutLegacyFinalizer := ⟨rfl,rfl,rfl⟩
  change (if target.deleting then stripLegacyFinalizer target else _).Follows _ m _
  split
  · unfold stripLegacyFinalizer
    split
    · trivial
    exact (keeps_update _ _ hname hstrip m).bind (fun _ _ _ => trivial) fun _ _ _ => trivial
  split
  · exact (keeps_update _ _ hname hstrip m).bind (fun _ _ _ => trivial) fun _ _ _ => trivial
  split
  · trivial
  refine (watches_handleOrphan target m).bind (fun orphaned n hn => ?_) fun _ _ _ => trivial
  cases orphaned with
  | true => trivial
  | false =>
    rw [hname]
    refine (keeps_ensureDRBDIDs n).bind (fun allocated k hk => ?_) fun _ _ _ => trivial
    cases allocated with
    | true => trivial
    | false => exact runApply_follows target hname k (hr.rises (hn.toRises.trans _ _ _ hk))

end

end Blockstor.Controller
