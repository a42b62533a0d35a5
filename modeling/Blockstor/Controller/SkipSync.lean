import Blockstor.Controller.MinorSpec
import Blockstor.Controller.Reconcile
import Blockstor.Framework.Protocol

namespace Blockstor.Controller

open Drbd Framework Shell

/-- What a pass has seen so far that bears on the skip-initial-sync stamp of a replica of one
definition. `stamp` is the one its last uncached read showed, until it writes the replica itself. -/
structure Seen where
  foreign : Bool := false
  latchUnset : Bool := false
  noData : Bool := false
  stamp : Option (Option Bool) := none

namespace Seen

variable (m : Seen)

/-- The replica is of another definition, or the pass has found the latch unset and no data. -/
def Clear : Prop := m.foreign=true ∨ m.latchUnset=true ∧ m.noData=true

variable (rd : String) (a : Seen) (b : Seen) (c : Seen)

def sawReplica (r : Resource) (m : Seen) : Seen :=
  {m with foreign := m.foreign || r.spec.resourceDefinitionName≠rd}

structure Rises (m n : Seen) : Prop where
  foreign : m.foreign=true → n.foreign=true
  latchUnset : m.latchUnset=true → n.latchUnset=true
  noData : m.noData=true → n.noData=true

structure Grows (m n : Seen) : Prop extends Rises m n where
  stamp : n.stamp=m.stamp

theorem Rises.refl : Rises m m := ⟨id,id,id⟩

theorem Rises.trans (h : Rises a b) (h' : Rises b c) : Rises a c :=
  ⟨h'.foreign ∘ h.foreign,h'.latchUnset ∘ h.latchUnset,h'.noData ∘ h.noData⟩

theorem Grows.refl : Grows m m := ⟨.refl m,rfl⟩

theorem Grows.trans (h : Grows a b) (h' : Grows b c) : Grows a c :=
  ⟨h.toRises.trans _ _ _ h'.toRises,h'.stamp.trans h.stamp⟩

theorem Clear.rises {m n : Seen} (hm : m.Clear) (h : Rises m n) : n.Clear :=
  hm.imp h.foreign fun hm => ⟨h.latchUnset hm.1,h.noData hm.2⟩

def shows (list : List Resource) : Bool :=
  anyProvenDataBearingDiskfulPeer (list.filter fun r => r.spec.resourceDefinitionName=rd) ""

def next (m : Seen) : (c : Cmd) → Answer c → Seen
  | .getResource _,.ok r => {m.sawReplica rd r with stamp := some r.spec.skipInitialSync}
  | .cachedResource _,.ok r => m.sawReplica rd r
  | .getDefinition x,.ok d =>
      if x=rd ∧ rdInitialized d=false then {m with latchUnset := true, noData := true} else m
  | .cachedDefinition x,.ok d =>
      if x=rd ∧ rdInitialized d=false then {m with latchUnset := true} else m
  | .cachedResources,.ok list => if shows rd list then m else {m with noData := true}
  | .patchSpec _ _ _ _,_ => {m with stamp := none}
  | .patchSkipInitialSync _ _,_ => {m with stamp := none}
  | .updateResource _ _,_ => {m with stamp := none}
  | _,_ => m

/-- A stamp the pass may write with the identities: the one it read, or none if it read none, or
one that does not skip unless that is clear. -/
def Writable : Option Bool → Prop
  | none => m.stamp=some none
  | some b => m.stamp=some (some b) ∨ (b=true → m.Clear)

/-- An update keeps the stamp of the revision it was based on, or sets one where there is none. -/
def Updates (seen changed : Resource) : Prop :=
  changed.spec.skipInitialSync=seen.spec.skipInitialSync ∨
    seen.spec.skipInitialSync=none ∧ (changed.spec.skipInitialSync=some true → m.Clear)

def may (name : String) (m : Seen) : Cmd → Prop
  | .getResource x => x=name
  | .patchSpec x _ _ skip => x=name ∧ m.Writable skip
  | .patchSkipInitialSync x skip => x=name ∧ (skip=true → m.Clear)
  | .updateResource seen changed => seen.name=name ∧ changed.name=name ∧
      changed.spec.resourceDefinitionName=seen.spec.resourceDefinitionName ∧ m.Updates seen changed
  | _ => True

end Seen

def Possible : (c : Cmd) → Answer c → Prop
  | .getResource name,.ok r => r.name=name
  | .cachedResource name,.ok r => r.name=name
  | _,_ => True

/-- The protocol of a pass over one replica, as far as the definition `rd` is concerned. -/
def passProtocol (rd name : String) : Protocol Answer Seen where
  start := {}
  next := Seen.next rd
  may := Seen.may name
  possible := Possible

def Cmd.stamps : Cmd → Bool
  | .getResource _ => true
  | .patchSpec _ _ _ _ => true
  | .patchSkipInitialSync _ _ => true
  | .updateResource _ _ => true
  | _ => false

theorem follows_api {μ β : Type} {P : Protocol Answer μ} {c : Cmd} {f : Payload c → Prog β} (m : μ)
    {Q : Except AllocErr β → μ → Prop} (hmay : P.may m c)
    (hok : ∀x,P.possible c (.ok x) → (f x).Follows P (P.next m c (.ok x)) Q)
    (herror : ∀e,Q (.error (.api e)) (P.next m c (.error e))) : (api c >>= f).Follows P m Q := by
  refine ⟨hmay,fun a ha => ?_⟩
  cases a with
  | ok x => exact hok x ha
  | error e => exact herror e

section

variable (rd name : String)

variable (m : Seen) (c : Cmd) (r : Resource)

theorem next_grows (a : Answer c) (h : c.stamps=false) : Seen.Grows m (Seen.next rd m c a) := by
  have hflag (b : Bool) (x : Bool) : b=true → (b || x)=true := by simp +contextual
  cases c with
  | getResource _ => cases h
  | patchSpec _ _ _ _ => cases h
  | patchSkipInitialSync _ _ => cases h
  | updateResource _ _ => cases h
  | cachedResource _ =>
    cases a with
    | error e => exact .refl m
    | ok r => exact ⟨⟨hflag _ _,id,id⟩,rfl⟩
  | getDefinition x =>
    cases a with
    | error e => exact .refl m
    | ok d =>
      simp only [Seen.next]
      split
      · exact ⟨⟨id,fun _ => rfl,fun _ => rfl⟩,rfl⟩
      · exact .refl m
  | cachedDefinition x =>
    cases a with
    | error e => exact .refl m
    | ok d =>
      simp only [Seen.next]
      split
      · exact ⟨⟨id,fun _ => rfl,id⟩,rfl⟩
      · exact .refl m
  | cachedResources =>
    cases a with
    | error e => exact .refl m
    | ok list =>
      simp only [Seen.next]
      split
      · exact .refl m
      · exact ⟨⟨id,id,fun _ => rfl⟩,rfl⟩
  | _ => cases a <;> exact .refl m

theorem may_of_not_stamps (h : c.stamps=false) : Seen.may name m c := by
  cases c with
  | getResource _ => cases h
  | patchSpec _ _ _ _ => cases h
  | patchSkipInitialSync _ _ => cases h
  | updateResource _ _ => cases h
  | _ => trivial

abbrev Watches {α : Type} (p : Prog α) : Prop := p.Advances (passProtocol rd name) Seen.Grows

variable {rd name}

theorem watches_of_calls {α : Type} {p : Prog α} (h : p.Calls fun c => c.stamps=false) :
    Watches rd name p :=
  h.advances .refl (fun _ _ _ h h' => h.trans _ _ _ h') (fun m c => may_of_not_stamps name m c)
    fun m c a => next_grows rd m c a

theorem Looks.unstamping {α : Type} {p : Prog α} (h : Looks p) :
    p.Calls fun c => c.stamps=false := by
  refine h.mono fun c hc => ?_
  cases c with
  | getResource _ => cases hc
  | patchSpec _ _ _ _ => cases hc
  | patchSkipInitialSync _ _ => cases hc
  | updateResource _ _ => cases hc
  | _ => rfl

theorem Looks.watches {α : Type} {p : Prog α} (h : Looks p) : Watches rd name p :=
  watches_of_calls h.unstamping

theorem watches_ensureRDVolumeMinors (rdName : String) :
    Watches rd name (ensureRDVolumeMinors rdName) := by
  refine watches_of_calls (calls_ask rfl fun a => ?_)
  rcases a with e|d
  · cases e <;> trivial
  dsimp only
  split
  · trivial
  split
  · trivial
  refine (allocateRDVolumeMinors_looks d).unstamping.bind fun minors => ?_
  split
  · trivial
  refine calls_ask rfl fun written => ?_
  rcases written with e|w
  · cases e with
    | notFound => trivial
    | other => trivial
    | conflict =>
      refine calls_ask rfl fun fresh => ?_
      cases fresh <;> trivial
  · trivial

def Seen.Reads (rd : String) (m : Seen) (r : Resource) : Prop :=
  r.spec.resourceDefinitionName≠rd → m.foreign=true

theorem Seen.Reads.rises {m n : Seen} {r : Resource} (h : m.Reads rd r) (hm : m.Rises n) :
    n.Reads rd r := fun hr => hm.foreign (h hr)

theorem Seen.sawReplica_reads : (m.sawReplica rd r).Reads rd r := by
  intro h
  simp [Seen.sawReplica,h]

theorem Seen.Writable.grows {m n : Seen} {skip : Option Bool} (h : m.Writable skip)
    (hm : m.Grows n) : n.Writable skip := by
  cases skip with
  | none => exact hm.stamp.trans h
  | some b =>
    rcases h with h|h
    · exact .inl (hm.stamp.trans h)
    · exact .inr fun hb => (h hb).rises hm.toRises

theorem stampIfUnset_writable (m : Seen) (hr : m.Reads rd r)
    (hstamp : m.stamp=some r.spec.skipInitialSync) :
    (stampIfUnset r.spec.skipInitialSync r.spec.resourceDefinitionName).Follows
      (passProtocol rd name) m fun res n => m.Grows n ∧ ∀skip,res=.ok skip → n.Writable skip := by
  cases hskip : r.spec.skipInitialSync with
  | some b =>
    refine ⟨.refl m,fun skip h => ?_⟩
    cases h
    exact .inl (hstamp.trans (congrArg some hskip))
  | none =>
    have hgrows (a : Answer (.getDefinition r.spec.resourceDefinitionName)) :
        m.Grows ((passProtocol rd name).next m _ a) := next_grows rd m _ a rfl
    refine ⟨trivial,fun a _ => ?_⟩
    rcases a with e|d
    · cases e with
      | notFound =>
        refine ⟨hgrows _,fun skip h => ?_⟩
        cases h
        exact (hgrows _).stamp.trans (hstamp.trans (congrArg some hskip))
      | conflict => exact ⟨hgrows _,nofun⟩
      | other => exact ⟨hgrows _,nofun⟩
    · refine ⟨hgrows _,fun skip h => ?_⟩
      cases h
      refine .inr fun hb => ?_
      -- The latch was read as unset, on the replica's own definition.
      have hinit : rdInitialized d=false := by simpa using hb
      by_cases hrd : r.spec.resourceDefinitionName=rd
      · right
        simp [passProtocol,Seen.next,hrd,hinit]
      · exact .inl ((hgrows (.ok d)).foreign (hr hrd))

variable (name) in
theorem allocateResourceSpecFields_writable (original : Resource) (m : Seen)
    (hr : m.Reads rd original) (hstamp : m.stamp=some original.spec.skipInitialSync) :
    (allocateResourceSpecFields (backfillResourceSpecFromStatus original)).Follows
      (passProtocol rd name) m fun res n => m.Grows n ∧ ∀target,res=.ok target →
        target.name=original.name ∧ n.Writable target.spec.skipInitialSync := by
  unfold allocateResourceSpecFields
  refine ((ifUnset_looks _ (allocateNodeIDLocked_looks _)).watches m).bind (fun nodeID n hn => ?_)
    fun _ _ hn => ⟨hn,fun _ h => by cases h⟩
  refine ((ifUnset_looks _ (allocatePortForNode_looks _)).watches n).bind (fun port k hk => ?_)
    fun _ _ hk => ⟨hn.trans _ _ _ hk,fun _ h => by cases h⟩
  have hmk : m.Grows k := hn.trans _ _ _ hk
  refine (stampIfUnset_writable original k (hr.rises hmk.toRises)
    (hmk.stamp.trans hstamp)).bind (fun skip l hl => ?_)
    fun _ _ hl => ⟨hmk.trans _ _ _ hl.1,fun _ h => by cases h⟩
  refine ⟨hmk.trans _ _ _ hl.1,fun target h => ?_⟩
  cases h
  exact ⟨rfl,hl.2 skip rfl⟩

variable (rd name) in
theorem follows_patchIfChanged (changed : Bool) (c : Cmd) (m : Seen)
    (hmay : changed=true → Seen.may name m c) (hrises : ∀a,m.Rises (Seen.next rd m c a)) :
    (patchIfChanged changed c).Follows (passProtocol rd name) m fun _ n => m.Rises n := by
  cases changed with
  | false => exact .refl m
  | true =>
    refine ⟨hmay rfl,fun a _ => ?_⟩
    rcases a with e|u
    · cases e <;> exact hrises _
    · exact hrises _

abbrev Keeps {α : Type} (rd name : String) (p : Prog α) : Prop :=
  p.Advances (passProtocol rd name) Seen.Rises

variable (rd) in
theorem applyDRBDIDs_follows (original target : Resource) (hname : target.name=name) (m : Seen)
    (hw : m.Writable target.spec.skipInitialSync) :
    (applyDRBDIDs original target).Follows (passProtocol rd name) m fun _ n => m.Rises n := by
  unfold applyDRBDIDs
  refine ((watches_ensureRDVolumeMinors _) m).bind (fun minors n hn => ?_)
    fun _ _ hn => hn.toRises
  refine (follows_patchIfChanged rd name _ (patchResourceSpecIdentities target) n
    (fun _ => ⟨hname,hw.grows hn⟩) fun _ => ⟨id,id,id⟩).bind (fun written k hk => ?_) fun _ k hk => hn.toRises.trans _ _ _ hk
  have hmk : m.Rises k := hn.toRises.trans _ _ _ hk
  cases written with
  | none => exact hmk
  | some u =>
    refine (follows_patchIfChanged rd name _ (patchResourceStatusIdentities _) k
      (fun _ => trivial) fun _ => .refl k).bind
      (fun mirrored l hl => ?_) fun _ l hl => hmk.trans _ _ _ hl
    cases mirrored with
    | none => exact hmk.trans _ _ _ hl
    | some u => exact hmk.trans _ _ _ hl

theorem keeps_allocateAndApplyDRBDIDs : Keeps rd name (allocateAndApplyDRBDIDs name) := by
  intro m
  refine ⟨rfl,fun a ha => ?_⟩
  rcases a with e|original
  · cases e <;> exact .refl m
  let n := (passProtocol rd name).next m (.getResource name) (.ok original)
  have hn : m.Rises n := ⟨fun h => by simp [n,passProtocol,Seen.next,Seen.sawReplica,h],id,id⟩
  have halloc :=
    allocateResourceSpecFields_writable name original n (m.sawReplica_reads original) rfl
  refine halloc.attempt.bind (fun res k hk => ?_) fun _ _ hk => ?_
  · obtain ⟨x,hx,hgrows,hok⟩ := hk
    cases hx
    have hrises : m.Rises k := hn.trans _ _ _ hgrows.toRises
    rcases res with e|target
    · rcases e with e|_
      · cases e <;> exact hrises
      all_goals exact hrises
    · obtain ⟨hname,hw⟩ := hok target rfl
      have happly := applyDRBDIDs_follows rd original target (hname.trans ha) k hw
      exact happly.mono fun _ _ h => hrises.trans _ _ _ h
  · obtain ⟨x,hx,_⟩ := hk
    cases hx

theorem keeps_retryOnConflict {α : Type} (n : Nat) (p : Prog α) (hp : Keeps rd name p) :
    Keeps rd name (retryOnConflict n p) := by
  induction n with
  | zero => exact hp
  | succ n ih =>
    refine Advances.bind (fun _ _ _ h h' => h.trans _ _ _ h') hp.attempt fun res => ?_
    rcases res with e|a
    · rcases e with e|_
      · cases e with
        | conflict => exact ih
        | notFound => exact advances_throw .refl
        | other => exact advances_throw .refl
      all_goals exact advances_throw .refl
    · exact advances_pure .refl a

theorem keeps_ensureDRBDIDs : Keeps rd name (ensureDRBDIDs name) :=
  keeps_retryOnConflict 4 _ keeps_allocateAndApplyDRBDIDs

end

end Blockstor.Controller
