import Blockstor.Store.Objects

namespace Blockstor.Store

open Framework Framework.Shell Text

inductive Milestone
  | restoreProceeds (uid : Nat)
  | claimSucceeded (token : Nat)
  deriving DecidableEq

/-- The API server with the clock. `tokens` and `uids` are the next ones to hand out; `claims` are
the adoption claims that landed on a definition, and `reached` the milestones of the callers. -/
structure State where
  now : Nat
  tokens : Nat
  uids : Nat
  definitions : Keyed Definition.key
  replicas : List Replica
  snapshots : Keyed Snapshot.key
  claims : List (Nat × Nat)
  reached : List Milestone

inductive Op
  | now
  | token
  | getDefinition (name : String)
  | listDefinitions
  | listVolumes (rd : String)
  | listReplicas (rd : String)
  | cachedSnapshot (rd snap : String)
  | listSnapshots (rd : String)
  | cachedSnapshots (rd : String)
  | patchSnapshotProps (rd snap : String) (patch : SnapshotPatch)
  | deleteSnapshot (rd snap : String)
  | createDefinition (name : String) (props : DefinitionProps)
  | patchDefinition (name : String) (patch : DefinitionPatch)
  | deleteDefinition (name : String)
  | reach (m : Milestone)

@[reducible] def OpAnswer : Op → Type
  | .now => Nat
  | .token => Nat
  | .getDefinition _ => Except Err Definition
  | .listDefinitions => Except Err (List Definition)
  | .listVolumes _ => Except Err (List VolumeDef)
  | .listReplicas _ => Except Err (List Replica)
  | .cachedSnapshot _ _ => Except Err Snapshot
  | .listSnapshots _ => Except Err (List Snapshot)
  | .cachedSnapshots _ => Except Err (List Snapshot)
  | .patchSnapshotProps _ _ _ => Except Err Unit
  | .deleteSnapshot _ _ => Except Err Unit
  | .createDefinition _ _ => Except Err Nat
  | .patchDefinition _ _ => Except Err Bool
  | .deleteDefinition _ => Except Err Unit
  | .reach _ => Unit

structure Cmd where
  deadline : Option Nat
  op : Op

@[reducible] def Answer (c : Cmd) : Type := OpAnswer c.op

abbrev Prog := Shell Answer Err

def ask (ctx : Option Nat) (op : Op) : Prog (OpAnswer op) := call (⟨ctx,op⟩ : Cmd)

def lift {α : Type} : Except Err α → Prog α
  | .ok a => pure a
  | .error e => throw e

/-- Go on with what was found, or with `missing` where the error is `ErrNotFound`. -/
def unlessMissing {α β : Type} (answer : Except Err α) (missing : Prog β) (f : α → Prog β) :
    Prog β :=
  match answer with
  | .ok a => f a
  | .error .notFound => missing
  | .error e => throw e

def withTimeout (budget : Nat) : Prog (Option Nat) := do
  let now ← ask none .now
  pure (some (now+budget))

namespace State

def definition (s : State) (name : String) : Option Definition :=
  s.definitions.get? (fold name)

def snapshot (s : State) (rd snap : String) : Option Snapshot :=
  s.snapshots.get? (fold rd,fold snap)

def modifyDefinition (s : State) (name : String) (f : Definition → Definition)
    (hf : ∀d,(f d).key=d.key) : State :=
  {s with definitions := s.definitions.modify (fold name) f hf}

def modifySnapshot (s : State) (rd snap : String) (f : Snapshot → Snapshot)
    (hf : ∀x,(f x).key=x.key) : State :=
  {s with snapshots := s.snapshots.modify (fold rd,fold snap) f hf}

def writeProps (s : State) (name : String) (props : DefinitionProps)
    (claims : List (Nat × Nat)) : State :=
  {s.modifyDefinition name (fun d => {d with props}) fun _ => rfl with
    claims := claims++s.claims}

def create (s : State) (d : Definition) (h : s.definitions.get? d.key=none) : State :=
  {s with
    definitions := s.definitions.insert d ((s.definitions.get?_eq_none d.key).mp h)
    uids := s.uids+1}

end State

def found {α : Type} : Option α → Except Err α
  | some a => .ok a
  | none => .error .notFound

def DefinitionPatch.claims (uid : Nat) : DefinitionPatch → List (Nat × Nat)
  | .claim token _ => [(uid,token)]
  | _ => []

/-- How a call that reaches the server is answered, and what it leaves. A patch is one optimistic
write: its mutation is applied to the object that is replaced. A deleted snapshot keeps its DELETE
flag until its finalizers are gone; a deleted definition is gone at once. -/
def serve (s : State) : (op : Op) → OpAnswer op × State
  | .now => (s.now,s)
  | .token => (s.tokens,{s with tokens := s.tokens+1})
  | .getDefinition name => (found (s.definition name),s)
  | .listDefinitions => (.ok s.definitions.items,s)
  | .listVolumes rd => (found ((s.definition rd).map Definition.volumes),s)
  | .listReplicas rd => (.ok (s.replicas.filter fun r => r.resourceName=rd),s)
  | .cachedSnapshot rd snap => (found (s.snapshot rd snap),s)
  | .listSnapshots rd => (.ok (s.snapshots.items.filter fun x => x.resourceName=rd),s)
  | .cachedSnapshots rd => (.ok (s.snapshots.items.filter fun x => x.resourceName=rd),s)
  | .patchSnapshotProps rd snap patch =>
    match s.snapshot rd snap with
    | none => (.error .notFound,s)
    | some x =>
      match patch.mutate s.now x.props with
      | .error e => (.error e,s)
      | .ok props => (.ok (),s.modifySnapshot rd snap (fun x => {x with props}) fun _ => rfl)
  | .deleteSnapshot rd snap =>
    match s.snapshot rd snap with
    | none => (.error .notFound,s)
    | some _ =>
      (.ok (),s.modifySnapshot rd snap (fun x => {x with deleting := true}) fun _ => rfl)
  | .createDefinition name props =>
    let d : Definition := ⟨name,s.uids,props,false,[]⟩
    if h : s.definitions.get? d.key=none then (.ok d.uid,s.create d h)
    else (.error .alreadyExists,s)
  | .patchDefinition name patch =>
    match s.definition name with
    | none => (.error .notFound,s)
    | some d =>
      match patch.mutate s.now d.props with
      | .error e => (.error e,s)
      | .ok (props,kept) => (.ok kept,s.writeProps name props (patch.claims d.uid))
  | .deleteDefinition name =>
    match s.definition name with
    | none => (.error .notFound,s)
    | some _ => (.ok (),{s with definitions := s.definitions.erase (fold name)})
  | .reach m => ((),{s with reached := m::s.reached})

def failure : (op : Op) → Option (OpAnswer op)
  | .now => none
  | .token => none
  | .getDefinition _ => some (.error .unavailable)
  | .listDefinitions => some (.error .unavailable)
  | .listVolumes _ => some (.error .unavailable)
  | .listReplicas _ => some (.error .unavailable)
  | .cachedSnapshot _ _ => some (.error .unavailable)
  | .listSnapshots _ => some (.error .unavailable)
  | .cachedSnapshots _ => some (.error .unavailable)
  | .patchSnapshotProps _ _ _ => some (.error .unavailable)
  | .deleteSnapshot _ _ => some (.error .unavailable)
  | .createDefinition _ _ => some (.error .unavailable)
  | .patchDefinition _ _ => some (.error .unavailable)
  | .deleteDefinition _ => some (.error .unavailable)
  | .reach _ => none

/-- What a cache may answer: a snapshot of the name asked for, in whatever state, or none. A mutation may
refuse over an older view of the definition; one that writes is held to the newest. -/
def Lags : (op : Op) → OpAnswer op → Prop
  | .cachedSnapshot rd snap,.ok x => x.key=(fold rd,fold snap)
  | .cachedSnapshot _ _,.error e => e=.notFound
  | .cachedSnapshots _,.ok _ => True
  | .patchDefinition _ patch,.error e => ∃now props,patch.mutate now props=.error e
  | _,_ => False

def Cmd.Within (c : Cmd) (now : Nat) : Prop := ∀d∈c.deadline,now ≤ d

/-- A call is served, or a cache answers, or it fails on the way. A write that fails may have landed
all the same; no call reaches the server past its deadline. -/
def Step (s : State) (c : Cmd) (a : Answer c) (t : State) : Prop :=
  c.Within s.now ∧ a=(serve s c.op).1 ∧ t=(serve s c.op).2 ∨ Lags c.op a ∧ t=s ∨
    some a=failure c.op ∧ (t=s ∨ c.Within s.now ∧ t=(serve s c.op).2)

def answer (s : State) (c : Cmd) : Answer c × State := serve s c.op

def inTime (s : State) (c : Cmd) : Option (Answer c × State) :=
  if c.deadline.all fun d => s.now ≤ d then some (serve s c.op) else none

theorem step_inTime (s : State) (c : Cmd) (r : Answer c × State) (h : inTime s c=some r) :
    Step s c r.1 r.2 := by
  unfold inTime at h
  split at h
  · rename_i hall
    cases h
    refine .inl ⟨fun d hd => ?_,rfl,rfl⟩
    rw [hd] at hall
    simpa using hall
  · cases h

section

variable (s : State) (name : String) (props : DefinitionProps)

theorem snapshot_modifySnapshot (src snap rd sn : String) (f : Snapshot → Snapshot)
    (hf : ∀x,(f x).key=x.key) : (s.modifySnapshot rd sn f hf).snapshot src snap=
      (s.snapshot src snap).map fun x => if x.key=(fold rd,fold sn) then f x else x :=
  s.snapshots.get?_modify (fold rd,fold sn) (fold src,fold snap) f hf

theorem mem_writeProps (claims : List (Nat × Nat)) (x : Definition) :
    x∈(s.writeProps name props claims).definitions ↔
      (∃b∈s.definitions,b.key=fold name ∧ x={b with props}) ∨
        x∈s.definitions ∧ x.key≠fold name := by
  exact s.definitions.mem_modify (fold name) (fun d => {d with props}) (fun _ => rfl) x

theorem serve_create : (∃h,serve s (.createDefinition name props)=
      (.ok s.uids,s.create ⟨name,s.uids,props,false,[]⟩ h)) ∨
    serve s (.createDefinition name props)=(.error .alreadyExists,s) := by
  simp only [serve]
  split
  · rename_i h
    exact .inl ⟨h,rfl⟩
  · exact .inr rfl

end

inductive Change
  | tick (now : Nat)
  | create (name : String) (props : DefinitionProps)
  | flagDefinition (name : String)
  | removeDefinition (name : String)
  | writeVolumes (name : String) (volumes : List VolumeDef)
  | writeReplicas (replicas : List Replica)
  | clearRestoreMarker (name : String)
  | clearRollbackMark (name : String)
  | giveUp (name : String)
  | removeSnapshot (rd snap : String)
  deriving DecidableEq

/-- The marks an operator may clear by hand: those that stand over a definition left whole. -/
def rollbackMarkClearRefusal : Option RollbackMark → Bool
  | none => false
  | some .inProgress => false
  | some .snapshots => false
  | some .readSnapshots => false
  | some _ => true

def State.editProps (s : State) (name : String) (f : DefinitionProps → DefinitionProps) : State :=
  s.modifyDefinition name (fun d => {d with props := f d.props}) fun _ => rfl

/-- The other changes: the clock goes on, operators create, delete and edit definitions, replicas
come and go, and a snapshot with the DELETE flag disappears. -/
def Changes (s : State) (e : Change) (t : State) : Prop :=
  match e with
  | .tick now => s.now ≤ now ∧ t={s with now}
  | .create name props => t=(serve s (.createDefinition name props)).2
  | .flagDefinition name =>
      t=s.modifyDefinition name (fun d => {d with deleting := true}) fun _ => rfl
  | .removeDefinition name => t={s with definitions := s.definitions.erase (fold name)}
  | .writeVolumes name volumes =>
      t=s.modifyDefinition name (fun d => {d with volumes}) fun _ => rfl
  | .writeReplicas replicas => t={s with replicas}
  | .clearRestoreMarker name => t=s.editProps name fun p => {p with restoreFromSnapshot := ""}
  | .clearRollbackMark name =>
      (∀d∈s.definition name,rollbackMarkClearRefusal d.props.rollbackAbandoned=false) ∧
        t=s.editProps name unmarkRollback
  | .giveUp name => t={s.editProps name fun p => {p with restoreAdopted := none} with
      claims := s.claims.filter fun c => ∀d∈s.definition name,d.uid≠c.1}
  | .removeSnapshot rd snap => (∀x∈s.snapshot rd snap,x.deleting=true) ∧
      t={s with snapshots := s.snapshots.erase (fold rd,fold snap)}

end Blockstor.Store
