import Blockstor.Controller.LayerStack
import Blockstor.Framework.Versioned
import Blockstor.Options.Resolve
import Blockstor.Placer.Candidates

namespace Blockstor.Quorum

open Framework Shell Options Store

/-- A node; `linstorName` is the annotation with the name it was given, if that is not the object's
name. -/
structure Node where
  objectName : String
  linstorName : Option String
  type : String
  flags : List String
  props : Props

namespace Node

def name (n : Node) : String := K8s.originalName n.objectName n.linstorName

def nodeTypeSatellite : String := "SATELLITE"

def nodeTypeCombined : String := "COMBINED"

def isDisabled (n : Node) : Bool :=
  n.flags.any fun f => decide (f=Placer.nodeFlagEvicted ∨ f=Placer.nodeFlagLost)

def isAutoplaceExcluded (n : Node) : Bool :=
  (n.props.find Placer.propAutoplaceTarget).any Placer.falseSpellings.contains

def matchesWireName (n : Node) (wireName : String) : Bool :=
  Text.equalFold n.objectName wireName ||
    n.linstorName.any fun original => Text.equalFold original wireName

end Node

/-- A replica. `rv` stands for the version and the identity of the object: no two objects have one in
common. -/
structure Resource where
  definition : String
  nodeName : String
  flags : List String
  finalizer : Bool
  deleting : Bool
  rv : Nat
  deriving DecidableEq

namespace Resource

variable (r : Resource)

def key : String := Placer.resourceCRDName r.definition r.nodeName

def diskless : Bool := r.flags.contains Placer.resourceFlagDiskless

def inactive : Bool := r.flags.contains Placer.resourceFlagInactive

def tieBreaker : Bool := r.flags.contains Placer.resourceFlagTieBreaker

def terminate (rv : Nat) (r : Resource) : Resource := {r with deleting := true, rv := rv}

theorem key_terminate {rv : Nat} (r : Resource) : (r.terminate rv).key=r.key := rfl

end Resource

abbrev Definition := Object ResourceDefinitionSpec

inductive Err
  | notFound
  | alreadyExists
  | conflict
  | unavailable
  deriving DecidableEq

/-- What the API server and its caches hold. The groups are given by their layer stacks, and the
definition with all its versions; it is gone where it is `none`. -/
structure State where
  nodes : Keyed Node.objectName
  resources : Keyed Resource.key
  groups : Dict String (List String)
  definition : Versioned (Option Definition)
  clock : Nat

/-- The commands of the reconciler. The direct reads go past the cache. A definition that is read comes
with its version; a guarded deletion names the version it is meant for. -/
inductive Cmd
  | getGroup (objectName : String)
  | listResources
  | listByDefinition (rd : String)
  | listNodes
  | listNodesDirect
  | create (r : Resource)
  | getResource (rd node : String)
  | deleteGuarded (rd node : String) (rv : Nat)
  | delete (rd node : String)
  | getDefinition
  | getDefinitionCached
  | updateDefinition (rv : Nat) (rd : Definition)

@[reducible] def Result : Cmd → Type
  | .getGroup _ => List String
  | .listResources => List Resource
  | .listByDefinition _ => List Resource
  | .listNodes => List Node
  | .listNodesDirect => List Node
  | .create _ => Unit
  | .getResource _ _ => Resource
  | .deleteGuarded _ _ _ => Unit
  | .delete _ _ => Unit
  | .getDefinition => Nat × Definition
  | .getDefinitionCached => Nat × Definition
  | .updateDefinition _ _ => Unit

variable (c : Cmd) (s : State)

@[reducible] def Answer : Type := Except Err (Result c)

abbrev Prog := Shell Answer Err

def ask : Prog (Answer c) := call c

def api : Prog (Result c) := do
  match ← ask c with
  | .ok a => pure a
  | .error e => throw e

theorem exec_api {σ : Type} {env : σ → (c : Cmd) → Answer c → σ → Prop} {c : Cmd} {s t : σ}
    {r : Answer c} : Exec env (api c) s r t ↔ env s c r t := by
  constructor
  · intro h
    obtain ⟨a,u,ha,h⟩ := exec_ask.mp h
    cases a with
    | ok a =>
      obtain ⟨rfl,rfl⟩ := exec_pure.mp h
      exact ha
    | error e =>
      obtain ⟨rfl,rfl⟩ := exec_throw.mp h
      exact ha
  · intro h
    refine exec_ask.mpr ⟨r,t,h,?_⟩
    cases r with
    | ok a => exact .done a t
    | error e => exact .fail e t

namespace State

def replicas (s : State) (rd : String) : List Resource :=
  s.resources.items.filter fun r => r.definition=rd

def remove (s : State) (key : String) : State :=
  match s.resources.get? key with
  | none => s
  | some r =>
    if !r.finalizer then {s with resources := s.resources.erase key}
    else if r.deleting then s
    else {s with
      resources := s.resources.modify key (·.terminate (s.clock+1)) Resource.key_terminate
      clock := s.clock+1}

def current (s : State) : Except Err (Nat × Definition) :=
  match s.definition.now with
  | none => .error .notFound
  | some rd => .ok (s.definition.rv,rd)

end State

def Resource.fresh (r : Resource) (rv : Nat) : Resource :=
  {r with finalizer := false, deleting := false, rv := rv}

def found {α : Type} : Option α → Except Err α
  | some a => .ok a
  | none => .error .notFound

def serve : (c : Cmd) → Answer c × State
  | .getGroup name => (found (s.groups.find name),s)
  | .listResources => (.ok s.resources.items,s)
  | .listByDefinition rd => (.ok (s.replicas rd),s)
  | .listNodes => (.ok s.nodes.items,s)
  | .listNodesDirect => (.ok s.nodes.items,s)
  | .create r =>
    match h : s.resources.get? (r.fresh (s.clock+1)).key with
    | some _ => (.error .alreadyExists,s)
    | none => (.ok (),{s with
        resources := s.resources.insert (r.fresh (s.clock+1)) ((s.resources.get?_eq_none _).mp h)
        clock := s.clock+1})
  | .getResource rd node => (found (s.resources.get? (Placer.resourceCRDName rd node)),s)
  | .deleteGuarded rd node rv =>
    match s.resources.get? (Placer.resourceCRDName rd node) with
    | none => (.error .notFound,s)
    | some r => if r.rv=rv then (.ok (),s.remove r.key) else (.error .conflict,s)
  | .delete rd node =>
    match s.resources.get? (Placer.resourceCRDName rd node) with
    | none => (.error .notFound,s)
    | some r => (.ok (),s.remove r.key)
  | .getDefinition => (s.current,s)
  | .getDefinitionCached => (s.current,s)
  | .updateDefinition rv rd =>
    match s.definition.now with
    | none => (.error .notFound,s)
    | some _ =>
      if rv=s.definition.rv then (.ok (),{s with definition := s.definition.push (some rd)})
      else (.error .conflict,s)

def Lags (a : Except Err (Nat × Definition)) : Prop :=
  a=.error .notFound ∨ ∃k rd,k ≤ s.definition.rv ∧ s.definition.version k=some rd ∧ a=.ok (k,rd)

def Step : (c : Cmd) → Answer c → State → Prop
  | .getDefinitionCached,a,t => t=s ∧ (a=.error .unavailable ∨ Lags s a)
  | c,a,t => a=(serve s c).1 ∧ t=(serve s c).2 ∨ a=.error .unavailable ∧ (t=s ∨ t=(serve s c).2)

end Blockstor.Quorum
