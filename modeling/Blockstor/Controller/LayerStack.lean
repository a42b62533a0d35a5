import Blockstor.Store.CrdName
import Blockstor.Framework.Keyed
import Blockstor.Framework.Machine

namespace Blockstor.Controller.LayerStack

open Framework Shell Store

structure Condition where
  type : String
  status : String
  deriving DecidableEq

structure Resource where
  resourceDefinitionName : String
  conditions : List Condition
  devicePaths : List String
  deriving DecidableEq

structure ResourceGroup where
  name : String
  layerStack : List String
  deriving DecidableEq

structure ResourceDefinition where
  name : String
  resourceVersion : Nat
  deleting : Bool
  linstorName : Option String
  unappliedGroupLayerStack : Option String
  resourceGroupName : String
  layerStack : List String
  initialized : Option Bool
  deriving DecidableEq

inductive Err
  | notFound
  | conflict
  | unavailable
  deriving DecidableEq

inductive Op
  | getDefinition (name : String)
  | getGroup (name : String)
  | listResources
  | patch (rd : ResourceDefinition)
  | event (rd reason action note : String)

@[reducible] def OpAnswer : Op → Type
  | .getDefinition _ => Except Err ResourceDefinition
  | .getGroup _ => Except Err ResourceGroup
  | .listResources => Except Err (List Resource)
  | .patch _ => Except Err Unit
  | .event _ _ _ _ => Unit

abbrev Prog := Shell OpAnswer Err

def ask (op : Op) : Prog (OpAnswer op) := call op

def lift {α : Type} : Except Err α → Prog α
  | .ok a => pure a
  | .error e => throw e

def defaultLayerStack : List String := ["DRBD","STORAGE"]

variable (rd : ResourceDefinition) (stack : List String)

def layerInStack (kind : String) : Bool :=
  stack.any fun s => Text.equalFold s kind

def lacksLayerOf (group : List String) : Bool :=
  group.any fun layer => !layerInStack stack layer

def joined : String := ",".intercalate stack

def conditionMetadataCreated : String := "MetadataCreated"

def isStatusConditionTrue (conditions : List Condition) (type : String) : Bool :=
  (conditions.find? fun c => c.type=type).any fun c => c.status="True"

def Resource.onDisk (res : Resource) : Bool :=
  isStatusConditionTrue res.conditions conditionMetadataCreated ||
    res.devicePaths.any fun p => p≠""

def rdInitialized : Bool := rd.initialized=some true

def layerStackNotInheritedReason : String := "LayerStackNotInherited"

def layerStackPinAction : String := "PinLayerStack"

def readGroup : Prog (Option ResourceGroup) := do
  match ← ask (.getGroup (K8s.name rd.resourceGroupName)) with
  | .ok rg => pure (some rg)
  | .error .notFound => pure none
  | .error e => throw e

def rdHoldsData (rdName : String) : Prog Bool := do
  let list ← lift (← ask .listResources)
  pure (list.any fun res => res.resourceDefinitionName=rdName && res.onDisk)

def stackToPin (groupStack : List String) : Prog (List String) := do
  if rdInitialized rd then pure defaultLayerStack
  else if ← rdHoldsData rd.name then pure defaultLayerStack
  else pure groupStack

def unappliedStack : Option ResourceGroup → String
  | some rg => if lacksLayerOf rd.layerStack rg.layerStack then joined rg.layerStack else ""
  | none => ""

def recordUnappliedStack (want : String) : Prog Unit := do
  let recorded := rd.unappliedGroupLayerStack.getD ""
  if want=recorded then pure ()
  else
    lift (← ask (.patch {rd with
      unappliedGroupLayerStack := if want="" then none else some want}))
    if recorded="" then
      ask (.event rd.name layerStackNotInheritedReason layerStackPinAction
        ("layer stack "++joined rd.layerStack++" lacks a layer of the stack "++want++
          " its resource group "++rd.resourceGroupName++" asks for"))
    else pure ()

def refreshUnappliedGroupStack : Prog Unit := do
  if rd.resourceGroupName="" then recordUnappliedStack rd ""
  else
    let rg ← readGroup rd
    recordUnappliedStack rd (unappliedStack rd rg)

def pin (rg : ResourceGroup) (stack : List String) : Prog Unit := do
  let unapplied := lacksLayerOf stack rg.layerStack
  lift (← ask (.patch {rd with
    layerStack := stack
    unappliedGroupLayerStack :=
      if unapplied then some (joined rg.layerStack) else rd.unappliedGroupLayerStack}))
  if unapplied then
    ask (.event rd.name layerStackNotInheritedReason layerStackPinAction
      ("already holds data under layer stack "++joined stack++", so the stack "++
        joined rg.layerStack++" of resource group "++rg.name++
        " was not applied; migrate the data to a new volume to take it"))
  else pure ()

def pinLayerStack : Prog Unit := do
  if rd.layerStack≠[] then refreshUnappliedGroupStack rd
  else if rd.resourceGroupName="" then pure ()
  else
    match ← readGroup rd with
    | none => pure ()
    | some rg =>
      if rg.layerStack=[] then pure ()
      else
        let stack ← stackToPin rd rg.layerStack
        pin rd rg stack

/-- The part of `ResourceDefinitionReconciler.Reconcile` that decides the stack. -/
def reconcile (name : String) : Prog Unit := do
  match ← ask (.getDefinition name) with
  | .error .notFound => pure ()
  | .error e => throw e
  | .ok rd => if rd.deleting then pure () else pinLayerStack rd

structure State where
  revision : Nat
  definitions : Keyed ResourceDefinition.name
  groups : Keyed ResourceGroup.name
  resources : List Resource

def found {α : Type} : Option α → Except Err α
  | some a => .ok a
  | none => .error .notFound

namespace State

def get? (s : State) (name : String) : Option ResourceDefinition := s.definitions.get? name

def groupOf (s : State) (rd : ResourceDefinition) : Option ResourceGroup :=
  if rd.resourceGroupName="" then none else s.groups.get? (K8s.name rd.resourceGroupName)

def write (s : State) (rd : ResourceDefinition) : State :=
  {s with
    revision := s.revision+1
    definitions := s.definitions.modify rd.name (fun x => {x with
      layerStack := rd.layerStack
      unappliedGroupLayerStack := rd.unappliedGroupLayerStack
      resourceVersion := s.revision}) fun _ => rfl}

end State

def serve (s : State) : (op : Op) → OpAnswer op × State
  | .getDefinition name => (found (s.get? name),s)
  | .getGroup name => (found (s.groups.get? name),s)
  | .listResources => (.ok s.resources,s)
  | .patch rd =>
    match s.get? rd.name with
    | none => (.error .notFound,s)
    | some x =>
      if x.resourceVersion=rd.resourceVersion then (.ok (),s.write rd) else (.error .conflict,s)
  | .event _ _ _ _ => ((),s)

def Fails : (op : Op) → OpAnswer op → Prop
  | .getDefinition _,a => a=.error .unavailable
  | .getGroup _,a => a=.error .unavailable
  | .listResources,a => a=.error .unavailable
  | .patch _,a => a=.error .unavailable
  | .event _ _ _ _,_ => False

def Step (s : State) (op : Op) (a : OpAnswer op) (t : State) : Prop :=
  a=(serve s op).1 ∧ t=(serve s op).2 ∨
    Fails op a ∧ (t=s ∨ (∃rd,op=.patch rd) ∧ t=(serve s op).2)

end Blockstor.Controller.LayerStack
