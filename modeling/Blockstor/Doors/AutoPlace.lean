import Blockstor.Placer.PlaceSpec

namespace Blockstor.Doors

open Framework Placer

structure SelectFilter extends AutoSelectFilter where
  additionalPlaceCount : Int
  storagePoolDisklessList : List String
  layerStack : List String
  deriving DecidableEq

def SelectFilter.empty : SelectFilter := ⟨.empty,0,[],[]⟩

structure Group where
  name : String
  selectFilter : SelectFilter

def Group.key (g : Group) : String := Store.K8s.name g.name

/-- What the two doors read: the placer's objects, and the groups with their whole filters. -/
structure World where
  state : State
  groups : Keyed Group.key

/-- The value of a `LaxInt32`. -/
def laxInt32 (n : Int) : Int := n.bmod (2^32)

def diskful (existing : List Resource) : Nat := existing.countP (·.diskful)

namespace Cli

inductive CliErr
  | notANumber (what text : String)
  | belowOne (what : String) (count : Int)
  | getResourceDefinition (name : String) (cause : Err)

def parseInt32 (text what : String) : Except CliErr Int :=
  match Text.parseInt32 (Text.trimSpace text) with
  | none => .error (.notANumber what text)
  | some value => .ok value

def splitList (value : String) : List String :=
  ((Text.split ',' value).map Text.trimSpace).filter (·≠"")

variable (w : World) (flags : Props) (filter : SelectFilter) (rdName : String)

def applyPlaceCountFlag (name : String) : Except CliErr SelectFilter := do
  let raw := flags.get name
  if raw="" then return filter
  match Text.cutPrefix "+" raw with
  | some rest =>
    let count ← parseInt32 rest ("--"++name)
    if count<1 then throw (.belowOne ("--"++name) count)
    return {filter with additionalPlaceCount := count}
  | none =>
    let count ← parseInt32 raw ("--"++name)
    if count<1 then throw (.belowOne ("--"++name) count)
    return {filter with placeCount := count}

def applyPlaceCountFlags : Except CliErr SelectFilter :=
  ["place-count","auto-place"].foldlM (applyPlaceCountFlag flags) filter

def groupOf : Except CliErr (Option Group) :=
  match w.state.getDefinition rdName with
  | none => .error (.getResourceDefinition rdName .notFound)
  | some rd =>
    if rd.resourceGroupName="" then .ok none
    else .ok (w.groups.get? (Store.K8s.name rd.resourceGroupName))

def fallBack (group : Group) : SelectFilter :=
  {filter with
    placeCount := if filter.placeCount=0 ∧ filter.additionalPlaceCount=0 then
      group.selectFilter.placeCount else filter.placeCount
    storagePool := if filter.storagePool="" then group.selectFilter.storagePool
      else filter.storagePool
    layerStack := if filter.layerStack=[] then group.selectFilter.layerStack
      else filter.layerStack}

def placementFilter : Except CliErr SelectFilter := do
  let filter ← applyPlaceCountFlags flags .empty
  let filter := {filter with
    storagePool := if flags.get "storage-pool"≠"" then flags.get "storage-pool"
      else filter.storagePool
    layerStack := if flags.get "layer-list"≠"" then splitList (flags.get "layer-list")
      else filter.layerStack}
  match ← groupOf w rdName with
  | none => return filter
  | some group => return fallBack filter group

def resolveAdditionalPlaceCount (filter : SelectFilter) : SelectFilter :=
  if filter.additionalPlaceCount ≤ 0 then filter
  else {filter with
    placeCount := laxInt32
      (laxInt32 (diskful (w.state.listByDefinition rdName))+filter.additionalPlaceCount)
    additionalPlaceCount := 0}

end Cli

namespace Rest

def mergeAutoplaceFilterFromRequest (out req : SelectFilter) : SelectFilter where
  placeCount := out.placeCount
  additionalPlaceCount := out.additionalPlaceCount
  storagePool := if req.storagePool≠"" then req.storagePool else out.storagePool
  storagePoolList := if req.storagePoolList≠[] then req.storagePoolList else out.storagePoolList
  storagePoolDisklessList := if req.storagePoolDisklessList≠[] then req.storagePoolDisklessList
    else out.storagePoolDisklessList
  nodeNameList := if req.nodeNameList≠[] then req.nodeNameList else out.nodeNameList
  replicasOnSame := if req.replicasOnSame≠[] then req.replicasOnSame else out.replicasOnSame
  replicasOnDifferent := if req.replicasOnDifferent≠[] then req.replicasOnDifferent
    else out.replicasOnDifferent
  xReplicasOnDifferentMap := if req.xReplicasOnDifferentMap≠[] then req.xReplicasOnDifferentMap
    else out.xReplicasOnDifferentMap
  providerList := if req.providerList≠[] then req.providerList else out.providerList
  disklessOnRemaining := req.disklessOnRemaining || out.disklessOnRemaining
  notPlaceWithRsc := out.notPlaceWithRsc
  notPlaceWithRscRegex := out.notPlaceWithRscRegex
  layerStack := out.layerStack

variable (w : World) (rd : ResourceDefinition) (rdName : String)

def groupFilter : SelectFilter :=
  if rd.resourceGroupName="" then .empty
  else
    match w.groups.get? (Store.K8s.name rd.resourceGroupName) with
    | none => .empty
    | some rg => rg.selectFilter

def mergeAutoplaceFilter (req : SelectFilter) :
    SelectFilter :=
  let out := groupFilter w rd
  let rdPool := rd.props.get storPoolNameProp
  -- the pool a definition is pinned to is one pool
  let out := {out with
    storagePool := if rdPool≠"" then rdPool else out.storagePool
    storagePoolList := if rdPool≠"" then [] else out.storagePoolList
    placeCount := if req.placeCount>0 then req.placeCount else out.placeCount
    additionalPlaceCount := if req.additionalPlaceCount>0 then req.additionalPlaceCount
      else out.additionalPlaceCount}
  let out := mergeAutoplaceFilterFromRequest out req
  {out with placeCount := if out.placeCount=0 then 1 else out.placeCount}

def diskfulEnabled : Nat :=
  (w.state.listByDefinition rdName).countP fun r =>
    !(disabledNodes w.state.listNodes).contains r.nodeName && r.diskful

def resolveAdditionalPlaceCount (filter : SelectFilter) :
    SelectFilter :=
  if filter.additionalPlaceCount ≤ 0 then filter
  else {filter with
    placeCount := laxInt32
      (laxInt32 (diskfulEnabled w rdName)+filter.additionalPlaceCount)
    additionalPlaceCount := 0}

end Rest

structure Request where
  count : Int
  range : 1 ≤ count ∧ count < 2^31
  delta : Bool
  autoPlace : Bool
  storagePool : String

namespace Request

def flags (req : Request) : Props :=
  [(if req.autoPlace then "auto-place" else "place-count",
      if req.delta then "+"++Text.formatInt req.count else Text.formatInt req.count),
    ("storage-pool",req.storagePool)]

def selectFilter (req : Request) : SelectFilter :=
  {SelectFilter.empty with
    placeCount := if req.delta then 0 else req.count
    additionalPlaceCount := if req.delta then req.count else 0
    storagePool := req.storagePool}

end Request

variable (w : World) (rdName : String) (req : Request)

def cliFilter :
    Except Cli.CliErr AutoSelectFilter := do
  let filter ← Cli.placementFilter w req.flags rdName
  return (Cli.resolveAdditionalPlaceCount w rdName filter).toAutoSelectFilter

def restFilter : Except Err AutoSelectFilter := do
  let rd ← found (w.state.getDefinition rdName)
  return (Rest.resolveAdditionalPlaceCount w rdName
    (Rest.mergeAutoplaceFilter w rd req.selectFilter)).toAutoSelectFilter

end Blockstor.Doors
