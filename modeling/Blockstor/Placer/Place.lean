import Blockstor.Placer.Candidates

namespace Blockstor.Placer

open Framework Shell

section RestoreSource

def restoreFromSnapshotProp : String := "BlockstorRestoreFromSnapshot"

def firstProviderKind : List Resource → Prog String
  | [] => pure ""
  | r::rs =>
    let pool := r.props.get storPoolNameProp
    if !r.diskful || pool="" then firstProviderKind rs
    else do
      match ← ask (.getPool r.nodeName pool) with
      | .error _ => firstProviderKind rs
      | .ok sp =>
        if sp.providerKind="" ∨ sp.providerKind=storagePoolKindDiskless then firstProviderKind rs
        else pure sp.providerKind

def sourceProviderKind (srcRDName : String) : Prog String := do
  match ← ask (.listByDefinition srcRDName) with
  | .error _ => pure ""
  | .ok replicas => firstProviderKind replicas

def constrainFilterToRestoreSource (rdName : String) (filter : AutoSelectFilter) :
    Prog AutoSelectFilter := do
  match ← ask (.getDefinition rdName) with
  | .error _ => pure filter
  | .ok rd =>
    match Text.cut ':' (rd.props.get restoreFromSnapshotProp) with
    | none => pure filter
    | some (srcRD,_) =>
      if srcRD="" then pure filter
      else do
        let kind ← sourceProviderKind srcRD
        pure (if kind="" then filter else {filter with providerList := [kind]})

end RestoreSource

/-- What a call keeps track of. A bucket is counted by how often it is in `xBuckets`. -/
structure PlaceState where
  nodes : List Node
  filter : AutoSelectFilter
  allowPoolDriverMixing : Bool
  taken : List String
  sameTuple : Option Props
  diffSeen : List String
  sharedSeen : List String
  firstKind : String
  xBuckets : List String
  upgradeable : List String

def xBucketKey (key : String) (nodeProps : Props) : String := key++"="++auxValue nodeProps key

variable (lib : Lib) (rdName : String) (filter : AutoSelectFilter)

def xBucketKeys (nodeProps : Props) : List String :=
  filter.xReplicasOnDifferentMap.map fun x => xBucketKey x.1 nodeProps

namespace PlaceState

def nodeProps (st : PlaceState) (node : String) : Props := nodesByName st.nodes node

def notePool (st : PlaceState) (pool : StoragePool) : PlaceState :=
  {st with
    sharedSeen := if pool.sharedSpaceID="" then st.sharedSeen else pool.sharedSpaceID::st.sharedSeen
    firstKind := if st.firstKind="" then pool.providerKind else st.firstKind}

def seed (pools : List StoragePool) (st : PlaceState) (r : Resource) : PlaceState :=
  if !r.diskful then {st with upgradeable := r.nodeName::st.upgradeable}
  else
    let st := {st with
      taken := r.nodeName::st.taken
      xBuckets := xBucketKeys st.filter (st.nodeProps r.nodeName)++st.xBuckets}
    let stor := r.props.get storPoolNameProp
    if stor="" then st
    else
      match pools.find? fun p => p.key=poolKey r.nodeName stor with
      | none => st
      | some pool => st.notePool pool

end PlaceState

def newState (existing : List Resource) (nodes : List Node)
    (pools : List StoragePool) (allowPoolDriverMixing : Bool) : PlaceState :=
  existing.foldl (PlaceState.seed pools) {
    nodes := nodes
    filter := filter
    allowPoolDriverMixing := allowPoolDriverMixing
    taken := []
    sameTuple := topologyTuple existing (nodesByName nodes) filter.replicasOnSame
    diffSeen := topologySeen existing (nodesByName nodes) filter.replicasOnDifferent
    sharedSeen := []
    firstKind := ""
    xBuckets := []
    upgradeable := [] }

def newReplica (pool : StoragePool) : Resource where
  name := rdName
  nodeName := pool.nodeName
  flags := []
  props := [(storPoolNameProp,pool.storagePoolName)]
  finalizer := false
  deleting := false
  volumes := []

def promoteWitnessFlags (flags : List String) (wantDiskful : Bool) : List String :=
  flags.filter fun f =>
    f≠resourceFlagTieBreaker && !(wantDiskful && decide (f=resourceFlagDiskless))

def promote (pool : StoragePool) (live : Resource) : Resource :=
  {live with
    flags := promoteWitnessFlags live.flags true
    props := live.props.set storPoolNameProp pool.storagePoolName}

def createUnlessThere (text : String) (r : Resource) : Prog Unit := do
  match ← ask (.create r) with
  | .ok () => pure ()
  | .error e => if e.is .alreadyExists then pure () else throw (.wrap text e)

def promoteWitness (pool : StoragePool) : Prog Unit := do
  match ← ask (.patchResourceSpec rdName pool.nodeName (promote pool)) with
  | .ok () => pure ()
  | .error e =>
    if e.is .notFound then
      createUnlessThere "create resource after witness vanished" (newReplica rdName pool)
    else throw (.wrap "promote witness to diskful" e)

namespace PlaceState

variable (st : PlaceState)

def exceedsXBucket (nodeProps : Props) : Bool :=
  st.filter.xReplicasOnDifferentMap.any fun x =>
    decide (0<x.2) && decide (x.2 ≤ st.xBuckets.count (xBucketKey x.1 nodeProps))

def allowsKindMix (kind : String) : Bool :=
  st.firstKind="" || isProviderKindMixingAllowed st.firstKind kind st.allowPoolDriverMixing

def admits (pool : StoragePool) : Bool :=
  let nodeProps := st.nodeProps pool.nodeName
  !st.taken.contains pool.nodeName &&
    matchesTuple nodeProps st.filter.replicasOnSame st.sameTuple &&
    !collidesWithDiff nodeProps st.filter.replicasOnDifferent st.diffSeen &&
    !st.exceedsXBucket nodeProps &&
    !(pool.sharedSpaceID≠"" && st.sharedSeen.contains pool.sharedSpaceID) &&
    st.allowsKindMix pool.providerKind

def occupy (pool : StoragePool) : PlaceState :=
  let nodeProps := st.nodeProps pool.nodeName
  notePool {st with
    taken := pool.nodeName::st.taken
    upgradeable := st.upgradeable.filter fun n => n≠pool.nodeName
    sameTuple := if st.sameTuple=none ∧ st.filter.replicasOnSame≠[] then
      some (lookupKeys nodeProps st.filter.replicasOnSame) else st.sameTuple
    diffSeen := (bareKeys st.filter.replicasOnDifferent).map (fun k => seenKey k nodeProps)++st.diffSeen
    xBuckets := xBucketKeys st.filter nodeProps++st.xBuckets} pool

def tryPlace (rdName : String) (pool : StoragePool) : Prog (Option PlaceState) := do
  if !st.admits pool then pure none
  else if st.upgradeable.contains pool.nodeName then
    promoteWitness rdName pool
    pure (some (st.occupy pool))
  else
    createUnlessThere "create resource" (newReplica rdName pool)
    pure (some (st.occupy pool))

end PlaceState

def placeDiskful (rdName : String) :
    PlaceState → List StoragePool → Int → Int → Prog (Int × PlaceState × Option Err)
  | st,[],placed,_ => pure (placed,st,none)
  | st,pool::pools,placed,want =>
    if want ≤ placed then pure (placed,st,none)
    else do
      match ← attempt (st.tryPlace rdName pool) with
      | .error e => pure (placed,st,some e)
      | .ok none => placeDiskful rdName st pools placed want
      | .ok (some st') => placeDiskful rdName st' pools (placed+1) want

def disklessReplica (node : String) : Resource :=
  ⟨rdName,node,[resourceFlagDiskless],[],false,false,[]⟩

def placeDisklessOnRemaining (rdName : String) (taken : List String) : List Node → Prog Unit
  | [] => pure ()
  | n::ns =>
    if taken.contains n.name then placeDisklessOnRemaining rdName taken ns
    else do
      createUnlessThere "create diskless witness" (disklessReplica rdName n.name)
      placeDisklessOnRemaining rdName (n.name::taken) ns

def notPlaceWithNodes (all : List Resource) : List String :=
  let pattern := if filter.notPlaceWithRscRegex="" then none
    else lib.compile filter.notPlaceWithRscRegex
  (all.filter fun r => r.name≠rdName &&
    (filter.notPlaceWithRsc.contains r.name || pattern.any fun matchString => matchString r.name))
    |>.map (·.nodeName)

def applyNotPlaceWith (candidates : List StoragePool) : Prog (List StoragePool) := do
  if filter.notPlaceWithRsc=[] ∧ filter.notPlaceWithRscRegex="" then pure candidates
  else
    let all ← wrapped "list resources for not-place-with filter" .listResources
    let excluded := notPlaceWithNodes lib rdName filter all
    pure (candidates.filter fun p => !excluded.contains p.nodeName)

def requiredKib (vds : List VolumeDefinition) : Int :=
  vds.foldl (fun m vd => if vd.sizeKib>m then vd.sizeKib else m) 0

structure PlacePlan where
  state : PlaceState
  preferred : List StoragePool
  lastResort : List StoragePool
  existing : List Resource
  disabled : List String

structure GatedPlan where
  requiredKib : Int
  maxFreeKib : Int
  oversubShortfall : Option OversubscriptionShortfall
  plan : Option PlacePlan

def propAllowMixingStoragePoolDriver : String := "AllowMixingStoragePoolDriver"

/-- The order the candidates are tried in, once the constraints that hold for all are applied. -/
def plannedPools (st : PlaceState) (candidates : List StoragePool) :
    PlaceState × List StoragePool × List StoragePool :=
  let candidates := filterSamePinned candidates st.nodeProps st.filter.replicasOnSame
  let (candidates,sameTuple) :=
    if st.sameTuple=none ∧ st.filter.replicasOnSame≠[] then
      pickSameGroup candidates st.nodeProps st.filter.replicasOnSame st.filter.placeCount
    else (candidates,st.sameTuple)
  ({st with sameTuple := sameTuple},
    partitionByExclusion candidates st.nodeProps st.filter.replicasOnDifferent)

def assemblePlan (candidates : List StoragePool) : Prog PlacePlan := do
  let existing ← wrapped "list resources by definition" (.listByDefinition rdName)
  let nodes ← wrapped "list nodes" .listNodes
  let nodes' ← wrapped "list nodes" .listNodes
  let allPools ← wrapped "list storage pools" .listPools
  let props ← wrapped "get controller props" .controllerProps
  let candidates ← applyNotPlaceWith lib rdName filter candidates
  let (state,preferred,lastResort) := plannedPools (newState filter existing nodes' allPools
    (Text.equalFold (props.get propAllowMixingStoragePoolDriver) "true")) candidates
  pure ⟨state,preferred,lastResort,existing,disabledNodes nodes⟩

def buildPlan : Prog GatedPlan := do
  let vds ← wrapped "list volume definitions" (.listVolumeDefinitions rdName)
  let (candidates,gates) ← candidatePools lib filter (requiredKib vds)
  if requiredKib vds>0 ∧ candidates=[] then
    pure ⟨requiredKib vds,gates.maxFreeBelow,gates.oversubBest,none⟩
  else
    let plan ← assemblePlan lib rdName filter candidates
    pure ⟨requiredKib vds,gates.maxFreeBelow,gates.oversubBest,some plan⟩

def countDiskfulReplicas (existing : List Resource) (disabled : List String) : Nat :=
  existing.countP fun r => !disabled.contains r.nodeName && r.diskful && !r.inactive

/-- What `Place` returns. -/
structure Placement where
  placed : Int
  want : Int
  err : Option Err

def shortfall (placed want : Int) (p : GatedPlan) : Placement :=
  if placed<want ∧ p.requiredKib>0 then
    if p.maxFreeKib>0 then ⟨placed,want,some (.capacityShortfall p.requiredKib p.maxFreeKib)⟩
    else ⟨placed,want,p.oversubShortfall.map .oversubscriptionShortfall⟩
  else ⟨placed,want,none⟩

def noCandidates (want : Int) (p : GatedPlan) : Placement :=
  match p.oversubShortfall with
  | some e => if p.maxFreeKib=0 then ⟨0,want,some (.oversubscriptionShortfall e)⟩
    else ⟨0,want,some (.capacityShortfall p.requiredKib p.maxFreeKib)⟩
  | none => ⟨0,want,some (.capacityShortfall p.requiredKib p.maxFreeKib)⟩

/-- The part of `Place` that writes. -/
def executePlan (gated : GatedPlan) (plan : PlacePlan) : Prog Placement := do
  let want := filter.placeCount
  let placed : Int := countDiskfulReplicas plan.existing plan.disabled
  let (placed,st,err) ← placeDiskful rdName plan.state plan.preferred placed want
  if err.isSome then pure ⟨placed,want,err⟩
  else
    let (placed,st,err) ← placeDiskful rdName st plan.lastResort placed want
    if err.isSome then pure ⟨placed,want,err⟩
    else if filter.disklessOnRemaining ∧ want ≤ placed then
      match ← attempt (placeDisklessOnRemaining rdName st.taken st.nodes) with
      | .error e => pure ⟨placed,want,some e⟩
      | .ok () => pure (shortfall placed want gated)
    else pure (shortfall placed want gated)

def place : Prog Placement := do
  let filter ← constrainFilterToRestoreSource rdName filter
  match ← attempt (buildPlan lib rdName filter) with
  | .error e => pure ⟨0,0,some e⟩
  | .ok gated =>
    match gated.plan with
    | none => pure (noCandidates filter.placeCount gated)
    | some plan => executePlan rdName filter gated plan

end Blockstor.Placer
