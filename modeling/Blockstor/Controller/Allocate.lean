import Blockstor.Controller.Cluster

namespace Blockstor.Controller

open Drbd Framework Shell

inductive AllocErr
  | api (e : ApiErr)
  | nodeIDExhausted
  | portPoolExhausted
  | minorPoolExhausted
  | range (e : RangeErr)
  deriving DecidableEq

abbrev Prog := Shell Answer AllocErr

def ask (c : Cmd) : Prog (Answer c) := call c

def api (c : Cmd) : Prog (Payload c) := do
  match ← ask c with
  | .ok a => pure a
  | .error e => throw (.api e)

def Resource.effectiveNodeID (r : Resource) : Option Int32 :=
  r.spec.drbdNodeID.or r.status.drbdNodeID

def Resource.effectivePort (r : Resource) : Option Int32 := r.spec.drbdPort.or r.status.drbdPort

variable (nodeName : String) (rd : ResourceDefinition) (target : Resource) (rdName : String)

/-- The ids of the target's siblings, by spec or by status, and all ids they report as peers. -/
def collectTakenNodeIDs (list : List Resource) : List Int32 :=
  (list.filter fun r => r.name≠target.name ∧
    r.spec.resourceDefinitionName=target.spec.resourceDefinitionName).flatMap fun r =>
      r.effectiveNodeID.toList++r.status.connections.filterMap ResourceConnectionStatus.peerDRBDNodeID

def allocateNodeIDLocked : Prog Int32 := do
  let list ← api .listResources
  match lowestFreeNodeID (collectTakenNodeIDs target list) with
  | none => throw .nodeIDExhausted
  | some id => pure id

/-- The legacy "min-max" property of a tier, `none` when it is not set. -/
def rangeProp (raw : String) : Except RangeErr (Option (Int32 × Int32)) :=
  if raw="" then .ok none
  else
    match parseRange raw with
    | .error e => .error e
    | .ok r => .ok (some r)

def liftRange {α : Type} : Except RangeErr α → Prog α
  | .ok a => pure a
  | .error e => throw (.range e)

def clusterRange (prop : String) : Prog (Option (Int32 × Int32)) := do
  match ← ask .getControllerConfig with
  | .error .notFound => pure none
  | .error e => throw (.api e)
  | .ok extraProps => liftRange (rangeProp (extraProps prop))

def nodeRange (pick : NodeSpec → Option PortRange) (legacyProp : String)
    (default : Int32 × Int32) : Prog (Int32 × Int32) := do
  match ← ask (.getNode nodeName) with
  | .error .notFound => pure default
  | .error e => throw (.api e)
  | .ok node =>
    match pick node with
    | some typed => pure (typed.min,typed.max)
    | none =>
      let legacy ← liftRange (rangeProp (node.props legacyProp))
      pure (legacy.getD default)

def nodeRangeWithClusterFallback (pick : NodeSpec → Option PortRange)
    (legacyProp clusterProp : String) (default : Int32 × Int32) : Prog (Int32 × Int32) := do
  let cluster ← clusterRange clusterProp
  nodeRange nodeName pick legacyProp (cluster.getD default)

def portRangeForNode : Prog (Int32 × Int32) :=
  nodeRangeWithClusterFallback nodeName NodeSpec.drbdPortRange "DrbdOptions/TcpPortRange"
    "TcpPortAutoRange" (defaultPortMin,defaultPortMax)

def takenPortsOnNode (selfName : String) (list : List Resource) : List Int32 :=
  (list.filter fun r => r.spec.nodeName=nodeName ∧ r.name≠selfName).filterMap fun r =>
    r.spec.drbdPort

def rdPreferredPort : Prog (Option Int32) := do
  match ← ask (.getDefinition rdName) with
  | .ok rd => pure rd.drbdPort
  | .error _ => pure none

def allocatePortForNode : Prog Int32 := do
  let (low,high) ← portRangeForNode target.spec.nodeName
  let list ← api .listResources
  let taken := takenPortsOnNode target.spec.nodeName target.name list
  let seed ← rdPreferredPort target.spec.resourceDefinitionName
  match seed.filter fun s => low ≤ s ∧ s ≤ high ∧ s∉taken with
  | some s => pure s
  | none =>
    match lowestFreePort taken low high with
    | none => throw .portPoolExhausted
    | some port => pure port

def rdInitialized : Bool := rd.initialized=some true

/-- `none` when the definition is gone. -/
def rdInitializedForResource : Prog (Option Bool) := do
  match ← ask (.getDefinition rdName) with
  | .ok rd => pure (some (rdInitialized rd))
  | .error .notFound => pure none
  | .error e => throw (.api e)

def ifUnset (value : Option Int32) (allocate : Prog Int32) : Prog Int32 :=
  match value with
  | some a => pure a
  | none => allocate

def stampIfUnset (skip : Option Bool) (rdName : String) : Prog (Option Bool) :=
  match skip with
  | some b => pure (some b)
  | none => do
    let initialized ← rdInitializedForResource rdName
    pure (initialized.map (!·))

def backfillResourceSpecFromStatus : Resource :=
  target.withSpec (target.spec.drbdNodeID.or target.status.drbdNodeID)
    (target.spec.drbdPort.or target.status.drbdPort) target.spec.skipInitialSync

def allocateResourceSpecFields : Prog Resource := do
  let nodeID ← ifUnset target.spec.drbdNodeID (allocateNodeIDLocked target)
  let port ← ifUnset target.spec.drbdPort (allocatePortForNode target)
  let skip ← stampIfUnset target.spec.skipInitialSync target.spec.resourceDefinitionName
  pure (target.withSpec (some nodeID) (some port) skip)

def rdVolumeMinorsComplete : Bool :=
  rd.volumeDefinitions.all fun vd => vd.drbdMinor.isSome

def anyVolumeMinorSet : Bool :=
  rd.volumeDefinitions.any fun vd => vd.drbdMinor.isSome

def vol0MinorOf (vds : List VolumeDefinition) : Option Int32 :=
  (vds.find? fun vd => vd.volumeNumber=0).bind VolumeDefinition.drbdMinor

/-- The legacy minors `base+VolumeNumber`, when the base is set and no volume has a minor yet;
the second part says whether anything changed. -/
def backfillRDMinorsFromStatus : List VolumeDefinition × Bool :=
  match rd.statusDRBDMinor with
  | none => (rd.volumeDefinitions,false)
  | some base =>
    if anyVolumeMinorSet rd then (rd.volumeDefinitions,false)
    else (rd.volumeDefinitions.map fun vd =>
      ⟨vd.volumeNumber,some (base+vd.volumeNumber)⟩,true)

def hostingNodesForRD (list : List Resource) : List String :=
  ((list.filter fun r => r.spec.resourceDefinitionName=rdName).map fun r => r.spec.nodeName).eraseDups

/-- The intersection of the ranges of the nodes, starting from `acc` once a node was seen. -/
def intersectRange (range : String → Prog (Int32 × Int32)) (default : Int32 × Int32) :
    List String → Option (Int32 × Int32) → Prog (Int32 × Int32)
  | [],acc => pure (acc.getD default)
  | node::nodes,acc => do
    let (nLow,nHigh) ← range node
    let next := match acc with
      | none => (nLow,nHigh)
      | some (low,high) => (if nLow>low then nLow else low,if nHigh<high then nHigh else high)
    intersectRange range default nodes (some next)

def intersectMinorRange (hostNodes : List String) : Prog (Int32 × Int32) :=
  intersectRange (fun node => nodeRangeWithClusterFallback node NodeSpec.drbdMinorRange
    "DrbdOptions/MinorNrRange" "MinorNrAutoRange" (defaultMinorMin,defaultMinorMax))
    (defaultMinorMin,defaultMinorMax) hostNodes none

/-- The minors another definition claims: the stamped ones, or `base+k` for its `k`-th volume
while it has none. -/
def claimedMinors : List Int32 :=
  rd.volumeDefinitions.filterMap VolumeDefinition.drbdMinor++
    match rd.statusDRBDMinor with
    | none => []
    | some base =>
      if anyVolumeMinorSet rd then []
      else (List.range (max rd.volumeDefinitions.length 1)).map fun off => base+Int32.ofNat off

def takenMinorsCluster (selfRD : String) (list : List ResourceDefinition) : List Int32 :=
  (list.filter fun rd => rd.name≠selfRD).flatMap claimedMinors

/-- Give every volume without a minor the lowest free one; a minor handed out is taken for the
volumes after it. -/
def fillMinors (low high : Int32) : List Int32 → List VolumeDefinition → Option (List VolumeDefinition)
  | _,[] => some []
  | taken,vd::vds =>
    match vd.drbdMinor with
    | some _ => (fillMinors low high taken vds).map (vd::·)
    | none =>
      match lowestFreeMinor taken low high with
      | none => none
      | some minor =>
        (fillMinors low high (taken++[minor]) vds).map (⟨vd.volumeNumber,some minor⟩::·)

def allocateRDVolumeMinors : Prog (List VolumeDefinition × Bool) := do
  let (vds,mutated) := backfillRDMinorsFromStatus rd
  let list ← api .listResources
  let (low,high) ← intersectMinorRange (hostingNodesForRD rd.name list)
  let definitions ← api .listDefinitions
  let taken := takenMinorsCluster rd.name definitions++
    vds.filterMap VolumeDefinition.drbdMinor
  match fillMinors low high taken vds with
  | none => throw .minorPoolExhausted
  | some filled => pure (filled,mutated || vds.any fun vd => vd.drbdMinor.isNone)

/-- Persist the minors of the definition; a conflict is left to the next pass, with what the
other writer stamped. -/
def ensureRDVolumeMinors : Prog (Bool × Option Int32) := do
  match ← ask (.getDefinition rdName) with
  | .error .notFound => pure (false,none)
  | .error e => throw (.api e)
  | .ok rd =>
    if rd.volumeDefinitions=[] then pure (false,none)
    else if rdVolumeMinorsComplete rd then pure (false,vol0MinorOf rd.volumeDefinitions)
    else
      let (vds,mutated) ← allocateRDVolumeMinors rd
      if !mutated then pure (false,vol0MinorOf vds)
      else
        match ← ask (.patchVolumes rdName vds) with
        | .ok () => pure (true,vol0MinorOf vds)
        | .error .conflict =>
          match ← ask (.getDefinition rdName) with
          | .ok fresh => pure (false,vol0MinorOf fresh.volumeDefinitions)
          | .error _ => throw (.api .conflict)
        | .error e => throw (.api e)

/-- Write to the object unless there is nothing to write; `none` when the object is gone. -/
def patchIfChanged (changed : Bool) (c : Cmd) : Prog (Option Unit) :=
  if !changed then pure (some ())
  else do
    match ← ask c with
    | .ok _ => pure (some ())
    | .error .notFound => pure none
    | .error e => throw (.api e)

def equalResourceIdentitySpec (a b : ResourceSpec) : Bool :=
  a.drbdNodeID=b.drbdNodeID ∧ a.drbdPort=b.drbdPort ∧ a.skipInitialSync=b.skipInitialSync

def equalStatusIdentities (a b : ResourceStatus) : Bool :=
  a.drbdNodeID=b.drbdNodeID ∧ a.drbdPort=b.drbdPort ∧ a.drbdMinor=b.drbdMinor

def mirrorIdentitiesToStatus (vol0Minor : Option Int32) : Resource :=
  target.withStatus (target.spec.drbdNodeID.or target.status.drbdNodeID)
    (target.spec.drbdPort.or target.status.drbdPort) (vol0Minor.or target.status.drbdMinor)

def patchResourceSpecIdentities : Cmd :=
  .patchSpec target.name target.spec.drbdNodeID target.spec.drbdPort target.spec.skipInitialSync

def patchResourceStatusIdentities : Cmd :=
  .patchStatus target.name target.status.drbdNodeID target.status.drbdPort target.status.drbdMinor

/-- The second half of an attempt: persist the minors of the definition, then the allocated
identities in the spec, then their mirror in the status. -/
def applyDRBDIDs (original target : Resource) : Prog Bool := do
  let (minorMutated,vol0Minor) ← ensureRDVolumeMinors target.spec.resourceDefinitionName
  let specMutated := !equalResourceIdentitySpec original.spec target.spec
  match ← patchIfChanged specMutated (patchResourceSpecIdentities target) with
  | none => pure false
  | some () =>
    let mirrored := mirrorIdentitiesToStatus target vol0Minor
    let statusMutated := !equalStatusIdentities original.status mirrored.status
    match ← patchIfChanged statusMutated (patchResourceStatusIdentities mirrored) with
    | none => pure false
    | some () => pure (specMutated || statusMutated || minorMutated)

/-- One attempt: read the replica, copy legacy identities into the spec, allocate what is missing
and persist the outcome. -/
def allocateAndApplyDRBDIDs (name : String) : Prog Bool := do
  match ← ask (.getResource name) with
  | .error .notFound => pure false
  | .error e => throw (.api e)
  | .ok original =>
    match ← (allocateResourceSpecFields (backfillResourceSpecFromStatus original)).attempt with
    | .error (.api .notFound) => pure false
    | .error e => throw e
    | .ok target => applyDRBDIDs original target

def retryOnConflict {α : Type} : Nat → Prog α → Prog α
  | 0,p => p
  | n+1,p => do
    match ← p.attempt with
    | .ok a => pure a
    | .error (.api .conflict) => retryOnConflict n p
    | .error e => throw e

def ensureDRBDIDs (name : String) : Prog Bool := retryOnConflict 4 (allocateAndApplyDRBDIDs name)

end Blockstor.Controller
