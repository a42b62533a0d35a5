import Blockstor.Quorum.Objects

namespace Blockstor.Quorum

open Framework Shell Options Store

section Decision

variable (replicas : List Resource) (rd : Definition)

def isAutoTieBreakerEnabled : Bool :=
  match (rd.spec.drbdOptions.bind (·.resource)).bind (·.autoTieBreaker) with
  | some b => b
  | none =>
    match rd.spec.props.find "DrbdOptions/AutoAddQuorumTiebreaker" with
    | none => true
    | some value => !Text.equalFold value "false"

def rdPropFromBags (key : String) : String :=
  ((rd.spec.props.find key).or (rd.spec.extraProps.find key)).getD ""

def isAutoQuorumDisabled : Bool :=
  let value := rdPropFromBags rd "DrbdOptions/auto-quorum"
  Text.equalFold (if value="" then rdPropFromBags rd "DrbdOptions/AutoQuorum" else value) "disabled"

/-- `future` tells the texts of deadlines that have not passed. -/
def deadlinePending (future : String → Bool) (rd : Definition) (key : String) : Bool :=
  (rd.annotations.find key).any fun raw => decide (raw≠"") && future raw

def autoTiebreakerSuppressedUntilAnnotation : String :=
  "blockstor.io/auto-tiebreaker-suppressed-until"

def keepTiebreakerUntilAnnotation : String := "blockstor.io/keep-tiebreaker-until"

def isTiebreakerSuppressed (future : String → Bool) (rd : Definition) : Bool :=
  deadlinePending future rd autoTiebreakerSuppressedUntilAnnotation

def isKeepTiebreakerActive (future : String → Bool) (rd : Definition) : Bool :=
  deadlinePending future rd keepTiebreakerUntilAnnotation

def containsInactiveReplica : Bool := replicas.any (·.inactive)

def filterActiveReplicas : List Resource :=
  replicas.filter fun r => !r.inactive

def splitByDiskless : List Resource × List Resource :=
  (replicas.filter fun r => !r.diskless,replicas.filter (·.diskless))

def filterTieBreaker (diskless : List Resource) : List Resource := diskless.filter (·.tieBreaker)

def witnessUnnecessaryDiskfulCount : Nat := 3

def shouldKeepExistingWitness (diskful : Nat) : Bool :=
  if witnessUnnecessaryDiskfulCount ≤ diskful then false else diskful=2

def keepExistingWitnessFor (future : String → Bool) (rd : Definition)
    (diskful witness : List Resource) : Bool :=
  if witness=[] then false
  else if 1 ≤ diskful.length ∧ isKeepTiebreakerActive future rd=true then true
  else shouldKeepExistingWitness diskful.length

def wantNewWitness (future : String → Bool) (rd : Definition)
    (diskful diskless witness : List Resource) : Bool :=
  !isTiebreakerSuppressed future rd && decide (2 ≤ diskful.length) &&
    decide (diskful.length%2=0) && decide (diskless.length-witness.length=0)

def shouldTieBreakerExist (future : String → Bool) (rd : Definition)
    (diskful diskless witness : List Resource) (hasInactive : Bool) : Bool :=
  if !isAutoTieBreakerEnabled rd then false
  -- a witness is held while a replica that was taken down is replaced
  else if hasInactive && decide (witness≠[]) && decide (1 ≤ diskful.length) then true
  else wantNewWitness future rd diskful diskless witness ||
    keepExistingWitnessFor future rd diskful witness

def quorumPolicyMajority : String := "majority"

def quorumPolicyOff : String := "off"

def quorumPolicy (diskful diskless : Nat) : String :=
  if diskful=2 ∧ 1 ≤ diskless ∨ 3 ≤ diskful then quorumPolicyMajority else quorumPolicyOff

end Decision

section SetQuorum

def quorumKey : String := "DrbdOptions/Resource/quorum"

def onNoQuorumKey : String := "DrbdOptions/Resource/on-no-quorum"

def onNoQuorumSeed : String := "suspend-io"

variable (rd : Definition) (value : String)

def resourceOptions : DRBDResourceOptions :=
  (rd.spec.drbdOptions.bind (·.resource)).getD .empty

def quorumPropsAlreadySet : Bool :=
  if rd.spec.props.items.isEmpty then false
  else if (rd.spec.props.find quorumKey).getD ""≠value then false
  else
    match rd.spec.drbdOptions.bind (·.resource) with
    | none => false
    | some res =>
      if res.quorum≠value then false
      else if value≠quorumPolicyMajority then true
      else if rd.spec.props.find onNoQuorumKey=none then false
      else res.onNoQuorum≠""

def seedOnNoQuorum (props : Props) : Props :=
  if value=quorumPolicyMajority ∧ props.find onNoQuorumKey=none then
    props.set onNoQuorumKey onNoQuorumSeed
  else props

def stampResource (res : DRBDResourceOptions) : DRBDResourceOptions :=
  {res with
    quorum := value
    onNoQuorum := if value=quorumPolicyMajority ∧ res.onNoQuorum="" then onNoQuorumSeed
      else res.onNoQuorum}

def stampQuorum (rd : Definition) : Definition :=
  {rd with
    spec := {rd.spec with
      props := seedOnNoQuorum value (rd.spec.props.set quorumKey value)
      drbdOptions := some {rd.spec.drbdOptions.getD .empty with
        resource := some (stampResource value (resourceOptions rd))}}}

/-- Write the quorum, at most `attempts` times as long as the definition changes meanwhile. -/
def setQuorumTry (value : String) : Nat → Nat × Definition → Prog Unit
  | 0,_ => throw .conflict
  | attempts+1,(rv,rd) =>
    if quorumPropsAlreadySet rd value then pure ()
    else do
      match ← ask (.updateDefinition rv (stampQuorum value rd)) with
      | .ok () => pure ()
      | .error e =>
        if e≠.conflict then throw e
        else do
          let fresh ← api .getDefinitionCached
          setQuorumTry value attempts fresh

def setQuorum (rd : Nat × Definition) (value : String) : Prog Unit := setQuorumTry value 3 rd

end SetQuorum

section Nodes

structure NodeProbe where
  found : Bool
  drained : Bool
  deriving DecidableEq

variable (nodes : List Node) (wireName : String)

def probeNode : NodeProbe :=
  match nodes.find? (·.matchesWireName wireName) with
  | none => ⟨false,false⟩
  | some n => ⟨true,n.isDisabled || n.isAutoplaceExcluded⟩

def probeNodeDirect : Prog NodeProbe := do
  let list ← api .listNodesDirect
  pure (probeNode list wireName)

def nodeSets : Prog (List String × List String) := do
  let nodes ← api .listNodes
  pure ((nodes.filter (·.isDisabled)).map (·.name),nodes.map (·.name))

def witnessCandidates (excluded : List String) : List String :=
  (nodes.filter fun n => !excluded.contains n.name && !n.isDisabled && !n.isAutoplaceExcluded &&
    (decide (n.type="") || decide (n.type=Node.nodeTypeSatellite) ||
      decide (n.type=Node.nodeTypeCombined))).map (·.name)

def lowest (candidates : List String) : String :=
  ((Placer.sortBy (fun n => (n,"")) candidates).head?).getD ""

def pickTiebreakerNodeForRD (rdName : String) (hostingReplica : List String) : Prog String := do
  let excluded ← if rdName="" then pure hostingReplica else do
    let live ← api (.listByDefinition rdName)
    pure (hostingReplica++(live.filter fun r => !r.diskless).map (·.nodeName))
  let nodes ← api .listNodes
  pure (lowest (witnessCandidates nodes excluded))

end Nodes

section Stranded

def splitByDisabledNode (replicas : List Resource) (disabled : List String) :
    List Resource × List Resource :=
  (replicas.filter fun r => !disabled.contains r.nodeName,
    replicas.filter fun r => disabled.contains r.nodeName)

/-- A replica is a ghost if its node is not listed and a direct read does not find it either. -/
def confirmGhostReplicas (known : List String) :
    List Resource → Prog (List Resource × List Resource)
  | [] => pure ([],[])
  | r::rs =>
    if known.contains r.nodeName then do
      let (live,ghosts) ← confirmGhostReplicas known rs
      pure (r::live,ghosts)
    else do
      let probe ← probeNodeDirect r.nodeName
      let (live,ghosts) ← confirmGhostReplicas known rs
      pure (if probe.found then (r::live,ghosts) else (live,r::ghosts))

def removeStrandedWitnesses (rdName : String) : List Resource → Prog Unit
  | [] => pure ()
  | r::rs =>
    if !r.tieBreaker then removeStrandedWitnesses rdName rs
    else do
      match ← ask (.delete rdName r.nodeName) with
      | .ok () => removeStrandedWitnesses rdName rs
      | .error e => if e=.notFound then removeStrandedWitnesses rdName rs else throw e

def dropStrandedReplicas (rdName : String) (replicas : List Resource) : Prog (List Resource) := do
  let (disabled,known) ← nodeSets
  let (live,stranded) := splitByDisabledNode replicas disabled
  let (live,ghosts) ← confirmGhostReplicas known live
  removeStrandedWitnesses rdName (stranded++ghosts)
  pure live

end Stranded

section Witness

variable (rdName node : String)

def deleteIfTieBreaker : Prog Bool := do
  match ← ask (.getResource rdName node) with
  | .error e => if e=.notFound then pure false else throw e
  | .ok crd =>
    if !crd.tieBreaker then pure false
    else do
      match ← ask (.deleteGuarded rdName node crd.rv) with
      | .ok () => pure true
      | .error e => if e=.conflict ∨ e=.notFound then pure false else throw e

def removeWitnesses (rdName : String) : List Resource → Prog Unit
  | [] => pure ()
  | w::ws => do
    let _ ← deleteIfTieBreaker rdName w.nodeName
    removeWitnesses rdName ws

def witnessFlags : List String := [Placer.resourceFlagDiskless,Placer.resourceFlagTieBreaker]

def newWitness : Resource := ⟨rdName,node,witnessFlags,false,false,0⟩

def rollback : Prog Unit := do
  let _ ← ask (.delete rdName node)
  pure ()

def rollbackWitnessIfRDGone : Prog Unit := do
  match ← ask .getDefinition with
  | .ok (_,fresh) => if !fresh.deleting then pure () else rollback rdName node
  | .error _ => rollback rdName node

def rollbackWitnessIfNodeGone : Prog Unit := do
  match ← attempt (probeNodeDirect node) with
  | .error _ => pure ()
  | .ok probe => if probe.found then pure () else rollback rdName node

def createOn : Prog Bool := do
  match ← ask (.create (newWitness rdName node)) with
  | .error e =>
    if e≠.alreadyExists then throw e
    else do
      rollbackWitnessIfRDGone rdName node
      rollbackWitnessIfNodeGone rdName node
      pure true
  | .ok () => do
    rollbackWitnessIfRDGone rdName node
    rollbackWitnessIfNodeGone rdName node
    pure true

def createWitness (existing : List Resource) : Prog Bool := do
  let node ← pickTiebreakerNodeForRD rdName (existing.map (·.nodeName))
  if node="" then pure false
  else do
    let probe ← probeNodeDirect node
    if !probe.found || probe.drained then pure false
    else createOn rdName node

/-- Carry the decision out. The answer is what the replicas without a disk are taken to be then. -/
def applyWitnessDecision (replicas diskless witness : List Resource)
    (wantWitness : Bool) : Prog (List Resource) := do
  if wantWitness && decide (witness=[]) then
    let created ← createWitness rdName replicas
    pure (if created then diskless++[newWitness "" ""] else diskless)
  else if !wantWitness && decide (witness≠[]) then
    removeWitnesses rdName witness
    pure (diskless.filter fun r => !r.tieBreaker)
  else pure diskless

end Witness

def containsReplicationLayer (stack : List String) : Bool := Controller.LayerStack.layerInStack stack "DRBD"

def resolveRDLayerStack (rd : Definition) : Prog (List String) := do
  if rd.spec.layerStack≠[] then pure rd.spec.layerStack
  else if rd.spec.resourceGroupName="" then pure Controller.LayerStack.defaultLayerStack
  else
    match ← ask (.getGroup (K8s.name rd.spec.resourceGroupName)) with
    | .error _ => pure Controller.LayerStack.defaultLayerStack
    | .ok stack => pure (if stack≠[] then stack else Controller.LayerStack.defaultLayerStack)

def listReplicasDirect (rdName : String) : Prog (List Resource) := do
  let items ← api .listResources
  pure (items.filter fun r => r.definition=rdName)

def decideWitness (future : String → Bool) (rd : Nat × Definition) (replicas live : List Resource) :
    Prog Unit := do
  let (diskful,diskless) := splitByDiskless (filterActiveReplicas live)
  let witness := filterTieBreaker diskless
  let wantWitness := shouldTieBreakerExist future rd.2 diskful diskless witness
    (containsInactiveReplica live)
  let disklessAfter ← applyWitnessDecision rd.2.name replicas diskless witness wantWitness
  if isAutoQuorumDisabled rd.2 then pure ()
  else setQuorum rd (quorumPolicy diskful.length disklessAfter.length)

def ensureTiebreaker (future : String → Bool) (rd : Nat × Definition) : Prog Unit := do
  if rd.2.deleting then pure ()
  else
    let stack ← resolveRDLayerStack rd.2
    if !containsReplicationLayer stack then pure ()
    else
      let replicas ← listReplicasDirect rd.2.name
      let live ← dropStrandedReplicas rd.2.name replicas
      decideWitness future rd replicas live

section Settles

open List

variable (future : String → Bool) (rd : Definition) (diskful : List Resource) (inactive : Bool)
  (diskless : List Resource)

def wanted : Bool :=
  shouldTieBreakerExist future rd diskful diskless (filterTieBreaker diskless) inactive

variable {future rd diskful inactive diskless}

theorem wanted_add (h : wanted future rd diskful inactive diskless=true) :
    wanted future rd diskful inactive (diskless++[newWitness "" ""])=true := by
  have hw : filterTieBreaker (diskless++[newWitness "" ""])=
      filterTieBreaker diskless++[newWitness "" ""] := filter_append ..
  simp [wanted,hw,shouldTieBreakerExist,wantNewWitness,keepExistingWitnessFor] at h ⊢
  grind

theorem wanted_drop (h : wanted future rd diskful inactive diskless=false) :
    wanted future rd diskful inactive (diskless.filter (!·.tieBreaker))=false := by
  have hcount := diskless.length_eq_length_filter_add (·.tieBreaker)
  have hw : filterTieBreaker (diskless.filter (!·.tieBreaker))=[] := by simp [filterTieBreaker]
  change _=(filterTieBreaker diskless).length+_ at hcount
  grind [wanted,shouldTieBreakerExist,wantNewWitness,keepExistingWitnessFor]

/-- However the requests are answered, what carrying the decision out leaves does not reverse it: no
witness is made and removed in turns. -/
theorem decision_settles {rdName : String} {replicas after : List Resource}
    {log : List (Entry Answer)}
    (h : Runs (applyWitnessDecision rdName replicas diskless (filterTieBreaker diskless)
      (wanted future rd diskful inactive diskless)) log (.ok after)) :
    wanted future rd diskful inactive after=wanted future rd diskful inactive diskless := by
  unfold applyWitnessDecision at h
  split at h
  · rename_i hwant
    obtain ⟨_,_,he⟩|⟨created,_,_,_,hend,_⟩ := runs_bind.mp h
    · cases he
    · cases ((runs_pure _).mp hend).2
      have hnew := wanted_add ((Bool.and_eq_true _ _).mp hwant).1
      cases created <;> simp_all
  · split at h
    · rename_i hwant
      obtain ⟨_,_,he⟩|⟨_,_,_,_,hend,_⟩ := runs_bind.mp h
      · cases he
      · cases ((runs_pure _).mp hend).2
        simp only [Bool.and_eq_true,Bool.not_eq_true'] at hwant
        rw [wanted_drop hwant.1,hwant.1]
    · cases ((runs_pure _).mp h).2
      rfl

def bareDefinition : Definition :=
  ⟨"pvc-1",.empty,false,⟨"","",.empty,[],[],[],none,none,.empty,none,none⟩⟩

theorem orphan_settles : wanted (fun _ => false) bareDefinition [] false []=
    wanted (fun _ => false) bareDefinition [] false [newWitness "pvc-1" "n2"] :=
  decision_settles (runs_eval (fun _ => .error .notFound)
    (applyWitnessDecision "pvc-1" [] [newWitness "pvc-1" "n2"] [newWitness "pvc-1" "n2"] false))

end Settles

end Blockstor.Quorum
