import Mathlib

namespace Blockstor.Migrate

structure NodeRow where
  nodeName : String
  nodeType : Int32

structure ResourceRow where
  nodeName : String
  resourceName : String
  snapshotName : String
  resourceFlags : Int64

structure DefinitionRow where
  resourceName : String
  snapshotName : String

/-- A row of the storage layer, with the replica it belongs to. -/
structure StorVolRow where
  nodeName : String
  resourceName : String
  storPoolName : String

structure Dump where
  nodes : List NodeRow
  resources : List ResourceRow
  definitions : List DefinitionRow
  storVols : List StorVolRow
  poolDsp : String → String

def displayName (dsp key : String) : String := if dsp≠"" then dsp else key

def nodeTypeName (nodeType : Int32) : String :=
  if nodeType=1 then "CONTROLLER" else if nodeType=2 then "SATELLITE"
  else if nodeType=3 then "COMBINED" else if nodeType=4 then "AUXILIARY" else ""

def resourceFlagDelete : Int64 := 2

def resourceFlagDiskless : Int64 := 4

def ResourceRow.has (row : ResourceRow) (flag : Int64) : Bool := row.resourceFlags &&& flag≠0

variable (d : Dump)

def convertedNode (node : String) : Bool :=
  d.nodes.any fun row => row.nodeName=node ∧ nodeTypeName row.nodeType≠"" ∧
    nodeTypeName row.nodeType≠"CONTROLLER"

/-- The volumes of a replica are in more than one pool. -/
def replicaPoolDivergence (row : ResourceRow) : Bool :=
  let own := d.storVols.filter fun v => v.nodeName=row.nodeName ∧ v.resourceName=row.resourceName
  2 ≤ (own.map fun v => displayName (d.poolDsp v.storPoolName) v.storPoolName).dedup.length

structure RdLatchState where
  adopted : Bool
  heldByAbsentNode : Bool
  onlyDivergent : Bool
  onlyDiskless : Bool

def latchRows (rdName : String) : RdLatchState → List ResourceRow → RdLatchState
  | state,[] => state
  | state,row::rows =>
    if row.resourceName≠rdName ∨ row.snapshotName≠"" then latchRows rdName state rows
    else if row.has resourceFlagDelete then latchRows rdName state rows
    else if !convertedNode d row.nodeName then
      latchRows rdName {state with heldByAbsentNode := true} rows
    else if row.has resourceFlagDiskless then
      latchRows rdName {state with onlyDiskless := true} rows
    else if replicaPoolDivergence d row then
      latchRows rdName {state with adopted := true,onlyDivergent := true} rows
    else {state with adopted := true,onlyDivergent := false,onlyDiskless := false}

def rdInitializedLatch (rdName : String) : RdLatchState :=
  latchRows d rdName ⟨false,false,false,false⟩ d.resources

/-- A migrated definition, as far as the latch is concerned. -/
structure ResourceDefinition where
  source : String
  initialized : Bool

/-- Which definitions are left out for their stack, their metadata or their volumes is arbitrary. -/
def convertResourceDefinitions (rdConvertible : DefinitionRow → Bool) : List ResourceDefinition :=
  (d.definitions.filter fun row => row.snapshotName="" ∧ rdConvertible row).map fun row =>
    let latch := rdInitializedLatch d row.resourceName
    ⟨row.resourceName,latch.adopted || latch.heldByAbsentNode⟩

/-- A replica of the definition that is not being deleted. -/
def Live (rdName : String) (row : ResourceRow) : Prop :=
  row∈d.resources ∧ row.resourceName=rdName ∧ row.snapshotName="" ∧
    row.has resourceFlagDelete=false

def HoldsData (rdName : String) : Prop :=
  ∃row,Live d rdName row ∧ row.has resourceFlagDiskless=false

/-- The latch is set by a diskful replica, and by any replica of a node that is not migrated. -/
theorem latchRows_iff (rdName : String) (state : RdLatchState) (rows : List ResourceRow) :
    ((latchRows d rdName state rows).adopted || (latchRows d rdName state rows).heldByAbsentNode)=true ↔
      (state.adopted || state.heldByAbsentNode)=true ∨
      ∃row∈rows,(row.resourceName=rdName ∧ row.snapshotName="" ∧ row.has resourceFlagDelete=false) ∧
        (convertedNode d row.nodeName=false ∨ row.has resourceFlagDiskless=false) := by
  induction rows generalizing state with
  | nil => simp [latchRows]
  | cons row rows ih =>
    rw [latchRows]
    simp only [List.exists_mem_cons_iff]
    split_ifs
    case neg => grind
    all_goals
      rw [ih]
      grind

theorem initialized_iff (rdName : String) :
    ((rdInitializedLatch d rdName).adopted || (rdInitializedLatch d rdName).heldByAbsentNode)=true ↔
      HoldsData d rdName ∨ ∃row,Live d rdName row ∧ convertedNode d row.nodeName=false := by
  rw [rdInitializedLatch,latchRows_iff]
  unfold HoldsData Live
  grind

/-- The latch is exact where a definition without data has no replica on a node that stays behind. -/
theorem latch_exact_iff (rdConvertible : DefinitionRow → Bool) :
    (∀rd∈convertResourceDefinitions d rdConvertible,rd.initialized=true ↔ HoldsData d rd.source) ↔
    ∀rd∈convertResourceDefinitions d rdConvertible,HoldsData d rd.source ∨
      ∀row,Live d rd.source row → convertedNode d row.nodeName=true := by
  have hlatch : ∀rd∈convertResourceDefinitions d rdConvertible,rd.initialized=true ↔
      HoldsData d rd.source ∨ ∃row,Live d rd.source row ∧ convertedNode d row.nodeName=false := by
    intro rd hrd
    obtain ⟨row,_,rfl⟩ := List.mem_map.mp hrd
    exact initialized_iff d row.resourceName
  refine forall₂_congr fun rd hrd => ?_
  rw [hlatch rd hrd]
  grind

/-- A witness on a node that the dump does not have. -/
def strayWitness : Dump where
  nodes := []
  resources := [⟨"b","pvc","",388⟩]
  definitions := [⟨"pvc",""⟩]
  storVols := []
  poolDsp := id

theorem stray_witness_latches : ¬∀rd∈convertResourceDefinitions strayWitness fun _ => true,
    rd.initialized=true ↔ HoldsData strayWitness rd.source := by
  intro h
  obtain ⟨row,⟨hrow,_⟩,hdisk⟩ := (h ⟨"pvc",true⟩ (.head _)).mp rfl
  obtain rfl := List.mem_singleton.mp hrow
  exact absurd hdisk (by decide)

end Blockstor.Migrate
