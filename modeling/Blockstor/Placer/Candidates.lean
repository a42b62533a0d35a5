import Blockstor.Placer.Topology

namespace Blockstor.Placer

open Framework Shell

/-- What the placer takes from the standard library: `strconv.ParseFloat` and `regexp.Compile`
with `MatchString`; both may refuse their input. -/
structure Lib where
  parseFloat : String → Option Float
  compile : String → Option (String → Bool)

def storagePoolKindDiskless : String := "DISKLESS"

def storagePoolKindLVM : String := "LVM"

def storagePoolKindLVMThin : String := "LVM_THIN"

def storagePoolKindZFS : String := "ZFS"

def storagePoolKindZFSThin : String := "ZFS_THIN"

def storagePoolKindFile : String := "FILE"

def storagePoolKindFileThin : String := "FILE_THIN"

/-- The values `strconv.ParseBool` reads as false. -/
def falseSpellings : List String := ["0","f","F","FALSE","false","False"]

def propAutoplaceTarget : String := "AutoplaceTarget"

def disabledNodes (nodes : List Node) : List String :=
  (nodes.filter (·.disabled)).map (·.name)

def autoplaceExcludedNodes (nodes : List Node) (disabled : List String) : List String :=
  disabled++(nodes.filter fun n =>
    (n.props.lookup propAutoplaceTarget).any falseSpellings.contains).map (·.name)

def matchesPoolFilter (pool : StoragePool) (filter : AutoSelectFilter) (disabled : List String) :
    Bool :=
  pool.providerKind≠storagePoolKindDiskless && !disabled.contains pool.nodeName &&
    !pool.poolMissing &&
    (filter.storagePool="" || pool.storagePoolName=filter.storagePool) &&
    (filter.storagePoolList.isEmpty || filter.storagePoolList.contains pool.storagePoolName) &&
    (filter.nodeNameList.isEmpty || filter.nodeNameList.contains pool.nodeName) &&
    (filter.providerList.isEmpty || filter.providerList.contains pool.providerKind)

section Oversubscription

variable (lib : Lib)

def propOversubMaster : String := "MaxOversubscriptionRatio"

def propOversubFree : String := "MaxFreeCapacityOversubscriptionRatio"

def propOversubTotal : String := "MaxTotalCapacityOversubscriptionRatio"

def defaultOversubRatio : Float := 20.0

def parseOversubRatio (raw : String) : Option Float :=
  if raw="" then none
  else (lib.parseFloat raw).filter fun r => !(decide (r ≤ 0) || r.isNaN || r.isInf)

def lookupOversubRatio (poolProps ctrlProps : Props) (key : String) : Option Float :=
  (parseOversubRatio lib (poolProps.get key)).orElse fun _ =>
    parseOversubRatio lib (ctrlProps.get key)

def maxInt64 : Int := 2^63-1

def scaleClampOversub (size : Int) (ratio : Float) : Int :=
  if size ≤ 0 ∨ ratio ≤ 0 then 0
  else
    let scaled := Float.ofInt size*ratio
    if scaled ≥ Float.ofInt maxInt64 then maxInt64 else scaled.toInt64.toInt

def isThinForOversub (kind : String) : Bool :=
  kind=storagePoolKindLVMThin || kind=storagePoolKindZFSThin || kind=storagePoolKindFileThin

def attributeRatio (specific : OversubRatioKind) (own overall : Option Float) : OversubRatioKind :=
  if own.isNone && overall.isSome then .maxOversubscriptionRatio else specific

variable (pool : StoragePool) (ctrlProps : Props) (minFreeKib : Int)

def effectiveOversubCaps : Int × OversubRatioKind × Float :=
  if !isThinForOversub pool.providerKind then
    (pool.freeCapacity,.maxFreeCapacityOversubscriptionRatio,1.0)
  else
    let overall := lookupOversubRatio lib pool.props ctrlProps propOversubMaster
    let free := lookupOversubRatio lib pool.props ctrlProps propOversubFree
    let total := lookupOversubRatio lib pool.props ctrlProps propOversubTotal
    let freeRatio := free.getD (overall.getD defaultOversubRatio)
    let totalRatio := total.getD (overall.getD defaultOversubRatio)
    let freeCap := scaleClampOversub pool.freeCapacity freeRatio
    let totalCap := scaleClampOversub pool.totalCapacity totalRatio
    if pool.totalCapacity=0 then
      (freeCap,attributeRatio .maxFreeCapacityOversubscriptionRatio free overall,freeRatio)
    else if totalCap<freeCap then
      (totalCap,attributeRatio .maxTotalCapacityOversubscriptionRatio total overall,totalRatio)
    else (freeCap,attributeRatio .maxFreeCapacityOversubscriptionRatio free overall,freeRatio)

structure CandidateGates where
  maxFreeBelow : Int
  oversubBest : Option OversubscriptionShortfall

def CandidateGates.empty : CandidateGates := ⟨0,none⟩

def oversubMiss (gates : CandidateGates) : CandidateGates :=
  let (capKib,kind,ratioValue) := effectiveOversubCaps lib pool ctrlProps
  let miss : OversubscriptionShortfall :=
    ⟨minFreeKib,pool.storagePoolName,pool.nodeName,kind,ratioValue,capKib⟩
  if gates.oversubBest.all fun best => decide (capKib>best.effectiveCapKib) then
    {gates with oversubBest := some miss}
  else gates

def fits : Bool :=
  minFreeKib ≤ 0 || (minFreeKib ≤ pool.freeCapacity &&
    minFreeKib ≤ (effectiveOversubCaps lib pool ctrlProps).1)

def applyGate (filter : AutoSelectFilter) (disabled : List String) (ctrlProps : Props)
    (minFreeKib : Int) (acc : List StoragePool × CandidateGates) (pool : StoragePool) :
    List StoragePool × CandidateGates :=
  if !matchesPoolFilter pool filter disabled then acc
  else if minFreeKib>0 ∧ pool.freeCapacity < minFreeKib then
    (acc.1,{acc.2 with maxFreeBelow := max acc.2.maxFreeBelow pool.freeCapacity})
  else if minFreeKib>0 ∧ (effectiveOversubCaps lib pool ctrlProps).1 < minFreeKib then
    (acc.1,oversubMiss lib pool ctrlProps minFreeKib acc.2)
  else (acc.1++[pool],acc.2)

def applyCapacityAndOversubGates (all : List StoragePool) (filter : AutoSelectFilter)
    (disabled : List String) (ctrlProps : Props) (minFreeKib : Int) :
    List StoragePool × CandidateGates :=
  all.foldl (applyGate lib filter disabled ctrlProps minFreeKib) ([],.empty)

theorem applyGate_mem {filter : AutoSelectFilter} {disabled : List String} {ctrlProps : Props}
    {minFreeKib : Int} {acc : List StoragePool × CandidateGates} {pool p : StoragePool}
    (hp : p∈(applyGate lib filter disabled ctrlProps minFreeKib acc pool).1) :
    p∈acc.1 ∨ p=pool ∧ matchesPoolFilter p filter disabled=true ∧
      fits lib p ctrlProps minFreeKib=true := by
  unfold applyGate at hp
  split at hp
  · exact .inl hp
  · rename_i hfilter
    split at hp
    · exact .inl hp
    · rename_i hfree
      split at hp
      · exact .inl hp
      · rename_i hcap
        rcases List.mem_append.mp hp with hp|hp
        · exact .inl hp
        · obtain rfl := List.mem_singleton.mp hp
          refine .inr ⟨rfl,by simpa using hfilter,?_⟩
          simp only [fits,Bool.or_eq_true,Bool.and_eq_true,decide_eq_true_eq]
          omega

theorem mem_gates {all : List StoragePool} {filter : AutoSelectFilter} {disabled : List String}
    {ctrlProps : Props} {minFreeKib : Int} {p : StoragePool}
    (hp : p∈(applyCapacityAndOversubGates lib all filter disabled ctrlProps minFreeKib).1) :
    p∈all ∧ matchesPoolFilter p filter disabled=true ∧ fits lib p ctrlProps minFreeKib=true := by
  have h : ∀(all : List StoragePool) (acc : List StoragePool × CandidateGates),
      p∈(all.foldl (applyGate lib filter disabled ctrlProps minFreeKib) acc).1 →
      p∈acc.1 ∨ p∈all ∧ matchesPoolFilter p filter disabled=true ∧
        fits lib p ctrlProps minFreeKib=true := by
    intro all
    induction all with
    | nil => exact fun acc hp => .inl hp
    | cons pool all ih =>
      intro acc hp
      rcases ih _ hp with hp|⟨hmem,hp⟩
      · rcases applyGate_mem lib hp with hp|⟨rfl,hpool⟩
        · exact .inl hp
        · exact .inr ⟨.head _,hpool⟩
      · exact .inr ⟨.tail _ hmem,hp⟩
  rcases h all ([],.empty) hp with hp|hp
  · cases hp
  · exact hp

end Oversubscription

section Ranking

variable (lib : Lib)

structure Weights where
  maxFreeSpace : Float
  minReservedSpace : Float
  minRscCount : Float
  maxThroughput : Float

def parseWeight (raw : String) : Float :=
  if raw="" then 1.0
  else
    match lib.parseFloat raw with
    | none => 1.0
    | some w => if w<0 then 0 else w

def loadWeights (props : Props) : Weights where
  maxFreeSpace := parseWeight lib (props.get "Autoplacer/Weights/MaxFreeSpace")
  minReservedSpace := parseWeight lib (props.get "Autoplacer/Weights/MinReservedSpace")
  minRscCount := parseWeight lib (props.get "Autoplacer/Weights/MinRscCount")
  maxThroughput := parseWeight lib (props.get "Autoplacer/Weights/MaxThroughput")

variable (pool : StoragePool)

def reservedKib : Int :=
  max 0 ((Text.parseInt64 (pool.props.get "Aux/blockstor.io/reserved-kib")).getD 0)

def throughputHint : Float :=
  if pool.props.get "Autoplacer/MaxThroughput"="" then 0
  else
    match lib.parseFloat (pool.props.get "Autoplacer/MaxThroughput") with
    | none => 0
    | some v => if v<0 then 0 else v

variable (pools : List StoragePool) (w : Weights)

def composite (rscPerNode : String → Nat) (maxThroughput : Float) : Float :=
  let score : Float := 0.0
  let score := if w.maxFreeSpace>0 ∧ pool.totalCapacity>0 then
    score+w.maxFreeSpace*(Float.ofInt pool.freeCapacity/Float.ofInt pool.totalCapacity) else score
  let score := if w.minReservedSpace>0 ∧ pool.totalCapacity>0 then
    score+w.minReservedSpace*
      (1.0-Float.ofInt (min (reservedKib pool) pool.totalCapacity)/Float.ofInt pool.totalCapacity)
    else score
  let score := if w.minRscCount>0 then
    score+w.minRscCount*(1.0/Float.ofNat (1+rscPerNode pool.nodeName)) else score
  if w.maxThroughput>0 ∧ maxThroughput>0 then
    score+w.maxThroughput*(throughputHint lib pool/maxThroughput) else score

/-- The comparison reads the pools as they stand and the scores as they were before the first
swap. -/
def ranksBefore (scores : Array Float) : SliceStable.Less StoragePool := fun pools i j =>
  if scores.getD i 0 != scores.getD j 0 then decide (scores.getD i 0>scores.getD j 0)
  else
    match pools[i]?,pools[j]? with
    | some p,some q => decide (p.nodeName<q.nodeName)
    | _,_ => false

def rankCandidates (rscPerNode : String → Nat) :
    List StoragePool :=
  if pools.length<2 then pools
  else
    let maxThroughput := pools.foldl (fun m p =>
      if throughputHint lib p>m then throughputHint lib p else m) 0.0
    let scores := (pools.map fun p => composite lib p w rscPerNode maxThroughput).toArray
    (SliceStable.sliceStable (ranksBefore scores) pools.toArray).toList

theorem rankCandidates_perm (rscPerNode : String → Nat) :
    (rankCandidates lib pools w rscPerNode).Perm pools := by
  unfold rankCandidates
  split
  · exact .rfl
  · exact SliceStable.sliceStable_perm pools.toArray

end Ranking

variable (lib : Lib)

def candidatePools (filter : AutoSelectFilter) (minFreeKib : Int) :
    Prog (List StoragePool × CandidateGates) := do
  let all ← wrapped "list storage pools" .listPools
  let nodes ← wrapped "list nodes" .listNodes
  let nodes' ← wrapped "list nodes" .listNodes
  let ctrlProps ← wrapped "get controller props" .controllerProps
  let gated := applyCapacityAndOversubGates lib all filter
    (autoplaceExcludedNodes nodes' (disabledNodes nodes)) ctrlProps minFreeKib
  let props ← wrapped "get controller props" .controllerProps
  let resources ← wrapped "list resources" .listResources
  pure (rankCandidates lib gated.1 (loadWeights lib props)
    fun node => resources.countP fun r => r.nodeName=node,gated.2)

section Mixing

def isThinCrossKindPair (left right : String) : Bool :=
  (left=storagePoolKindLVMThin && right=storagePoolKindZFSThin) ||
    (left=storagePoolKindZFSThin && right=storagePoolKindLVMThin)

def isMixingAllowedDirected (kind1 kind2 : String) : Bool :=
  if kind1=storagePoolKindFile ∨ kind1=storagePoolKindFileThin then
    kind2=storagePoolKindFile || kind2=storagePoolKindFileThin || kind2=storagePoolKindDiskless
  else if kind1=storagePoolKindZFS ∨ kind1=storagePoolKindZFSThin then
    kind2=storagePoolKindZFS || kind2=storagePoolKindZFSThin
  else false

def isProviderKindMixingAllowed (left right : String) (allowMixing : Bool) : Bool :=
  left=storagePoolKindDiskless || right=storagePoolKindDiskless || left=right ||
    isMixingAllowedDirected left right || isMixingAllowedDirected right left ||
    (allowMixing && isThinCrossKindPair left right)

end Mixing

end Blockstor.Placer
