import Blockstor.Store.Leftover

namespace Blockstor.Store

open Framework Shell

def cliRollbackBudget : Nat := minute

def claimReadBackBudget : Nat := 2*second

def cacheRetryAttempts : Nat := 3

def cacheRetryDelay : Nat := 200*1000000

def cacheConvergeBudget : Nat := 5*second

def groupRecheckBudget : Nat := cacheRetryAttempts*cacheRetryDelay

def rollbackWriteBudget : Nat := 2*second

def markWriteBudget : Nat := second

def detachedRollbackBudget : Nat :=
  groupRecheckBudget+2*cacheConvergeBudget+rollbackWriteBudget+3*markWriteBudget

theorem rollback_budgets_lt_stale : cliRollbackBudget<staleRollbackAfter ∧
    detachedRollbackBudget<staleRollbackAfter := by decide

variable (ctx : Option Nat) (rdName : String)

def withinTimeout (budget : Nat) : Prog (Option Nat) := do
  let now ← ask none .now
  pure (some (ctx.elim (now+budget) (min (now+budget))))

def setRollbackMark (ctx : Option Nat) (rdName : String) (step : Option RollbackMark) :
    Prog Unit := do
  let _ ← lift (← ask ctx (.patchDefinition rdName (.setRollbackMark step)))
  pure ()

def releaseInProgress (ctx : Option Nat) (rdName : String) : Prog Unit := do
  unlessMissing (← ask ctx (.patchDefinition rdName .releaseInProgress)) (pure ()) fun _ => pure ()

def standDown (why : Err) : Prog Unit := do
  match ← (releaseInProgress ctx rdName).attempt with
  | .ok () => throw why
  | .error _ => throw (.rollbackMarkStuck why)

def adoptedElsewhere : Prog Bool := do
  unlessMissing (← ask ctx (.getDefinition rdName)) (pure false) fun rd =>
    pure rd.props.restoreAdopted.isSome

def holdRollback (needReplica : Bool) : Prog Unit := do
  match ← (setRollbackMark ctx rdName (some .inProgress)).attempt with
  | .error .notFound => throw .rollbackGone
  | .error e => standDown ctx rdName e
  | .ok () =>
    match ← (adoptedElsewhere ctx rdName).attempt with
    | .error e => standDown ctx rdName e
    | .ok true => standDown ctx rdName .rollbackYielded
    | .ok false =>
      match ← (readsAsFinished ctx rdName needReplica).attempt with
      | .error e => standDown ctx rdName e
      | .ok true => standDown ctx rdName .rollbackAnswered
      | .ok false => pure ()

/-- The API server decides whether a step write that was refused read a mark that is gone, or a
definition older than the mark. -/
def markNotOursOrBehind (standDown : Err → Prog Unit) : Prog Unit := do
  match ← ask ctx (.getDefinition rdName) with
  | .error .notFound => throw .rollbackGone
  | .error e => standDown e
  | .ok live =>
    if live.props.rollbackAbandoned≠some .inProgress then throw .rollbackMarkNotOurs
    else standDown .markReadBehind

def entered (standDown : Err → Prog Unit) : Except Err Bool → Prog Unit
  | .ok _ => pure ()
  | .error .notFound => throw .rollbackGone
  | .error .rollbackMarkNotOurs => markNotOursOrBehind ctx rdName standDown
  | .error e => standDown e

def enterDestructiveRollback (step : RollbackMark) : Prog Unit := do
  entered ctx rdName (standDown ctx rdName)
    (← ask ctx (.patchDefinition rdName (.enterDestructive step)))

def releaseRollback : Prog Unit := do
  unlessMissing (← ask ctx (.patchDefinition rdName (.setRollbackMark none))) (pure ())
    fun _ => pure ()

def rollbackRestore : Prog Unit := do
  let ctx ← withTimeout cliRollbackBudget
  holdRollback ctx rdName true
  enterDestructiveRollback ctx rdName .deleteDefinition
  match ← ask ctx (.deleteDefinition rdName) with
  | .ok () => pure ()
  | .error .notFound => pure ()
  | .error e => do
    releaseRollback ctx rdName
    throw e

namespace Rest

inductive RollbackScope
  | evenIfFinished
  | unlessPlaced
  | unlessHydrated
  deriving DecidableEq

variable (ctx : Option Nat) (rdName : String)

variable (step : RollbackMark) (scope : RollbackScope)

def markRollbackAbandoned : Prog Unit := do
  let markCtx ← withinTimeout ctx markWriteBudget
  setRollbackMark markCtx rdName (some step)

def patchRollbackMarkAway : Prog Unit := do
  let markCtx ← withinTimeout ctx markWriteBudget
  let _ ← lift (← ask markCtx (.patchDefinition rdName .releaseInProgress))
  pure ()

/-- The attempts to take the mark off: until one lands, the definition is gone, or the context is
over. -/
def clearRollbackMark (ctx : Option Nat) (rdName : String) : Nat → Prog Unit
  | 0 => pure ()
  | n+1 => do
    match ← (patchRollbackMarkAway ctx rdName).attempt with
    | .ok () => pure ()
    | .error .notFound => pure ()
    | .error e => do
      let now ← ask none .now
      if n=0 ∨ (ctx.any fun d => d<now) then throw e else clearRollbackMark ctx rdName n

/-- Both `leftWhole` and `standDownAt`: the mark is taken off, and `why` is answered. -/
def standDownAt (why : Err) : Prog Unit := do
  match ← (clearRollbackMark ctx rdName 3).attempt with
  | .ok () => throw why
  | .error _ => throw (.rollbackMarkStuck why)

def enterDestructiveRollback : Prog Unit := do
  let markCtx ← withinTimeout ctx markWriteBudget
  entered ctx rdName (standDownAt ctx rdName)
    (← ask markCtx (.patchDefinition rdName (.enterDestructive .reapReplicas)))

def refuseRollbackOverSnapshots : Prog (Option RollbackMark) := do
  match ← ask ctx (.cachedSnapshots rdName) with
  | .error .notFound => pure none
  | .error _ => pure (some .readSnapshots)
  | .ok snaps => pure (if snaps.isEmpty then none else some .snapshots)

inductive Cascade
  | reaped
  | reapReplicas
  | rereadReplicas
  deriving DecidableEq

def rollBackMaterialisedRD : Cascade → Prog (Option RollbackMark)
  | .reapReplicas => pure (some .reapReplicas)
  | .rereadReplicas => pure (some .rereadReplicas)
  | .reaped => do
    match ← ask ctx (.deleteDefinition rdName) with
    | .ok () => pure none
    | .error .notFound => pure none
    | .error _ => pure (some .deleteDefinition)

def stoppedAt : Prog Unit := do
  let _ ← (markRollbackAbandoned ctx rdName step).attempt
  throw (.rollbackStopped step)

def readsFinished : Prog Bool :=
  if scope=.evenIfFinished then pure false
  else readsAsFinished ctx rdName (scope=.unlessPlaced)

def rollBackCompensating (cascade : Cascade) : Prog Unit := do
  let ctx ← withTimeout detachedRollbackBudget
  match ← (markRollbackAbandoned ctx rdName .inProgress).attempt with
  | .error .notFound => pure ()
  | .error e => standDownAt ctx rdName e
  | .ok () =>
    match ← (adoptedElsewhere ctx rdName).attempt with
    | .error e => standDownAt ctx rdName e
    | .ok true => standDownAt ctx rdName .rollbackYielded
    | .ok false =>
      match ← (readsFinished ctx rdName scope).attempt with
      | .error e => standDownAt ctx rdName e
      | .ok true => standDownAt ctx rdName .rollbackAnswered
      | .ok false =>
        match ← refuseRollbackOverSnapshots ctx rdName with
        | some step => stoppedAt ctx rdName step
        | none =>
          match ← (enterDestructiveRollback ctx rdName).attempt with
          | .error .rollbackGone => pure ()
          | .error e => throw e
          | .ok () =>
            match ← rollBackMaterialisedRD ctx rdName cascade with
            | some step => stoppedAt ctx rdName step
            | none => pure ()

end Rest

def claimLanded (token : Nat) : Prog Bool := do
  let ctx ← withTimeout claimReadBackBudget
  match ← ask ctx (.getDefinition rdName) with
  | .error _ => pure false
  | .ok current => pure (current.props.restoreAdopted=some token)

def claimAdoptedLeftover (snap : Option (List VolumeDef)) : Prog Unit := do
  let token ← ask none .token
  match ← ask none (.patchDefinition rdName (.claim token snap)) with
  | .ok _ => ask none (.reach (.claimSucceeded token))
  | .error .adoptedLeftoverRollingBack => throw .adoptedLeftoverRollingBack
  | .error e => do
    if ← claimLanded rdName token then ask none (.reach (.claimSucceeded token)) else throw e

def takeOverStaleRollback : Prog Bool := do
  let now ← ask none .now
  unlessMissing (← ask none (.patchDefinition rdName (.takeOverStale now))) (pure false) pure

end Blockstor.Store
