import Blockstor.Store.LeftoverReads
import Blockstor.Store.Rollback

namespace Blockstor.Store

open Framework Shell Text Rest

/-- How far a rollback has come. It is `held` from the moment it has read the definition as not
adopted until it writes the step it starts with, or takes its mark off. -/
inductive Stage
  | fresh
  | held
  | over
  deriving DecidableEq

namespace Stage

variable (rdName : String) (m : Stage)

def reads : Except Err Definition → Stage
  | .ok d => if m=.fresh ∧ d.props.restoreAdopted=none then .held else m
  | .error .notFound => if m=.fresh then .held else m
  | .error _ => m

def next : (c : Cmd) → Answer c → Stage
  | ⟨_,.getDefinition name⟩,a => if fold name=fold rdName then m.reads a else m
  | ⟨_,.patchDefinition _ (.enterDestructive _)⟩,_ => .over
  | ⟨_,.patchDefinition _ .releaseInProgress⟩,_ => .over
  | ⟨_,.patchDefinition _ (.setRollbackMark step)⟩,_ => if step=some .inProgress then m else .over
  | _,_ => m

def may : Cmd → Prop
  | ⟨_,.patchDefinition name (.enterDestructive step)⟩ =>
      fold name=fold rdName ∧ m=.held ∧ step≠.inProgress
  | _ => True

end Stage

def Listed : (c : Cmd) → Answer c → Prop
  | ⟨_,.listReplicas _⟩,.error e => e≠.notFound
  | _,_ => True

def holding (rdName : String) : Protocol Answer Stage where
  start := .fresh
  next := Stage.next rdName
  may := Stage.may rdName
  possible := Listed

section

variable {rdName : String} {α β : Type}

theorem calm_held : Calm (holding rdName) .held where
  getDefinition _ name := by
    refine ⟨trivial,fun a _ => ?_⟩
    change (if fold name=fold rdName then Stage.held.reads a else .held)=.held
    split
    · rcases a with e|d
      · cases e <;> rfl
      · rfl
    · rfl
  listVolumes _ _ := ⟨trivial,fun _ _ => rfl⟩
  listReplicas _ _ := ⟨trivial,fun a ha => ⟨rfl,fun h => by subst h; exact ha rfl⟩⟩

def Free (rdName : String) (p : Prog α) : Prop := p.Advances (holding rdName) fun _ _ => True

theorem free_pure (a : α) : Free rdName (pure a) := fun _ => trivial

theorem free_throw (e : Err) : Free rdName (throw e : Prog α) := fun _ => trivial

theorem free_lift (a : Except Err α) : Free rdName (lift a) := by
  cases a with
  | ok a => exact free_pure a
  | error e => exact free_throw e

theorem Free.bind {p : Prog α} {f : α → Prog β} (hp : Free rdName p)
    (hf : ∀a,Free rdName (f a)) : Free rdName (p >>= f) :=
  Advances.bind (fun _ _ _ _ _ => trivial) hp hf

theorem Free.attempt {p : Prog α} (hp : Free rdName p) : Free rdName (p.attempt : Prog _) :=
  Advances.attempt hp

variable (ctx : Option Nat) (name : String)

theorem free_ask (op : Op) (h : ∀name step,op≠.patchDefinition name (.enterDestructive step)) :
    Free rdName (ask ctx op) := by
  refine fun m => ⟨?_,fun _ _ => trivial⟩
  cases op with
  | patchDefinition name patch =>
    cases patch with
    | enterDestructive step => exact absurd rfl (h name step)
    | _ => trivial
  | _ => trivial

theorem free_unlessMissing (answer : Except Err α) {missing : Prog β} {f : α → Prog β}
    (hmissing : Free rdName missing) (hf : ∀a,Free rdName (f a)) :
    Free rdName (unlessMissing answer missing f) := by
  cases answer with
  | ok a => exact hf a
  | error e =>
    cases e with
    | notFound => exact hmissing
    | _ => exact free_throw _

theorem free_withTimeout {budget : Nat} : Free rdName (withTimeout budget) :=
  (free_ask none .now nofun).bind fun _ => free_pure _

theorem free_withinTimeout {budget : Nat} : Free rdName (withinTimeout ctx budget) :=
  (free_ask none .now nofun).bind fun _ => free_pure _

def Refuses (rdName : String) (p : Prog α) : Prop :=
  ∀m,p.Follows (holding rdName) m fun r _ => ∀a,r≠.ok a

theorem Refuses.free {p : Prog α} (h : Refuses rdName p) : Free rdName p :=
  fun m => (h m).mono fun _ _ _ => trivial

theorem refuses_throw {e : Err} : Refuses rdName (throw e : Prog α) := fun _ _ => nofun

theorem Refuses.of_bind {p : Prog α} {f : α → Prog β} (hp : Free rdName p)
    (hf : ∀a,Refuses rdName (f a)) : Refuses rdName (p >>= f) := fun m =>
  (hp m).bind (fun a m _ => hf a m) fun _ _ _ _ h => by cases h

variable (why : Err) (needReplica : Bool) (step : RollbackMark) (scope : RollbackScope) (cascade : Cascade)

theorem refuses_standDown : Refuses rdName (standDown ctx name why) := by
  have hrelease : Free rdName (releaseInProgress ctx name) :=
    (free_ask ctx (.patchDefinition name .releaseInProgress) nofun).bind fun a =>
      free_unlessMissing a (free_pure _) fun _ => free_pure _
  refine Refuses.of_bind hrelease.attempt fun r => ?_
  cases r <;> exact refuses_throw

theorem free_markNotOursOrBehind (standDown : Err → Prog Unit) (h : ∀e,Free rdName (standDown e)) :
    Free rdName (markNotOursOrBehind ctx name standDown) := by
  refine (free_ask ctx (.getDefinition name) nofun).bind fun a => ?_
  rcases a with e|live
  · cases e with
    | notFound => exact free_throw _
    | _ => exact h _
  · change Free rdName (if live.props.rollbackAbandoned≠some .inProgress then _ else _)
    split
    · exact free_throw _
    · exact h _

theorem free_entered {standDown : Err → Prog Unit}
    (h : ∀e,Free rdName (standDown e)) (a : Except Err Bool) :
    Free rdName (entered ctx name standDown a) := by
  rcases a with e|_
  · cases e with
    | notFound => exact free_throw _
    | rollbackMarkNotOurs => exact free_markNotOursOrBehind ctx name standDown h
    | _ => exact h _
  · exact free_pure _

theorem free_setRollbackMark (step : Option RollbackMark) :
    Free rdName (setRollbackMark ctx name step) :=
  (free_ask ctx (.patchDefinition name (.setRollbackMark step)) nofun).bind fun a =>
    (free_lift a).bind fun _ => free_pure _

theorem markInProgress_follows :
    (setRollbackMark ctx rdName (some .inProgress)).Follows (holding rdName) .fresh
      fun _ m => m=.fresh :=
  ⟨trivial,fun a _ => by cases a <;> rfl⟩

theorem adoptedElsewhere_follows : (adoptedElsewhere ctx rdName).Follows (holding rdName) .fresh
      fun r m => r=.ok false → m=.held := by
  refine ⟨trivial,fun a _ => ?_⟩
  change Follows (holding rdName) (unlessMissing a (pure false) _)
    (if fold rdName=fold rdName then Stage.fresh.reads a else .fresh) _
  rw [if_pos rfl]
  rcases a with e|d
  · cases e with
    | notFound => exact fun _ => rfl
    | _ => exact fun h => by cases h
  · change Except.ok d.props.restoreAdopted.isSome=.ok false → Stage.fresh.reads (.ok d)=.held
    intro h
    have hnone : d.props.restoreAdopted=none := by simpa using Except.ok.inj h
    rw [Stage.reads,if_pos ⟨rfl,hnone⟩]

theorem readsAsFinished_follows :
    (readsAsFinished ctx rdName needReplica).Follows (holding rdName) .held
      fun _ m => m=.held :=
  (quiet_readsAsFinished calm_held ctx rdName needReplica).mono fun _ _ h => h.1

theorem holdRollback_follows :
    (holdRollback ctx rdName needReplica).Follows (holding rdName) .fresh
      fun r m => r=.ok () → m=.held := by
  have hdown (e : Err) (m : Stage) : (standDown ctx rdName e).Follows (holding rdName) m
      fun r m => r=.ok () → m=.held :=
    (refuses_standDown ctx rdName e m).mono fun r _ h hr => absurd hr (h ())
  refine (markInProgress_follows ctx).attempt.bind (fun r m hm => ?_) fun _ _ _ h => by cases h
  obtain ⟨r,hr,rfl⟩ := hm
  cases hr
  rcases r with e|_
  · cases e with
    | notFound => exact fun h => by cases h
    | _ => exact hdown _ _
  refine (adoptedElsewhere_follows ctx).attempt.bind (fun r m hm => ?_) fun _ _ _ h => by cases h
  obtain ⟨r,hr,hm⟩ := hm
  cases hr
  rcases r with e|adopted
  · exact hdown _ _
  cases adopted with
  | true => exact hdown _ _
  | false =>
    rw [hm rfl]
    refine (readsAsFinished_follows ctx needReplica).attempt.bind (fun r m hm => ?_)
      fun _ _ _ h => by cases h
    obtain ⟨r,hr,rfl⟩ := hm
    cases hr
    rcases r with e|finished
    · exact hdown _ _
    · cases finished with
      | true => exact hdown _ _
      | false => exact fun _ => rfl

theorem rollbackRestore_follows :
    (rollbackRestore rdName).Follows (holding rdName) .fresh fun _ _ => True := by
  refine ⟨trivial,fun now _ => ?_⟩
  refine (holdRollback_follows (some (now+cliRollbackBudget)) true).bind (fun _ m hm => ?_)
    fun _ _ _ => trivial
  rw [hm rfl]
  have hrelease (e : Err) : Free rdName (do
      releaseRollback (some (now+cliRollbackBudget)) rdName
      throw e : Prog Unit) :=
    Free.bind ((free_ask _ (.patchDefinition rdName (.setRollbackMark none))
      fun _ _ h => by cases h).bind fun a => free_unlessMissing a (free_pure _) fun _ => free_pure _)
        fun _ => free_throw _
  refine ⟨⟨rfl,rfl,fun h => by cases h⟩,fun a _ => ?_⟩
  refine ((free_entered _ rdName (fun e => (refuses_standDown _ rdName e).free) a).bind
    fun _ => ?_) _
  refine (free_ask _ (.deleteDefinition rdName) fun _ _ h => by cases h).bind fun a => ?_
  rcases a with e|_
  · cases e with
    | notFound => exact free_pure _
    | _ => exact hrelease _
  · exact free_pure _

theorem free_clearRollbackMark (n : Nat) : Free rdName (clearRollbackMark ctx rdName n) := by
  have haway : Free rdName (patchRollbackMarkAway ctx rdName) :=
    (free_withinTimeout ctx).bind fun markCtx =>
      (free_ask markCtx (.patchDefinition rdName .releaseInProgress) nofun).bind fun a =>
        (free_lift a).bind fun _ => free_pure _
  induction n with
  | zero => exact free_pure _
  | succ n ih =>
    refine haway.attempt.bind fun r => ?_
    have hagain (e : Err) : Free rdName (do
        let now ← ask none .now
        if n=0 ∨ (ctx.any fun d => d<now) then throw e
        else clearRollbackMark ctx rdName n) := by
      refine (free_ask none .now nofun).bind fun now => ?_
      split
      · exact free_throw e
      · exact ih
    rcases r with e|_
    · cases e with
      | notFound => exact free_pure _
      | _ => exact hagain _
    · exact free_pure _

theorem refuses_standDownAt : Refuses rdName (standDownAt ctx rdName why) := by
  refine Refuses.of_bind (free_clearRollbackMark ctx 3).attempt fun r => ?_
  cases r <;> exact refuses_throw

theorem free_markRollbackAbandoned :
    Free rdName (markRollbackAbandoned ctx rdName step) :=
  (free_withinTimeout ctx).bind fun markCtx => free_setRollbackMark markCtx rdName (some step)

theorem free_stoppedAt : Free rdName (stoppedAt ctx rdName step) :=
  (free_markRollbackAbandoned ctx step).attempt.bind fun _ => free_throw _

theorem free_rollBackMaterialisedRD :
    Free rdName (rollBackMaterialisedRD ctx rdName cascade) := by
  cases cascade with
  | reaped =>
    refine (free_ask ctx (.deleteDefinition rdName) nofun).bind fun a => ?_
    rcases a with e|_
    · cases e <;> exact free_pure _
    · exact free_pure _
  | _ => exact free_pure _

theorem readsFinished_follows :
    (readsFinished ctx rdName scope).Follows (holding rdName) .held
      fun _ m => m=.held := by
  unfold readsFinished
  split
  · rfl
  · exact readsAsFinished_follows ctx _

theorem refuseRollbackOverSnapshots_follows :
    (refuseRollbackOverSnapshots ctx rdName).Follows (holding rdName) .held
      fun _ m => m=.held := by
  refine ⟨trivial,fun a _ => ?_⟩
  rcases a with e|list
  · cases e <;> rfl
  · rfl

theorem rollBackCompensating_follows :
    (rollBackCompensating rdName scope cascade).Follows (holding rdName) .fresh
      fun _ _ => True := by
  refine ⟨trivial,fun now _ => ?_⟩
  let ctx := some (now+detachedRollbackBudget)
  have hdown (e : Err) (m : Stage) : (standDownAt ctx rdName e).Follows (holding rdName) m
      fun _ _ => True := (refuses_standDownAt ctx e).free m
  have hmark : (markRollbackAbandoned ctx rdName .inProgress).Follows (holding rdName) .fresh
      fun _ m => m=.fresh := ⟨trivial,fun _ _ => markInProgress_follows _⟩
  refine hmark.attempt.bind (fun r m hm => ?_) fun _ _ _ => trivial
  obtain ⟨r,hr,rfl⟩ := hm
  cases hr
  rcases r with e|_
  · cases e with
    | notFound => trivial
    | _ => exact hdown _ _
  refine (adoptedElsewhere_follows ctx).attempt.bind (fun r m hm => ?_) fun _ _ _ => trivial
  obtain ⟨r,hr,hm⟩ := hm
  cases hr
  rcases r with e|adopted
  · exact hdown _ _
  cases adopted with
  | true => exact hdown _ _
  | false =>
    rw [hm rfl]
    refine (readsFinished_follows ctx scope).attempt.bind (fun r m hm => ?_) fun _ _ _ => trivial
    obtain ⟨r,hr,rfl⟩ := hm
    cases hr
    rcases r with e|finished
    · exact hdown _ _
    cases finished with
    | true => exact hdown _ _
    | false =>
      refine (refuseRollbackOverSnapshots_follows ctx).bind (fun refusal m hm => ?_)
        fun _ _ _ => trivial
      subst hm
      cases refusal with
      | some step => exact free_stoppedAt ctx step _
      | none =>
        have henter : (Rest.enterDestructiveRollback ctx rdName).Follows (holding rdName) .held
            fun _ _ => True :=
          ⟨trivial,fun _ _ => ⟨⟨rfl,rfl,nofun⟩,fun a _ =>
            free_entered ctx rdName (fun e => (refuses_standDownAt ctx e).free) a _⟩⟩
        refine henter.attempt.bind (fun r m _ => ?_) fun _ _ _ => trivial
        rcases r with e|_
        · cases e <;> trivial
        · refine ((free_rollBackMaterialisedRD ctx cascade).bind fun step => ?_) m
          cases step with
          | some step => exact free_stoppedAt ctx step
          | none => exact free_pure _

theorem free_claimAdoptedLeftover (snap : Option (List VolumeDef)) :
    Free rdName (claimAdoptedLeftover rdName snap) := by
  refine (free_ask none .token nofun).bind fun token =>
    (free_ask none (.patchDefinition rdName (.claim token snap)) nofun).bind fun a => ?_
  have hlanded : Free rdName (claimLanded rdName token) := by
    refine free_withTimeout.bind fun ctx =>
      (free_ask ctx (.getDefinition rdName) nofun).bind fun a => ?_
    cases a <;> exact free_pure _
  have hcheck (e : Err) : Free rdName (do
      if ← claimLanded rdName token then ask none (.reach (.claimSucceeded token)) else throw e) := by
    refine hlanded.bind fun landed => ?_
    split
    · exact free_ask none (.reach (.claimSucceeded token)) nofun
    · exact free_throw e
  rcases a with e|_
  · cases e with
    | adoptedLeftoverRollingBack => exact free_throw _
    | _ => exact hcheck _
  · exact free_ask none (.reach (.claimSucceeded token)) nofun

theorem free_takeOverStaleRollback : Free rdName (takeOverStaleRollback rdName) :=
  (free_ask none .now nofun).bind fun now =>
    (free_ask none (.patchDefinition rdName (.takeOverStale now)) nofun).bind fun a =>
      free_unlessMissing a (free_pure _) fun _ => free_pure _

end

end Blockstor.Store
