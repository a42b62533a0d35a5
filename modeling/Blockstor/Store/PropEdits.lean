import Blockstor.Framework.Dict
import Blockstor.Store.Leftover

namespace Blockstor.PropEdits

open Store Framework Shell

abbrev Props := Dict String String

section Keys

def restoreFromSnapshotProp : String := "BlockstorRestoreFromSnapshot"

def rollbackAbandonedProp : String := "BlockstorRollbackAbandoned"

def rollbackSinceProp : String := "Blockstor/RollbackSince"

def restoreAdoptedProp : String := "Blockstor/RestoreAdopted"

def restoreVolumesProp : String := "Blockstor/RestoreVolumes"

def cloneSnapshotOwnerProp : String := "Blockstor/CloneSnapshotOf"

def cloneSnapshotReapingProp : String := "Blockstor/CloneSnapshotReaping"

def serverOwnedDefinitionProps : List String :=
  [restoreFromSnapshotProp,rollbackAbandonedProp,rollbackSinceProp,restoreAdoptedProp,
    restoreVolumesProp,cloneSnapshotOwnerProp,cloneSnapshotReapingProp]

end Keys

structure PropsModify where
  overrideProps : Props
  deleteProps : List String
  deleteNamespaces : List String

section Check

def namespaceCovers (ns key : String) : Bool :=
  let ns := String.ofList (ns.toList.reverse.dropWhile (· = '/')).reverse
  ns≠"" && (Text.cutPrefix (ns++"/") key).isSome

variable (overrideProps : Props) (deleteProps : List String)

def serverOwnedPropEdit (deleteNamespaces : List String) : Option String :=
  serverOwnedDefinitionProps.find? fun key => (overrideProps.find key).isSome ||
    deleteProps.contains key || deleteNamespaces.any fun ns => namespaceCovers ns key

def clearable (k : String) : Bool :=
  k=rollbackAbandonedProp || k=rollbackSinceProp || k=restoreAdoptedProp || k=restoreFromSnapshotProp

def serverOwnedPropEditByOperator (deleteNamespaces : List String) : Option String :=
  let kept := deleteProps.filter fun k => !clearable k
  -- an override to an empty value is a delete
  let overrides := overrideProps.keep fun k => !(clearable k && overrideProps.find k=some "")
  serverOwnedPropEdit overrides kept deleteNamespaces

def deletesRestoreMarker : Bool :=
  overrideProps.find restoreFromSnapshotProp=some "" || deleteProps.contains restoreFromSnapshotProp

def refuseOwnedPropEdits (ctx : Option Nat) (name : String) (patch : PropsModify) : Prog Bool :=
  if (serverOwnedPropEditByOperator patch.overrideProps patch.deleteProps
      patch.deleteNamespaces).isSome then pure true
  else if deletesRestoreMarker patch.overrideProps patch.deleteProps then do
    match ← (restoreMarkerClearRefusal ctx name).attempt with
    | .ok () => pure false
    | .error _ => pure true
  else pure false

end Check

section Edit

def applyPropsModify (props override : Props) (del : List String) : Props :=
  let props := override.items.foldl
    (fun props x => if x.2="" then props.keep (· ≠ x.1) else props.set x.1 x.2) props
  del.foldl (fun props key => props.keep (· ≠ key)) props

def deletePropNamespaces (props : Props) (namespaces : List String) : Props :=
  namespaces.foldl (fun props ns => props.keep fun key => !namespaceCovers ns key) props

def rollbackInProgress : String := "in-progress"

def rollbackStepSnapshots : String := "snapshots"

def rollbackStepReadSnapshots : String := "read-snapshots"

def leftWhole (before : Props) : Bool :=
  ["",rollbackInProgress,rollbackStepSnapshots,rollbackStepReadSnapshots].contains
    ((before.find rollbackAbandonedProp).getD "")

inductive ModifyError
  | rollbackStepMarkKept
  deriving DecidableEq

def rollbackMarkClearRefusal (before after : Props) : Except ModifyError Unit :=
  if leftWhole before then .ok ()
  else if (after.find rollbackAbandonedProp).isSome then .ok ()
  else .error .rollbackStepMarkKept

structure ResourceDefinition where
  props : Props
  resourceGroupName : String

def applyRDModify (rd : ResourceDefinition) (patch : PropsModify) (rgChange : String) :
    Except ModifyError ResourceDefinition := do
  let props := deletePropNamespaces
    (applyPropsModify rd.props patch.overrideProps patch.deleteProps) patch.deleteNamespaces
  rollbackMarkClearRefusal rd.props props
  return {props,resourceGroupName := if rgChange≠"" then rgChange else rd.resourceGroupName}

end Edit

section Frame

variable {props override : Props} {del namespaces : List String} {k : String}

theorem find_foldl_keep {α : Type} (hits : α → String → Bool) (l : List α) (props : Props) :
    (l.foldl (fun props a => props.keep fun key => !hits a key) props).find k=
      if l.any fun a => hits a k then none else props.find k := by
  induction l generalizing props with
  | nil => rfl
  | cons a l ih =>
    rw [List.foldl_cons,ih,Dict.find_keep,List.any_cons]
    cases hits a k <;> simp

theorem find_deletePropNamespaces (hcover : ∀ns∈namespaces,namespaceCovers ns k=false) :
    (deletePropNamespaces props namespaces).find k=props.find k := by
  have hnone : (namespaces.any fun ns => namespaceCovers ns k)=false := by simpa using hcover
  unfold deletePropNamespaces
  rw [find_foldl_keep,hnone,if_neg Bool.false_ne_true]

theorem find_applyPropsModify : (applyPropsModify props override del).find k=
    if k∈del then none else
    match override.find k with
    | none => props.find k
    | some v => if v="" then none else some v := by
  have hover (n : String) : (override.items.foldl (fun props x =>
      if x.2="" then props.keep (· ≠ x.1) else props.set x.1 x.2) props).find n=
      match override.find n with
      | none => props.find n
      | some v => if v="" then none else some v := by
    -- the invariant: every key seen so far is deleted or written, the others are as they were
    refine override.foldl_items _ (fun seen props' => ∀n,props'.find n=match seen n with
      | none => props.find n
      | some v => if v="" then none else some v) props (fun _ => rfl) ?_ n
    intro seen props' key v hseen _ n
    have hn := hseen n
    by_cases hv : v="" <;> by_cases hk : n=key <;> simp [hv,hk,hn]
  have hdel := find_foldl_keep (k := k) (fun key n => decide (n=key)) del
    (override.items.foldl (fun props x =>
      if x.2="" then props.keep (· ≠ x.1) else props.set x.1 x.2) props)
  simp only [List.any_eq_true,decide_eq_true_eq,exists_eq_right',hover] at hdel
  simpa [applyPropsModify] using hdel

/-- A prop the check lets through is out of the reach of every namespace, and is edited at most by a
delete of a clearable one. -/
theorem unedited_of_accepted (h : serverOwnedPropEditByOperator override del namespaces=none)
    (hk : k∈serverOwnedDefinitionProps) : (∀ns∈namespaces,namespaceCovers ns k=false) ∧
      (clearable k=true ∧ (override.find k=none ∨ override.find k=some "") ∨
        clearable k=false ∧ override.find k=none ∧ k∉del) := by
  have hnone := List.find?_eq_none.mp h k hk
  simp only [Bool.or_eq_true,not_or,Dict.find_keep] at hnone
  obtain ⟨⟨hover,hdel⟩,hns⟩ := hnone
  refine ⟨by simpa using hns,?_⟩
  cases hc : clearable k with
  | true =>
    refine .inl ⟨rfl,?_⟩
    cases ho : override.find k with
    | none => exact .inl rfl
    | some v => simpa [hc,ho] using hover
  | false => exact .inr ⟨rfl,by simpa [hc] using hover,by simpa [hc] using hdel⟩

def KeepsOwned (before after : Props) : Prop :=
  ∀k∈serverOwnedDefinitionProps,after.find k=before.find k ∨ after.find k=none ∧
    (k=rollbackSinceProp ∨ k=restoreAdoptedProp ∨ k=restoreFromSnapshotProp ∨
      k=rollbackAbandonedProp ∧ leftWhole before=true)

theorem applyRDModify_ok {rd rd' : ResourceDefinition} {patch : PropsModify} {rgChange : String}
    (h : applyRDModify rd patch rgChange=.ok rd') :
    rd'.props=deletePropNamespaces (applyPropsModify rd.props patch.overrideProps patch.deleteProps)
      patch.deleteNamespaces ∧ rollbackMarkClearRefusal rd.props rd'.props=.ok () := by
  dsimp only [applyRDModify] at h
  cases hr : rollbackMarkClearRefusal rd.props (deletePropNamespaces
    (applyPropsModify rd.props patch.overrideProps patch.deleteProps) patch.deleteNamespaces) with
  | error e =>
    rw [hr] at h
    cases h
  | ok u =>
    rw [hr] at h
    cases h
    exact ⟨rfl,hr⟩

theorem leftWhole_of_cleared {before after : Props} (h : rollbackMarkClearRefusal before after=.ok ())
    (hnone : after.find rollbackAbandonedProp=none) : leftWhole before=true := by
  unfold rollbackMarkClearRefusal at h
  cases hw : leftWhole before with
  | true => rfl
  | false => simp [hw,hnone] at h

theorem keepsOwned_of_unedited {rd rd' : ResourceDefinition} {patch : PropsModify}
    {rgChange : String} (hedit : applyRDModify rd patch rgChange=.ok rd')
    (haccept : serverOwnedPropEditByOperator patch.overrideProps patch.deleteProps
      patch.deleteNamespaces=none) : KeepsOwned rd.props rd'.props := by
  intro k hk
  obtain ⟨hprops,hmark⟩ := applyRDModify_ok hedit
  obtain ⟨hns,hkey⟩ := unedited_of_accepted haccept hk
  have hfind : rd'.props.find k=_ :=
    (congrArg (Dict.find · k) hprops).trans ((find_deletePropNamespaces hns).trans
      find_applyPropsModify)
  rcases hkey with ⟨hc,hover⟩|⟨_,hover,hdel⟩
  · by_cases hnone : rd'.props.find k=none
    · refine .inr ⟨hnone,?_⟩
      simp only [clearable,Bool.or_eq_true,decide_eq_true_eq] at hc
      rcases hc with ((rfl|hc)|hc)|hc
      · exact .inr (.inr (.inr ⟨rfl,leftWhole_of_cleared hmark hnone⟩))
      · exact .inl hc
      · exact .inr (.inl hc)
      · exact .inr (.inr (.inl hc))
    · left
      by_cases hd : k∈patch.deleteProps
      · rw [if_pos hd] at hfind
        exact absurd hfind hnone
      · rcases hover with ho|ho
        · rw [hfind,if_neg hd,ho]
        · rw [if_neg hd,ho] at hfind
          exact absurd hfind hnone
  · rw [hfind,if_neg hdel,hover]
    exact .inl rfl

end Frame

/-- Whatever the server answers: a modify that is not refused and goes through keeps the props the
server owns. -/
theorem modify_keepsOwned {σ : Type} {env : σ → (c : Cmd) → Answer c → σ → Prop} {s t : σ}
    {ctx : Option Nat} {name rgChange : String} {rd rd' : ResourceDefinition} {patch : PropsModify}
    (haccept : Exec env (refuseOwnedPropEdits ctx name patch) s (.ok false) t)
    (hedit : applyRDModify rd patch rgChange=.ok rd') : KeepsOwned rd.props rd'.props := by
  unfold refuseOwnedPropEdits at haccept
  split at haccept
  · exact absurd (exec_pure.mp haccept).1 (by decide)
  · rename_i hnone
    exact keepsOwned_of_unedited hedit (by simpa using hnone)

def stopped : ResourceDefinition :=
  ⟨⟨[(rollbackAbandonedProp,rollbackStepSnapshots),(restoreVolumesProp,"0=1024")],by decide⟩,"rg"⟩

def clearMark : PropsModify :=
  ⟨⟨[(rollbackAbandonedProp,""),("Aux/owner","ops")],by decide⟩,[],["Aux"]⟩

theorem clearMark_keepsOwned : ∃rd',applyRDModify stopped clearMark ""=.ok rd' ∧
    rd'.props.find rollbackAbandonedProp=none ∧ KeepsOwned stopped.props rd'.props := by
  have haccept : Exec (fun (_ : Unit) (_ : Cmd) _ _ => False)
      (refuseOwnedPropEdits none "pvc-1" clearMark) () (.ok false) () := .done false ()
  have hedit : applyRDModify stopped clearMark ""=.ok _ := rfl
  exact ⟨_,hedit,rfl,modify_keepsOwned haccept hedit⟩

end Blockstor.PropEdits
