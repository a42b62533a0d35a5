import Blockstor.Framework.Keyed
import Blockstor.Framework.Machine
import Blockstor.Store.CrdName

namespace Blockstor.Placer

open Framework Shell Store

variable {α : Type}

/-- A `map[string]string`. -/
abbrev Props := List (String × String)

namespace Props

variable (props : Props) (key : String)

def get : String := (props.lookup key).getD ""

def set (value : String) : Props :=
  (key,value)::props.filter fun x => x.1≠key

def unset : Props := props.filter fun x => x.1≠key

@[simp] theorem get_set (value : String) : (props.set key value).get key=value := by
  simp [get,set]

end Props

structure Node where
  name : String
  flags : List String
  props : Props
  deriving DecidableEq

structure StoragePool where
  nodeName : String
  storagePoolName : String
  providerKind : String
  freeCapacity : Int
  totalCapacity : Int
  sharedSpaceID : String
  poolMissing : Bool
  props : Props
  deriving DecidableEq

structure VolumeDefinition where
  volumeNumber : Nat
  sizeKib : Int
  deriving DecidableEq

structure VolumeStatus where
  volumeNumber : Nat
  diskState : String
  deriving DecidableEq

structure Resource where
  name : String
  nodeName : String
  flags : List String
  props : Props
  finalizer : Bool
  deleting : Bool
  volumes : List VolumeStatus
  deriving DecidableEq

structure ResourceDefinition where
  name : String
  resourceGroupName : String
  props : Props
  migrationBlocked : Option String
  volumeDefinitions : List VolumeDefinition
  deriving DecidableEq

structure AutoSelectFilter where
  placeCount : Int
  nodeNameList : List String
  storagePool : String
  storagePoolList : List String
  notPlaceWithRsc : List String
  notPlaceWithRscRegex : String
  replicasOnSame : List String
  replicasOnDifferent : List String
  xReplicasOnDifferentMap : List (String × Int)
  providerList : List String
  disklessOnRemaining : Bool
  deriving DecidableEq

def AutoSelectFilter.empty : AutoSelectFilter := ⟨0,[],"",[],[],"",[],[],[],[],false⟩

structure ResourceGroup where
  name : String
  selectFilter : AutoSelectFilter
  deriving DecidableEq

def nodeFlagEvicted : String := "EVICTED"

def nodeFlagLost : String := "LOST"

def resourceFlagDiskless : String := "DISKLESS"

def resourceFlagInactive : String := "INACTIVE"

def resourceFlagTieBreaker : String := "TIE_BREAKER"

def storPoolNameProp : String := "StorPoolName"

def Resource.diskful (r : Resource) : Bool := !r.flags.contains resourceFlagDiskless

def Resource.inactive (r : Resource) : Bool := r.flags.contains resourceFlagInactive

def Node.disabled (n : Node) : Bool :=
  n.flags.any fun f => decide (f=nodeFlagEvicted ∨ f=nodeFlagLost)

inductive OversubRatioKind
  | maxFreeCapacityOversubscriptionRatio
  | maxTotalCapacityOversubscriptionRatio
  | maxOversubscriptionRatio
  deriving DecidableEq

structure OversubscriptionShortfall where
  requiredKib : Int
  poolName : String
  nodeName : String
  ratio : OversubRatioKind
  ratioValue : Float
  effectiveCapKib : Int

inductive Err
  | notFound
  | alreadyExists
  | conflict
  | unavailable
  | wrap (text : String) (cause : Err)
  | capacityShortfall (requiredKib maxFreeKib : Int)
  | oversubscriptionShortfall (e : OversubscriptionShortfall)

/-- `errors.Is` for an error of the store. -/
def Err.is : Err → Err → Bool
  | .wrap _ e,target => e.is target
  | .notFound,.notFound => true
  | .alreadyExists,.alreadyExists => true
  | .conflict,.conflict => true
  | .unavailable,.unavailable => true
  | _,_ => false

def resourceCRDName (rd node : String) : String := K8s.name (rd++"."++node)

def Resource.key (r : Resource) : String := resourceCRDName r.name r.nodeName

def poolKey (node pool : String) : String := node++"\x1f"++pool

def StoragePool.key (p : StoragePool) : String := poolKey p.nodeName p.storagePoolName

variable (props : Props) (reason : Option String) (rd : ResourceDefinition)

def ResourceDefinition.key : String := K8s.name rd.name

def ResourceGroup.key (rg : ResourceGroup) : String := K8s.name rg.name

structure State where
  nodes : Keyed Node.name
  pools : Keyed StoragePool.key
  resources : Keyed Resource.key
  definitions : Keyed ResourceDefinition.key
  groups : Keyed ResourceGroup.key
  controllerProps : Props

/-- The commands of the placer and of the controllers that call it. `getResource`, `delete` and
`update` name an object as it is stored; the others go through the store's naming. -/
inductive Op
  | listNodes
  | listPools
  | getPool (node pool : String)
  | controllerProps
  | listResources
  | listByDefinition (rd : String)
  | getDefinition (name : String)
  | listVolumeDefinitions (rd : String)
  | getGroup (name : String)
  | create (r : Resource)
  | patchResourceSpec (rd node : String) (mutate : Resource → Resource)
  | updateDefinition (rd : ResourceDefinition)
  | getNode (name : String)
  | getResource (name : String)
  | delete (name : String)
  | update (name : String) (r : Resource)

@[reducible] def Result : Op → Type
  | .listNodes => List Node
  | .listPools => List StoragePool
  | .getPool _ _ => StoragePool
  | .controllerProps => Props
  | .listResources => List Resource
  | .listByDefinition _ => List Resource
  | .getDefinition _ => ResourceDefinition
  | .listVolumeDefinitions _ => List VolumeDefinition
  | .getGroup _ => ResourceGroup
  | .create _ => Unit
  | .patchResourceSpec _ _ _ => Unit
  | .updateDefinition _ => Unit
  | .getNode _ => Node
  | .getResource _ => Resource
  | .delete _ => Unit
  | .update _ _ => Unit

abbrev Prog := Shell (fun op => Except Err (Result op)) Err

def ask (op : Op) : Prog (Except Err (Result op)) := call op

def lift {α : Type} : Except Err α → Prog α
  | .ok a => pure a
  | .error e => throw e

def run (op : Op) : Prog (Result op) := ask op >>= lift

def wrapped (text : String) (op : Op) : Prog (Result op) := do
  match ← ask op with
  | .ok a => pure a
  | .error e => throw (.wrap text e)

def found {α : Type} : Option α → Except Err α
  | some a => .ok a
  | none => .error .notFound

@[simp] theorem found_eq_ok {o : Option α} {a : α} : found o=.ok a ↔ o=some a := by
  cases o <;> simp [found]

def sortBy {α : Type} (key : α → String × String) (l : List α) : List α :=
  l.insertionSort fun a b => (key a).1<(key b).1 ∨ (key a).1=(key b).1 ∧ ¬(key b).2<(key a).2

theorem mem_sortBy (key : α → String × String) (l : List α) (a : α) : a∈sortBy key l ↔ a∈l :=
  (List.perm_insertionSort _ l).mem_iff

theorem sortBy_eq_self {key : α → String × String} {l : List α}
    (h : (l.map key).Pairwise fun a b => a.1<b.1 ∨ a.1=b.1 ∧ ¬b.2<a.2) : sortBy key l=l :=
  (List.pairwise_map.mp h).insertionSort_eq

namespace State

def listByDefinition (s : State) (rd : String) : List Resource :=
  sortBy (fun r => (r.nodeName,"")) (s.resources.items.filter fun r => r.name=rd)

def listResources (s : State) : List Resource :=
  sortBy (fun r => (r.name,r.nodeName)) s.resources.items

def listPools (s : State) : List StoragePool :=
  sortBy (fun p => (p.nodeName,p.storagePoolName)) s.pools.items

def listNodes (s : State) : List Node := sortBy (fun n => (n.name,"")) s.nodes.items

def getDefinition (s : State) (name : String) : Option ResourceDefinition :=
  s.definitions.get? (K8s.name name)

theorem mem_listByDefinition (s : State) (rd : String) (r : Resource) :
    r∈s.listByDefinition rd ↔ r∈s.resources ∧ r.name=rd := by
  rw [listByDefinition,mem_sortBy,List.mem_filter,decide_eq_true_eq]
  rfl

theorem countP_listByDefinition (s : State) (rd : String) (P : Resource → Bool) :
    (s.listByDefinition rd).countP P=s.resources.items.countP fun r => r.name=rd && P r := by
  unfold listByDefinition sortBy
  rw [(List.perm_insertionSort _ _).countP_eq,List.countP_filter]
  exact List.countP_congr fun r _ => by simp only [Bool.and_comm]

theorem mem_listResources (s : State) (r : Resource) : r∈s.listResources ↔ r∈s.resources :=
  mem_sortBy _ _ _

theorem mem_listPools (s : State) (p : StoragePool) : p∈s.listPools ↔ p∈s.pools :=
  mem_sortBy _ _ _

theorem mem_listNodes (s : State) (n : Node) : n∈s.listNodes ↔ n∈s.nodes :=
  mem_sortBy _ _ _

end State

def Resource.fresh (r : Resource) : Resource :=
  {r with finalizer := false, deleting := false, volumes := []}

def Resource.withSpec (r : Resource) (mutate : Resource → Resource) : Resource :=
  {r with flags := (mutate r).flags, props := (mutate r).props}

theorem Resource.key_withSpec (mutate : Resource → Resource) (r : Resource) :
    (r.withSpec mutate).key=r.key := rfl

def Resource.withProps (r : Resource) : Resource := {r with props := props}

theorem Resource.key_withProps (r : Resource) : (r.withProps props).key=r.key := rfl

def Resource.markDeleting (r : Resource) : Resource := {r with deleting := true}

theorem Resource.key_markDeleting (r : Resource) : r.markDeleting.key=r.key := rfl

def ResourceDefinition.withBlocked :
    ResourceDefinition := {rd with migrationBlocked := reason}

theorem ResourceDefinition.key_withBlocked :
    (rd.withBlocked reason).key=rd.key := rfl

def serve (s : State) : (op : Op) → Except Err (Result op) × State
  | .listNodes => (.ok s.listNodes,s)
  | .listPools => (.ok s.listPools,s)
  | .getPool node pool => (found (s.pools.get? (poolKey node pool)),s)
  | .controllerProps => (.ok s.controllerProps,s)
  | .listResources => (.ok s.listResources,s)
  | .listByDefinition rd => (.ok (s.listByDefinition rd),s)
  | .getDefinition name => (found (s.getDefinition name),s)
  | .listVolumeDefinitions rd => (found ((s.getDefinition rd).map (·.volumeDefinitions)),s)
  | .getGroup name => (found (s.groups.get? (K8s.name name)),s)
  | .create r =>
    match h : s.resources.get? r.fresh.key with
    | some _ => (.error .alreadyExists,s)
    | none => (.ok (),{s with
        resources := s.resources.insert r.fresh ((s.resources.get?_eq_none _).mp h)})
  | .patchResourceSpec rd node mutate =>
    match s.resources.get? (resourceCRDName rd node) with
    | none => (.error .notFound,s)
    | some _ => (.ok (),{s with
        resources := s.resources.modify (resourceCRDName rd node) (·.withSpec mutate)
          (Resource.key_withSpec mutate)})
  | .updateDefinition rd =>
    match s.definitions.get? rd.key with
    | none => (.error .notFound,s)
    | some _ => (.ok (),{s with
        definitions := s.definitions.modify rd.key (·.withBlocked rd.migrationBlocked)
          (ResourceDefinition.key_withBlocked _)})
  | .getNode name => (found (s.nodes.get? name),s)
  | .getResource name => (found (s.resources.get? name),s)
  | .delete name =>
    match s.resources.get? name with
    | none => (.error .notFound,s)
    | some r =>
      -- a finalizer keeps the object until its owner lets go of it
      if r.finalizer then (.ok (),{s with
        resources := s.resources.modify name Resource.markDeleting Resource.key_markDeleting})
      else (.ok (),{s with resources := s.resources.erase name})
  | .update name r =>
    match s.resources.get? name with
    | none => (.error .notFound,s)
    | some _ => (.ok (),{s with
        resources := s.resources.modify name (·.withProps r.props) (Resource.key_withProps _)})

def Step (s : State) (op : Op) (a : Except Err (Result op)) (t : State) : Prop :=
  a=(serve s op).1 ∧ t=(serve s op).2 ∨ a=.error .unavailable ∧ (t=s ∨ t=(serve s op).2)

theorem step_serve (s : State) (op : Op) : Step s op (serve s op).1 (serve s op).2 :=
  .inl ⟨rfl,rfl⟩

variable {s t : State} {op : Op} {a r : Except Err (Result op)}

theorem Step.state (h : Step s op a t) : t=s ∨ t=(serve s op).2 := by
  rcases h with ⟨_,h⟩|⟨_,h⟩
  · exact .inr h
  · exact h

theorem yields_ask (hread : (serve s op).2=s) :
    Yields Step s (ask op) fun a => a=(serve s op).1 ∨ a=.error .unavailable := by
  refine yields_call fun a t h => ?_
  rcases h with ⟨ha,ht⟩|⟨ha,ht⟩
  · exact ⟨ht.trans hread,.inl ha⟩
  · refine ⟨?_,.inr ha⟩
    rcases ht with ht|ht
    · exact ht
    · exact ht.trans hread

theorem yields_run (hread : (serve s op).2=s) :
    Yields Step s (run op) fun a => (serve s op).1=.ok a := by
  refine (yields_ask hread).bind fun a ha => ?_
  cases a with
  | ok a =>
    refine yields_pure ?_
    rcases ha with ha|ha
    · exact ha.symm
    · cases ha
  | error e => exact yields_throw

theorem exec_run (h : Exec Step (run op) s r t) : t=s ∨ t=(serve s op).2 := by
  obtain ⟨a,u,ha,h⟩ := exec_ask.mp h
  have ht : t=u := by
    cases a with
    | ok x => exact (exec_pure.mp h).2
    | error e => exact (exec_throw.mp h).2
  rw [ht]
  exact ha.state

theorem yields_wrapped {text : String} (hread : (serve s op).2=s) :
    Yields Step s (wrapped text op) fun a => (serve s op).1=.ok a := by
  refine (yields_ask hread).bind fun a ha => ?_
  cases a with
  | ok a =>
    refine yields_pure ?_
    rcases ha with ha|ha
    · exact ha.symm
    · cases ha
  | error e => exact yields_throw

section Reading

variable {s t : State} {α : Type} {r : Except Err α} {op : Op} {a : Result op}
  {f : Result op → Prog α}

theorem exec_ask_ok {f : Except Err (Result op) → Prog α} (hread : serve s op=(.ok a,s))
    (h : Exec Step (f (.ok a)) s r t) : Exec Step (ask op >>= f) s r t :=
  exec_ask.mpr ⟨.ok a,s,.inl ⟨by rw [hread],by rw [hread]⟩,h⟩

theorem exec_run_ok (hread : serve s op=(.ok a,s))
    (h : Exec Step (f a) s r t) : Exec Step (run op >>= f) s r t :=
  exec_bind.mpr (.inr ⟨a,s,exec_ask_ok hread (.done a s),h⟩)

theorem exec_wrapped_ok {text : String} (hread : serve s op=(.ok a,s))
    (h : Exec Step (f a) s r t) : Exec Step (wrapped text op >>= f) s r t :=
  exec_bind.mpr (.inr ⟨a,s,exec_ask_ok hread (.done a s),h⟩)

end Reading

example : (sortBy (fun x => (x,"")) ["n2","n1","N1"])=["N1","n1","n2"] := by decide

end Blockstor.Placer
