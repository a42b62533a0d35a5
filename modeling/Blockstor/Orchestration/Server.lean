import Blockstor.Orchestration.Objects

namespace Blockstor.Orchestration

open Framework Shell

/-- Who reconciles: the controller, and one satellite on every node. Each works through its queue
one request at a time. -/
inductive Worker
  | controller
  | satellite (node : String)
  deriving DecidableEq

inductive Err
  | notFound
  | conflict
  | unavailable
  deriving DecidableEq

structure CreateSnapshotResponse where
  ok : Bool
  terminal : Bool
  createTimestamp : Int
  deriving DecidableEq

/-- The API server, the clock and the nodes. `requests` is what each worker finds next in its
queue. `suspended` is the kernel's one flag for every resource on a node. `frozen` records per
node and snapshot object whether I/O was suspended for it and not resumed since, `materialised`
per node, definition and snapshot what was taken and not deleted since, and `aborted` the batches
a reconcile gave up. -/
structure State where
  now : Nat
  revision : Nat
  snapshots : Keyed Snapshot.name
  resources : List Resource
  requests : Worker → String
  suspended : String → String → Bool
  frozen : String → String → Bool
  materialised : String → String → String → Bool
  aborted : List Batch

/-- The commands. Those of a satellite carry its node; suspending and resuming carry the snapshot
they are run for, for the record, and so does giving up a batch. -/
inductive Op
  | dequeue (w : Worker)
  | now
  | getSnapshot (name : String)
  | listSiblings (groupID : String)
  | listResources
  | patch (name : String) (p : Patch)
  | updateFinalizers (snap : Snapshot) (finalizers : List String)
  | abort (batch : Batch)
  | suspendResource (node rd snap : String)
  | resumeResource (node rd snap : String)
  | flushBackingDevices (node rd : String) (volumeNumbers : List Int)
  | createSnapshot (node rd snap : String) (volumeNumbers : List Int)
  | deleteSnapshot (node rd snap : String)

@[reducible] def OpAnswer : Op → Type
  | .dequeue _ => String
  | .now => Nat
  | .getSnapshot _ => Except Err Snapshot
  | .listSiblings _ => Except Err (List Snapshot)
  | .listResources => Except Err (List Resource)
  | .patch _ _ => Except Err Unit
  | .updateFinalizers _ _ => Except Err Unit
  | .abort _ => Unit
  | .suspendResource _ _ _ => Except Err Unit
  | .resumeResource _ _ _ => Except Err Unit
  | .flushBackingDevices _ _ _ => Except Err Unit
  | .createSnapshot _ _ _ _ => Except Err CreateSnapshotResponse
  | .deleteSnapshot _ _ _ => Except Err Bool

abbrev Prog := Shell OpAnswer Err

variable (now : Nat) (s : State) (op : Op) (p : Patch) (x : Snapshot)

def ask : Prog (OpAnswer op) := call op

def lift {α : Type} : Except Err α → Prog α
  | .ok a => pure a
  | .error e => throw e

/-- The part of a `ctrl.Result` the reconcilers set. -/
structure Result where
  requeue : Bool
  requeueAfter : Nat
  deriving DecidableEq

def Result.none : Result := ⟨false,0⟩

def set₂ (f : String → String → Bool) (a b : String) (v : Bool) : String → String → Bool :=
  fun x y => if x=a ∧ y=b then v else f x y

def set₃ (f : String → String → String → Bool) (a b c : String) (v : Bool) :
    String → String → String → Bool :=
  fun x y z => if x=a ∧ y=b ∧ z=c then v else f x y z

theorem of_set₂ {f : String → String → Bool} {a b x y : String} {v : Bool}
    (h : set₂ f a b v x y=true) : x=a ∧ y=b ∧ v=true ∨ f x y=true := by
  unfold set₂ at h
  split at h
  · rename_i hxy
    exact .inl ⟨hxy.1,hxy.2,h⟩
  · exact .inr h

theorem of_set₃ {f : String → String → String → Bool} {a b c x y z : String} {v : Bool}
    (h : set₃ f a b c v x y z=true) : x=a ∧ y=b ∧ z=c ∧ v=true ∨ f x y z=true := by
  unfold set₃ at h
  split at h
  · rename_i hxyz
    exact .inl ⟨hxyz.1,hxyz.2.1,hxyz.2.2,h⟩
  · exact .inr h

def found {α : Type} : Option α → Except Err α
  | some a => .ok a
  | none => .error .notFound

namespace State

def get? (s : State) (name : String) : Option Snapshot := s.snapshots.get? name

variable (s : State) (name : String)

def write (f : Snapshot → Snapshot)
    (hf : ∀x,(f x).name=x.name) : State :=
  {s with
    revision := s.revision+1
    snapshots := s.snapshots.modify name (fun x => {f x with resourceVersion := s.revision}) hf}

def sweep : State :=
  match s.get? name with
  | some x =>
    if x.deletionTimestamp≠none ∧ x.finalizers=[] then
      {s with snapshots := s.snapshots.erase name}
    else s
  | none => s

def siblings (groupID : String) : List Snapshot :=
  s.snapshots.items.filter fun x => x.groupID=groupID

end State

def Patch.apply : Snapshot := (p.mutate now x).getD x

theorem Patch.apply_same : (p.apply now x).Same x := by
  unfold Patch.apply
  cases h : p.mutate now x with
  | none => exact .refl x
  | some y => exact p.mutate_same now x y h

/-- How a command is carried out. A patch is one optimistic write: it is applied to the object that
is replaced, and no object is no work. An update of a fetched object needs its version. -/
def serve : (op : Op) → OpAnswer op × State
  | .dequeue w => (s.requests w,s)
  | .now => (s.now,s)
  | .getSnapshot name => (found (s.get? name),s)
  | .listSiblings groupID => (.ok (s.siblings groupID),s)
  | .listResources => (.ok s.resources,s)
  | .patch name p =>
    match (s.get? name).bind (p.mutate s.now) with
    | none => (.ok (),s)
    | some _ => (.ok (),s.write name (p.apply s.now) fun x => (p.apply_same s.now x).name)
  | .updateFinalizers snap finalizers =>
    match s.get? snap.name with
    | none => (.error .notFound,s)
    | some x =>
      if x.resourceVersion=snap.resourceVersion then
        (.ok (),(s.write snap.name (fun x => {x with finalizers}) fun _ => rfl).sweep snap.name)
      else (.error .conflict,s)
  | .abort batch => ((),{s with aborted := batch::s.aborted})
  | .suspendResource node rd snap =>
    (.ok (),{s with
      suspended := set₂ s.suspended node rd true
      frozen := set₂ s.frozen node snap true})
  | .resumeResource node rd snap =>
    (.ok (),{s with
      suspended := set₂ s.suspended node rd false
      frozen := set₂ s.frozen node snap false})
  | .flushBackingDevices _ _ _ => (.ok (),s)
  | .createSnapshot node rd snap _ =>
    (.ok ⟨true,false,s.now⟩,{s with materialised := set₃ s.materialised node rd snap true})
  | .deleteSnapshot node rd snap =>
    (.ok true,{s with materialised := set₃ s.materialised node rd snap false})

def Fails : (op : Op) → OpAnswer op → Prop
  | .dequeue _,_ => False
  | .now,_ => False
  | .abort _,_ => False
  | .getSnapshot _,a => a=.error .unavailable
  | .listSiblings _,a => a=.error .unavailable
  | .listResources,a => a=.error .unavailable
  | .patch _ _,a => ∃e,a=.error e
  | .updateFinalizers _ _,a => a=.error .unavailable
  | .suspendResource _ _ _,a => a=.error .unavailable
  | .resumeResource _ _ _,a => a=.error .unavailable
  | .flushBackingDevices _ _ _,a => a=.error .unavailable
  | .createSnapshot _ _ _ _,a => ∀r,a=.ok r → r.ok=false
  | .deleteSnapshot _ _ _,a => ∀r,a=.ok r → r=false

def Op.lands : Op → Bool
  | .patch _ _ => true
  | .updateFinalizers _ _ => true
  | .createSnapshot _ _ _ _ => true
  | _ => false

def Step (a : OpAnswer op) (t : State) : Prop :=
  a=(serve s op).1 ∧ t=(serve s op).2 ∨
    Fails op a ∧ (t=s ∨ op.lands=true ∧ t=(serve s op).2)

inductive Change
  | tick (now : Nat)
  | request (w : Worker) (name : String)
  | create (name : String) (w : Wire)
  | delete (name : String)
  | writeStatus (name : String) (nodeStatus : List NodeStatus)
  | writeResources (resources : List Resource)
  | dropFinalizers (name : String) (finalizers : List String)

def satelliteSnapshotFinalizer : String := "blockstor.cozystack.io/satellite-snapshot"

namespace State

def create (s : State) (name : String) (w : Wire) (h : s.get? name=none) : State :=
  {s with
    revision := s.revision+1
    snapshots := s.snapshots.insert (wireToCRDSnapshot name s.revision s.now w)
      ((s.snapshots.get?_eq_none name).mp h)}

def delete (s : State) (name : String) : State :=
  (s.write name (fun x => {x with deletionTimestamp := x.deletionTimestamp.or (some s.now)})
    fun _ => rfl).sweep name

end State

/-- The requests the API makes: one snapshot on its own, or the members of a batch, which all carry
the batch's size. -/
def Wire.Batched (w : Wire) (s : State) : Prop :=
  (w.groupID="" → w.groupSize=0) ∧
    ∀x∈s.snapshots,x.groupID=w.groupID → w.groupID≠"" → x.groupSize=w.groupSize

/-- The other changes: the clock goes on, requests come in, users create and delete snapshots,
replicas report, and others take off the finalizers that are theirs. `writeStatus` stands for
satellites that are not held to their program. -/
def Changes (e : Change) (t : State) : Prop :=
  match e with
  | .tick now => s.now ≤ now ∧ t={s with now}
  | .request w name => t={s with requests := Function.update s.requests w name}
  | .create name w => w.Batched s ∧ ∃h,t=s.create name w h
  | .delete name => t=s.delete name
  | .writeStatus name nodeStatus => t=s.write name (fun x => {x with nodeStatus}) fun _ => rfl
  | .writeResources resources => t={s with resources}
  | .dropFinalizers name finalizers =>
      (∀x∈s.get? name,(∀f∈finalizers,f∈x.finalizers) ∧
        (satelliteSnapshotFinalizer∈x.finalizers → satelliteSnapshotFinalizer∈finalizers)) ∧
      t=(s.write name (fun x => {x with finalizers}) fun _ => rfl).sweep name

end Blockstor.Orchestration
