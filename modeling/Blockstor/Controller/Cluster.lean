import Blockstor.Drbd.Allocator
import Blockstor.Drbd.Status
import Blockstor.Framework.Keyed
import Blockstor.Framework.Machine

namespace Blockstor.Controller

open Framework

structure ResourceConnectionStatus where
  peerNodeName : String := ""
  peerDRBDNodeID : Option Int32
  deriving DecidableEq

structure ResourceVolumeSpec where
  volumeNumber : Int32
  seedFromGI : String := ""
  deriving DecidableEq

structure ResourceSpec where
  resourceDefinitionName : String
  nodeName : String
  drbdNodeID : Option Int32 := none
  drbdPort : Option Int32 := none
  skipInitialSync : Option Bool := none
  flags : List String := []
  volumes : List ResourceVolumeSpec := []
  storagePool : String := ""
  deriving DecidableEq

structure ResourceVolumeStatus where
  volumeNumber : Int32
  diskState : Drbd.DiskState
  currentGI : String := ""
  deriving DecidableEq

/-- The identities here are mirrors of the spec; on an object from before the identities moved to
the spec they are the only ones. -/
structure ResourceStatus where
  drbdNodeID : Option Int32 := none
  drbdPort : Option Int32 := none
  drbdMinor : Option Int32 := none
  connections : List ResourceConnectionStatus := []
  volumes : List ResourceVolumeStatus := []
  inUse : Bool := false
  deriving DecidableEq

/-- A replica; `deleting` is a set deletion timestamp, `annotations` are the keys. -/
structure Resource where
  name : String
  spec : ResourceSpec
  status : ResourceStatus := {}
  finalizers : List String := []
  annotations : List String := []
  deleting : Bool := false
  deriving DecidableEq

def newReplica (name rdName nodeName : String) : Resource :=
  {name := name, spec := {resourceDefinitionName := rdName, nodeName := nodeName}}

structure VolumeDefinition where
  volumeNumber : Int32
  drbdMinor : Option Int32 := none
  deriving DecidableEq

/-- A resource definition; `statusDRBDMinor` is the legacy base of its minors. -/
structure ResourceDefinition where
  name : String
  volumeDefinitions : List VolumeDefinition := []
  drbdPort : Option Int32 := none
  initialized : Option Bool := none
  statusDRBDMinor : Option Int32 := none
  deriving DecidableEq

structure PortRange where
  min : Int32
  max : Int32
  deriving DecidableEq

structure NodeSpec where
  drbdPortRange : Option PortRange := none
  drbdMinorRange : Option PortRange := none
  props : String → String := fun _ => ""

structure StoragePool where
  nodeName : String
  storagePoolName : String
  providerKind : String
  deriving DecidableEq

structure Cluster where
  resources : Keyed Resource.name
  definitions : Keyed ResourceDefinition.name
  nodes : String → Option NodeSpec
  extraProps : Option (String → String)
  storagePools : List StoragePool := []

inductive ApiErr
  | notFound
  | conflict
  | other
  deriving DecidableEq

/-- The calls to the API server; the `cached` ones are answered by the informer cache. -/
inductive Cmd
  | getResource (name : String)
  | listResources
  | getDefinition (name : String)
  | listDefinitions
  | getNode (name : String)
  | getControllerConfig
  | patchSpec (name : String) (drbdNodeID drbdPort : Option Int32) (skipInitialSync : Option Bool)
  | patchStatus (name : String) (drbdNodeID drbdPort drbdMinor : Option Int32)
  | patchVolumes (name : String) (volumeDefinitions : List VolumeDefinition)
  | cachedResource (name : String)
  | cachedResources
  | cachedDefinition (name : String)
  | cachedNodes
  | listStoragePools
  | patchInitialized (name : String)
  | patchSkipInitialSync (name : String) (skip : Bool)
  | updateResource (seen changed : Resource)
  | deleteResource (name : String)

@[reducible] def Payload : Cmd → Type
  | .getResource _ => Resource
  | .listResources => List Resource
  | .getDefinition _ => ResourceDefinition
  | .listDefinitions => List ResourceDefinition
  | .getNode _ => NodeSpec
  | .getControllerConfig => String → String
  | .patchSpec _ _ _ _ => Unit
  | .patchStatus _ _ _ _ => Unit
  | .patchVolumes _ _ => Unit
  | .cachedResource _ => Resource
  | .cachedResources => List Resource
  | .cachedDefinition _ => ResourceDefinition
  | .cachedNodes => Unit
  | .listStoragePools => List StoragePool
  | .patchInitialized _ => Unit
  | .patchSkipInitialSync _ _ => Unit
  | .updateResource _ _ => Unit
  | .deleteResource _ => Unit

@[reducible] def Answer (c : Cmd) : Type := Except ApiErr (Payload c)

def found {α : Type} : Option α → Except ApiErr α
  | none => .error .notFound
  | some a => .ok a

variable (drbdNodeID drbdPort : Option Int32) (c : Cluster)

def ResourceSpec.withIDs (skipInitialSync : Option Bool) (spec : ResourceSpec) : ResourceSpec :=
  {spec with drbdNodeID := drbdNodeID, drbdPort := drbdPort, skipInitialSync := skipInitialSync}

def ResourceStatus.withIDs (drbdMinor : Option Int32) (status : ResourceStatus) : ResourceStatus :=
  {status with drbdNodeID := drbdNodeID, drbdPort := drbdPort, drbdMinor := drbdMinor}

def Resource.withSpec (skipInitialSync : Option Bool) (r : Resource) : Resource :=
  {r with spec := r.spec.withIDs drbdNodeID drbdPort skipInitialSync}

def Resource.withStatus (drbdMinor : Option Int32) (r : Resource) : Resource :=
  {r with status := r.status.withIDs drbdNodeID drbdPort drbdMinor}

def Resource.withSkip (skip : Bool) (r : Resource) : Resource :=
  {r with spec := {r.spec with skipInitialSync := some skip}}

def Resource.updated (changed : Resource) (r : Resource) : Resource :=
  {changed with name := r.name, status := r.status}

def Resource.dying (r : Resource) : Resource := {r with deleting := true}

def ResourceDefinition.withVolumes (volumeDefinitions : List VolumeDefinition)
    (rd : ResourceDefinition) : ResourceDefinition :=
  {rd with volumeDefinitions := volumeDefinitions}

def ResourceDefinition.latched (rd : ResourceDefinition) : ResourceDefinition :=
  {rd with initialized := some true}

/-- The validation rule of a settable-once field: a value may be set or removed, not changed. -/
def settableOnce {α : Type} [DecidableEq α] (old new : Option α) : Bool :=
  old.isNone || new.isNone || old=new

def ResourceSpec.admits (skip : Option Bool) (spec : ResourceSpec) : Bool :=
  settableOnce spec.drbdNodeID drbdNodeID && settableOnce spec.drbdPort drbdPort &&
    settableOnce spec.skipInitialSync skip

namespace Cluster

variable (c : Cluster)

variable (name : String)

def patchSpec (drbdNodeID drbdPort : Option Int32) (skip : Option Bool) : Cluster :=
  {c with resources := c.resources.modify name (.withSpec drbdNodeID drbdPort skip) fun _ => rfl}

def patchStatus (drbdNodeID drbdPort drbdMinor : Option Int32) : Cluster :=
  {c with resources :=
    c.resources.modify name (.withStatus drbdNodeID drbdPort drbdMinor) fun _ => rfl}

def patchVolumes (volumes : List VolumeDefinition) : Cluster :=
  {c with definitions := c.definitions.modify name (.withVolumes volumes) fun _ => rfl}

def patchInitialized : Cluster :=
  {c with definitions := c.definitions.modify name .latched fun _ => rfl}

def patchSkipInitialSync (skip : Bool) : Cluster :=
  {c with resources := c.resources.modify name (.withSkip skip) fun _ => rfl}

def updateResource (changed : Resource) : Cluster :=
  {c with resources := c.resources.modify changed.name (.updated changed) fun _ => rfl}

def deleteResource : Cluster :=
  if (c.resources.get? name).any fun r => r.finalizers≠[] then
    {c with resources := c.resources.modify name .dying fun _ => rfl}
  else {c with resources := c.resources.erase name}

def admitSpec (drbdNodeID drbdPort : Option Int32) (skip : Option Bool) : Bool :=
  (c.resources.get? name).any fun r => r.spec.admits drbdNodeID drbdPort skip

def admitSkip (skip : Bool) : Bool :=
  (c.resources.get? name).any fun r => settableOnce r.spec.skipInitialSync (some skip)

def admitUpdate (seen : Resource) : Bool := c.resources.get? seen.name=some seen

end Cluster

/-- A read tells the truth or fails; a failed read never claims that the object is missing. -/
def Reads {α : Type} (truth : Except ApiErr α) (answer : Except ApiErr α) (c t : Cluster) : Prop :=
  t=c ∧ (answer=truth ∨ ∃e,answer=.error e ∧ e≠.notFound)

def Writes (changed : Cluster) (answer : Except ApiErr Unit) (c t : Cluster) : Prop :=
  (answer=.ok () ∧ t=changed) ∨ (∃e,answer=.error e) ∧ (t=c ∨ t=changed)

def Admits (valid : Bool) (changed : Cluster) (answer : Except ApiErr Unit) (c t : Cluster) : Prop :=
  if valid then Writes changed answer c t else t=c ∧ ∃e,answer=.error e

theorem Admits.writes {valid : Bool} {changed c t : Cluster} {answer : Except ApiErr Unit}
    (h : Admits valid changed answer c t) : Writes changed answer c t := by
  cases valid with
  | true => exact h
  | false => exact .inr ⟨h.2,.inl h.1⟩

def Step (cmd : Cmd) (answer : Answer cmd) (t : Cluster) : Prop :=
  match cmd,answer with
  | .getResource name,answer => Reads (found (c.resources.get? name)) answer c t
  | .listResources,answer => Reads (.ok c.resources.items) answer c t
  | .getDefinition name,answer => Reads (found (c.definitions.get? name)) answer c t
  | .listDefinitions,answer => Reads (.ok c.definitions.items) answer c t
  | .getNode name,answer => Reads (found (c.nodes name)) answer c t
  | .getControllerConfig,answer => Reads (found c.extraProps) answer c t
  | .patchSpec name drbdNodeID drbdPort skip,answer =>
      Admits (c.admitSpec name drbdNodeID drbdPort skip)
        (c.patchSpec name drbdNodeID drbdPort skip) answer c t
  | .patchStatus name drbdNodeID drbdPort drbdMinor,answer =>
      Writes (c.patchStatus name drbdNodeID drbdPort drbdMinor) answer c t
  | .patchVolumes name volumes,answer => Writes (c.patchVolumes name volumes) answer c t
  | .cachedResource name,answer => t=c ∧ ∀r,answer=.ok r → r.name=name
  | .cachedResources,_ => t=c
  | .cachedDefinition name,answer => t=c ∧ ∀rd,answer=.ok rd → rd.name=name
  | .cachedNodes,_ => t=c
  | .listStoragePools,answer => Reads (.ok c.storagePools) answer c t
  | .patchInitialized name,answer => Writes (c.patchInitialized name) answer c t
  | .patchSkipInitialSync name skip,answer =>
      Admits (c.admitSkip name skip) (c.patchSkipInitialSync name skip) answer c t
  | .updateResource seen changed,answer =>
      Admits (c.admitUpdate seen) (c.updateResource changed) answer c t
  | .deleteResource name,answer => Writes (c.deleteResource name) answer c t

def admitted (valid : Bool) (changed c : Cluster) : Except ApiErr Unit × Cluster :=
  if valid then (.ok (),changed) else (.error .other,c)

theorem admits_admitted (valid : Bool) (changed c : Cluster) :
    Admits valid changed (admitted valid changed c).1 c (admitted valid changed c).2 := by
  cases valid with
  | true => exact .inl ⟨rfl,rfl⟩
  | false => exact ⟨rfl,_,rfl⟩

def serve : (cmd : Cmd) → Answer cmd × Cluster
  | .getResource name => (found (c.resources.get? name),c)
  | .listResources => (.ok c.resources.items,c)
  | .getDefinition name => (found (c.definitions.get? name),c)
  | .listDefinitions => (.ok c.definitions.items,c)
  | .getNode name => (found (c.nodes name),c)
  | .getControllerConfig => (found c.extraProps,c)
  | .patchSpec name drbdNodeID drbdPort skip =>
      admitted (c.admitSpec name drbdNodeID drbdPort skip)
        (c.patchSpec name drbdNodeID drbdPort skip) c
  | .patchStatus name drbdNodeID drbdPort drbdMinor =>
      (.ok (),c.patchStatus name drbdNodeID drbdPort drbdMinor)
  | .patchVolumes name volumes => (.ok (),c.patchVolumes name volumes)
  | .cachedResource name => (found (c.resources.get? name),c)
  | .cachedResources => (.ok c.resources.items,c)
  | .cachedDefinition name => (found (c.definitions.get? name),c)
  | .cachedNodes => (.ok (),c)
  | .listStoragePools => (.ok c.storagePools,c)
  | .patchInitialized name => (.ok (),c.patchInitialized name)
  | .patchSkipInitialSync name skip =>
      admitted (c.admitSkip name skip) (c.patchSkipInitialSync name skip) c
  | .updateResource seen changed => admitted (c.admitUpdate seen) (c.updateResource changed) c
  | .deleteResource name => (.ok (),c.deleteResource name)

theorem found_key {κ α : Type} [DecidableEq κ] {key : α → κ} (t : Keyed key) (k : κ) (a : α)
    (h : found (t.get? k)=.ok a) : key a=k := by
  cases hk : t.get? k with
  | none =>
    rw [hk] at h
    cases h
  | some b =>
    rw [hk] at h
    obtain rfl := Except.ok.inj h
    exact ((t.get?_eq_some k b).mp hk).2

theorem step_serve (cmd : Cmd) : Step c cmd (serve c cmd).1 (serve c cmd).2 := by
  cases cmd with
  | patchSpec _ _ _ _ => exact admits_admitted _ _ _
  | patchSkipInitialSync _ _ => exact admits_admitted _ _ _
  | updateResource _ _ => exact admits_admitted _ _ _
  | patchStatus _ _ _ _ => exact .inl ⟨rfl,rfl⟩
  | patchVolumes _ _ => exact .inl ⟨rfl,rfl⟩
  | patchInitialized _ => exact .inl ⟨rfl,rfl⟩
  | deleteResource _ => exact .inl ⟨rfl,rfl⟩
  | cachedResource name => exact ⟨rfl,found_key c.resources name⟩
  | cachedDefinition name => exact ⟨rfl,found_key c.definitions name⟩
  | cachedResources => exact rfl
  | cachedNodes => exact rfl
  | _ => exact ⟨rfl,.inl rfl⟩

end Blockstor.Controller
