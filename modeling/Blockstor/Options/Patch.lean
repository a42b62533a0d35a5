import Blockstor.Options.Canonical

namespace Blockstor.Options

open Framework Store

section Objects

structure ResourceVolumeSpec where
  volumeNumber : Int32
  seedFromGI : String
  deriving DecidableEq

structure ResourceSpec where
  resourceDefinitionName : String
  nodeName : String
  props : Props
  flags : List String
  drbdOptions : Option DRBDOptions
  extraProps : Props
  storagePool : String
  volumes : List ResourceVolumeSpec
  toggleDiskCancel : Bool
  drbdPort : Option Int32
  drbdNodeID : Option Int32
  skipInitialSync : Option Bool

structure ResourceDefinitionVolume where
  volumeNumber : Int32
  sizeKib : Int64
  props : Props
  flags : List String
  drbdMinor : Option Int32

structure EncryptionConfig where
  passphraseSecretRef : Option String
  deriving DecidableEq

structure ResourceDefinitionSpec where
  externalName : String
  resourceGroupName : String
  props : Props
  flags : List String
  volumeDefinitions : List ResourceDefinitionVolume
  layerStack : List String
  drbdOptions : Option DRBDOptions
  encryption : Option EncryptionConfig
  extraProps : Props
  drbdPort : Option Int32
  initialized : Option Bool

/-- A stored object; `deleting` says that it has a deletion timestamp. -/
structure Object (σ : Type) where
  name : String
  annotations : Props
  deleting : Bool
  spec : σ

structure WireResource where
  name : String
  nodeName : String
  props : Props
  flags : List String
  toggleDiskCancel : Bool
  annotations : Option Props

structure WireResourceDefinition where
  name : String
  externalName : String
  resourceGroupName : String
  props : Props
  annotations : Option Props
  flags : List String
  layerStack : List String

end Objects

section Convert

def resourceFlagDelete : String := "DELETE"

def withDeletingFlag (flags : List String) (deleting : Bool) : List String :=
  if !deleting then flags
  else if flags.contains resourceFlagDelete then flags
  else flags++[resourceFlagDelete]

def annotationLinstorName : String := "blockstor.io/linstor-name"

def resourceAnnotationVolumeNumbers : String := "blockstor.io/volume-numbers"

def orNil (m : Props) : Option Props := if m.items.isEmpty then none else some m

def cloneAnnotations (m : Props) : Option Props := orNil m

def userAnnotations (m : Props) : Option Props := orNil (m.keep fun k => k≠annotationLinstorName)

def mergeUserAnnotationsInto (annotations : Props) (wire : Option Props) (preserve : List String) :
    Props :=
  match wire with
  | none => annotations
  | some wire =>
    let preserved := annotations.keep fun k => (annotationLinstorName::preserve).contains k
    (preserved.copy wire).copy preserved

def ResourceSpec.stored (spec : ResourceSpec) : Stored :=
  ⟨spec.drbdOptions,spec.props,spec.extraProps⟩

def ResourceDefinitionSpec.stored (spec : ResourceDefinitionSpec) : Stored :=
  ⟨spec.drbdOptions,spec.props,spec.extraProps⟩

def storPoolName : String := "StorPoolName"

def crdToWireResource (crd : Object ResourceSpec) : WireResource :=
  let props := mergeProps crd.spec.props (typedToProps crd.spec.drbdOptions crd.spec.extraProps)
  { name := crd.spec.resourceDefinitionName
    nodeName := crd.spec.nodeName
    props := if crd.spec.storagePool≠"" then props.set storPoolName crd.spec.storagePool else props
    flags := withDeletingFlag crd.spec.flags crd.deleting
    toggleDiskCancel := crd.spec.toggleDiskCancel
    annotations := cloneAnnotations crd.annotations }

def wireToCRDResourceSpec (w : WireResource) : ResourceSpec :=
  let (typed,extras) := propsToTyped w.props
  { resourceDefinitionName := w.name
    nodeName := w.nodeName
    props := stripDRBDProps w.props
    flags := w.flags
    drbdOptions := typed
    extraProps := extras
    storagePool := (w.props.find storPoolName).getD ""
    volumes := []
    toggleDiskCancel := w.toggleDiskCancel
    drbdPort := none
    drbdNodeID := none
    skipInitialSync := none }

/-- One round of the patch, on the object it has read. The optimistic lock makes it atomic. -/
def patchResourceSpec {ε : Type} (mutate : WireResource → Except ε WireResource)
    (existing : Object ResourceSpec) : Except ε (Object ResourceSpec) := do
  let wire ← mutate (crdToWireResource existing)
  return {existing with
    spec := {wireToCRDResourceSpec wire with
      volumes := existing.spec.volumes
      drbdPort := existing.spec.drbdPort
      drbdNodeID := existing.spec.drbdNodeID
      skipInitialSync := existing.spec.skipInitialSync}
    annotations := mergeUserAnnotationsInto existing.annotations wire.annotations
      [resourceAnnotationVolumeNumbers]}

def crdToWireRD (crd : Object ResourceDefinitionSpec) : WireResourceDefinition where
  name := K8s.originalName crd.name (crd.annotations.find annotationLinstorName)
  externalName := crd.spec.externalName
  resourceGroupName := crd.spec.resourceGroupName
  props := mergeProps crd.spec.props (typedToProps crd.spec.drbdOptions crd.spec.extraProps)
  annotations := userAnnotations crd.annotations
  flags := withDeletingFlag crd.spec.flags crd.deleting
  layerStack := crd.spec.layerStack

def wireToCRDRDSpec (w : WireResourceDefinition) : ResourceDefinitionSpec :=
  let (typed,extras) := propsToTyped w.props
  { externalName := w.externalName
    resourceGroupName := w.resourceGroupName
    props := stripDRBDProps w.props
    flags := w.flags
    volumeDefinitions := []
    layerStack := w.layerStack
    drbdOptions := typed
    encryption := none
    extraProps := extras
    drbdPort := none
    initialized := none }

def patchResourceDefinitionSpec {ε : Type}
    (mutate : WireResourceDefinition → Except ε WireResourceDefinition)
    (existing : Object ResourceDefinitionSpec) : Except ε (Object ResourceDefinitionSpec) := do
  let wire ← mutate (crdToWireRD existing)
  return {existing with
    spec := {wireToCRDRDSpec wire with
      volumeDefinitions := existing.spec.volumeDefinitions
      encryption := existing.spec.encryption
      drbdPort := existing.spec.drbdPort
      initialized := existing.spec.initialized}
    annotations := mergeUserAnnotationsInto existing.annotations wire.annotations []}

end Convert

end Blockstor.Options
