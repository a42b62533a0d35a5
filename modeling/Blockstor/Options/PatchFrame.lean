import Blockstor.Options.Patch

namespace Blockstor.Options

open Framework DRBDOptions Option

section Frame

variable {σ ω φ γ : Type}

/-- What a patch may do to an object: nothing if nothing is mutated, and a mutation of one field of
the wire form leaves every field of the Spec alone that this field does not represent. -/
structure Frames (same : γ → σ → σ → Prop) (only : φ → ω → ω → Prop) (represents : φ → List γ)
    (patch : (ω → Except String ω) → Object σ → Except String (Object σ)) (x : Object σ) :
    Prop where
  identity : ∃y,patch .ok x=.ok y ∧ ∀g,same g y.spec x.spec
  oneField : ∀f mutate y,(∀w w',mutate w=.ok w' → only f w w') → patch mutate x=.ok y →
    ∀g∉represents f,same g y.spec x.spec

/-- A patch that rebuilds the Spec from the wire form: each field of the wire form writes only what it
represents, so the frame holds as soon as the identity changes nothing. -/
theorem Frames.of_rebuild {same : γ → σ → σ → Prop} {only : φ → ω → ω → Prop}
    {represents : φ → List γ} {patch : (ω → Except String ω) → Object σ → Except String (Object σ)}
    {x : Object σ} (wire : ω) (rebuild : ω → σ) (annotations : ω → Props)
    (hpatch : ∀mutate,patch mutate x=(mutate wire).map fun w =>
      {x with spec := rebuild w,annotations := annotations w})
    (htrans : ∀{g a b c},same g a b → same g b c → same g a c)
    (hlocal : ∀f w w',only f w w' → ∀g∉represents f,same g (rebuild w') (rebuild w)) :
    Frames same only represents patch x ↔ ∀g,same g (rebuild wire) x.spec := by
  constructor
  · rintro ⟨⟨y,hy,hsame⟩,_⟩
    rw [hpatch] at hy
    cases hy
    exact hsame
  · intro h
    refine ⟨⟨_,hpatch .ok,h⟩,fun f mutate y honly hy g hg => ?_⟩
    rw [hpatch] at hy
    cases hw : mutate wire with
    | error e =>
      rw [hw] at hy
      cases hy
    | ok w =>
      rw [hw] at hy
      cases hy
      exact htrans (hlocal f wire w (honly wire w hw) g hg) (h g)

end Frame

section Fields

/-- The fields of a resource's Spec. The secret is a field of its own: no property stands for it. -/
inductive ResourceField
  | resourceDefinitionName | nodeName | props | flags | drbdOptions | sharedSecretRef | extraProps
  | storagePool | volumes | toggleDiskCancel | drbdPort | drbdNodeID | skipInitialSync
  deriving DecidableEq

def ResourceField.Same (a b : ResourceSpec) : ResourceField → Prop
  | resourceDefinitionName => a.resourceDefinitionName=b.resourceDefinitionName
  | nodeName => a.nodeName=b.nodeName
  | props => Dict.Same a.props b.props
  | flags => a.flags=b.flags
  | drbdOptions => Rel DRBDOptions.Same a.drbdOptions b.drbdOptions
  | sharedSecretRef => a.drbdOptions.bind (·.sharedSecretRef)=b.drbdOptions.bind (·.sharedSecretRef)
  | extraProps => Dict.Same a.extraProps b.extraProps
  | storagePool => a.storagePool=b.storagePool
  | volumes => a.volumes=b.volumes
  | toggleDiskCancel => a.toggleDiskCancel=b.toggleDiskCancel
  | drbdPort => a.drbdPort=b.drbdPort
  | drbdNodeID => a.drbdNodeID=b.drbdNodeID
  | skipInitialSync => a.skipInitialSync=b.skipInitialSync

inductive WireResourceField
  | name | nodeName | props | flags | toggleDiskCancel | annotations

def WireResourceField.Only (w w' : WireResource) : WireResourceField → Prop
  | name => w'={w with name := w'.name}
  | nodeName => w'={w with nodeName := w'.nodeName}
  | props => w'={w with props := w'.props}
  | flags => w'={w with flags := w'.flags}
  | toggleDiskCancel => w'={w with toggleDiskCancel := w'.toggleDiskCancel}
  | annotations => w'={w with annotations := w'.annotations}

def WireResourceField.represents : WireResourceField → List ResourceField
  | name => [.resourceDefinitionName]
  | nodeName => [.nodeName]
  | props => [.props,.drbdOptions,.extraProps,.storagePool]
  | flags => [.flags]
  | toggleDiskCancel => [.toggleDiskCancel]
  | annotations => []

inductive DefinitionField
  | externalName | resourceGroupName | props | flags | volumeDefinitions | layerStack | drbdOptions
  | sharedSecretRef | encryption | extraProps | drbdPort | initialized
  deriving DecidableEq

def DefinitionField.Same (a b : ResourceDefinitionSpec) : DefinitionField → Prop
  | externalName => a.externalName=b.externalName
  | resourceGroupName => a.resourceGroupName=b.resourceGroupName
  | props => Dict.Same a.props b.props
  | flags => a.flags=b.flags
  | volumeDefinitions => a.volumeDefinitions=b.volumeDefinitions
  | layerStack => a.layerStack=b.layerStack
  | drbdOptions => Rel DRBDOptions.Same a.drbdOptions b.drbdOptions
  | sharedSecretRef => a.drbdOptions.bind (·.sharedSecretRef)=b.drbdOptions.bind (·.sharedSecretRef)
  | encryption => a.encryption=b.encryption
  | extraProps => Dict.Same a.extraProps b.extraProps
  | drbdPort => a.drbdPort=b.drbdPort
  | initialized => a.initialized=b.initialized

inductive WireDefinitionField
  | name | externalName | resourceGroupName | props | annotations | flags | layerStack

def WireDefinitionField.Only (w w' : WireResourceDefinition) : WireDefinitionField → Prop
  | name => w'={w with name := w'.name}
  | externalName => w'={w with externalName := w'.externalName}
  | resourceGroupName => w'={w with resourceGroupName := w'.resourceGroupName}
  | props => w'={w with props := w'.props}
  | annotations => w'={w with annotations := w'.annotations}
  | flags => w'={w with flags := w'.flags}
  | layerStack => w'={w with layerStack := w'.layerStack}

def WireDefinitionField.represents : WireDefinitionField → List DefinitionField
  | externalName => [.externalName]
  | resourceGroupName => [.resourceGroupName]
  | props => [.props,.drbdOptions,.extraProps]
  | flags => [.flags]
  | layerStack => [.layerStack]
  | name => []
  | annotations => []

end Fields

section Rebuilt

def rebuildResource (old : ResourceSpec) (w : WireResource) : ResourceSpec :=
  {wireToCRDResourceSpec w with
    volumes := old.volumes
    drbdPort := old.drbdPort
    drbdNodeID := old.drbdNodeID
    skipInitialSync := old.skipInitialSync}

def rebuildDefinition (old : ResourceDefinitionSpec) (w : WireResourceDefinition) :
    ResourceDefinitionSpec :=
  {wireToCRDRDSpec w with
    volumeDefinitions := old.volumeDefinitions
    encryption := old.encryption
    drbdPort := old.drbdPort
    initialized := old.initialized}

theorem rel_trans {a b c : Option DRBDOptions} (h : Rel Same a b)
    (h' : Rel Same b c) : Rel Same a c := by
  cases h with
  | none => exact h'
  | some hab =>
    cases h' with
    | some hbc => exact .some (hab.trans hbc)

theorem DRBDOptions.Same.refl (a : DRBDOptions) : a.Same a :=
  ⟨rfl,rfl,rfl,rfl,Dict.Same.refl _⟩

theorem rel_refl {a : Option DRBDOptions} : Rel Same a a := by
  cases a with
  | none => exact .none
  | some a => exact .some (.refl a)

theorem rel_secret {a b : Option DRBDOptions} (h : Rel DRBDOptions.Same a b) :
    a.bind (·.sharedSecretRef)=b.bind (·.sharedSecretRef) := by
  cases h with
  | none => rfl
  | some hab => exact (DRBDOptions.same_iff.mp hab).2.2.1

theorem ResourceField.same_trans {g : ResourceField} {a b c : ResourceSpec} (h : g.Same a b)
    (h' : g.Same b c) : g.Same a c := by
  cases g with
  | props | extraProps => exact fun k => (h k).trans (h' k)
  | drbdOptions => exact rel_trans h h'
  | _ => exact Eq.trans h h'

theorem DefinitionField.same_trans {g : DefinitionField} {a b c : ResourceDefinitionSpec}
    (h : g.Same a b) (h' : g.Same b c) : g.Same a c := by
  cases g with
  | props | extraProps => exact fun k => (h k).trans (h' k)
  | drbdOptions => exact rel_trans h h'
  | _ => exact Eq.trans h h'

theorem secret_splitProps (p : Props) : (splitProps p).typed.bind (·.sharedSecretRef)=none := by
  have h := (splits_loop p).secret
  simp only [splitProps,propsToTyped]
  split
  · rfl
  · exact h

theorem resource_local (old : ResourceSpec) (f : WireResourceField) (w w' : WireResource)
    (h : f.Only w w') (g : ResourceField) (hg : g∉f.represents) :
    g.Same (rebuildResource old w') (rebuildResource old w) := by
  cases f with
  | props =>
    rw [h]
    cases g with
    | sharedSecretRef => exact (secret_splitProps w'.props).trans (secret_splitProps w.props).symm
    | props | drbdOptions | extraProps | storagePool =>
      exact absurd (by simp [WireResourceField.represents]) hg
    | _ => rfl
  | _ =>
    rw [h]
    cases g with
    | props | extraProps => exact Dict.Same.refl _
    | drbdOptions => exact rel_refl
    | _ => first | rfl | exact absurd (by simp [WireResourceField.represents]) hg

theorem definition_local (old : ResourceDefinitionSpec) (f : WireDefinitionField)
    (w w' : WireResourceDefinition) (h : f.Only w w') (g : DefinitionField)
    (hg : g∉f.represents) : g.Same (rebuildDefinition old w') (rebuildDefinition old w) := by
  cases f with
  | props =>
    rw [h]
    cases g with
    | sharedSecretRef => exact (secret_splitProps w'.props).trans (secret_splitProps w.props).symm
    | props | drbdOptions | extraProps =>
      exact absurd (by simp [WireDefinitionField.represents]) hg
    | _ => rfl
  | _ =>
    rw [h]
    cases g with
    | props | extraProps => exact Dict.Same.refl _
    | drbdOptions => exact rel_refl
    | _ => first | rfl | exact absurd (by simp [WireDefinitionField.represents]) hg

end Rebuilt

section Identity

theorem withDeletingFlag_eq_self {flags : List String} {deleting : Bool} :
    withDeletingFlag flags deleting=flags ↔ (deleting=true → resourceFlagDelete∈flags) := by
  unfold withDeletingFlag
  cases deleting with
  | false => simp
  | true => by_cases h : resourceFlagDelete∈flags <;> simp [h]

theorem storPoolName_plain : hasDRBDPrefix storPoolName=false := by
  rw [hasDRBDPrefix,Text.cutPrefix,propsKVPrefix,storPoolName,String.toList_ofList]
  rfl

structure ResourceCanonical (r : Object ResourceSpec) : Prop where
  stored : r.spec.stored.Canonical
  agree : ∀k,hasDRBDPrefix k=false → r.spec.extraProps.find k=r.spec.props.find k
  pool : r.spec.storagePool=(r.spec.props.find storPoolName).getD ""
  deleting : r.deleting=true → resourceFlagDelete∈r.spec.flags

structure DefinitionCanonical (d : Object ResourceDefinitionSpec) : Prop where
  stored : d.spec.stored.Canonical
  agree : ∀k,hasDRBDPrefix k=false → d.spec.extraProps.find k=d.spec.props.find k
  deleting : d.deleting=true → resourceFlagDelete∈d.spec.flags

theorem find_props_plain (s : Stored) {k : String} (hk : hasDRBDPrefix k=false) :
    s.props.find k=(s.extra.find k).or (s.residual.find k) := by
  have hno : s.options.value k=none := by
    cases hv : s.options.value k with
    | none => rfl
    | some v =>
      rw [hasDRBDPrefix_of_accepts (accepts_value hv)] at hk
      cases hk
  rw [s.find_props_options,hno,none_or]

theorem agree_iff {a b : Option String} : (b=a.or b ∧ a=a.or b) ↔ a=b := by
  cases a <;> cases b <;> simp [eq_comm]

theorem definition_identity (d : Object ResourceDefinitionSpec) :
    (∀g : DefinitionField,g.Same (rebuildDefinition d.spec (crdToWireRD d)) d.spec) ↔
      DefinitionCanonical d := by
  have hprops : (crdToWireRD d).props=d.spec.stored.props := rfl
  have hsplit := same_split_iff (s := d.spec.stored) (w := (crdToWireRD d).props)
    fun k _ => by rw [hprops]
  have hplain : (∀k,hasDRBDPrefix k=false →
      d.spec.stored.residual.find k=(crdToWireRD d).props.find k ∧
        d.spec.stored.extra.find k=(crdToWireRD d).props.find k) ↔
      ∀k,hasDRBDPrefix k=false → d.spec.extraProps.find k=d.spec.props.find k := by
    refine forall_congr' fun k => imp_congr_right fun hk => ?_
    rw [hprops,find_props_plain _ hk]
    exact agree_iff
  rw [hplain] at hsplit
  constructor
  · intro h
    obtain ⟨hcan,hagree⟩ := hsplit.mp ⟨h .drbdOptions,h .props,h .extraProps⟩
    exact ⟨hcan,hagree,withDeletingFlag_eq_self.mp (h .flags)⟩
  · rintro ⟨hcan,hagree,hflags⟩
    have hsame := hsplit.mpr ⟨hcan,hagree⟩
    intro g
    cases g with
    | props => exact hsame.residual
    | extraProps => exact hsame.extra
    | drbdOptions => exact hsame.typed
    | sharedSecretRef => exact rel_secret hsame.typed
    | flags => exact withDeletingFlag_eq_self.mpr hflags
    | _ => rfl

theorem find_crdToWireResource (r : Object ResourceSpec) (k : String) :
    (crdToWireResource r).props.find k=
      if r.spec.storagePool≠"" ∧ k=storPoolName then some r.spec.storagePool
      else r.spec.stored.props.find k := by
  change Dict.find (if _ then _ else _) k=_
  by_cases hpool : r.spec.storagePool="" <;> by_cases hk : k=storPoolName <;>
    simp [hpool,hk,Stored.props,ResourceSpec.stored]

theorem resource_identity (r : Object ResourceSpec) :
    (∀g : ResourceField,g.Same (rebuildResource r.spec (crdToWireResource r)) r.spec) ↔
      ResourceCanonical r := by
  have hprops (k : String) := find_crdToWireResource r k
  have hdrbd (k : String) (hk : hasDRBDPrefix k=true) :
      (crdToWireResource r).props.find k=r.spec.stored.props.find k := by
    rw [hprops,if_neg]
    rintro ⟨_,rfl⟩
    rw [storPoolName_plain] at hk
    cases hk
  have hsplit := same_split_iff hdrbd
  constructor
  · intro h
    obtain ⟨hcan,hplain⟩ := hsplit.mp ⟨h .drbdOptions,h .props,h .extraProps⟩
    refine ⟨hcan,fun k hk => (hplain k hk).2.trans (hplain k hk).1.symm,?_,
      withDeletingFlag_eq_self.mp (h .flags)⟩
    have hpool : ((crdToWireResource r).props.find storPoolName).getD ""=r.spec.storagePool :=
      h .storagePool
    rw [← hpool,← (hplain _ storPoolName_plain).1]
    rfl
  · rintro ⟨hcan,hagree,hpool,hflags⟩
    have hplain (k : String) (hk : hasDRBDPrefix k=false) :
        (crdToWireResource r).props.find k=r.spec.props.find k := by
      rw [hprops]
      split
      · rename_i h
        obtain ⟨hne,rfl⟩ := h
        rw [hpool] at hne ⊢
        cases hv : r.spec.props.find storPoolName with
        | none => simp [hv] at hne
        | some v => rfl
      · rw [find_props_plain _ hk]
        change (r.spec.extraProps.find k).or (r.spec.props.find k)=_
        rw [hagree k hk,Option.or_self]
    have hsame := hsplit.mpr ⟨hcan,fun k hk =>
      ⟨(hplain k hk).symm,(hagree k hk).trans (hplain k hk).symm⟩⟩
    intro g
    cases g with
    | props => exact hsame.residual
    | extraProps => exact hsame.extra
    | drbdOptions => exact hsame.typed
    | sharedSecretRef => exact rel_secret hsame.typed
    | flags => exact withDeletingFlag_eq_self.mpr hflags
    | storagePool =>
      change ((crdToWireResource r).props.find storPoolName).getD ""=_
      rw [hplain _ storPoolName_plain,hpool]
    | _ => rfl

end Identity

section Patches

variable (r : Object ResourceSpec) (d : Object ResourceDefinitionSpec)

abbrev ResourceFrames : Prop :=
  Frames (fun g a b => ResourceField.Same a b g) (fun f w w' => WireResourceField.Only w w' f)
    WireResourceField.represents patchResourceSpec r

abbrev DefinitionFrames : Prop :=
  Frames (fun g a b => DefinitionField.Same a b g) (fun f w w' => WireDefinitionField.Only w w' f)
    WireDefinitionField.represents patchResourceDefinitionSpec d

theorem resourceFrames_of_rebuild : ResourceFrames r ↔
    ∀g : ResourceField,g.Same (rebuildResource r.spec (crdToWireResource r)) r.spec :=
  Frames.of_rebuild (crdToWireResource r) (rebuildResource r.spec)
    (fun w => mergeUserAnnotationsInto r.annotations w.annotations [resourceAnnotationVolumeNumbers])
    (fun mutate => by unfold patchResourceSpec; cases mutate (crdToWireResource r) <;> rfl)
    ResourceField.same_trans (resource_local r.spec)

theorem definitionFrames_of_rebuild : DefinitionFrames d ↔
    ∀g : DefinitionField,g.Same (rebuildDefinition d.spec (crdToWireRD d)) d.spec :=
  Frames.of_rebuild (crdToWireRD d) (rebuildDefinition d.spec)
    (fun w => mergeUserAnnotationsInto d.annotations w.annotations [])
    (fun mutate => by unfold patchResourceDefinitionSpec; cases mutate (crdToWireRD d) <;> rfl)
    DefinitionField.same_trans (definition_local d.spec)

/-- The patches leave alone what they are not asked to change just on objects that are as the store
writes them. -/
theorem patch_frames_iff (r : Object ResourceSpec) (d : Object ResourceDefinitionSpec) :
    (ResourceFrames r ↔ ResourceCanonical r) ∧ (DefinitionFrames d ↔ DefinitionCanonical d) :=
  ⟨(resourceFrames_of_rebuild r).trans (resource_identity r),
    (definitionFrames_of_rebuild d).trans (definition_identity d)⟩

def deletingReplica : Object ResourceSpec where
  name := "vol.n1"
  annotations := .empty
  deleting := true
  spec := ⟨"vol","n1",.empty,[],none,.empty,"",[],false,some 7000,some 0,some true⟩

def securedDefinition : Object ResourceDefinitionSpec where
  name := "vol"
  annotations := .empty
  deleting := false
  spec := ⟨"","",.empty,[],[],[],some {empty with
    net := some {DRBDNetOptions.empty with sharedSecretRef := some "drbd-secret"}},none,.empty,none,none⟩

/-- Patched with the identity, the first gets a flag and the second loses its secret. -/
theorem identity_patch_changes :
    ¬ResourceFrames deletingReplica ∧ ¬DefinitionFrames securedDefinition := by
  constructor
  · intro h
    have hflags : ["DELETE"]=[] := (resourceFrames_of_rebuild deletingReplica).mp h .flags
    cases hflags
  · intro h
    have hsecret := (definitionFrames_of_rebuild securedDefinition).mp h .sharedSecretRef
    cases (secret_splitProps (crdToWireRD securedDefinition).props).symm.trans hsecret

end Patches

end Blockstor.Options
