import Blockstor.Options.PatchFrame

namespace Blockstor.Options

open Framework Store Field Dict Option

section Resolve

structure ControllerConfigSpec where
  drbdOptions : Option DRBDOptions
  extraProps : Props

structure ResourceGroupSpec where
  props : Props
  drbdOptions : Option DRBDOptions
  extraProps : Props

structure Cluster where
  controllerConfig : Option ControllerConfigSpec
  groups : Dict String ResourceGroupSpec

def Stored.nothing : Stored := ⟨none,.empty,.empty⟩

def scopeInputs (c : Cluster) (rd : Option (Object ResourceDefinitionSpec)) : Stored × Stored :=
  match rd with
  | none => (.nothing,.nothing)
  | some rd =>
    if rd.spec.resourceGroupName="" then (.nothing,rd.spec.stored)
    else
      match c.groups.find (K8s.name rd.spec.resourceGroupName) with
      | some rg => (⟨rg.drbdOptions,rg.props,rg.extraProps⟩,rd.spec.stored)
      | none => (.nothing,rd.spec.stored)

def emitScopeProps (typed : Option DRBDOptions) (extras : Props) : Props :=
  (empty.copy extras).copy (typedDRBDOptionsToProps typed)

def mergeScopeProps (drbdProps rawProps : Props) : Props := (empty.copy rawProps).copy drbdProps

def resolveOptions (controller resourceGroup resourceDef resource : Props) : Props :=
  let out := [controller,resourceGroup,resourceDef,resource].foldl
    (fun (out level : Props) => out.copy (level.keep hasDRBDPrefix)) empty
  out.copy (resource.keep fun k => !hasDRBDPrefix k)

def overlayNonDRBDExtras (out src : Props) : Props := out.copy (src.keep fun k => !hasDRBDPrefix k)

def resolve (c : Cluster) (target : Option (Object ResourceSpec))
    (rd : Option (Object ResourceDefinitionSpec)) : Props :=
  match target with
  | none => .empty
  | some target =>
    let ctrlTyped := c.controllerConfig.bind (·.drbdOptions)
    let ctrlExtras := (c.controllerConfig.map (·.extraProps)).getD .empty
    let (rgInfo,rdInfo) := scopeInputs c rd
    let ctrlProps := emitScopeProps ctrlTyped ctrlExtras
    let rgProps := emitScopeProps rgInfo.typed rgInfo.extra
    let rdProps := emitScopeProps rdInfo.typed rdInfo.extra
    let resProps := emitScopeProps target.spec.drbdOptions target.spec.extraProps
    let ctrlMerged := mergeScopeProps ctrlProps .empty
    let rgMerged := mergeScopeProps rgProps rgInfo.residual
    let rdMerged := mergeScopeProps rdProps rdInfo.residual
    let resMerged := mergeScopeProps resProps target.spec.props
    let out := resolveOptions ctrlMerged rgMerged rdMerged resMerged
    overlayNonDRBDExtras (overlayNonDRBDExtras out rgInfo.extra) rdInfo.extra

end Resolve

section Scopes

structure Scopes where
  resource : Stored
  definition : Stored
  group : Stored
  controller : Stored

def Scopes.list (s : Scopes) : List Stored := [s.resource,s.definition,s.group,s.controller]

def scopes (c : Cluster) (target : Object ResourceSpec)
    (rd : Option (Object ResourceDefinitionSpec)) : Scopes where
  resource := target.spec.stored
  definition := (scopeInputs c rd).2
  group := (scopeInputs c rd).1
  controller := ⟨c.controllerConfig.bind (·.drbdOptions),.empty,
    (c.controllerConfig.map (·.extraProps)).getD .empty⟩

def Scopes.closest (s : Scopes) (k : String) : Option String := s.list.findSome? (·.props.find k)

def Stored.plain (s : Stored) (k : String) : Option String := (s.extra.find k).or (s.residual.find k)

def Stored.tieBreaker (s : Stored) : Option Bool :=
  (s.typed.bind (·.resource)).bind (·.autoTieBreaker)

variable (s : Stored) (k : String)

theorem find_scope : (mergeScopeProps (emitScopeProps s.typed s.extra) s.residual).find k=
    (s.typed.bind (·.applied k)).or (s.plain k) := by
  simp [mergeScopeProps,emitScopeProps,find_typedDRBDOptionsToProps,Stored.plain,Option.or_assoc]

theorem Stored.find_props_eq : s.props.find k=(s.typed.bind (·.value k)).or (s.plain k) :=
  s.find_props k

theorem find_scope_of_ne {k : String} (h : k≠autoTieBreaker.key) :
    (mergeScopeProps (emitScopeProps s.typed s.extra) s.residual).find k=s.props.find k := by
  rw [find_scope,s.find_props_eq]
  simp [DRBDOptions.applied,h]

theorem find_scope_tieBreaker :
    (mergeScopeProps (emitScopeProps s.typed s.extra) s.residual).find autoTieBreaker.key=
      s.plain autoTieBreaker.key := by
  rw [find_scope]
  simp [DRBDOptions.applied]

theorem find_props_tieBreaker : s.props.find autoTieBreaker.key=
    (s.tieBreaker.map formatBool).or (s.plain autoTieBreaker.key) := by
  have h : s.typed.bind (·.value autoTieBreaker.key)=s.tieBreaker.map formatBool := by
    unfold Stored.tieBreaker
    cases s.typed with
    | none => rfl
    | some o =>
      rw [bind_some,bind_some,value_key]
      change o.resource.bind (·.autoTieBreaker.map formatBool)=_
      cases o.resource <;> rfl
  rw [s.find_props_eq,h]

theorem find_props_eq_plain {k : String} (h : hasDRBDPrefix k=false) : s.props.find k=s.plain k :=
  find_props_plain s h

theorem find_resolveOptions (a b c d : Props) : (resolveOptions a b c d).find k=
    if hasDRBDPrefix k then [d,c,b,a].findSome? (·.find k) else d.find k := by
  cases h : hasDRBDPrefix k
  · simp [resolveOptions,h]
  · simp only [resolveOptions,List.foldl,find_copy,find_keep,h,find_empty,
      Bool.not_true,Bool.false_eq_true,if_true,if_false,none_or,or_none,
      List.findSome?_cons,List.findSome?_nil]
    cases d.find k <;> cases c.find k <;> cases b.find k <;> cases a.find k <;> rfl

variable (c : Cluster) (target : Object ResourceSpec) (rd : Option (Object ResourceDefinitionSpec))

/-- What the resolver answers. A DRBD property is looked up scope by scope; for any other one the
definition's and the group's extra properties come before the resource. -/
theorem find_resolve : (resolve c (some target) rd).find k=
    if hasDRBDPrefix k then (scopes c target rd).list.findSome? fun s =>
      (s.typed.bind (·.applied k)).or (s.plain k)
    else ((scopes c target rd).definition.extra.find k).or
      (((scopes c target rd).group.extra.find k).or ((scopes c target rd).resource.plain k)) := by
  have hscope (s : Stored) := find_scope s k
  have hctrl := hscope (scopes c target rd).controller
  have hrg := hscope (scopes c target rd).group
  have hrd := hscope (scopes c target rd).definition
  have hres := hscope (scopes c target rd).resource
  have hresolve : resolve c (some target) rd=
      overlayNonDRBDExtras (overlayNonDRBDExtras (resolveOptions
        (mergeScopeProps (emitScopeProps (scopes c target rd).controller.typed
          (scopes c target rd).controller.extra) (scopes c target rd).controller.residual)
        (mergeScopeProps (emitScopeProps (scopes c target rd).group.typed
          (scopes c target rd).group.extra) (scopes c target rd).group.residual)
        (mergeScopeProps (emitScopeProps (scopes c target rd).definition.typed
          (scopes c target rd).definition.extra) (scopes c target rd).definition.residual)
        (mergeScopeProps (emitScopeProps (scopes c target rd).resource.typed
          (scopes c target rd).resource.extra) (scopes c target rd).resource.residual))
        (scopes c target rd).group.extra) (scopes c target rd).definition.extra := rfl
  rw [hresolve]
  generalize scopes c target rd=s at *
  cases h : hasDRBDPrefix k with
  | true =>
    simp only [overlayNonDRBDExtras,find_copy,find_keep,h,Bool.not_true,
      Bool.false_eq_true,if_false,if_true,none_or,find_resolveOptions,Scopes.list,
      List.findSome?_cons,List.findSome?_nil,hctrl,hrg,hrd,hres]
  | false =>
    have hnone : s.resource.typed.bind (·.applied k)=none := by
      cases s.resource.typed with
      | none => rfl
      | some o =>
        cases hv : o.value k with
        | none => simp [DRBDOptions.applied,hv]
        | some v =>
          rw [hasDRBDPrefix_of_accepts (accepts_value hv)] at h
          cases h
    rw [hnone,none_or] at hres
    simp only [overlayNonDRBDExtras,find_copy,find_keep,h,Bool.not_false,
      Bool.false_eq_true,if_false,if_true,find_resolveOptions,hres]

end Scopes

section Closest

theorem rel_refl_of {β : Type} {R : β → β → Prop} (hR : ∀b,R b b) (a : Option β) :
    Rel R a a := by
  cases a with
  | none => exact .none
  | some b => exact .some (hR b)

theorem rel_some_iff {β : Type} {R : β → β → Prop} {b : β} {a : Option β} :
    Rel R (some b) a ↔ ∃w,a=some w ∧ R b w := by
  cases a with
  | none => exact iff_of_false nofun nofun
  | some w => simp [rel_some_some]

theorem rel_eq_iff {β : Type} {a b : Option β} : Rel Eq a b ↔ a=b := by
  cases a <;> cases b <;> simp [rel_some_some]

/-- Leaving out one way to set a value makes no difference just when the first scope that sets it sets
it in another way, or to what the others give. -/
theorem rel_findSome?_or {α β : Type} {R : β → β → Prop} (hR : ∀b,R b b) (t p : α → Option β)
    (l : List α) (d : Option β) :
    Rel R ((l.findSome? fun x => (t x).or (p x)).or d) ((l.findSome? p).or d) ↔
      ∀x b,l.find? (fun x => (t x).isSome || (p x).isSome)=some x → t x=some b →
        ∃w,(l.findSome? p).or d=some w ∧ R b w := by
  induction l with
  | nil => exact iff_of_true (rel_refl_of hR d) nofun
  | cons a l ih =>
    cases ht : t a with
    | some b =>
      have hfind : (a::l).find? (fun x => (t x).isSome || (p x).isSome)=some a := by simp [ht]
      have hsome : (a::l).findSome? (fun x => (t x).or (p x))=some b := by simp [ht]
      rw [hfind,hsome,some_or,rel_some_iff]
      constructor
      · intro h x b' hx hb'
        cases hx
        rw [ht] at hb'
        cases hb'
        exact h
      · exact fun h => h a b rfl ht
    | none =>
      cases hp : p a with
      | some v =>
        have hfind : (a::l).find? (fun x => (t x).isSome || (p x).isSome)=some a := by simp [hp]
        rw [hfind]
        refine iff_of_true ?_ fun x b hx hb => ?_
        · simpa [ht,hp] using Rel.some (hR v)
        · cases hx
          rw [ht] at hb
          cases hb
      | none => simpa [ht,hp] using ih

def Stored.setsTieBreaker (s : Stored) : Bool :=
  s.tieBreaker.isSome || (s.plain autoTieBreaker.key).isSome

structure Scopes.Undisputed (s : Scopes) (k : String) : Prop where
  /-- The extra properties that are laid over the resource's do not change them. -/
  overlaid : ∀v w,s.resource.plain k=some v →
    (s.definition.extra.find k).or (s.group.extra.find k)=some w → w=v
  /-- The definition's own map is not read: what is only there the group says too. -/
  definition : ∀v,s.resource.plain k=none → s.definition.extra.find k=none →
    s.definition.residual.find k=some v → s.group.extra.find k=some v
  /-- Neither are the group's map and the controller's properties. -/
  inherited : s.resource.plain k=none → s.definition.plain k=none →
    s.group.extra.find k=none → s.group.residual.find k=none ∧ s.controller.plain k=none

structure Scopes.Settled (s : Scopes) : Prop where
  undisputed : ∀k,hasDRBDPrefix k=false → s.Undisputed k
  /-- The tie breaker of the typed options is not read: the maps say the same. -/
  tieBreaker : ∀x b,s.list.find? (·.setsTieBreaker)=some x → x.tieBreaker=some b →
    s.list.findSome? (·.plain autoTieBreaker.key)=some (formatBool b)

theorem closest_plain {k : String} (hk : hasDRBDPrefix k=false) (s : Scopes) : s.closest k=
    (s.resource.plain k).or ((s.definition.plain k).or ((s.group.plain k).or
      (s.controller.plain k))) := by
  simp only [Scopes.closest,Scopes.list,find_props_eq_plain _ hk,List.findSome?_cons,
    List.findSome?_nil]
  cases s.resource.plain k <;> cases s.definition.plain k <;> cases s.group.plain k <;>
    cases s.controller.plain k <;> rfl

theorem undisputed_iff (s : Scopes) (k : String) :
    (s.definition.extra.find k).or ((s.group.extra.find k).or (s.resource.plain k))=
      (s.resource.plain k).or ((s.definition.plain k).or ((s.group.plain k).or
        (s.controller.plain k))) ↔ s.Undisputed k := by
  have h : ∀res dx dp gx gp ctrl : Option String,
      dx.or (gx.or res)=res.or ((dx.or dp).or ((gx.or gp).or ctrl)) ↔
      (∀v w,res=some v → dx.or gx=some w → w=v) ∧
      (∀v,res=none → dx=none → dp=some v → gx=some v) ∧
      (res=none → dx.or dp=none → gx=none → gp=none ∧ ctrl=none) := by
    intro res dx dp gx gp ctrl
    cases res <;> cases dx <;> cases gx <;> cases dp <;> cases gp <;> cases ctrl <;>
      simp [eq_comm]
  refine (h _ _ _ _ _ _).trans ⟨fun h => ⟨h.1,h.2.1,h.2.2⟩,fun h => ⟨h.overlaid,h.definition,?_⟩⟩
  exact h.inherited

variable (c : Cluster) (target : Object ResourceSpec) (rd : Option (Object ResourceDefinitionSpec))

/-- The closest scope decides every property just when the scopes are settled. -/
theorem resolve_closest_iff : (∀k,(resolve c (some target) rd).find k=
    (scopes c target rd).closest k) ↔ (scopes c target rd).Settled := by
  simp only [find_resolve]
  generalize scopes c target rd=s
  have hdrbd {k : String} (hne : k≠autoTieBreaker.key) :
      (s.list.findSome? fun s => (s.typed.bind (·.applied k)).or (s.plain k))=s.closest k := by
    refine congrArg (List.findSome? · s.list) (funext fun x => ?_)
    rw [← find_scope,find_scope_of_ne x hne]
  have htie : (s.list.findSome? fun s => (s.typed.bind (·.applied autoTieBreaker.key)).or
      (s.plain autoTieBreaker.key))=s.closest autoTieBreaker.key ↔
      ∀x b,s.list.find? (·.setsTieBreaker)=some x → x.tieBreaker=some b →
        s.list.findSome? (·.plain autoTieBreaker.key)=some (formatBool b) := by
    have hor := rel_findSome?_or (@Eq.refl String) (fun s : Stored => s.tieBreaker.map formatBool)
      (·.plain autoTieBreaker.key) s.list none
    simp only [← find_props_tieBreaker,isSome_map,map_eq_some_iff,or_none,
      rel_eq_iff,exists_eq_right'] at hor
    simp only [← find_scope,find_scope_tieBreaker]
    refine eq_comm.trans (hor.trans ⟨fun h x b hx hb => h x _ hx ⟨b,hb,rfl⟩,?_⟩)
    rintro h x _ hx ⟨b,hb,rfl⟩
    exact h x b hx hb
  constructor
  · intro h
    refine ⟨fun k hk => (undisputed_iff s k).mp ?_,htie.mp ?_⟩
    · have hk' := h k
      rw [hk,closest_plain hk] at hk'
      exact hk'
    · have hk' := h autoTieBreaker.key
      rw [hasDRBDPrefix_key,if_pos rfl] at hk'
      exact hk'
  · intro h k
    cases hk : hasDRBDPrefix k with
    | true =>
      rw [if_pos rfl]
      by_cases hne : k=autoTieBreaker.key
      · subst hne
        exact htie.mpr h.tieBreaker
      · exact hdrbd hne
    | false =>
      rw [if_neg (by decide),closest_plain hk]
      exact (undisputed_iff s k).mpr (h.undisputed k hk)

def fileSystemType : String := "FileSystem/Type"

theorem fileSystemType_plain : hasDRBDPrefix fileSystemType=false := by
  rw [hasDRBDPrefix,Text.cutPrefix,propsKVPrefix,fileSystemType,String.toList_ofList]
  rfl

def xfsReplica : Object ResourceSpec where
  name := "vol.n1"
  annotations := .empty
  deleting := false
  spec := ⟨"vol","n1",empty.set fileSystemType "xfs",[],none,
    empty.set fileSystemType "xfs","",[],false,none,none,none⟩

def ext4Definition : Object ResourceDefinitionSpec where
  name := "vol"
  annotations := .empty
  deleting := false
  spec := ⟨"","",empty.set fileSystemType "ext4",[],[],[],none,none,
    empty.set fileSystemType "ext4",none,none⟩

/-- The definition overrules the resource. -/
theorem definition_overrules : ¬∀k,(resolve ⟨none,.empty⟩ (some xfsReplica) (some ext4Definition)).find k=
    (scopes ⟨none,.empty⟩ xfsReplica (some ext4Definition)).closest k := by
  intro h
  have hk := h fileSystemType
  rw [find_resolve,fileSystemType_plain,closest_plain fileSystemType_plain] at hk
  simp [scopes,scopeInputs,ext4Definition,xfsReplica,ResourceSpec.stored,
    ResourceDefinitionSpec.stored,Stored.plain] at hk

end Closest

end Blockstor.Options
