import Blockstor.Options.Resolve

namespace Blockstor.Options

open Framework Store Field Dict Option

section View

inductive PropScope
  | controller | resourceGroup | resourceDefinition | resource
  deriving DecidableEq

structure EffectivePropEntry where
  value : String
  scope : PropScope

abbrev EffectiveProperties := Dict String EffectivePropEntry

def mergeEffectiveProps (out : EffectiveProperties) (props : Props) (scope : PropScope) :
    EffectiveProperties :=
  out.copy (props.mapVal fun v => ⟨v,scope⟩)

def buildEffectiveProps (scopes : List (Props × PropScope)) : EffectiveProperties :=
  scopes.foldl (fun out sc => mergeEffectiveProps out sc.1 sc.2) .empty

def crdToWireRGProps (rg : ResourceGroupSpec) : Props :=
  mergeProps rg.props (typedToProps rg.drbdOptions rg.extraProps)

def controllerScopeProps (c : Cluster) : Props :=
  (c.controllerConfig.map (·.extraProps)).getD .empty

/-- The view of a replica, made from the wire forms; `rd` is what is stored under the name of its
definition. -/
def effectivePropsForResource (c : Cluster) (rd : Option (Object ResourceDefinitionSpec))
    (rsc : WireResource) : EffectiveProperties :=
  let rdWire := rd.map crdToWireRD
  let rdProps := (rdWire.map (·.props)).getD .empty
  let rgProps := match rdWire with
    | none => .empty
    | some rd =>
      if rd.resourceGroupName="" then .empty
      else ((c.groups.find (K8s.name rd.resourceGroupName)).map crdToWireRGProps).getD .empty
  buildEffectiveProps [(controllerScopeProps c,.controller),(rgProps,.resourceGroup),
    (rdProps,.resourceDefinition),(rsc.props,.resource)]

def shown (c : Cluster) (target : Object ResourceSpec) (rd : Option (Object ResourceDefinitionSpec))
    (k : String) : Option String :=
  ((effectivePropsForResource c rd (crdToWireResource target)).find k).map (·.value)

end View

section Shown

variable (c : Cluster) (target : Object ResourceSpec) (rd : Option (Object ResourceDefinitionSpec))
  (k : String)

theorem find_mergeEffectiveProps (out : EffectiveProperties) (props : Props) (scope : PropScope) :
    ((mergeEffectiveProps out props scope).find k).map (·.value)=
      (props.find k).or ((out.find k).map (·.value)) := by
  simp only [mergeEffectiveProps,find_copy,find_mapVal]
  cases props.find k <;> rfl

theorem find_shown : shown c target rd k= ((crdToWireResource target).props.find k).or
      (((scopes c target rd).definition.props.find k).or
        (((scopes c target rd).group.props.find k).or
          ((scopes c target rd).controller.extra.find k))) := by
  have hnothing : Stored.nothing.props.find k=none := by
    rw [Stored.find_props]
    rfl
  have hshown : ∀rgProps rdProps resProps ctrl : Props,
      ((buildEffectiveProps [(ctrl,.controller),(rgProps,.resourceGroup),
        (rdProps,.resourceDefinition),(resProps,.resource)]).find k).map (·.value)=
      (resProps.find k).or ((rdProps.find k).or ((rgProps.find k).or (ctrl.find k))) := by
    intro rgProps rdProps resProps ctrl
    simp only [buildEffectiveProps,List.foldl,find_mergeEffectiveProps,find_empty,
      map_none,or_none]
  unfold shown effectivePropsForResource
  simp only
  rw [hshown]
  cases rd with
  | none =>
    change (_ : Option String).or ((find empty k).or ((find empty k).or _))=
      or _ ((Stored.nothing.props.find k).or ((Stored.nothing.props.find k).or _))
    rw [hnothing]
    rfl
  | some rd =>
    by_cases hname : rd.spec.resourceGroupName=""
    · simp only [scopes,scopeInputs,crdToWireRD,map_some,hname,if_true,hnothing,
        find_empty]
      rfl
    · cases hrg : c.groups.find (K8s.name rd.spec.resourceGroupName) with
      | none =>
        simp only [scopes,scopeInputs,crdToWireRD,map_some,hname,if_false,hrg,
          map_none,getD_none,hnothing,find_empty]
        rfl
      | some rg =>
        simp only [scopes,scopeInputs,crdToWireRD,map_some,hname,if_false,hrg,
          getD_some]
        rfl

def Alike (k v w : String) : Prop :=
  v=w ∨ ∃f : Field,k=f.key ∧
    (f.kind=.integer ∧ (∃n,parseInt32 v=some n ∧ parseInt32 w=some n) ∨
      f.kind=.boolean ∧ ∃b,parseBool v=some b ∧ parseBool w=some b)

structure Scopes.Shown (s : Scopes) (pool : String) : Prop where
  undisputed : ∀k,hasDRBDPrefix k=false → ¬(pool≠"" ∧ k=storPoolName) → s.Undisputed k
  /-- The pool is shown from its own field, but not applied from there. -/
  pool : pool≠"" → (s.definition.extra.find storPoolName).or
    ((s.group.extra.find storPoolName).or (s.resource.plain storPoolName))=some pool
  /-- The tie breaker of the typed options is shown, but not applied. -/
  tieBreaker : ∀x b,[s.resource,s.definition,s.group].find? (·.setsTieBreaker)=some x →
    x.tieBreaker=some b →
    ∃w,s.list.findSome? (·.plain autoTieBreaker.key)=some w ∧ parseBool w=some b
  /-- The typed options of the controller are applied, but not shown. -/
  controller : ∀o k v,s.controller.typed=some o → o.value k=some v →
    k≠autoTieBreaker.key →
    [s.resource,s.definition,s.group].findSome? (·.props.find k)=none →
    ∃w,s.controller.extra.find k=some w ∧ Alike k w v

theorem alike_plain {k v w : String} (hk : hasDRBDPrefix k=false) : Alike k v w ↔ v=w := by
  refine ⟨?_,.inl⟩
  rintro (h|⟨f,rfl,_⟩)
  · exact h
  · rw [f.hasDRBDPrefix_key] at hk
    cases hk

theorem alike_formatBool {f : Field} (hkind : f.kind=.boolean) {b : Bool} {w : String} :
    Alike f.key (formatBool b) w ↔ parseBool w=some b := by
  constructor
  · rintro (rfl|⟨g,hg,⟨hint,_⟩|⟨_,b',hb,hw⟩⟩)
    · exact parseBool_formatBool b
    · obtain rfl := key_inj.mp hg
      rw [hkind] at hint
      cases hint
    · rw [parseBool_formatBool] at hb
      cases hb
      exact hw
  · exact fun h => .inr ⟨f,rfl,.inr ⟨hkind,b,parseBool_formatBool b,h⟩⟩

theorem rel_alike_plain {k : String} (hk : hasDRBDPrefix k=false) {a b : Option String} :
    Rel (Alike k) a b ↔ a=b := by
  cases a <;> cases b <;> simp [rel_some_some,alike_plain hk]

theorem alike_refl (k v : String) : Alike k v v := .inl rfl

theorem controller_plain : (scopes c target rd).controller.plain k=
    (scopes c target rd).controller.extra.find k :=
  or_none

theorem list_findSome? (s : Scopes) (f : Stored → Option String) :
    s.list.findSome? f=([s.resource,s.definition,s.group].findSome? f).or (f s.controller) := by
  simp only [Scopes.list,List.findSome?_cons,List.findSome?_nil]
  cases f s.resource <;> cases f s.definition <;> cases f s.group <;> cases f s.controller <;> rfl

theorem shown_drbd (hk : hasDRBDPrefix k=true) : shown c target rd k=
    ([(scopes c target rd).resource,(scopes c target rd).definition,
      (scopes c target rd).group].findSome? (·.props.find k)).or
      ((scopes c target rd).controller.extra.find k) := by
  have hres : (crdToWireResource target).props.find k=(scopes c target rd).resource.props.find k := by
    rw [find_crdToWireResource,if_neg]
    · rfl
    · rintro ⟨_,rfl⟩
      rw [storPoolName_plain] at hk
      cases hk
  rw [find_shown,hres]
  generalize scopes c target rd=s
  simp only [List.findSome?_cons,List.findSome?_nil]
  cases s.resource.props.find k <;> cases s.definition.props.find k <;>
    cases s.group.props.find k <;> rfl

theorem shown_plain (hk : hasDRBDPrefix k=false) : shown c target rd k=
    if target.spec.storagePool≠"" ∧ k=storPoolName then some target.spec.storagePool
    else ((scopes c target rd).resource.plain k).or (((scopes c target rd).definition.plain k).or
      (((scopes c target rd).group.plain k).or ((scopes c target rd).controller.plain k))) := by
  rw [find_shown,find_crdToWireResource,find_props_eq_plain _ hk,find_props_eq_plain _ hk,
    find_props_eq_plain _ hk,controller_plain]
  split <;> rfl

theorem resolve_tieBreaker : (resolve c (some target) rd).find autoTieBreaker.key=
    (scopes c target rd).list.findSome? (·.plain autoTieBreaker.key) := by
  rw [find_resolve,hasDRBDPrefix_key,if_pos rfl]
  simp only [← find_scope,find_scope_tieBreaker]

theorem resolve_drbd {k : String} (hk : hasDRBDPrefix k=true) (hne : k≠autoTieBreaker.key) :
    (resolve c (some target) rd).find k=(scopes c target rd).closest k := by
  rw [find_resolve,hk,if_pos rfl]
  refine congrArg (List.findSome? · _) (funext fun x => ?_)
  rw [← find_scope,find_scope_of_ne x hne]

theorem alike_tieBreaker_iff : Rel (Alike autoTieBreaker.key)
    (shown c target rd autoTieBreaker.key)
    ((resolve c (some target) rd).find autoTieBreaker.key) ↔
    ∀x b,[(scopes c target rd).resource,(scopes c target rd).definition,
      (scopes c target rd).group].find? (·.setsTieBreaker)=some x → x.tieBreaker=some b →
      ∃w,(scopes c target rd).list.findSome? (·.plain autoTieBreaker.key)=some w ∧
        parseBool w=some b := by
  have hor := rel_findSome?_or (alike_refl autoTieBreaker.key)
    (fun s : Stored => s.tieBreaker.map formatBool) (·.plain autoTieBreaker.key)
    [(scopes c target rd).resource,(scopes c target rd).definition,(scopes c target rd).group]
    ((scopes c target rd).controller.plain autoTieBreaker.key)
  simp only [← find_props_tieBreaker,isSome_map,map_eq_some_iff,
    ← list_findSome?] at hor
  rw [shown_drbd _ _ _ _ autoTieBreaker.hasDRBDPrefix_key,resolve_tieBreaker,
    ← controller_plain]
  refine hor.trans ⟨fun h x b hx hb => ?_,?_⟩
  · obtain ⟨w,hw,halike⟩ := h x _ hx ⟨b,hb,rfl⟩
    exact ⟨w,hw,(alike_formatBool rfl).mp halike⟩
  · rintro h x _ hx ⟨b,hb,rfl⟩
    obtain ⟨w,hw,hparse⟩ := h x b hx hb
    exact ⟨w,hw,(alike_formatBool rfl).mpr hparse⟩

theorem alike_drbd_iff {k : String} (hk : hasDRBDPrefix k=true) (hne : k≠autoTieBreaker.key) :
    Rel (Alike k) (shown c target rd k) ((resolve c (some target) rd).find k) ↔
    ∀o v,(scopes c target rd).controller.typed=some o → o.value k=some v →
      [(scopes c target rd).resource,(scopes c target rd).definition,
        (scopes c target rd).group].findSome? (·.props.find k)=none →
      ∃w,(scopes c target rd).controller.extra.find k=some w ∧ Alike k w v := by
  rw [shown_drbd _ _ _ _ hk,resolve_drbd _ _ _ hk hne,Scopes.closest,list_findSome?]
  cases hup : [(scopes c target rd).resource,(scopes c target rd).definition,
      (scopes c target rd).group].findSome? (·.props.find k) with
  | some v =>
    rw [some_or,some_or]
    exact iff_of_true (.some (alike_refl k v)) fun _ _ _ _ h => by cases h
  | none =>
    rw [none_or,none_or,Stored.find_props_eq,controller_plain]
    cases htyped : (scopes c target rd).controller.typed with
    | none =>
      rw [bind_none,none_or]
      exact iff_of_true (rel_refl_of (alike_refl k) _) fun _ _ ho => by cases ho
    | some o =>
      rw [bind_some]
      cases hv : o.value k with
      | none =>
        rw [none_or]
        refine iff_of_true (rel_refl_of (alike_refl k) _) fun o' v ho hv' => ?_
        cases ho
        rw [hv] at hv'
        cases hv'
      | some v =>
        constructor
        · intro h o' v' ho hv' _
          cases ho
          rw [hv] at hv'
          cases hv'
          cases hx : (scopes c target rd).controller.extra.find k with
          | none =>
            rw [hx] at h
            cases h
          | some w =>
            rw [hx] at h
            exact ⟨w,rfl,rel_some_some.mp h⟩
        · intro h
          obtain ⟨w,hw,halike⟩ := h o v rfl hv rfl
          rw [hw]
          exact .some halike

/-- What is shown for every property is what is applied just under these conditions. -/
theorem shown_applied_iff :
    (∀k,Rel (Alike k) (shown c target rd k) ((resolve c (some target) rd).find k)) ↔
      (scopes c target rd).Shown target.spec.storagePool := by
  have hpool : Rel (Alike storPoolName) (shown c target rd storPoolName)
      ((resolve c (some target) rd).find storPoolName) ↔
      if target.spec.storagePool≠"" then ((scopes c target rd).definition.extra.find storPoolName).or
        (((scopes c target rd).group.extra.find storPoolName).or
          ((scopes c target rd).resource.plain storPoolName))=some target.spec.storagePool
      else (scopes c target rd).Undisputed storPoolName := by
    rw [rel_alike_plain storPoolName_plain,shown_plain _ _ _ _ storPoolName_plain,find_resolve,
      storPoolName_plain,if_neg (by decide : ¬false=true)]
    by_cases hne : target.spec.storagePool=""
    · simp only [hne,ne_eq,not_true,false_and,if_false]
      exact eq_comm.trans (undisputed_iff _ _)
    · simp only [hne,ne_eq,not_false_eq_true,and_self,if_true]
      exact eq_comm
  have hother {k : String} (hk : hasDRBDPrefix k=false)
      (hne : ¬(target.spec.storagePool≠"" ∧ k=storPoolName)) :
      Rel (Alike k) (shown c target rd k) ((resolve c (some target) rd).find k) ↔
        (scopes c target rd).Undisputed k := by
    rw [rel_alike_plain hk,shown_plain _ _ _ _ hk,find_resolve,hk,if_neg hne,
      if_neg (by decide : ¬false=true)]
    exact eq_comm.trans (undisputed_iff _ _)
  constructor
  · intro h
    refine ⟨fun k hk hne => (hother hk hne).mp (h k),fun hne => ?_,
      (alike_tieBreaker_iff c target rd).mp (h _),fun o k v ho hv hne hup => ?_⟩
    · have hk := hpool.mp (h storPoolName)
      rwa [if_pos hne] at hk
    · have hk := hasDRBDPrefix_of_accepts (accepts_value hv)
      exact (alike_drbd_iff c target rd hk hne).mp (h k) o v ho hv hup
  · intro h k
    cases hk : hasDRBDPrefix k with
    | true =>
      by_cases hne : k=autoTieBreaker.key
      · subst hne
        exact (alike_tieBreaker_iff c target rd).mpr h.tieBreaker
      · exact (alike_drbd_iff c target rd hk hne).mpr fun o v ho hv hup =>
          h.controller o k v ho hv hne hup
    | false =>
      by_cases hspecial : target.spec.storagePool≠"" ∧ k=storPoolName
      · obtain ⟨hne,rfl⟩ := hspecial
        refine hpool.mpr ?_
        rw [if_pos hne]
        exact h.pool hne
      · exact (hother hk hspecial).mpr (h.undisputed k hk hspecial)

/-- A client is shown the replica's file system, but the definition's one is made. -/
theorem shown_not_applied : ¬∀k,Rel (Alike k)
    (shown ⟨none,.empty⟩ xfsReplica (some ext4Definition) k)
    ((resolve ⟨none,.empty⟩ (some xfsReplica) (some ext4Definition)).find k) := by
  intro h
  have hk := (rel_alike_plain fileSystemType_plain).mp (h fileSystemType)
  have hpool : xfsReplica.spec.storagePool="" := rfl
  rw [find_resolve,shown_plain _ _ _ _ fileSystemType_plain,fileSystemType_plain,hpool] at hk
  simp [scopes,scopeInputs,ext4Definition,xfsReplica,ResourceSpec.stored,
    ResourceDefinitionSpec.stored,Stored.plain] at hk

end Shown

end Blockstor.Options
