import Blockstor.Evacuation.DrainReady

namespace Blockstor.Evacuation.Drain

open Framework Shell Placer Resource List

section LastNode

variable (lib : Lib) (replicas : Keyed key) (victim x : Resource)
  (vds : List VolumeDefinition) {kind rdName : String} {pools : List StoragePool} {r w : Resource}
  {s u : State} {done : List Resource}

/-- The only pool: on the node of `x`, with room for the largest volume. -/
def lastPool : StoragePool :=
  ⟨x.nodeName,"pool",storagePoolKindLVM,requiredKib vds,requiredKib vds,"",false,[]⟩

def otherNodes : List String := (replicas.items.map (·.nodeName)).dedup.filter fun n => n≠x.nodeName

/-- All nodes with a replica are drained, but the one of `x`. -/
def lastNode : State where
  nodes := ⟨⟨x.nodeName,[],[]⟩::(otherNodes replicas x).map fun n => ⟨n,[nodeFlagEvicted],[]⟩,by
    rw [map_cons,map_map,nodup_cons]
    change x.nodeName∉(otherNodes replicas x).map id ∧ ((otherNodes replicas x).map id).Nodup
    rw [map_id]
    exact ⟨fun h => by simp [otherNodes] at h,(nodup_dedup _).filter _⟩⟩
  pools := ⟨[lastPool x vds],by simp⟩
  resources := replicas
  definitions := ⟨[⟨victim.name,"",[],none,vds⟩],by simp⟩
  groups := .empty
  controllerProps := []

def oneReplica : AutoSelectFilter := {AutoSelectFilter.empty with placeCount := 1}

theorem lastNode_getDefinition : (lastNode replicas victim x vds).getDefinition victim.name=
    some ⟨victim.name,"",[],none,vds⟩ := by
  simp [State.getDefinition,lastNode,Keyed.get?,ResourceDefinition.key]

theorem mem_drained_lastNode (n : String) : n∈drained (lastNode replicas victim x vds) ↔
    n∈otherNodes replicas x := by
  unfold drained disabledNodes
  simp only [mem_map,mem_filter]
  constructor
  · rintro ⟨m,⟨hm,hdisabled⟩,rfl⟩
    rcases mem_cons.mp (((lastNode replicas victim x vds).mem_listNodes m).mp hm) with rfl|hm
    · cases hdisabled
    · obtain ⟨k,hk,rfl⟩ := mem_map.mp hm
      exact hk
  · intro hn
    refine ⟨⟨n,[nodeFlagEvicted],[]⟩,⟨((lastNode replicas victim x vds).mem_listNodes _).mpr
      (.tail _ (mem_map.mpr ⟨n,hn,rfl⟩)),by simp [Node.disabled]⟩,rfl⟩

theorem not_drained_last : (drained (lastNode replicas victim x vds)).contains x.nodeName=false := by
  rw [contains_eq_mem,decide_eq_false_iff_not,mem_drained_lastNode]
  simp [otherNodes]

variable {replicas victim x vds}

theorem drained_other (hr : r∈replicas) (hne : r.nodeName≠x.nodeName) :
    (drained (lastNode replicas victim x vds)).contains r.nodeName=true := by
  rw [contains_eq_mem,decide_eq_true_eq,mem_drained_lastNode]
  simp only [otherNodes,mem_filter,mem_dedup,mem_map,decide_eq_true_eq]
  exact ⟨⟨r,hr,rfl⟩,hne⟩

theorem healthyNodes_lastNode : healthyNodes (lastNode replicas victim x vds)=1 := by
  unfold healthyNodes State.listNodes sortBy
  rw [(perm_insertionSort _ _).countP_eq]
  change countP _ (_::_)=1
  rw [countP_cons_of_pos (by rw [not_drained_last]; rfl),countP_eq_zero.mpr]
  intro n hn
  obtain ⟨k,hk,rfl⟩ := mem_map.mp hn
  rw [contains_eq_mem,decide_eq_true ((mem_drained_lastNode _ _ _ _ _).mpr hk)]
  exact Bool.false_ne_true

theorem diskfulTarget_lastNode (hmem : victim∈replicas) (hdiskful : victim.diskful=true) :
    diskfulTarget (lastNode replicas victim x vds) victim.name victim.nodeName=1 := by
  unfold diskfulTarget
  rw [healthyNodes_lastNode,min_eq_right]
  refine countP_pos_iff.mpr ⟨victim,((lastNode replicas victim x vds).mem_listByDefinition
    _ _).mpr ⟨hmem,rfl⟩,?_⟩
  simp [preserved,hdiskful]

theorem targetFilter_lastNode (hmem : victim∈replicas) (hdiskful : victim.diskful=true) :
    targetFilter (lastNode replicas victim x vds) victim .empty=oneReplica := by
  unfold targetFilter
  rw [diskfulTarget_lastNode hmem hdiskful]
  rfl

theorem not_excluded_last : (autoplaceExcludedNodes (lastNode replicas victim x vds).listNodes
    (drained (lastNode replicas victim x vds))).contains x.nodeName=false := by
  have hnone : ((lastNode replicas victim x vds).listNodes.filter fun n =>
      (n.props.lookup propAutoplaceTarget).any falseSpellings.contains)=[] := by
    refine filter_eq_nil_iff.mpr fun n hn => ?_
    rcases mem_cons.mp (((lastNode replicas victim x vds).mem_listNodes n).mp hn) with rfl|hn
    · exact Bool.false_ne_true
    · obtain ⟨k,_,rfl⟩ := mem_map.mp hn
      exact Bool.false_ne_true
  unfold autoplaceExcludedNodes
  rw [hnone,map_nil,append_nil]
  exact not_drained_last _ _ _ _

theorem gates_lastNode : gatedPools lib (lastNode replicas victim x vds) oneReplica
    (requiredKib vds)=([lastPool x vds],.empty) := by
  have hmatch : matchesPoolFilter (lastPool x vds) oneReplica
      (autoplaceExcludedNodes (lastNode replicas victim x vds).listNodes
        (drained (lastNode replicas victim x vds)))=true := by
    unfold matchesPoolFilter
    rw [show (lastPool x vds).nodeName=x.nodeName from rfl,not_excluded_last]
    rfl
  change applyGate lib oneReplica (autoplaceExcludedNodes (lastNode replicas victim x vds).listNodes
    (drained (lastNode replicas victim x vds))) [] (requiredKib vds) ([],.empty) (lastPool x vds)=_
  unfold applyGate
  rw [hmatch,Bool.not_true,if_neg Bool.false_ne_true,if_neg (fun h => absurd h.2 (lt_irrefl _)),
    if_neg (fun h => absurd h.2 (lt_irrefl _))]
  rfl

variable (replicas victim x vds)

def lastState : PlaceState := startState (lastNode replicas victim x vds) victim.name oneReplica

variable {replicas victim x vds}

theorem lastState_filter : (lastState replicas victim x vds).filter=oneReplica :=
  newState_fields.2

theorem mem_lastState_taken {n : String} : n∈(lastState replicas victim x vds).taken ↔
    ∃r∈replicas,r.name=victim.name ∧ r.diskful=true ∧ r.nodeName=n := by
  unfold lastState startState newState
  rw [foldl_seed_eq]
  simp only [append_nil,mem_reverse,mem_map,mem_filter,
    State.mem_listByDefinition,and_assoc]
  rfl

theorem mem_lastState_upgradeable (hr : r∈replicas) (hname : r.name=victim.name)
    (hdiskless : r.diskful=false) :
    r.nodeName∈(lastState replicas victim x vds).upgradeable := by
  unfold lastState startState newState
  rw [foldl_seed_eq]
  simp only [append_nil,mem_reverse]
  exact mem_map.mpr ⟨r,mem_filter.mpr ⟨(State.mem_listByDefinition _ _ _).mpr ⟨hr,hname⟩,
    by simp [hdiskless]⟩,rfl⟩

theorem lastState_kind : (lastState replicas victim x vds).firstKind="" ∨
    (lastState replicas victim x vds).firstKind=storagePoolKindLVM := by
  have hkinds : ∀r,seededKind (lastNode replicas victim x vds).listPools r="" ∨
      seededKind (lastNode replicas victim x vds).listPools r=storagePoolKindLVM := by
    intro r
    unfold seededKind
    cases hpool : seededPool (lastNode replicas victim x vds).listPools r with
    | none => exact .inl rfl
    | some q =>
      unfold seededPool at hpool
      split at hpool
      · cases hpool
      · rw [mem_singleton.mp (mem_of_find?_eq_some hpool)]
        exact .inr rfl
  unfold lastState startState newState
  rw [foldl_seed_eq]
  dsimp only
  cases hfind : find? _ _ with
  | none => exact .inl rfl
  | some kind =>
    have hmem := mem_of_find?_eq_some hfind
    rcases mem_cons.mp hmem with rfl|hmem
    · exact .inl rfl
    · obtain ⟨r,_,rfl⟩ := mem_map.mp hmem
      exact hkinds r

variable {lib}

theorem shortfall_none {placed want : Int} {p : GatedPlan} (hfree : p.maxFreeKib=0)
    (hover : p.oversubShortfall=none) : (shortfall placed want p).err=none := by
  unfold shortfall
  split
  · rw [hfree,if_neg (lt_irrefl 0),hover]
    rfl
  · rfl

theorem placeDiskful_skips {st : PlaceState} {p : StoragePool}
    (h : st.admits p=false) (placed want : Int) :
    Exec Step (placeDiskful rdName st [p] placed want) s (.ok (placed,st,none)) s := by
  unfold placeDiskful
  split
  · exact .done _ _
  · refine exec_bind.mpr (.inr ⟨.ok none,s,exec_attempt.mpr
      ⟨.ok none,?_,rfl⟩,.done _ _⟩)
    unfold PlaceState.tryPlace
    rw [h,Bool.not_false,if_pos rfl]
    exact .done _ _

variable (hx : x∈replicas) (hname : x.name=victim.name)

include hx hname

theorem lastPool_skipped (hdiskful : x.diskful=true) :
    (lastState replicas victim x vds).admits (lastPool x vds)=false := by
  have htaken : x.nodeName∈(lastState replicas victim x vds).taken :=
    mem_lastState_taken.mpr ⟨x,hx,hname,hdiskful,rfl⟩
  simp only [PlaceState.admits,contains_eq_mem]
  rw [show (lastPool x vds).nodeName=x.nodeName from rfl,decide_eq_true htaken]
  rfl

theorem eq_last (hr : r∈replicas) (hrname : r.name=victim.name)
    (hnode : r.nodeName=x.nodeName) : r=x := by
  refine replicas.eq_of_key hr hx ?_
  unfold key
  rw [hrname,hnode,hname]

theorem lastPool_admitted (hdiskless : x.diskful=false) :
    (lastState replicas victim x vds).admits (lastPool x vds)=true := by
  rw [admits_iff,lastState_filter]
  refine ⟨fun htaken => ?_,?_,fun k hk => (not_mem_nil hk).elim,
    fun cap hcap => (not_mem_nil hcap).elim,fun hshared => absurd rfl hshared,?_⟩
  · obtain ⟨r,hmem,hrname,hdiskful,hnode⟩ := mem_lastState_taken.mp htaken
    obtain rfl := eq_last hx hname hmem hrname hnode
    rw [hdiskless] at hdiskful
    cases hdiskful
  · unfold matchesTuple
    split <;> rfl
  · unfold PlaceState.allowsKindMix
    rcases @lastState_kind replicas victim x vds with hkind|hkind
    · rw [hkind]
      rfl
    · rw [hkind]
      simp [isProviderKindMixingAllowed,lastPool]

theorem countDiskful_last (hdiskless : x.diskful=false) :
    countDiskfulReplicas ((lastNode replicas victim x vds).listByDefinition victim.name)
      (drained (lastNode replicas victim x vds))=0 := by
  refine countP_eq_zero.mpr fun r hr hcounts => ?_
  obtain ⟨hmem,hrname⟩ := (State.mem_listByDefinition _ _ _).mp hr
  change r∈replicas at hmem
  simp only [Bool.and_eq_true] at hcounts
  by_cases hnode : r.nodeName=x.nodeName
  · obtain rfl := eq_last hx hname hmem hrname hnode
    rw [hdiskless] at hcounts
    cases hcounts.1.2
  · rw [drained_other hmem hnode] at hcounts
    cases hcounts.1.1

def Hosts (replicas : Keyed key) (x : Resource) (u : State) : Prop :=
  (∃y∈u.resources,SameReport x y ∧ y.diskful=true) ∧ ∀r∈u.resources,∃w∈replicas,SameReport w r

variable (lib vds) in
theorem place_hosts : ∃placement u,placement.err=none ∧
    Exec Step (place lib victim.name oneReplica) (lastNode replicas victim x vds) (.ok placement) u ∧
    Hosts replicas x u := by
  have hplanned := @plannedPools_plain (lastState replicas victim x vds) [lastPool x vds]
    (by rw [lastState_filter]; rfl) (by rw [lastState_filter]; rfl)
  have hplace : ∀{placed st u},Exec Step (placeDiskful victim.name (lastState replicas victim x vds)
      [lastPool x vds] (countDiskfulReplicas
        ((lastNode replicas victim x vds).listByDefinition victim.name)
        (drained (lastNode replicas victim x vds))) 1) (lastNode replicas victim x vds)
      (.ok (placed,st,none)) u → ∃placement,placement.err=none ∧ Exec Step
        (place lib victim.name oneReplica) (lastNode replicas victim x vds) (.ok placement) u := by
    intro placed st u h
    obtain ⟨gated,hfree,hover,hexec⟩ := place_served (lastNode_getDefinition _ _ _ _) rfl ⟨rfl,rfl⟩
      (gates_lastNode lib) hplanned rfl h
    exact ⟨_,shortfall_none hfree hover,hexec⟩
  cases hdiskful : x.diskful with
  | true =>
    obtain ⟨placement,herr,hexec⟩ := hplace (placeDiskful_skips
      (lastPool_skipped hx hname hdiskful) _ _)
    exact ⟨placement,_,herr,hexec,⟨x,hx,.refl x,hdiskful⟩,fun r hr => ⟨r,hr,.refl r⟩⟩
  | false =>
    have hkey : x.key=Placer.resourceCRDName victim.name x.nodeName := by
      unfold key
      rw [hname]
    have hw : (lastNode replicas victim x vds).resources.get?
        (Placer.resourceCRDName victim.name x.nodeName)=some x :=
      (Keyed.get?_eq_some _ _ _).mpr ⟨hx,hkey⟩
    obtain ⟨placement,herr,hexec⟩ := hplace (by
      rw [countDiskful_last hx hname hdiskful]
      exact placeDiskful_one Int.one_pos (tryPlace_promotes (p := lastPool x vds)
        (lastPool_admitted hx hname hdiskful) (mem_lastState_upgradeable hx hname hdiskful) hw))
    refine ⟨placement,_,herr,hexec,⟨x.withSpec (promote (lastPool x vds)),?_,⟨rfl,rfl,rfl,rfl⟩,
      promote_diskful _ _⟩,fun r hr => ?_⟩
    · exact (replicas.mem_modify _ _ (key_withSpec _) _).mpr (.inl ⟨x,hx,hkey,rfl⟩)
    · rcases (replicas.mem_modify _ _ (key_withSpec _) _).mp hr with ⟨w,hw,_,rfl⟩|⟨hr,_⟩
      · exact ⟨w,hw,⟨rfl,rfl,rfl,rfl⟩⟩
      · exact ⟨r,hr,.refl r⟩

end LastNode

end Blockstor.Evacuation.Drain
