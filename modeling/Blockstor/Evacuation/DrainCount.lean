import Blockstor.Evacuation.DrainReady

namespace Blockstor.Evacuation.Drain

open Framework Shell Placer AutoSelectFilter List

variable {lib : Lib} {s t u : State} {rdName node : String} {B : Int}

section Counts

def specs (s : State) (rdName : String) : List (String × List String) :=
  (s.resources.items.filter fun r => r.name=rdName).map fun r => (r.nodeName,r.flags)

theorem countP_specs (s : State) (rdName : String) (Q : String → List String → Bool) :
    (s.listByDefinition rdName).countP (fun r => Q r.nodeName r.flags)=
      (specs s rdName).countP fun x => Q x.1 x.2 := by
  rw [s.countP_listByDefinition,specs,countP_map,countP_filter]
  exact countP_congr fun r _ => by simp only [Function.comp_apply,Bool.and_comm]

theorem mem_specs {x : String × List String} : x∈specs s rdName ↔
    ∃r∈s.resources,r.name=rdName ∧ (r.nodeName,r.flags)=x := by
  unfold specs
  rw [mem_map]
  constructor
  · rintro ⟨r,hr,hx⟩
    obtain ⟨hmem,hname⟩ := mem_filter.mp hr
    exact ⟨r,hmem,by simpa using hname,hx⟩
  · rintro ⟨r,hr,hname,hx⟩
    exact ⟨r,mem_filter.mpr ⟨hr,by simpa using hname⟩,hx⟩

def diskfulCount (s : State) (rdName : String) : Nat :=
  (s.listByDefinition rdName).countP (·.diskful)

def healthyDiskful (s : State) (rdName : String) : Nat :=
  (s.listByDefinition rdName).countP fun r => !(drained s).contains r.nodeName && r.diskful

def groupPlaceCount (s : State) (rdName : String) : Int :=
  (((s.getDefinition rdName).bind fun rd => s.groups.get? (Store.K8s.name rd.resourceGroupName)).map
    (·.selectFilter.placeCount)).getD 0

theorem healthyDiskful_le (s : State) (rdName : String) :
    healthyDiskful s rdName ≤ diskfulCount s rdName :=
  countP_mono_left fun _ _ h => ((Bool.and_eq_true _ _).mp h).2

theorem GroupFilter.placeCount_le {victim : Resource} {filter : AutoSelectFilter}
    (h : GroupFilter s victim filter) (hB : 0 ≤ B) (hgroup : groupPlaceCount s victim.name ≤ B) :
    filter.placeCount ≤ B := by
  rcases h with rfl|⟨rd,rg,hrd,hrg,rfl⟩
  · exact hB
  · unfold groupPlaceCount at hgroup
    rw [hrd,Option.bind_some,hrg] at hgroup
    exact hgroup

theorem groupPlaceCount_rest (h : SameRest s t) (rdName : String) :
    groupPlaceCount t rdName=groupPlaceCount s rdName := by
  unfold groupPlaceCount State.getDefinition
  rw [h.definitions,h.groups]

theorem groupPlaceCount_update (s : State) (rd : ResourceDefinition) (rdName : String) :
    groupPlaceCount (serve s (.updateDefinition rd)).2 rdName=groupPlaceCount s rdName := by
  simp only [serve]
  split
  · rfl
  · unfold groupPlaceCount State.getDefinition
    dsimp only
    rw [s.definitions.get?_modify]
    cases s.definitions.get? (Store.K8s.name rdName) with
    | none => rfl
    | some d =>
      rw [Option.map_some,Option.bind_some,Option.bind_some]
      split <;> rfl

end Counts

section Shrinks

structure Shrinks (rdName : String) (s t : State) : Prop where
  nodes : t.nodes=s.nodes
  group : groupPlaceCount t rdName=groupPlaceCount s rdName
  replicas : (specs t rdName).Subperm (specs s rdName)

theorem Shrinks.refl (rdName : String) (s : State) : Shrinks rdName s s :=
  ⟨rfl,rfl,.refl _⟩

theorem Shrinks.trans (h : Shrinks rdName s t) (h' : Shrinks rdName t u) : Shrinks rdName s u :=
  ⟨h'.nodes.trans h.nodes,h'.group.trans h.group,h'.replicas.trans h.replicas⟩

theorem Shrinks.drained (h : Shrinks rdName s t) : drained t=drained s := by
  unfold Drain.drained State.listNodes
  rw [h.nodes]

theorem Shrinks.countP_le (h : Shrinks rdName s t) (Q : String → List String → Bool) :
    (t.listByDefinition rdName).countP (fun r => Q r.nodeName r.flags) ≤
      (s.listByDefinition rdName).countP fun r => Q r.nodeName r.flags := by
  rw [countP_specs,countP_specs]
  exact h.replicas.countP_le _

theorem Shrinks.healthy (h : Shrinks rdName s t) :
    healthyDiskful t rdName ≤ healthyDiskful s rdName := by
  unfold healthyDiskful
  rw [h.drained]
  exact h.countP_le fun n flags => !(Drain.drained s).contains n && !flags.contains resourceFlagDiskless

theorem specs_modify {n : String} {f : Resource → Resource} (hf : ∀r,(f r).key=r.key)
    (hspec : ∀r,(f r).name=r.name ∧ (f r).nodeName=r.nodeName ∧ (f r).flags=r.flags) :
    specs {s with resources := s.resources.modify n f hf} rdName=specs s rdName := by
  unfold specs
  change ((s.resources.items.map fun a => if a.key=n then f a else a).filter _).map _=_
  rw [filter_map,map_map]
  have hname : ((fun r : Resource => decide (r.name=rdName)) ∘ fun a => if a.key=n then f a else a)=
      fun r => decide (r.name=rdName) := by
    funext a
    simp only [Function.comp_apply]
    split
    · rw [(hspec a).1]
    · rfl
  rw [hname]
  refine map_congr_left fun a _ => ?_
  simp only [Function.comp_apply]
  split
  · rw [(hspec a).2.1,(hspec a).2.2]
  · rfl

theorem specs_erase (s : State) (n rdName : String) :
    (specs {s with resources := s.resources.erase n} rdName).Sublist (specs s rdName) :=
  (filter_sublist.filter _).map _

theorem shrinks_delete {s : State} {n rdName : String} :
    Shrinks rdName s (serve s (.delete n)).2 := by
  refine ⟨(delete_rest s n).nodes,groupPlaceCount_rest (delete_rest s n) rdName,?_⟩
  simp only [serve]
  split
  · exact .refl _
  · split
    · rw [specs_modify Resource.key_markDeleting fun r => ⟨rfl,rfl,rfl⟩]
    · exact (specs_erase s n rdName).subperm

theorem shrinks_update {s : State} {rd : ResourceDefinition} {rdName : String} :
    Shrinks rdName s (serve s (.updateDefinition rd)).2 := by
  refine ⟨?_,groupPlaceCount_update s rd rdName,?_⟩
  · simp only [serve]
    split <;> rfl
  · simp only [serve]
    split <;> exact .refl _

theorem shrinks_place {other : String} {filter : AutoSelectFilter} {x : Except Err Placement}
    (hne : other≠rdName) (h : Exec Step (place lib other filter) s x t) : Shrinks rdName s t := by
  have hrest := (exec_place_grown h).rest
  refine ⟨hrest.nodes,groupPlaceCount_rest hrest rdName,?_⟩
  have hmem : ∀r∈t.resources,r.name=rdName → r∈s.resources := by
    obtain ⟨filter',_,rfl|⟨st,ps₁,ps₂,u,hfilled⟩⟩ := exec_place h
    · exact fun r hr _ => hr
    · intro r hr hname
      obtain ⟨st',hrun⟩ := hfilled.run
      have htracks := hfilled.started.tracks.run hrun fun p hp => (hfilled.eligible p hp).mem
      rcases hfilled.diskless.adds r hr with hr|⟨hother,_⟩
      · exact htracks.others r hr fun heq => hne (heq.symm.trans hname)
      · exact absurd (hother.symm.trans hname) hne
  have hsub : (t.resources.items.filter fun r => r.name=rdName).Subperm
      (s.resources.items.filter fun r => r.name=rdName) := by
    refine subperm_of_subset (t.resources.nodup_items.filter _) fun r hr => ?_
    obtain ⟨hr,hname⟩ := mem_filter.mp hr
    exact mem_filter.mpr ⟨hmem r hr (by simpa using hname),hname⟩
  obtain ⟨l,hperm,hsublist⟩ := hsub
  exact ⟨l.map _,hperm.map _,hsublist.map _⟩

end Shrinks

section Pass

/-- The replicas on nodes that stay are active, and those a drain preserves, or the nodes that can
take them, are no more than the bound. -/
structure Steady (rdName node : String) (B : Int) (s : State) : Prop where
  active : ∀r∈s.resources,r.name=rdName → r.diskful=true → r.nodeName∉drained s → r.inactive=false
  room : ((s.listByDefinition rdName).countP (preserved s node) : Int) ≤ B ∨ (healthyNodes s : Int) ≤ B

theorem Steady.shrinks (h : Steady rdName node B s) (hst : Shrinks rdName s t) :
    Steady rdName node B t := by
  constructor
  · intro r hr hname hdiskful hstays
    obtain ⟨w,hw,hwname,hspec⟩ :=
      mem_specs.mp (hst.replicas.subset (mem_specs.mpr ⟨r,hr,hname,rfl⟩))
    obtain ⟨hnode,hflags⟩ := Prod.mk.inj hspec
    have hactive := h.active w hw hwname
    unfold Resource.diskful at hactive hdiskful
    unfold Resource.inactive at hactive ⊢
    rw [hflags,hnode,← hst.drained] at hactive
    exact hactive hdiskful hstays
  · have hnodes : healthyNodes t=healthyNodes s := by
      unfold healthyNodes
      rw [hst.drained]
      unfold State.listNodes
      rw [hst.nodes]
    rw [hnodes]
    rcases h.room with hroom|hroom
    · left
      refine le_trans (Int.ofNat_le.mpr ?_) hroom
      have := hst.countP_le fun n flags =>
        (decide (n=node) || !(drained s).contains n) && !flags.contains resourceFlagDiskless
      unfold preserved
      rw [hst.drained]
      exact this
    · exact .inr hroom

theorem place_healthy {filter : AutoSelectFilter} {x : Except Err Placement}
    (hactive : ∀r∈s.resources,r.name=rdName → r.diskful=true → r.nodeName∉drained s →
      r.inactive=false)
    (h : Exec Step (place lib rdName filter) s x t) :
    (healthyDiskful t rdName : Int) ≤ max (healthyDiskful s rdName : Int) filter.placeCount := by
  have hrest := (exec_place_grown h).rest
  obtain ⟨filter',hfilter,rfl|⟨st,ps₁,ps₂,u,hfilled⟩⟩ := exec_place h
  · exact le_max_left _ _
  · have hcount : countDiskfulReplicas (s.listByDefinition rdName) (disabledNodes s.listNodes)=
        healthyDiskful s rdName := by
      refine countP_congr fun r hr => ?_
      obtain ⟨hmem,hname⟩ := (s.mem_listByDefinition _ _).mp hr
      change (!(drained s).contains r.nodeName && r.diskful && !r.inactive)=true ↔ _
      constructor
      · intro hcounts
        exact ((Bool.and_eq_true _ _).mp hcounts).1
      · intro hcounts
        obtain ⟨hstays,hdiskful⟩ := (Bool.and_eq_true _ _).mp hcounts
        rw [hcounts,hactive r hmem hname hdiskful (by simpa using hstays)]
        rfl
    have hplaceCount : filter'.placeCount=filter.placeCount := by
      rcases hfilter with rfl|⟨_,_,_,_,_,_,_,rfl⟩ <;> rfl
    have hnew := hfilled.countP_le
      (fun r => r.name=rdName && (!(drained s).contains r.nodeName && r.diskful)) (fun _ => true)
      (fun r hr => by simp only [Bool.and_eq_true] at hr; exact hr.2.2) fun _ _ _ _ _ => rfl
    have hmissing := hfilled.missing
    rw [hcount,hplaceCount] at hmissing
    rw [countP_true,← s.countP_listByDefinition rdName
      (fun r => !(drained s).contains r.nodeName && r.diskful),
      ← t.countP_listByDefinition rdName
      (fun r => !(drained s).contains r.nodeName && r.diskful)] at hnew
    have hdrained : drained t=drained s := by
      unfold drained State.listNodes
      rw [hrest.nodes]
    unfold healthyDiskful at hmissing ⊢
    rw [hdrained]
    omega

structure Within (rdName : String) (B : Int) (s : State) : Prop where
  nonneg : 0 ≤ B
  group : groupPlaceCount s rdName ≤ B
  healthy : (healthyDiskful s rdName : Int) ≤ B

theorem Within.shrinks (h : Within rdName B s) (hst : Shrinks rdName s t) : Within rdName B t :=
  ⟨h.nonneg,hst.group ▸ h.group,le_trans (Int.ofNat_le.mpr hst.healthy) h.healthy⟩

theorem migrate_other {victim : Resource} {lost : Bool} {r : Except Err Unit}
    (hne : victim.name≠rdName) (h : Exec Step (migrateResource lib victim lost) s r t) :
    Shrinks rdName s t := by
  rcases exec_migrateResource h with (rfl|⟨rd,rfl⟩)|⟨filter,_,h⟩
  · exact .refl _ _
  · exact shrinks_update
  · rcases exec_migrateInto h with rfl|⟨x,u,hplace,rfl|⟨_,rfl⟩⟩
    · exact .refl _ _
    · exact shrinks_place hne hplace
    · exact (shrinks_place hne hplace).trans shrinks_delete

theorem migrate_within {victim : Resource} {lost : Bool} {r : Except Err Unit}
    (hsteady : Steady victim.name victim.nodeName B s) (hwithin : Within victim.name B s)
    (h : Exec Step (migrateResource lib victim lost) s r t) : Within victim.name B t := by
  rcases exec_migrateResource h with (rfl|⟨rd,rfl⟩)|⟨filter,hfilter,h⟩
  · exact hwithin
  · exact hwithin.shrinks shrinks_update
  · have htarget : (targetFilter s victim filter).placeCount ≤ B := by
      rw [targetFilter_placeCount]
      refine max_le (hfilter.placeCount_le hwithin.nonneg hwithin.group) ?_
      unfold diskfulTarget
      rcases hsteady.room with hroom|hroom
      · exact le_trans (Int.ofNat_le.mpr (min_le_left _ _)) hroom
      · exact le_trans (Int.ofNat_le.mpr (min_le_right _ _)) hroom
    have hplaced : ∀x u,Exec Step (place lib victim.name (targetFilter s victim filter)) s x u →
        Within victim.name B u := by
      intro x u hplace
      refine ⟨hwithin.nonneg,?_,?_⟩
      · rw [groupPlaceCount_rest (exec_place_grown hplace).rest]
        exact hwithin.group
      · exact le_trans (place_healthy hsteady.active hplace) (max_le hwithin.healthy htarget)
    rcases exec_migrateInto h with rfl|⟨x,u,hplace,rfl|⟨_,rfl⟩⟩
    · exact hwithin
    · exact hplaced x _ hplace
    · exact (hplaced x u hplace).shrinks shrinks_delete

def isReplica (rdName node : String) (r : Resource) : Bool := r.name=rdName && r.nodeName=node

theorem migrateAll_within {lost : Bool} (rs : List Resource)
    (hone : rs.countP (isReplica rdName node) ≤ 1) {r : Except Err Unit}
    (h : Exec Step (migrateAll lib node lost rs) s r t) :
    (rs.countP (isReplica rdName node)=0 → Shrinks rdName s t) ∧
      (Steady rdName node B s → Within rdName B s → Within rdName B t) := by
  induction rs generalizing s with
  | nil =>
    obtain ⟨_,rfl⟩ := exec_pure.mp h
    exact ⟨fun _ => .refl _ _,fun _ hwithin => hwithin⟩
  | cons a rs ih =>
    rw [countP_cons] at hone
    unfold migrateAll at h
    split at h
    · rename_i hnode
      have hnot : isReplica rdName node a=false := by simp [isReplica,hnode]
      rw [hnot] at hone
      rw [countP_cons_of_neg (by simp [hnot])]
      exact ih (by simpa using hone) h
    · rename_i hnode
      have hnode : a.nodeName=node := by simpa using hnode
      rcases exec_bind.mp h with ⟨_,hfail,_⟩|⟨_,u,hmigrate,h⟩
      · obtain ⟨x,_,hx⟩ := exec_attempt.mp hfail
        cases hx
      · obtain ⟨x,hmigrate,_⟩ := exec_attempt.mp hmigrate
        by_cases hname : a.name=rdName
        · have his : isReplica rdName node a=true := by simp [isReplica,hname,hnode]
          rw [his,if_pos rfl] at hone
          -- no other replica of the definition is left in the list
          have hnone : rs.countP (isReplica rdName node)=0 := by omega
          rw [countP_cons_of_pos his]
          refine ⟨fun hzero => by omega,fun hsteady hwithin => ?_⟩
          subst hname hnode
          exact (migrate_within hsteady hwithin hmigrate).shrinks ((ih (by omega) h).1 hnone)
        · have hnot : isReplica rdName node a=false := by simp [isReplica,hname]
          rw [hnot] at hone
          rw [countP_cons_of_neg (by simp [hnot])]
          have hother := migrate_other hname hmigrate
          obtain ⟨hnone,hkeep⟩ := ih (by simpa using hone) h
          exact ⟨fun hzero => hother.trans (hnone hzero),
            fun hsteady hwithin => hkeep (hsteady.shrinks hother) (hwithin.shrinks hother)⟩

theorem countP_isReplica (s : State) (rdName node : String) :
    s.listResources.countP (isReplica rdName node) ≤ 1 := by
  unfold State.listResources sortBy
  rw [(perm_insertionSort _ _).countP_eq]
  by_cases h : ∃x∈s.resources,isReplica rdName node x=true
  · obtain ⟨x,hx,hreplica⟩ := h
    refine Keyed.countP_le_succ (t := ⟨[],nodup_nil⟩) (Q := fun _ => true) x fun a ha hP => .inl ?_
    simp only [isReplica,Bool.and_eq_true,decide_eq_true_eq] at hreplica hP
    refine s.resources.eq_of_key ha hx ?_
    unfold Resource.key
    rw [hP.1,hP.2,hreplica.1,hreplica.2]
  · rw [countP_eq_zero.mpr fun a ha hP => h ⟨a,ha,hP⟩]
    omega

theorem reconcile_within {r : Except Err Bool} (hsteady : Steady rdName node B s)
    (hwithin : Within rdName B s) (h : Exec Step (reconcile lib node) s r t) :
    Within rdName B t := by
  rcases (yields_ask rfl).exec_bind h with ⟨_,_,rfl⟩|⟨a,ha,h⟩
  · exact hwithin
  · cases a with
    | error e =>
      have ht : t=s := by
        dsimp only at h
        split at h
        · exact (exec_pure.mp h).2
        · exact (exec_throw.mp h).2
      rw [ht]
      exact hwithin
    | ok n =>
      have hname : n.name=node := by
        rcases ha with ha|ha
        · exact ((s.nodes.get?_eq_some _ _).mp (found_eq_ok.mp ha.symm)).2
        · cases ha
      dsimp only at h
      split at h
      · rw [(exec_pure.mp h).2]
        exact hwithin
      · rcases (yields_run rfl).exec_bind h with ⟨_,_,rfl⟩|⟨resources,hlist,h⟩
        · exact hwithin
        · cases hlist
          rw [hname] at h
          have hall : ∀lost x u,Exec Step (migrateAll lib node lost s.listResources) s x u →
              Within rdName B u := fun lost x u hx =>
            (migrateAll_within _ (countP_isReplica s rdName node) hx).2 hsteady hwithin
          rcases exec_bind.mp h with ⟨_,hfail,_⟩|⟨_,u,hdone,h⟩
          · exact hall _ _ _ hfail
          · rw [(exec_pure.mp h).2]
            exact hall _ _ _ hdone

end Pass

section Run

def withVolumes (volumes : List VolumeStatus) (r : Resource) : Resource := {r with volumes := volumes}

theorem key_withVolumes {volumes : List VolumeStatus} (r : Resource) :
    (withVolumes volumes r).key=r.key := rfl

inductive Event
  | pass
  | report (name : String) (volumes : List VolumeStatus)
  | release (name : String)

/-- A node is drained: passes over it, any of whose commands may fail, any reports of replicas, and
the end of replicas that are being deleted. -/
inductive Evolves (lib : Lib) (node : String) : State → Event → State → Prop
  | pass (s t : State) (r : Except Err Bool) (h : Exec Step (reconcile lib node) s r t) :
      Evolves lib node s .pass t
  | report (s : State) (name : String) (volumes : List VolumeStatus) :
      Evolves lib node s (.report name volumes)
        {s with resources := s.resources.modify name (withVolumes volumes) key_withVolumes}
  | release (s : State) (name : String) (r : Resource) (h : s.resources.get? name=some r)
      (hdeleting : r.deleting=true) :
      Evolves lib node s (.release name) {s with resources := s.resources.erase name}

def steadyPass (rdName node : String) (B : Int) (s : State) (e : Event) : Prop :=
  e=.pass → Steady rdName node B s

theorem Within.step {e : Event} (h : Within rdName B s)
    (hstep : guarded (steadyPass rdName node B) (Evolves lib node) s e t) : Within rdName B t := by
  obtain ⟨hsteady,hstep⟩ := hstep
  cases hstep with
  | pass _ r hexec => exact reconcile_within (hsteady rfl) h hexec
  | report name volumes =>
    refine h.shrinks ⟨rfl,rfl,?_⟩
    rw [specs_modify key_withVolumes fun r => ⟨rfl,rfl,rfl⟩]
  | release name r _ _ => exact h.shrinks ⟨rfl,rfl,(specs_erase s name rdName).subperm⟩

def drainBound (s : State) (rdName : String) : Int :=
  max (groupPlaceCount s rdName) (diskfulCount s rdName)

theorem drain_keeps_count (lib : Lib) (rdName node : String) (s : State) (es : List Event) (t : State)
    (hrun : Run (guarded (steadyPass rdName node (drainBound s rdName)) (Evolves lib node)) s es t) :
    (healthyDiskful t rdName : Int) ≤ drainBound s rdName := by
  have hstart : Within rdName (drainBound s rdName) s := by
    have hdiskful : (diskfulCount s rdName : Int) ≤ drainBound s rdName := le_max_right _ _
    exact ⟨le_trans (Int.natCast_nonneg _) hdiskful,le_max_left _ _,
      le_trans (Int.ofNat_le.mpr (healthyDiskful_le s rdName)) hdiskful⟩
  exact (hrun.invariant (Within rdName (drainBound s rdName)) (fun _ _ _ h hstep => h.step hstep)
    hstart).healthy

end Run

section Requeue

def leaving : Resource := ⟨"pvc-1","n1",[],[],true,false,[⟨0,"UpToDate"⟩]⟩

def poolOn (node : String) : StoragePool := ⟨node,"pool",storagePoolKindLVM,4096,4096,"",false,[]⟩

def plainDefinition : ResourceDefinition := ⟨"pvc-1","rg",[],none,[⟨0,1024⟩]⟩

def twoReplicas : State where
  nodes := ⟨[⟨"n1",[nodeFlagEvicted],[]⟩,⟨"n2",[],[]⟩,⟨"n3",[],[]⟩,⟨"n4",[],[]⟩],by decide⟩
  pools := ⟨[poolOn "n3",poolOn "n4"],by decide⟩
  resources := ⟨[leaving,⟨"pvc-1","n2",[],[],true,false,[⟨0,"UpToDate"⟩]⟩],by decide⟩
  definitions := ⟨[plainDefinition],by decide⟩
  groups := ⟨[⟨"rg",.empty⟩],by decide⟩
  controllerProps := []

/-- The outcome of a pass over `n1` that asks for `k` replicas and tries the pools in this order. -/
def passWith (s : State) (k : Int) (candidates : List StoragePool) : Except Err Placement × State :=
  let filter := {empty with placeCount := k}
  simulate serve (placeAmong noLib "pvc-1" filter 1024 (gatedPools noLib s filter 1024).2
    candidates) s

/-- The pass asks for `k` replicas, places them and leaves the source alone. -/
def placesOnly (s : State) (k : Int) (candidates : List StoragePool) : Bool :=
  decide (s.nodes.get? "n1"=some ⟨"n1",[nodeFlagEvicted],[]⟩) &&
  decide (s.listResources.head?=some leaving) &&
  (s.listResources.tail.all fun r => r.nodeName≠"n1") &&
  decide (s.getDefinition "pvc-1"=some plainDefinition) &&
  decide (s.groups.get? "rg"=some ⟨"rg",.empty⟩) &&
  decide (targetFilter s leaving .empty={empty with placeCount := k}) &&
  decide ((gatedPools noLib s {empty with placeCount := k} 1024).1=
    [poolOn "n3",poolOn "n4"]) &&
  (passWith s k candidates).1.toOption.any (·.err.isNone) &&
  !(decide (k ≤ readyCount (passWith s k candidates).2 "pvc-1" "n1"))

def poolOrders : List (List StoragePool) :=
  [[poolOn "n3",poolOn "n4"],[poolOn "n4",poolOn "n3"]]

theorem place_ordered {s : State} {k : Int} (h : ∀l∈poolOrders,placesOnly s k l=true) :
    ∃l∈poolOrders,∃placement,placement.err=none ∧
      Exec Step (place noLib "pvc-1" {empty with placeCount := k}) s
        (.ok placement) (passWith s k l).2 := by
  obtain ⟨candidates,hperm,hcandidates⟩ :=
    candidatePools_serve noLib s {empty with placeCount := k} 1024
  have hfirst := h _ (.head _)
  simp only [placesOnly,Bool.and_eq_true,decide_eq_true_eq] at hfirst
  obtain ⟨⟨⟨⟨⟨⟨⟨_,_⟩,hrd⟩,_⟩,_⟩,hgated⟩,_⟩,_⟩ := hfirst
  rw [hgated] at hperm
  have horder : candidates∈poolOrders := mem_permutations'.mpr hperm
  have hplaces := h _ horder
  simp only [placesOnly,Bool.and_eq_true] at hplaces
  have hexec : Exec Step (placeAmong noLib "pvc-1" {empty with placeCount := k}
      1024 (gatedPools noLib s {empty with placeCount := k} 1024).2 candidates) s
      (passWith s k candidates).1 (passWith s k candidates).2 := exec_simulate serve step_serve _ _
  cases hresult : (passWith s k candidates).1 with
  | error e =>
    rw [hresult] at hplaces
    cases hplaces.1.2
  | ok placement =>
    rw [hresult] at hplaces hexec
    refine ⟨candidates,horder,placement,Option.isNone_iff_eq_none.mp hplaces.1.2,?_⟩
    have hrequired : requiredKib plainDefinition.volumeDefinitions=1024 := by decide
    rw [← hrequired] at hcandidates hexec
    refine exec_placeAmong (constrain_serve hrd (by decide)) (by rw [hrd,Option.map_some])
      hcandidates ?_ hexec
    rintro rfl
    exact cons_ne_nil _ _ hperm.nil_eq.symm

theorem migrateAll_others (rs : List Resource) (h : rs.all (fun r => r.nodeName≠node)=true)
    (lost : Bool) : Exec Step (migrateAll lib node lost rs) s (.ok ()) s := by
  induction rs with
  | nil => exact .done _ _
  | cons r rs ih =>
    rw [all_cons,Bool.and_eq_true,decide_eq_true_eq] at h
    unfold migrateAll
    rw [if_pos h.1]
    exact ih h.2

theorem reconcile_ordered {s : State} {k : Int} (h : ∀l∈poolOrders,placesOnly s k l=true) :
    ∃l∈poolOrders,Exec Step (reconcile noLib "n1") s (.ok true) (passWith s k l).2 := by
  obtain ⟨l,hl,placement,herr,hplace⟩ := place_ordered h
  have hl' := h l hl
  simp only [placesOnly,Bool.and_eq_true,decide_eq_true_eq,Bool.not_eq_true',
    decide_eq_false_iff_not] at hl'
  obtain ⟨⟨⟨⟨⟨⟨⟨⟨hnode,hhead⟩,htail⟩,hrd⟩,hrg⟩,htarget⟩,_⟩,_⟩,hready⟩ := hl'
  have hinto : Exec Step (migrateInto noLib leaving false .empty) s (.ok ()) (passWith s k l).2 := by
    refine exec_bind.mpr (.inr ⟨_,_,currentDiskfulTarget_serve,?_⟩)
    change Exec Step (place noLib "pvc-1" (targetFilter s leaving .empty) >>= _) _ _ _
    rw [htarget]
    refine exec_bind.mpr (.inr ⟨_,_,hplace,?_⟩)
    rw [herr]
    dsimp only
    rw [if_neg Bool.false_ne_true]
    refine exec_bind.mpr (.inr ⟨_,_,ready_serve,?_⟩)
    change Exec Step (if !(decide ((targetFilter s leaving .empty).placeCount ≤
      readyCount (passWith s k l).2 "pvc-1" "n1") && _) then _ else _) _ _ _
    rw [htarget,decide_eq_false hready]
    exact .done _ _
  have hmigrate : Exec Step (migrateResource noLib leaving false) s (.ok ()) (passWith s k l).2 := by
    have hdefinition : serve s (.getDefinition "pvc-1")=(.ok plainDefinition,s) := by
      simp only [serve,hrd,found]
    have hgroup : serve s (.getGroup "rg")=(.ok ⟨"rg",.empty⟩,s) := by
      have : Store.K8s.name "rg"="rg" := by decide
      simp only [serve,this,hrg,found]
    refine exec_run_ok hdefinition ?_
    rw [if_neg (by decide)]
    exact exec_ask_ok hgroup hinto
  obtain ⟨rest,hlist⟩ : ∃rest,s.listResources=leaving::rest := by
    cases hlist : s.listResources with
    | nil =>
      rw [hlist] at hhead
      cases hhead
    | cons a rest =>
      rw [hlist] at hhead
      exact ⟨rest,by rw [Option.some.inj hhead]⟩
  have hread : serve s (.getNode "n1")=(.ok ⟨"n1",[nodeFlagEvicted],[]⟩,s) := by
    simp only [serve,hnode,found]
  refine ⟨l,hl,exec_ask_ok hread ?_⟩
  dsimp only
  rw [if_neg (by decide)]
  refine exec_run_ok rfl (exec_bind.mpr (.inr ⟨(),_,?_,.done _ _⟩))
  rw [hlist] at htail ⊢
  unfold migrateAll
  rw [if_neg (by decide)]
  exact exec_bind.mpr (.inr ⟨_,_,exec_attempt.mpr ⟨_,hmigrate,rfl⟩,
    migrateAll_others rest htail _⟩)

/-- The first pass is steady, and it ends with as many replicas as there were. -/
theorem drain_keeps_count_first : ∃t,
    Run (guarded (steadyPass "pvc-1" "n1" (drainBound twoReplicas "pvc-1")) (Evolves noLib "n1"))
      twoReplicas [.pass] t ∧
    healthyDiskful t "pvc-1"=2 ∧ (healthyDiskful t "pvc-1" : Int) ≤ drainBound twoReplicas "pvc-1" := by
  obtain ⟨l,hl,hfirst⟩ := reconcile_ordered
    (by decide +kernel : ∀l∈poolOrders,placesOnly twoReplicas 2 l=true)
  have hcount : ∀l∈poolOrders,healthyDiskful (passWith twoReplicas 2 l).2 "pvc-1"=2 := by
    decide +kernel
  have hsteady : Steady "pvc-1" "n1" (drainBound twoReplicas "pvc-1") twoReplicas := by
    refine ⟨fun r hr _ _ _ => ?_,.inl (by decide)⟩
    revert r
    change ∀r∈twoReplicas.resources.items,_
    decide
  have hrun : Run (guarded (steadyPass "pvc-1" "n1" (drainBound twoReplicas "pvc-1"))
      (Evolves noLib "n1")) twoReplicas [.pass] (passWith twoReplicas 2 l).2 :=
    .cons _ _ _ _ _ ⟨fun _ => hsteady,.pass _ _ _ hfirst⟩ (.nil _)
  exact ⟨_,hrun,hcount l hl,drain_keeps_count _ _ _ _ _ _ hrun⟩

/-- A second pass before the replacement is up to date places another one. -/
theorem drain_inflates_count : ∃t,Run (Evolves noLib "n1") twoReplicas [.pass,.pass] t ∧
    drainBound twoReplicas "pvc-1"=2 ∧ healthyDiskful t "pvc-1"=3 := by
  obtain ⟨l,hl,hfirst⟩ := reconcile_ordered
    (by decide +kernel : ∀l∈poolOrders,placesOnly twoReplicas 2 l=true)
  have hsecond : ∀l∈poolOrders,∀l'∈poolOrders,placesOnly (passWith twoReplicas 2 l).2 3 l'=true ∧
      healthyDiskful (passWith (passWith twoReplicas 2 l).2 3 l').2 "pvc-1"=3 := by decide +kernel
  obtain ⟨l',hl',hpass⟩ := reconcile_ordered fun l' hl' => (hsecond l hl l' hl').1
  exact ⟨_,.cons _ _ _ _ _ (.pass _ _ _ hfirst) (.cons _ _ _ _ _ (.pass _ _ _ hpass) (.nil _)),
    by decide,(hsecond l hl l' hl').2⟩

end Requeue

end Blockstor.Evacuation.Drain
