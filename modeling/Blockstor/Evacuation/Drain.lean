import Blockstor.Evacuation.Prune
import Blockstor.Placer.PlaceSafety

namespace Blockstor.Evacuation.Drain

open Framework Shell Placer

section Code

variable (lib : Lib)

def drainingNodes : Prog (List String) := do
  let nodes ← run .listNodes
  pure (disabledNodes nodes)

variable (rdName : String)

/-- How many replicas with a disk a drain has to preserve, the one on the evicted node included;
there is no use in more than there are nodes to take them. -/
def currentDiskfulTarget (evictedNode : String) : Prog Nat := do
  let drained ← drainingNodes
  let nodes ← run .listNodes
  let replicas ← run (.listByDefinition rdName)
  let healthyNodes := nodes.countP fun n => !drained.contains n.name
  let count := replicas.countP fun r =>
    (r.nodeName=evictedNode || !drained.contains r.nodeName) && r.diskful
  pure (if count>healthyNodes then healthyNodes else count)

variable (node : String) (victim : Resource) (lost : Bool)

def pruneSource : Prog Unit := do
  match ← ask (.getResource (resourceCRDName rdName node)) with
  | .error e => if e.is .notFound then pure () else throw e
  | .ok _ => run (.delete (resourceCRDName rdName node))

def replicaUpToDate : Prog Bool := do
  match ← ask (.getResource (resourceCRDName rdName node)) with
  | .error e => if e.is .notFound then pure false else throw e
  | .ok r => pure (allVolumesUpToDate r)

def healthyUpToDate (rdName evictedNode : String) (drained : List String) :
    List Resource → Nat → Prog Nat
  | [],n => pure n
  | r::rs,n =>
    if r.nodeName=evictedNode || drained.contains r.nodeName || !r.diskful then
      healthyUpToDate rdName evictedNode drained rs n
    else do
      let ready ← replicaUpToDate rdName r.nodeName
      healthyUpToDate rdName evictedNode drained rs (if ready then n+1 else n)

def evacuationReplacementReady (filter : AutoSelectFilter) (rdName evictedNode : String) :
    Prog Bool := do
  let drained ← drainingNodes
  let replicas ← run (.listByDefinition rdName)
  let n ← healthyUpToDate rdName evictedNode drained replicas 0
  pure (decide (filter.placeCount ≤ n) && decide (1 ≤ n))

def migrationBlockedReasonNoRG : String := "no-rg"

def annotateMigrationBlocked (reason : String) : Prog Unit := do
  let rd ← run (.getDefinition rdName)
  if rd.migrationBlocked=some reason then pure ()
  else run (.updateDefinition (rd.withBlocked (some reason)))

/-- The second half of `migrateResource`: the filter of the group is read. -/
def migrateInto (filter : AutoSelectFilter) : Prog Unit := do
  let currentDiskful ← currentDiskfulTarget victim.name victim.nodeName
  let filter := if filter.placeCount<currentDiskful then
    {filter with placeCount := currentDiskful} else filter
  let placement ← place lib victim.name filter
  match placement.err with
  | some e => throw e
  | none =>
    if lost then pruneSource victim.name victim.nodeName
    else
      let ready ← evacuationReplacementReady filter victim.name victim.nodeName
      if !ready then pure () else pruneSource victim.name victim.nodeName

def migrateResource : Prog Unit := do
  let rd ← run (.getDefinition victim.name)
  if rd.resourceGroupName="" then annotateMigrationBlocked victim.name migrationBlockedReasonNoRG
  else
    match ← ask (.getGroup rd.resourceGroupName) with
    | .ok rg => migrateInto lib victim lost rg.selectFilter
    | .error _ => migrateInto lib victim lost .empty

def migrateAll (node : String) (lost : Bool) : List Resource → Prog Unit
  | [] => pure ()
  | r::rs =>
    if r.nodeName≠node then migrateAll node lost rs
    else do
      let _ ← attempt (migrateResource lib r lost)
      migrateAll node lost rs

def reconcile (name : String) : Prog Bool := do
  match ← ask (.getNode name) with
  | .error e => if e.is .notFound then pure false else throw e
  | .ok node =>
    let evicted := node.flags.contains nodeFlagEvicted
    let lost := node.flags.contains nodeFlagLost
    if !evicted && !lost then pure false
    else
      let resources ← run .listResources
      migrateAll lib node.name lost resources
      pure (evicted && !lost)

end Code

section Reads

variable {s : State} {rdName node : String}

def drained (s : State) : List String := disabledNodes s.listNodes

def healthyNodes (s : State) : Nat := s.listNodes.countP fun n => !(drained s).contains n.name

def preserved (s : State) (node : String) (r : Resource) : Bool :=
  (r.nodeName=node || !(drained s).contains r.nodeName) && r.diskful

def diskfulTarget (s : State) (rdName node : String) : Nat :=
  min ((s.listByDefinition rdName).countP (preserved s node)) (healthyNodes s)

def elsewhere (s : State) (node : String) (r : Resource) : Bool :=
  r.nodeName≠node && !(drained s).contains r.nodeName && r.diskful

theorem elsewhere_eq (s : State) (node : String) (r : Resource) : elsewhere s node r=
    !(decide (r.nodeName=node) || (drained s).contains r.nodeName || !r.diskful) := by
  simp [elsewhere]

def seenUpToDate (s : State) (rdName node : String) : Bool :=
  (s.resources.get? (resourceCRDName rdName node)).any allVolumesUpToDate

def readyCount (s : State) (rdName node : String) : Nat :=
  (s.listByDefinition rdName).countP fun r =>
    elsewhere s node r && seenUpToDate s rdName r.nodeName

theorem yields_drainingNodes : Yields Step s drainingNodes fun l => l=drained s := by
  refine (yields_run rfl).bind fun nodes hnodes => yields_pure ?_
  cases hnodes
  rfl

theorem yields_currentDiskfulTarget :
    Yields Step s (currentDiskfulTarget rdName node) fun n => n=diskfulTarget s rdName node := by
  refine yields_drainingNodes.bind fun l hl => ?_
  refine (yields_run rfl).bind fun nodes hnodes => ?_
  refine (yields_run rfl).bind fun replicas hreplicas => yields_pure ?_
  cases hl
  cases hnodes
  cases hreplicas
  change (if (s.listByDefinition rdName).countP (preserved s node)>healthyNodes s then healthyNodes s
    else (s.listByDefinition rdName).countP (preserved s node))=_
  unfold diskfulTarget
  split <;> omega

theorem yields_replicaUpToDate :
    Yields Step s (replicaUpToDate rdName node) fun b => b=seenUpToDate s rdName node := by
  refine (yields_ask rfl).bind fun a ha => ?_
  rcases ha with rfl|rfl
  · unfold seenUpToDate
    cases hget : s.resources.get? (resourceCRDName rdName node) with
    | none =>
      simp only [serve,hget,found]
      exact yields_pure rfl
    | some r =>
      simp only [serve,hget,found]
      exact yields_pure rfl
  · exact yields_throw

theorem yields_healthyUpToDate (rs : List Resource) (n : Nat) :
    Yields Step s (healthyUpToDate rdName node (drained s) rs n) fun m => m=n+rs.countP fun r =>
      elsewhere s node r && seenUpToDate s rdName r.nodeName := by
  induction rs generalizing n with
  | nil => exact yields_pure (by simp)
  | cons r rs ih =>
    unfold healthyUpToDate
    split
    · rename_i hskip
      have hnot : elsewhere s node r=false := by rw [elsewhere_eq,hskip,Bool.not_true]
      refine (ih n).mono fun m hm => ?_
      rw [List.countP_cons_of_neg (by simp [hnot])]
      exact hm
    · rename_i hcounts
      have helse : elsewhere s node r=true := by
        rw [elsewhere_eq,Bool.not_eq_true _ |>.mp hcounts,Bool.not_false]
      refine yields_replicaUpToDate.bind fun b hb => (ih _).mono fun m hm => ?_
      rw [hm,hb,List.countP_cons,helse,Bool.true_and]
      split <;> omega

theorem yields_ready {filter : AutoSelectFilter} :
    Yields Step s (evacuationReplacementReady filter rdName node) fun b =>
      b=true → filter.placeCount ≤ readyCount s rdName node ∧ 1 ≤ readyCount s rdName node := by
  refine yields_drainingNodes.bind fun l hl => ?_
  refine (yields_run rfl).bind fun replicas hreplicas => ?_
  cases hl
  cases hreplicas
  refine (yields_healthyUpToDate _ _).bind fun n hn => yields_pure fun hready => ?_
  rw [Nat.zero_add] at hn
  change n=readyCount s rdName node at hn
  rw [← hn]
  simpa using hready

end Reads

section Pass

variable {lib : Lib} {s t : State} {rdName node : String} {victim : Resource}
  {filter : AutoSelectFilter}

def targetFilter (s : State) (victim : Resource) (filter : AutoSelectFilter) : AutoSelectFilter :=
  if filter.placeCount<diskfulTarget s victim.name victim.nodeName then
    {filter with placeCount := diskfulTarget s victim.name victim.nodeName}
  else filter

def source (victim : Resource) : String := resourceCRDName victim.name victim.nodeName

theorem targetFilter_placeCount (s : State) (victim : Resource) (filter : AutoSelectFilter) :
    (targetFilter s victim filter).placeCount=
      max filter.placeCount (diskfulTarget s victim.name victim.nodeName) := by
  unfold targetFilter
  split
  · rename_i hbelow
    exact (max_eq_right hbelow.le).symm
  · rename_i habove
    exact (max_eq_left (not_lt.mp habove)).symm

theorem exec_pruneSource {r : Except Err Unit} (h : Exec Step (pruneSource rdName node) s r t) :
    t=s ∨ t=(serve s (.delete (resourceCRDName rdName node))).2 := by
  rcases (yields_ask rfl).exec_bind h with ⟨_,_,ht⟩|⟨a,_,h⟩
  · exact .inl ht
  · cases a with
    | error e =>
      dsimp only at h
      split at h
      · exact .inl (exec_pure.mp h).2
      · exact .inl (exec_throw.mp h).2
    | ok x => exact exec_run h

/-- The source may be deleted: it is lost, or enough other replicas are reported up to date. -/
def MayPrune (s u : State) (victim : Resource) (lost : Bool) (filter : AutoSelectFilter) : Prop :=
  lost=true ∨ (targetFilter s victim filter).placeCount ≤ readyCount u victim.name victim.nodeName ∧
    1 ≤ readyCount u victim.name victim.nodeName

theorem exec_migrateInto {lost : Bool} {r : Except Err Unit}
    (h : Exec Step (migrateInto lib victim lost filter) s r t) :
    t=s ∨ ∃x u,Exec Step (place lib victim.name (targetFilter s victim filter)) s x u ∧
      (t=u ∨ MayPrune s u victim lost filter ∧ t=(serve u (.delete (source victim))).2) := by
  rcases yields_currentDiskfulTarget.exec_bind h with ⟨_,_,ht⟩|⟨n,rfl,h⟩
  · exact .inl ht
  · right
    rcases exec_bind.mp h with ⟨e,hplace,_⟩|⟨placement,u,hplace,h⟩
    · exact ⟨_,t,hplace,.inl rfl⟩
    · refine ⟨_,u,hplace,?_⟩
      split at h
      · exact .inl (exec_throw.mp h).2
      · split at h
        · rename_i hlost
          rcases exec_pruneSource h with ht|ht
          · exact .inl ht
          · exact .inr ⟨.inl hlost,ht⟩
        · rcases yields_ready.exec_bind h with ⟨_,_,ht⟩|⟨b,hready,h⟩
          · exact .inl ht
          · split at h
            · exact .inl (exec_pure.mp h).2
            · rename_i hb
              rcases exec_pruneSource h with ht|ht
              · exact .inl ht
              · exact .inr ⟨.inr (hready (by simpa using hb)),ht⟩

/-- The filter of the group, or the empty one if there is no group or it could not be read. -/
def GroupFilter (s : State) (victim : Resource) (filter : AutoSelectFilter) : Prop :=
  filter=.empty ∨ ∃rd rg,s.getDefinition victim.name=some rd ∧
    s.groups.get? (Store.K8s.name rd.resourceGroupName)=some rg ∧ filter=rg.selectFilter

theorem exec_annotate {reason : String} {r : Except Err Unit}
    (h : Exec Step (annotateMigrationBlocked rdName reason) s r t) :
    t=s ∨ ∃rd,t=(serve s (.updateDefinition rd)).2 := by
  rcases (yields_run rfl).exec_bind h with ⟨_,_,ht⟩|⟨rd,_,h⟩
  · exact .inl ht
  · split at h
    · exact .inl (exec_pure.mp h).2
    · rcases exec_run h with ht|ht
      · exact .inl ht
      · exact .inr ⟨_,ht⟩

theorem exec_migrateResource {lost : Bool} {r : Except Err Unit}
    (h : Exec Step (migrateResource lib victim lost) s r t) :
    (t=s ∨ ∃rd,t=(serve s (.updateDefinition rd)).2) ∨
      ∃filter,GroupFilter s victim filter ∧ Exec Step (migrateInto lib victim lost filter) s r t := by
  rcases (yields_run rfl).exec_bind h with ⟨_,_,ht⟩|⟨rd,hrd,h⟩
  · exact .inl (.inl ht)
  · split at h
    · exact .inl (exec_annotate h)
    · rcases (yields_ask rfl).exec_bind h with ⟨_,_,ht⟩|⟨a,ha,h⟩
      · exact .inl (.inl ht)
      · right
        cases a with
        | error e => exact ⟨_,.inl rfl,h⟩
        | ok rg =>
          refine ⟨_,.inr ⟨rd,rg,found_eq_ok.mp hrd,?_,rfl⟩,h⟩
          rcases ha with ha|ha
          · exact found_eq_ok.mp ha.symm
          · cases ha

end Pass

section Serve

variable {s : State} {rdName node : String}

theorem replicaUpToDate_serve : Exec Step (replicaUpToDate rdName node) s
    (.ok (seenUpToDate s rdName node)) s := by
  refine exec_ask.mpr ⟨_,_,.inl ⟨rfl,rfl⟩,?_⟩
  unfold seenUpToDate
  cases hget : s.resources.get? (resourceCRDName rdName node) with
  | none =>
    simp only [serve,hget,found]
    exact .done _ _
  | some r =>
    simp only [serve,hget,found]
    exact .done _ _

theorem healthyUpToDate_serve (s : State) (rdName node : String) (rs : List Resource) (n : Nat) :
    ∃m,Exec Step (healthyUpToDate rdName node (drained s) rs n) s (.ok m) s := by
  induction rs generalizing n with
  | nil => exact ⟨n,.done _ _⟩
  | cons r rs ih =>
    unfold healthyUpToDate
    split
    · exact ih n
    · obtain ⟨m,hrest⟩ := ih (if seenUpToDate s rdName r.nodeName then n+1 else n)
      exact ⟨m,exec_bind.mpr (.inr ⟨_,_,replicaUpToDate_serve,hrest⟩)⟩

theorem drainingNodes_serve : Exec Step drainingNodes s (.ok (drained s)) s :=
  exec_run_ok rfl (.done _ _)

theorem ready_serve {filter : AutoSelectFilter} :
    Exec Step (evacuationReplacementReady filter rdName node) s
      (.ok (decide (filter.placeCount ≤ readyCount s rdName node) &&
        decide (1 ≤ readyCount s rdName node))) s := by
  obtain ⟨m,hm⟩ := healthyUpToDate_serve s rdName node (s.listByDefinition rdName) 0
  have hcount := (yields_healthyUpToDate _ _ _ _ hm).2 m rfl
  rw [Nat.zero_add] at hcount
  change m=readyCount s rdName node at hcount
  refine exec_bind.mpr (.inr ⟨_,_,drainingNodes_serve,exec_run_ok rfl
    (exec_bind.mpr (.inr ⟨_,_,hm,exec_pure.mpr ⟨?_,rfl⟩⟩))⟩)
  rw [hcount]

theorem currentDiskfulTarget_serve : Exec Step (currentDiskfulTarget rdName node) s
    (.ok (diskfulTarget s rdName node)) s := by
  have hexec : ∃m,Exec Step (currentDiskfulTarget rdName node) s (.ok m) s :=
    ⟨_,exec_bind.mpr (.inr ⟨_,_,drainingNodes_serve,exec_run_ok rfl
      (exec_run_ok rfl (.done _ _))⟩)⟩
  obtain ⟨m,hm⟩ := hexec
  rw [← (yields_currentDiskfulTarget _ _ hm).2 m rfl]
  exact hm

theorem pruneSource_serve {r : Resource}
    (h : s.resources.get? (resourceCRDName rdName node)=some r) :
    Exec Step (pruneSource rdName node) s (.ok ())
      (serve s (.delete (resourceCRDName rdName node))).2 := by
  have hget : serve s (.getResource (resourceCRDName rdName node))=(.ok r,s) := by
    simp only [serve,h,found]
  refine exec_ask_ok hget (exec_ask.mpr ⟨.ok (),_,.inl ⟨(delete_ok h).symm,rfl⟩,.done _ _⟩)

end Serve

end Blockstor.Evacuation.Drain
