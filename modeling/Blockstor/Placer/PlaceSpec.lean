import Blockstor.Placer.Place
import Blockstor.Framework.Transition

namespace Blockstor.Placer

open Framework Shell PlaceState List

variable {lib : Lib} {s t : State} {rdName : String} {filter : AutoSelectFilter}

section Filter

def Backed (s : State) (replicas : List Resource) (kind : String) : Prop :=
  ∃r∈replicas,r.diskful=true ∧
    ∃p∈s.pools,p.key=poolKey r.nodeName (r.props.get storPoolNameProp) ∧ kind=p.providerKind

/-- The filter a call works with: the backend of the restore source takes the place of the list of
backends. -/
def Restored (s : State) (rdName : String) (filter filter' : AutoSelectFilter) : Prop :=
  filter'=filter ∨ ∃rd srcRD snap kind,s.getDefinition rdName=some rd ∧
    Text.cut ':' (rd.props.get restoreFromSnapshotProp)=some (srcRD,snap) ∧
    Backed s (s.listByDefinition srcRD) kind ∧ filter'={filter with providerList := [kind]}

theorem yields_firstProviderKind (replicas : List Resource) :
    Yields Step s (firstProviderKind replicas) fun kind => kind≠"" → Backed s replicas kind := by
  induction replicas with
  | nil => exact yields_pure fun h => absurd rfl h
  | cons r rs ih =>
    have hrest : Yields Step s (firstProviderKind rs) fun kind => kind≠"" →
        Backed s (r::rs) kind := by
      refine ih.mono fun kind h hne => ?_
      obtain ⟨r',hr',hpool⟩ := h hne
      exact ⟨r',.tail _ hr',hpool⟩
    unfold firstProviderKind
    dsimp only
    split
    · exact hrest
    · rename_i hskip
      refine (yields_ask rfl).bind fun a ha => ?_
      cases a with
      | error e => exact hrest
      | ok p =>
        dsimp only
        split
        · exact hrest
        · refine yields_pure fun _ => ⟨r,.head _,?_,p,?_⟩
          · simp only [Bool.or_eq_true,not_or,Bool.not_eq_true] at hskip
            simpa using hskip.1
          · rcases ha with ha|ha
            · obtain ⟨hp,hkey⟩ := (s.pools.get?_eq_some _ _).mp (found_eq_ok.mp ha.symm)
              exact ⟨hp,hkey,rfl⟩
            · cases ha

theorem yields_sourceProviderKind (srcRD : String) :
    Yields Step s (sourceProviderKind srcRD) fun kind => kind≠"" →
      Backed s (s.listByDefinition srcRD) kind := by
  refine (yields_ask rfl).bind fun a ha => ?_
  cases a with
  | error e => exact yields_pure fun h => absurd rfl h
  | ok replicas =>
    rcases ha with ha|ha
    · cases ha
      exact yields_firstProviderKind _
    · cases ha

theorem yields_constrain :
    Yields Step s (constrainFilterToRestoreSource rdName filter) (Restored s rdName filter) := by
  refine (yields_ask rfl).bind fun a ha => ?_
  cases a with
  | error e => exact yields_pure (.inl rfl)
  | ok rd =>
    have hrd : s.getDefinition rdName=some rd := by
      rcases ha with ha|ha
      · exact found_eq_ok.mp ha.symm
      · cases ha
    dsimp only
    split
    · exact yields_pure (.inl rfl)
    · rename_i srcRD snap hcut
      split
      · exact yields_pure (.inl rfl)
      · refine (yields_sourceProviderKind srcRD).bind fun kind hkind => yields_pure ?_
        split
        · exact .inl rfl
        · rename_i hne
          exact .inr ⟨rd,srcRD,snap,kind,hrd,hcut,hkind hne,rfl⟩

end Filter

section Seed

variable {pools : List StoragePool} {st : PlaceState}

def seededPool (pools : List StoragePool) (r : Resource) : Option StoragePool :=
  if r.diskful=false ∨ r.props.get storPoolNameProp="" then none
  else pools.find? fun p => p.key=poolKey r.nodeName (r.props.get storPoolNameProp)

def seededKind (pools : List StoragePool) (r : Resource) : String :=
  (seededPool pools r).elim "" (·.providerKind)

def sharedSpace (p : StoragePool) : List String :=
  if p.sharedSpaceID="" then [] else [p.sharedSpaceID]

theorem notePool_eq (p : StoragePool) : st.notePool p={st with
    sharedSeen := sharedSpace p++st.sharedSeen
    firstKind := if st.firstKind="" then p.providerKind else st.firstKind} := by
  unfold notePool sharedSpace
  split <;> rfl

theorem seed_eq (r : Resource) : seed pools st r={st with
    taken := (if r.diskful then [r.nodeName] else [])++st.taken
    xBuckets := (if r.diskful then xBucketKeys st.filter (st.nodeProps r.nodeName) else [])++
      st.xBuckets
    upgradeable := (if r.diskful then [] else [r.nodeName])++st.upgradeable
    sharedSeen := (seededPool pools r).elim [] sharedSpace++st.sharedSeen
    firstKind := if st.firstKind="" then seededKind pools r else st.firstKind} := by
  have hkeep : st.firstKind=if st.firstKind="" then "" else st.firstKind := by
    split
    · assumption
    · rfl
  unfold seed seededKind seededPool
  cases r.diskful with
  | false => simp [← hkeep]
  | true =>
    simp only [Bool.not_true,Bool.false_eq_true,if_false,Bool.true_eq_false,false_or,if_true,
      nil_append]
    split
    · simp [← hkeep]
    · split
      · rename_i hnone
        simp [hnone,← hkeep]
      · rename_i pool hsome
        rw [hsome,notePool_eq]
        rfl

theorem foldl_seed_eq (rs : List Resource) : rs.foldl (seed pools) st={st with
    taken := ((rs.filter (·.diskful)).map (·.nodeName)).reverse++st.taken
    xBuckets := ((rs.filter (·.diskful)).reverse.flatMap fun r =>
      xBucketKeys st.filter (st.nodeProps r.nodeName))++st.xBuckets
    upgradeable := ((rs.filter (!·.diskful)).map (·.nodeName)).reverse++st.upgradeable
    sharedSeen := (rs.filterMap (seededPool pools)).reverse.flatMap sharedSpace++st.sharedSeen
    firstKind := ((st.firstKind::rs.map (seededKind pools)).find? (·≠"")).getD ""} := by
  induction rs generalizing st with
  | nil =>
    obtain ⟨_,_,_,_,_,_,_,kind,_,_⟩ := st
    by_cases h : kind="" <;> simp [h]
  | cons r rs ih =>
    rw [foldl_cons,ih,seed_eq,map_cons,filterMap_cons]
    have hkind : (((if st.firstKind="" then seededKind pools r else st.firstKind)::
        rs.map (seededKind pools)).find? (·≠"")).getD ""=
        ((st.firstKind::seededKind pools r::rs.map (seededKind pools)).find? (·≠"")).getD "" := by
      by_cases h : st.firstKind="" <;> simp [h]
    dsimp only
    rw [hkind]
    cases hr : r.diskful <;> cases hpool : seededPool pools r <;> simp [hr,nodeProps]

theorem newState_fields {filter : AutoSelectFilter} {existing : List Resource} {nodes : List Node}
    {pools : List StoragePool} {mixing : Bool} :
    (newState filter existing nodes pools mixing).nodes=nodes ∧
      (newState filter existing nodes pools mixing).filter=filter := by
  unfold newState
  rw [foldl_seed_eq]
  exact ⟨rfl,rfl⟩

end Seed

def State.allowsMixing (s : State) : Bool :=
  Text.equalFold (s.controllerProps.get propAllowMixingStoragePoolDriver) "true"

def startState (s : State) (rdName : String) (filter : AutoSelectFilter) : PlaceState :=
  newState filter (s.listByDefinition rdName) s.listNodes s.listPools s.allowsMixing

section Plan

variable {candidates : List StoragePool}

structure Eligible (lib : Lib) (s : State) (rdName : String) (filter : AutoSelectFilter)
    (p : StoragePool) : Prop where
  mem : p∈s.pools
  matchesFilter : matchesPoolFilter p filter
    (autoplaceExcludedNodes s.listNodes (disabledNodes s.listNodes))=true
  fits : ∃vds,(s.getDefinition rdName).map (·.volumeDefinitions)=some vds ∧
    fits lib p s.controllerProps (requiredKib vds)=true
  neighbours : p.nodeName∉notPlaceWithNodes lib rdName filter s.listResources
  pins : matchesAllSamePins (nodesByName s.listNodes p.nodeName) filter.replicasOnSame=true

def Started (s : State) (rdName : String) (filter : AutoSelectFilter) (st : PlaceState) : Prop :=
  ∃mixing tuple,st={newState filter (s.listByDefinition rdName) s.listNodes s.listPools mixing with
    sameTuple := tuple}

structure Planned (lib : Lib) (s : State) (rdName : String) (filter : AutoSelectFilter)
    (plan : PlacePlan) : Prop where
  existing : plan.existing=s.listByDefinition rdName
  disabled : plan.disabled=disabledNodes s.listNodes
  state : Started s rdName filter plan.state
  preferred : ∀p∈plan.preferred,Eligible lib s rdName filter p ∧
    matchesAnyExcludedPair (nodesByName s.listNodes p.nodeName) filter.replicasOnDifferent=false
  lastResort : ∀p∈plan.lastResort,Eligible lib s rdName filter p ∧
    matchesAnyExcludedPair (nodesByName s.listNodes p.nodeName) filter.replicasOnDifferent=true

theorem yields_candidatePools {minFreeKib : Int} :
    Yields Step s (candidatePools lib filter minFreeKib) fun x => ∀p∈x.1,p∈s.pools ∧
      matchesPoolFilter p filter
        (autoplaceExcludedNodes s.listNodes (disabledNodes s.listNodes))=true ∧
      fits lib p s.controllerProps minFreeKib=true := by
  refine (yields_wrapped rfl).bind fun all hall => ?_
  refine (yields_wrapped rfl).bind fun nodes hnodes => ?_
  refine (yields_wrapped rfl).bind fun nodes' hnodes' => ?_
  refine (yields_wrapped rfl).bind fun ctrlProps hctrl => ?_
  refine (yields_wrapped rfl).bind fun props _ => ?_
  refine (yields_wrapped rfl).bind fun resources _ => yields_pure fun p hp => ?_
  cases hall
  cases hnodes
  cases hnodes'
  cases hctrl
  obtain ⟨hmem,hfilter,hfits⟩ := mem_gates lib ((rankCandidates_perm lib _ _ _).mem_iff.mp hp)
  exact ⟨(s.mem_listPools p).mp hmem,hfilter,hfits⟩

theorem yields_applyNotPlaceWith :
    Yields Step s (applyNotPlaceWith lib rdName filter candidates) fun x => ∀p∈x,p∈candidates ∧
      p.nodeName∉notPlaceWithNodes lib rdName filter s.listResources := by
  unfold applyNotPlaceWith
  split
  · rename_i hempty
    refine yields_pure fun p hp => ⟨hp,?_⟩
    simp [notPlaceWithNodes,hempty.1,hempty.2]
  · refine (yields_wrapped rfl).bind fun all hall => yields_pure fun p hp => ?_
    cases hall
    simpa using hp

theorem plannedPools_spec (st : PlaceState) (candidates : List StoragePool) :
    (∃tuple,(plannedPools st candidates).1={st with sameTuple := tuple}) ∧
      ∀p,(p∈(plannedPools st candidates).2.1 ∨ p∈(plannedPools st candidates).2.2) →
        (p∈candidates ∧ matchesAllSamePins (st.nodeProps p.nodeName) st.filter.replicasOnSame=true) ∧
        (p∈(plannedPools st candidates).2.1 →
          matchesAnyExcludedPair (st.nodeProps p.nodeName) st.filter.replicasOnDifferent=false) ∧
        (p∈(plannedPools st candidates).2.2 →
          matchesAnyExcludedPair (st.nodeProps p.nodeName) st.filter.replicasOnDifferent=true) := by
  refine ⟨⟨_,rfl⟩,fun p hp => ⟨?_,fun h => mem_preferred h,fun h => mem_lastResort h⟩⟩
  apply mem_filterSamePinned
  unfold plannedPools at hp
  dsimp only at hp
  have hmem := mem_partition hp
  split at hmem
  · exact mem_pickSameGroup hmem
  · exact hmem

def Assembled (s : State) (rdName : String) (filter : AutoSelectFilter) (st : PlaceState) : Prop :=
  ∃candidates,st=(plannedPools (startState s rdName filter) candidates).1

theorem yields_assemblePlan {required : Int}
    (hvds : ∃vds,(s.getDefinition rdName).map (·.volumeDefinitions)=some vds ∧
      requiredKib vds=required) (hcand : ∀p∈candidates,p∈s.pools ∧ matchesPoolFilter p filter
      (autoplaceExcludedNodes s.listNodes (disabledNodes s.listNodes))=true ∧
      fits lib p s.controllerProps required=true) :
    Yields Step s (assemblePlan lib rdName filter candidates) fun plan =>
      Planned lib s rdName filter plan ∧ Assembled s rdName filter plan.state := by
  refine (yields_wrapped rfl).bind fun existing hexisting => ?_
  refine (yields_wrapped rfl).bind fun nodes hnodes => ?_
  refine (yields_wrapped rfl).bind fun nodes' hnodes' => ?_
  refine (yields_wrapped rfl).bind fun pools hpools => ?_
  refine (yields_wrapped rfl).bind fun props hprops => ?_
  refine yields_applyNotPlaceWith.bind fun cs hcs => yields_pure ?_
  cases hexisting
  cases hnodes
  cases hnodes'
  cases hpools
  cases hprops
  obtain ⟨hnodes,hfilter⟩ : (startState s rdName filter).nodes=s.listNodes ∧
    (startState s rdName filter).filter=filter := newState_fields
  obtain ⟨⟨tuple,hstate⟩,hpools⟩ := plannedPools_spec (startState s rdName filter) cs
  rw [hfilter] at hpools
  have hprops : ∀node,(startState s rdName filter).nodeProps node=nodesByName s.listNodes node := by
    intro node
    rw [nodeProps,hnodes]
  simp only [hprops] at hpools
  have heligible : ∀p,(p∈cs ∧ matchesAllSamePins (nodesByName s.listNodes p.nodeName)
      filter.replicasOnSame=true) → Eligible lib s rdName filter p := by
    intro p hp
    obtain ⟨hc,hneighbours⟩ := hcs p hp.1
    obtain ⟨hmem,hmatch,hfits⟩ := hcand p hc
    obtain ⟨vds,hvds,rfl⟩ := hvds
    exact ⟨hmem,hmatch,⟨vds,hvds,hfits⟩,hneighbours,hp.2⟩
  exact ⟨⟨rfl,rfl,⟨_,tuple,hstate⟩,
    fun p hp => ⟨heligible p (hpools p (.inl hp)).1,(hpools p (.inl hp)).2.1 hp⟩,
    fun p hp => ⟨heligible p (hpools p (.inr hp)).1,(hpools p (.inr hp)).2.2 hp⟩⟩,cs,rfl⟩

theorem yields_buildPlan : Yields Step s (buildPlan lib rdName filter) fun gated =>
    ∀plan,gated.plan=some plan →
      Planned lib s rdName filter plan ∧ Assembled s rdName filter plan.state := by
  refine (yields_wrapped rfl).bind fun vds hvds => ?_
  refine yields_candidatePools.bind fun x hx => ?_
  obtain ⟨candidates,gates⟩ := x
  dsimp only
  split
  · exact yields_pure fun plan h => by cases h
  · refine (yields_assemblePlan ⟨vds,?_,rfl⟩ hx).bind fun plan hplan => yields_pure ?_
    · exact found_eq_ok.mp hvds
    · intro plan' h
      cases h
      exact hplan

end Plan

section Writes

variable {r : Except Err Placement}

structure SameRest (s t : State) : Prop where
  nodes : t.nodes=s.nodes
  pools : t.pools=s.pools
  definitions : t.definitions=s.definitions
  groups : t.groups=s.groups
  controllerProps : t.controllerProps=s.controllerProps

theorem SameRest.refl (s : State) : SameRest s s := ⟨rfl,rfl,rfl,rfl,rfl⟩

theorem SameRest.trans {u : State} (h : SameRest s t) (h' : SameRest t u) : SameRest s u :=
  ⟨h'.nodes.trans h.nodes,h'.pools.trans h.pools,h'.definitions.trans h.definitions,
    h'.groups.trans h.groups,h'.controllerProps.trans h.controllerProps⟩

/-- What putting a replica into a pool does to the store; only a node in `up` has a witness to
promote. -/
inductive Adds (up : List String) (rdName : String) (p : StoragePool) (s : State) : State → Prop
  | none : Adds up rdName p s s
  | created (h : ∀b∈s.resources,b.key≠(newReplica rdName p).key) :
      Adds up rdName p s {s with resources := s.resources.insert (newReplica rdName p) h}
  | promoted (hup : p.nodeName∈up) (w : Resource)
      (hw : s.resources.get? (resourceCRDName rdName p.nodeName)=some w) :
      Adds up rdName p s {s with
        resources := s.resources.modify (resourceCRDName rdName p.nodeName)
          (·.withSpec (promote p)) (Resource.key_withSpec _)}

theorem exec_createUnlessThere {text : String} {res : Resource} {r : Except Err Unit}
    (h : Exec Step (createUnlessThere text res) s r t) :
    t=s ∨ ∃hfree,t={s with resources := s.resources.insert res.fresh hfree} := by
  obtain ⟨a,u,ha,h⟩ := exec_ask.mp h
  have ht : t=u := by
    cases a with
    | ok x => exact (exec_pure.mp h).2
    | error e =>
      dsimp only at h
      split at h
      · exact (exec_pure.mp h).2
      · exact (exec_throw.mp h).2
  rw [ht]
  rcases ha.state with hu|hu
  · exact .inl hu
  · rw [hu]
    simp only [serve]
    split
    · exact .inl rfl
    · rename_i hget
      exact .inr ⟨(s.resources.get?_eq_none _).mp hget,rfl⟩

variable {up : List String} {p : StoragePool} {st : PlaceState}

theorem exec_createReplica {text : String} {r : Except Err Unit}
    (h : Exec Step (createUnlessThere text (newReplica rdName p)) s r t) :
    Adds up rdName p s t := by
  rcases exec_createUnlessThere h with rfl|⟨hfree,rfl⟩
  · exact .none
  · exact .created hfree

theorem exec_promoteWitness {r : Except Err Unit} (hup : p.nodeName∈up)
    (h : Exec Step (promoteWitness rdName p) s r t) : Adds up rdName p s t := by
  obtain ⟨a,u,ha,h⟩ := exec_ask.mp h
  have hu : Adds up rdName p s u := by
    rcases ha.state with hu|hu
    · rw [hu]
      exact .none
    · rw [hu]
      simp only [serve]
      split
      · exact .none
      · rename_i w hw
        exact .promoted hup w hw
  cases a with
  | ok x =>
    obtain ⟨_,rfl⟩ := exec_pure.mp h
    exact hu
  | error e =>
    dsimp only at h
    split at h
    · rename_i hmissing
      -- a patch that finds nothing has changed nothing
      have hsame : u=s := by
        rcases ha with ⟨ha,hu⟩|⟨ha,_⟩
        · simp only [serve] at ha hu
          split at ha
          · rename_i hget
            rw [hget] at hu
            exact hu
          · cases ha
        · cases ha
          cases hmissing
      rw [hsame] at h
      exact exec_createReplica h
    · obtain ⟨_,rfl⟩ := exec_throw.mp h
      exact hu

theorem exec_tryPlace {r : Except Err (Option PlaceState)}
    (h : Exec Step (st.tryPlace rdName p) s r t) :
    (t=s ∧ r=.ok none) ∨ (st.admits p=true ∧ Adds st.upgradeable rdName p s t ∧
      ∀x,r=.ok x → x=some (st.occupy p)) := by
  unfold tryPlace at h
  split at h
  · obtain ⟨hr,ht⟩ := exec_pure.mp h
    exact .inl ⟨ht,hr⟩
  · rename_i hadmits
    have hadmits : st.admits p=true := by simpa using hadmits
    have hrest : ∀q : Prog Unit,(∀u x,Exec Step q s x u → Adds st.upgradeable rdName p s u) →
        Exec Step (q >>= fun _ => pure (some (st.occupy p))) s r t →
        Adds st.upgradeable rdName p s t ∧ ∀x,r=.ok x → x=some (st.occupy p) := by
      intro q hq h
      rcases exec_bind.mp h with ⟨e,hfail,rfl⟩|⟨_,u,hwrite,hdone⟩
      · exact ⟨hq _ _ hfail,fun x hx => by cases hx⟩
      · obtain ⟨rfl,rfl⟩ := exec_pure.mp hdone
        exact ⟨hq _ _ hwrite,fun x hx => by cases hx; rfl⟩
    split at h
    · rename_i hup
      exact .inr ⟨hadmits,hrest _ (fun u x hx => exec_promoteWitness (by simpa using hup) hx) h⟩
    · exact .inr ⟨hadmits,hrest _ (fun u x hx => exec_createReplica hx) h⟩

/-- One replica more: the pool is admitted, the store gets the replica, and it is taken note of. -/
def Places (rdName : String) (x : PlaceState × State) (p : StoragePool) (y : PlaceState × State) :
    Prop :=
  x.1.admits p=true ∧ y.1=x.1.occupy p ∧ Adds x.1.upgradeable rdName p x.2 y.2

theorem exec_placeDiskful {pools : List StoragePool} {placed want : Int}
    {r : Except Err (Int × PlaceState × Option Err)}
    (h : Exec Step (placeDiskful rdName st pools placed want) s r t) :
    ∃ps st' x,Run (Places rdName) (st,s) ps (st',t) ∧ ps.Sublist pools ∧
      (ps.length : Int) ≤ max 0 (want-placed) ∧ r=.ok x ∧
      (x.2.2=none → x.2.1=st' ∧ x.1=placed+ps.length) := by
  induction pools generalizing st s placed with
  | nil =>
    obtain ⟨rfl,rfl⟩ := exec_pure.mp h
    exact ⟨[],st,_,.nil _,.slnil,by simp,rfl,fun _ => ⟨rfl,by simp⟩⟩
  | cons p pools ih =>
    unfold placeDiskful at h
    split at h
    · obtain ⟨rfl,rfl⟩ := exec_pure.mp h
      exact ⟨[],st,_,.nil _,nil_sublist _,by simp,rfl,fun _ => ⟨rfl,by simp⟩⟩
    · rename_i hmore
      rcases exec_bind.mp h with ⟨e,hfail,_⟩|⟨a,u,htry,hrest⟩
      · obtain ⟨x,_,hx⟩ := exec_attempt.mp hfail
        cases hx
      · obtain ⟨x,hx,ha⟩ := exec_attempt.mp htry
        cases ha
        rcases exec_tryPlace hx with ⟨rfl,rfl⟩|⟨hadmits,hadds,hsome⟩
        · obtain ⟨ps,st',y,hrun,hsub,hlen,hr,hy⟩ := ih hrest
          exact ⟨ps,st',y,hrun,hsub.cons _,hlen,hr,hy⟩
        · have hstep : Places rdName (st,s) p (st.occupy p,u) := ⟨hadmits,rfl,hadds⟩
          cases a with
          | error e =>
            obtain ⟨rfl,rfl⟩ := exec_pure.mp hrest
            refine ⟨[p],st.occupy p,_,.cons _ _ _ _ _ hstep (.nil _),
              singleton_sublist.mpr (.head _),?_,rfl,fun h => by cases h⟩
            rw [length_singleton]
            omega
          | ok o =>
            obtain rfl := hsome o rfl
            obtain ⟨ps,st',y,hrun,hsub,hlen,hr,hy⟩ := ih hrest
            refine ⟨p::ps,st',y,.cons _ _ _ _ _ hstep hrun,hsub.cons_cons _,?_,hr,fun h => ?_⟩
            · rw [length_cons]
              omega
            · refine ⟨(hy h).1,(hy h).2.trans ?_⟩
              rw [length_cons]
              omega

structure DisklessOnly (rdName : String) (s t : State) : Prop where
  rest : SameRest s t
  keeps : ∀r∈s.resources,r∈t.resources
  adds : ∀r∈t.resources,r∈s.resources ∨ r.name=rdName ∧ r.diskful=false

theorem DisklessOnly.refl (rdName : String) (s : State) : DisklessOnly rdName s s :=
  ⟨.refl s,fun _ h => h,fun _ h => .inl h⟩

theorem DisklessOnly.trans {u : State} (h : DisklessOnly rdName s t)
    (h' : DisklessOnly rdName t u) : DisklessOnly rdName s u where
  rest := h.rest.trans h'.rest
  keeps := fun r hr => h'.keeps r (h.keeps r hr)
  adds := by
    intro r hr
    rcases h'.adds r hr with hr|hr
    · exact h.adds r hr
    · exact .inr hr

theorem exec_placeDiskless {taken : List String} {nodes : List Node} {r : Except Err Unit}
    (h : Exec Step (placeDisklessOnRemaining rdName taken nodes) s r t) :
    DisklessOnly rdName s t := by
  induction nodes generalizing s taken with
  | nil =>
    obtain ⟨_,rfl⟩ := exec_pure.mp h
    exact .refl rdName _
  | cons n ns ih =>
    unfold placeDisklessOnRemaining at h
    split at h
    · exact ih h
    · have hcreate : ∀u x,Exec Step (createUnlessThere "create diskless witness"
          (disklessReplica rdName n.name)) s x u → DisklessOnly rdName s u := by
        intro u x hx
        rcases exec_createUnlessThere hx with rfl|⟨hfree,rfl⟩
        · exact .refl rdName _
        · refine ⟨⟨rfl,rfl,rfl,rfl,rfl⟩,fun r hr => ?_,fun r hr => ?_⟩
          · exact (s.resources.mem_insert _ hfree r).mpr (.inl hr)
          · rcases (s.resources.mem_insert _ hfree r).mp hr with hr|rfl
            · exact .inl hr
            · exact .inr ⟨rfl,rfl⟩
      rcases exec_bind.mp h with ⟨e,hfail,_⟩|⟨_,u,hwrite,hrest⟩
      · exact hcreate _ _ hfail
      · exact (hcreate _ _ hwrite).trans (ih hrest)

theorem exec_executePlan {gated : GatedPlan} {plan : PlacePlan}
    (h : Exec Step (executePlan rdName filter gated plan) s r t) :
    ∃ps₁ ps₂ st u,Run (Places rdName) (plan.state,s) (ps₁++ps₂) (st,u) ∧
      ps₁.Sublist plan.preferred ∧ ps₂.Sublist plan.lastResort ∧
      ((ps₁++ps₂).length : Int) ≤
        max 0 (filter.placeCount-countDiskfulReplicas plan.existing plan.disabled) ∧
      (ps₂≠[] → (countDiskfulReplicas plan.existing plan.disabled : Int)+ps₁.length<
        filter.placeCount) ∧ DisklessOnly rdName u t ∧
      (filter.disklessOnRemaining=false → t=u) := by
  unfold executePlan at h
  dsimp only at h
  rcases exec_bind.mp h with ⟨e,hfirst,_⟩|⟨x,u,hfirst,h⟩
  · obtain ⟨_,_,_,_,_,_,hr,_⟩ := exec_placeDiskful hfirst
    cases hr
  · obtain ⟨ps₁,st₁,y,hrun₁,hsub₁,hlen₁,hr,hy⟩ := exec_placeDiskful hfirst
    cases hr
    obtain ⟨placed,st,err⟩ := x
    have hstop : (∃ps₂ st u',Run (Places rdName) (st₁,u) ps₂ (st,u') ∧
        ps₂.Sublist plan.lastResort ∧ (ps₂.length : Int) ≤ max 0 (filter.placeCount-placed) ∧
        (ps₂≠[] → placed=countDiskfulReplicas plan.existing plan.disabled+ps₁.length) ∧
        DisklessOnly rdName u' t ∧ (filter.disklessOnRemaining=false → t=u')) := by
      dsimp only at h hy
      split at h
      · obtain ⟨_,rfl⟩ := exec_pure.mp h
        exact ⟨[],st₁,_,.nil _,nil_sublist _,by simp,fun h => absurd rfl h,.refl _ _,
          fun _ => rfl⟩
      · rename_i herr
        obtain ⟨rfl,rfl⟩ := hy (by simpa using herr)
        rcases exec_bind.mp h with ⟨e,hsecond,_⟩|⟨x,v,hsecond,h⟩
        · obtain ⟨_,_,_,_,_,_,hr,_⟩ := exec_placeDiskful hsecond
          cases hr
        · obtain ⟨ps₂,st₂,y,hrun₂,hsub₂,hlen₂,hr,_⟩ := exec_placeDiskful hsecond
          refine ⟨ps₂,st₂,v,hrun₂,hsub₂,hlen₂,fun _ => rfl,?_⟩
          split at h
          · obtain ⟨_,rfl⟩ := exec_pure.mp h
            exact ⟨.refl _ _,fun _ => rfl⟩
          · split at h
            · rename_i hon
              refine ⟨?_,fun hoff => absurd (hoff.symm.trans hon.1) Bool.false_ne_true⟩
              rcases exec_bind.mp h with ⟨e,hdiskless,_⟩|⟨x,w,hdiskless,h⟩
              · obtain ⟨z,hz,_⟩ := exec_attempt.mp hdiskless
                exact exec_placeDiskless hz
              · obtain ⟨z,hz,hx⟩ := exec_attempt.mp hdiskless
                have ht : t=w := by
                  cases x with
                  | error e => exact (exec_pure.mp h).2
                  | ok a => exact (exec_pure.mp h).2
                rw [ht]
                exact exec_placeDiskless hz
            · obtain ⟨_,rfl⟩ := exec_pure.mp h
              exact ⟨.refl _ _,fun _ => rfl⟩
    obtain ⟨ps₂,st₂,v,hrun₂,hsub₂,hlen₂,hplaced,hdiskless⟩ := hstop
    refine ⟨ps₁,ps₂,st₂,v,hrun₁.append hrun₂,hsub₁,hsub₂,?_,fun hne => ?_,hdiskless⟩
    · rw [length_append]
      by_cases hne : ps₂=[]
      · rw [hne,length_nil]
        omega
      · have hpos := length_pos_iff.mpr hne
        have := hplaced hne
        omega
    · have hpos := length_pos_iff.mpr hne
      have := hplaced hne
      omega

/-- What a call adds to the store: replicas in eligible pools, first those on nodes without an
excluded pair, and no more than are missing; then replicas without a disk. -/
structure Filled (lib : Lib) (s : State) (rdName : String) (filter : AutoSelectFilter)
    (st : PlaceState) (ps₁ ps₂ : List StoragePool) (u t : State) : Prop where
  run : ∃st',Run (Places rdName) (st,s) (ps₁++ps₂) (st',u)
  started : Started s rdName filter st
  preferred : ∀p∈ps₁,Eligible lib s rdName filter p ∧
    matchesAnyExcludedPair (nodesByName s.listNodes p.nodeName) filter.replicasOnDifferent=false
  lastResort : ∀p∈ps₂,Eligible lib s rdName filter p ∧
    matchesAnyExcludedPair (nodesByName s.listNodes p.nodeName) filter.replicasOnDifferent=true
  missing : ((ps₁++ps₂).length : Int) ≤ max 0 (filter.placeCount-
    countDiskfulReplicas (s.listByDefinition rdName) (disabledNodes s.listNodes))
  resort : ps₂≠[] → (countDiskfulReplicas (s.listByDefinition rdName)
    (disabledNodes s.listNodes) : Int)+ps₁.length<filter.placeCount
  diskless : DisklessOnly rdName u t

theorem exec_place_plan (h : Exec Step (place lib rdName filter) s r t) :
    ∃filter',Restored s rdName filter filter' ∧ (t=s ∨ ∃gated plan,
      Exec Step (buildPlan lib rdName filter') s (.ok gated) s ∧ gated.plan=some plan ∧
      Exec Step (executePlan rdName filter' gated plan) s r t) := by
  rcases yields_constrain.exec_bind h with ⟨_,_,ht⟩|⟨filter',hfilter,h⟩
  · exact ⟨filter,.inl rfl,.inl ht⟩
  · refine ⟨filter',hfilter,?_⟩
    rcases exec_bind.mp h with ⟨e,hfail,_⟩|⟨a,u,hbuild,h⟩
    · exact .inl (yields_buildPlan.attempt _ _ hfail).1
    · obtain ⟨x,hx,ha⟩ := exec_attempt.mp hbuild
      obtain rfl := (yields_buildPlan x u hx).1
      cases ha
      cases a with
      | error e => exact .inl (exec_pure.mp h).2
      | ok gated =>
        dsimp only at h
        split at h
        · exact .inl (exec_pure.mp h).2
        · rename_i plan hsome
          exact .inr ⟨gated,plan,hx,hsome,h⟩

theorem Planned.filled {gated : GatedPlan} {plan : PlacePlan}
    (hplan : Planned lib s rdName filter plan)
    (h : Exec Step (executePlan rdName filter gated plan) s r t) :
    ∃ps₁ ps₂ u,Filled lib s rdName filter plan.state ps₁ ps₂ u t := by
  obtain ⟨ps₁,ps₂,st,u,hrun,hsub₁,hsub₂,hlen,hresort,hdiskless,_⟩ := exec_executePlan h
  rw [hplan.existing,hplan.disabled] at hlen hresort
  exact ⟨ps₁,ps₂,u,⟨st,hrun⟩,hplan.state,fun p hp => hplan.preferred p (hsub₁.mem hp),
    fun p hp => hplan.lastResort p (hsub₂.mem hp),hlen,hresort,hdiskless⟩

theorem exec_place (h : Exec Step (place lib rdName filter) s r t) :
    ∃filter',Restored s rdName filter filter' ∧
      (t=s ∨ ∃st ps₁ ps₂ u,Filled lib s rdName filter' st ps₁ ps₂ u t) := by
  obtain ⟨filter',hfilter,ht|⟨gated,plan,hbuild,hsome,hexec⟩⟩ := exec_place_plan h
  · exact ⟨filter',hfilter,.inl ht⟩
  · have hplan := ((yields_buildPlan _ _ hbuild).2 gated rfl plan hsome).1
    exact ⟨filter',hfilter,.inr ⟨plan.state,hplan.filled hexec⟩⟩

end Writes

section Serve

variable {st st' : PlaceState} {rd : ResourceDefinition} {gates : CandidateGates}
  {candidates preferred : List StoragePool}

def gatedPools (lib : Lib) (s : State) (filter : AutoSelectFilter) (minFreeKib : Int) :
    List StoragePool × CandidateGates :=
  applyCapacityAndOversubGates lib s.listPools filter
    (autoplaceExcludedNodes s.listNodes (disabledNodes s.listNodes)) s.controllerProps minFreeKib

theorem candidatePools_serve (lib : Lib) (s : State) (filter : AutoSelectFilter) (minFreeKib : Int) :
    ∃candidates,candidates.Perm (gatedPools lib s filter minFreeKib).1 ∧
      Exec Step (candidatePools lib filter minFreeKib) s
        (.ok (candidates,(gatedPools lib s filter minFreeKib).2)) s :=
  ⟨_,rankCandidates_perm lib _ _ _,exec_wrapped_ok rfl (exec_wrapped_ok rfl (exec_wrapped_ok rfl
    (exec_wrapped_ok rfl (exec_wrapped_ok rfl (exec_wrapped_ok rfl (.done _ _))))))⟩

/-- The part of `place` that follows when there are candidates. -/
def placeAmong (lib : Lib) (rdName : String) (filter : AutoSelectFilter) (required : Int)
    (gates : CandidateGates) (candidates : List StoragePool) : Prog Placement := do
  let plan ← assemblePlan lib rdName filter candidates
  executePlan rdName filter ⟨required,gates.maxFreeBelow,gates.oversubBest,some plan⟩ plan

theorem exec_placeAmong {vds : List VolumeDefinition}
    {placement : Placement} {filter' : AutoSelectFilter}
    (hfilter : Exec Step (constrainFilterToRestoreSource rdName filter) s (.ok filter') s)
    (hvds : (s.getDefinition rdName).map (·.volumeDefinitions)=some vds)
    (hcandidates : Exec Step (candidatePools lib filter' (requiredKib vds)) s
      (.ok (candidates,gates)) s) (hne : candidates≠[])
    (h : Exec Step (placeAmong lib rdName filter' (requiredKib vds) gates candidates) s
      (.ok placement) t) :
    Exec Step (place lib rdName filter) s (.ok placement) t := by
  obtain ⟨plan,u,hplan,hexecute⟩ := exec_bind_ok.mp h
  have hread : serve s (.listVolumeDefinitions rdName)=(.ok vds,s) := by
    simp only [serve,hvds,found]
  have hbuild : Exec Step (buildPlan lib rdName filter') s
      (.ok ⟨requiredKib vds,gates.maxFreeBelow,gates.oversubBest,some plan⟩) u := by
    refine exec_wrapped_ok hread (exec_bind_ok.mpr ⟨_,_,hcandidates,?_⟩)
    dsimp only
    rw [if_neg fun h => hne h.2]
    exact exec_bind_ok.mpr ⟨plan,u,hplan,.done _ _⟩
  refine exec_bind_ok.mpr ⟨_,_,hfilter,exec_bind_ok.mpr ⟨_,u,
    exec_attempt.mpr ⟨_,hbuild,rfl⟩,hexecute⟩⟩

theorem constrain_serve (hrd : s.getDefinition rdName=some rd)
    (hcut : Text.cut ':' (rd.props.get restoreFromSnapshotProp)=none) :
    Exec Step (constrainFilterToRestoreSource rdName filter) s (.ok filter) s := by
  have hread : serve s (.getDefinition rdName)=(.ok rd,s) := by simp only [serve,hrd,found]
  refine exec_ask_ok hread ?_
  dsimp only
  rw [hcut]
  exact .done _ _

theorem plannedPools_plain (candidates : List StoragePool)
    (hsame : st.filter.replicasOnSame=[]) (hdiff : st.filter.replicasOnDifferent=[]) :
    plannedPools st candidates=(st,candidates,[]) := by
  simp [plannedPools,hsame,hdiff,filterSamePinned,partitionByExclusion]

section Put

variable {p : StoragePool} {st st' : PlaceState}

theorem tryPlace_creates (hadmits : st.admits p=true) (hup : p.nodeName∉st.upgradeable)
    (hfree : ∀r∈s.resources,r.key≠(newReplica rdName p).key) :
    Exec Step (st.tryPlace rdName p) s (.ok (some (st.occupy p)))
      {s with resources := s.resources.insert (newReplica rdName p) hfree} := by
  unfold tryPlace
  rw [hadmits,Bool.not_true,if_neg Bool.false_ne_true,if_neg (by simpa using hup)]
  refine exec_bind.mpr (.inr ⟨(),_,?_,.done _ _⟩)
  refine exec_ask.mpr ⟨.ok (),_,.inl ⟨?_,?_⟩,.done _ _⟩
  · simp only [serve]
    split
    · rename_i r hget
      obtain ⟨hr,hkey⟩ := (s.resources.get?_eq_some _ _).mp hget
      exact absurd hkey (hfree r hr)
    · rfl
  · simp only [serve]
    split
    · rename_i r hget
      obtain ⟨hr,hkey⟩ := (s.resources.get?_eq_some _ _).mp hget
      exact absurd hkey (hfree r hr)
    · rfl

theorem tryPlace_promotes (hadmits : st.admits p=true) (hup : p.nodeName∈st.upgradeable)
    {w : Resource} (hw : s.resources.get? (resourceCRDName rdName p.nodeName)=some w) :
    Exec Step (st.tryPlace rdName p) s (.ok (some (st.occupy p)))
      {s with
        resources := s.resources.modify (resourceCRDName rdName p.nodeName)
          (·.withSpec (promote p)) (Resource.key_withSpec _)} := by
  unfold tryPlace
  rw [hadmits,Bool.not_true,if_neg Bool.false_ne_true,if_pos (by simpa using hup)]
  refine exec_bind.mpr (.inr ⟨(),_,?_,.done _ _⟩)
  refine exec_ask.mpr ⟨.ok (),_,.inl ⟨?_,?_⟩,.done _ _⟩
  · simp only [serve,hw]
  · simp only [serve,hw]

theorem placeDiskful_one {placed want : Int} (hmore : placed<want)
    (h : Exec Step (st.tryPlace rdName p) s (.ok (some st')) t) :
    Exec Step (placeDiskful rdName st [p] placed want) s (.ok (placed+1,st',none)) t := by
  unfold placeDiskful
  rw [if_neg (by omega)]
  exact exec_bind.mpr (.inr ⟨.ok (some st'),_,exec_attempt.mpr
    ⟨.ok (some st'),h,rfl⟩,.done _ _⟩)

end Put

theorem executePlan_first {gated : GatedPlan} {plan : PlacePlan} {placed : Int}
    (h : Exec Step (placeDiskful rdName plan.state plan.preferred
      (countDiskfulReplicas plan.existing plan.disabled) filter.placeCount) s
      (.ok (placed,st,none)) t)
    (hlast : plan.lastResort=[]) (hdiskless : filter.disklessOnRemaining=false) :
    Exec Step (executePlan rdName filter gated plan) s
      (.ok (shortfall placed filter.placeCount gated)) t := by
  refine exec_bind.mpr (.inr ⟨_,_,h,?_⟩)
  dsimp only
  rw [if_neg (by simp),hlast]
  refine exec_bind.mpr (.inr ⟨_,_,.done _ _,?_⟩)
  dsimp only
  rw [if_neg (by simp),if_neg (by simp [hdiskless])]
  exact .done _ _

structure AutoSelectFilter.Plain (filter : AutoSelectFilter) : Prop where
  same : filter.replicasOnSame=[]
  different : filter.replicasOnDifferent=[]
  notPlaceWith : filter.notPlaceWithRsc=[]
  notPlaceWithRegex : filter.notPlaceWithRscRegex=""

theorem assemblePlan_serve (hnone : filter.notPlaceWithRsc=[] ∧ filter.notPlaceWithRscRegex="")
    (hpools : plannedPools (startState s rdName filter) candidates=(st,preferred,[])) :
    Exec Step (assemblePlan lib rdName filter candidates) s
      (.ok ⟨st,preferred,[],s.listByDefinition rdName,disabledNodes s.listNodes⟩) s := by
  have hcandidates : Exec Step (applyNotPlaceWith lib rdName filter candidates) s
      (.ok candidates) s := by
    unfold applyNotPlaceWith
    rw [if_pos hnone]
    exact .done _ _
  refine exec_wrapped_ok rfl (exec_wrapped_ok rfl (exec_wrapped_ok rfl (exec_wrapped_ok rfl
    (exec_wrapped_ok rfl (exec_bind_ok.mpr ⟨candidates,s,hcandidates,
      exec_pure.mpr ⟨?_,rfl⟩⟩)))))
  exact congrArg (fun y => Except.ok (PlacePlan.mk y.1 y.2.1 y.2.2 _ _)) hpools.symm

theorem place_served {p : StoragePool} {placed : Int} (hrd : s.getDefinition rdName=some rd)
    (hcut : Text.cut ':' (rd.props.get restoreFromSnapshotProp)=none)
    (hnone : filter.notPlaceWithRsc=[] ∧ filter.notPlaceWithRscRegex="")
    (hgates : gatedPools lib s filter (requiredKib rd.volumeDefinitions)=([p],gates))
    (hpools : plannedPools (startState s rdName filter) [p]=(st,[p],[]))
    (hdiskless : filter.disklessOnRemaining=false)
    (h : Exec Step (placeDiskful rdName st [p] (countDiskfulReplicas (s.listByDefinition rdName)
      (disabledNodes s.listNodes)) filter.placeCount) s (.ok (placed,st',none)) t) :
    ∃gated,gated.maxFreeKib=gates.maxFreeBelow ∧ gated.oversubShortfall=gates.oversubBest ∧
      Exec Step (place lib rdName filter) s (.ok (shortfall placed filter.placeCount gated)) t := by
  have hcandidates : Exec Step (candidatePools lib filter (requiredKib rd.volumeDefinitions)) s
      (.ok ([p],gates)) s := by
    obtain ⟨candidates,hperm,hexec⟩ := candidatePools_serve lib s filter
      (requiredKib rd.volumeDefinitions)
    rw [hgates] at hperm hexec
    rw [perm_singleton.mp hperm] at hexec
    exact hexec
  exact ⟨_,rfl,rfl,exec_placeAmong (constrain_serve hrd hcut) (by rw [hrd,Option.map_some]) hcandidates
    (cons_ne_nil _ _) (exec_bind_ok.mpr ⟨_,_,assemblePlan_serve hnone hpools,
      executePlan_first h rfl hdiskless⟩)⟩

theorem place_onePool {p : StoragePool} (hrd : s.getDefinition rdName=some rd)
    (hcut : Text.cut ':' (rd.props.get restoreFromSnapshotProp)=none) (hplain : filter.Plain)
    (hgates : gatedPools lib s filter (requiredKib rd.volumeDefinitions)=([p],gates))
    (hadmits : (startState s rdName filter).admits p=true)
    (hup : p.nodeName∉(startState s rdName filter).upgradeable)
    (hmore : countDiskfulReplicas (s.listByDefinition rdName) (disabledNodes s.listNodes) <
      filter.placeCount) (hfree : ∀r∈s.resources,r.key≠(newReplica rdName p).key)
    (hdiskless : filter.disklessOnRemaining=false) :
    ∃placement,Exec Step (place lib rdName filter) s (.ok placement)
      {s with resources := s.resources.insert (newReplica rdName p) hfree} := by
  have hfilter : (startState s rdName filter).filter=filter := newState_fields.2
  have hpools := @plannedPools_plain (startState s rdName filter) [p]
    (by rw [hfilter]; exact hplain.same) (by rw [hfilter]; exact hplain.different)
  obtain ⟨_,_,_,h⟩ := place_served hrd hcut ⟨hplain.notPlaceWith,hplain.notPlaceWithRegex⟩ hgates
    hpools hdiskless (placeDiskful_one hmore (tryPlace_creates hadmits hup hfree))
  exact ⟨_,h⟩

end Serve

end Blockstor.Placer
