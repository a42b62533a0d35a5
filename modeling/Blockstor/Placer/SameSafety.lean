import Blockstor.Placer.KindMixing

namespace Blockstor.Placer

open Framework Shell PlaceState List

variable {lib : Lib} {s t : State} {rdName : String} {filter : AutoSelectFilter}
  {p : StoragePool} {x y : PlaceState × State} {ps : List StoragePool} {keys : List String}

section Tuple

variable {props tuple : Props} {key k : String}

theorem Props.get_set_ne (value : String) (h : k≠key) :
    (props.set key value).get k=props.get k := by
  have hrest : (props.filter fun x => x.1≠key).lookup k=props.lookup k := by
    induction props with
    | nil => rfl
    | cons a props ih =>
      by_cases ha : a.1=key
      · rw [filter_cons_of_neg (by simpa using ha),ih,lookup_cons,ha,
          beq_eq_false_iff_ne.mpr h]
      · rw [filter_cons_of_pos (by simpa using ha),lookup_cons,lookup_cons,ih]
  unfold Props.get Props.set
  rw [lookup_cons,beq_eq_false_iff_ne.mpr h]
  exact congrArg (·.getD "") hrest

theorem matchesTuple_iff : matchesTuple props keys (some tuple)=true ↔
    ∀spec∈keys,auxValue props (parseSameSpec spec).1=tuple.get (auxKey (parseSameSpec spec).1) := by
  simp [matchesTuple]

theorem mem_bareKeys (h : k∈bareKeys keys) : k∈keys ∧ (parseSameSpec k).1=k := by
  obtain ⟨hmem,hbare⟩ := mem_filter.mp h
  refine ⟨hmem,?_⟩
  unfold parseSameSpec parseDiffSpec at *
  split at hbare
  · rfl
  · cases hbare

theorem auxValue_bare (hk : k∈bareKeys keys)
    (h : matchesTuple props keys (some tuple)=true) : auxValue props k=tuple.get (auxKey k) := by
  obtain ⟨hmem,hkey⟩ := mem_bareKeys hk
  have hvalue := matchesTuple_iff.mp h k hmem
  rw [hkey] at hvalue
  exact hvalue

def setOwn (props out : Props) (spec : String) : Props :=
  out.set (auxKey (parseSameSpec spec).1) (auxValue props (parseSameSpec spec).1)

theorem lookupKeys_own (h : matchesAllSamePins props keys=true) :
    lookupKeys props keys=keys.foldl (setOwn props) [] := by
  refine foldl_ext _ _ _ fun out spec hspec => ?_
  have hpin := all_eq_true.mp h spec hspec
  unfold setOwn
  rcases hparse : parseSameSpec spec with ⟨key,_|value⟩
  · rfl
  · simp only [hparse,decide_eq_true_eq] at hpin
    dsimp only
    rw [hpin]

theorem get_setOwn (out : Props) (spec : String) (h : out.get (auxKey key)=auxValue props key) :
    (setOwn props out spec).get (auxKey key)=auxValue props key := by
  unfold setOwn
  by_cases heq : auxKey key=auxKey (parseSameSpec spec).1
  · unfold auxValue
    rw [heq,Props.get_set]
  · rw [Props.get_set_ne _ heq]
    exact h

theorem get_foldl_setOwn (ks : List String) (out : Props)
    (h : out.get (auxKey key)=auxValue props key) :
    (ks.foldl (setOwn props) out).get (auxKey key)=auxValue props key := by
  induction ks generalizing out with
  | nil => exact h
  | cons spec ks ih => exact ih _ (get_setOwn out spec h)

theorem matchesTuple_lookupKeys (h : matchesAllSamePins props keys=true) :
    matchesTuple props keys (some (lookupKeys props keys))=true := by
  rw [matchesTuple_iff,lookupKeys_own h]
  intro spec hspec
  obtain ⟨before,after,rfl⟩ := append_of_mem hspec
  rw [foldl_append,foldl_cons]
  exact (get_foldl_setOwn after _ (Props.get_set _ _ _)).symm

end Tuple

section Follows

variable {st : PlaceState}

def State.HasDisk (s : State) (rdName : String) (r : Resource) : Prop :=
  r∈s.resources ∧ r.name=rdName ∧ r.diskful=true

def Together (s : State) (keys : List String) (n n' : String) : Prop :=
  ∀k∈bareKeys keys,auxValue (s.nodeProps n) k=auxValue (s.nodeProps n') k

def DisksAgree (s : State) (rdName : String) (keys : List String) : Prop :=
  ∀r r',s.HasDisk rdName r → s.HasDisk rdName r' → Together s keys r.nodeName r'.nodeName

structure Follows (s : State) (rdName : String) (keys : List String) (t : State) : Prop where
  data : DisksAgree s rdName keys → ∀r,t.HasDisk rdName r → r∉s.resources →
    ∀old,s.HasDisk rdName old → Together s keys r.nodeName old.nodeName
  first : (∀old,¬s.HasDisk rdName old) → ∀r r',t.HasDisk rdName r → r∉s.resources →
    t.HasDisk rdName r' → r'∉s.resources → Together s keys r.nodeName r'.nodeName

/-- A replica with a disk can be put on the node: it is enabled, has no disk of the definition, and
what is stored under the replica's name, if anything, is the definition's replica there. -/
structure Open (s : State) (rdName node : String) : Prop where
  enabled : node∉autoplaceExcludedNodes s.listNodes (disabledNodes s.listNodes)
  free : ∀r,s.HasDisk rdName r → r.nodeName≠node
  own : ∀r∈s.resources,r.key=resourceCRDName rdName node → r.name=rdName ∧ r.nodeName=node

/-- Where the disks agree, they are on nodes with the values of every open node that has those of
the replica that is listed first. -/
def Leads (s : State) (rdName : String) (keys : List String) : Prop :=
  DisksAgree s rdName keys →
    ∀tuple,topologyTuple (s.listByDefinition rdName) s.nodeProps keys=some tuple →
    ∀node,Open s rdName node → matchesAllSamePins (s.nodeProps node) keys=true →
      matchesTuple (s.nodeProps node) keys (some tuple)=true →
      ∀old,s.HasDisk rdName old → Together s keys node old.nodeName

/-- What holds of the replicas that were placed so far: they have the values in force, and each took
a free place or that of the definition's replica on its node. -/
structure Shares (s : State) (rdName : String) (filter : AutoSelectFilter) (start : Option Props)
    (x : PlaceState × State) : Prop where
  tracks : Tracks s rdName filter x
  start : ∀tuple,start=some tuple → x.1.sameTuple=some tuple
  joined : ∀r∈x.2.resources,r.diskful=true → r∉s.resources → ∃tuple,x.1.sameTuple=some tuple ∧
    matchesTuple (s.nodeProps r.nodeName) filter.replicasOnSame (some tuple)=true
  kept : ∀r∈s.resources,r∈x.2.resources ∨ ∃r'∈x.2.resources,r'.key=r.key ∧ r'.diskful=true
  own : ∀r∈x.2.resources,r∉s.resources → ∀b∈s.resources,b.key=r.key →
    b.name=rdName ∧ b.nodeName=r.nodeName

theorem occupy_sameTuple {tuple : Props} (h : st.sameTuple=some tuple) :
    (st.occupy p).sameTuple=some tuple := by
  unfold occupy notePool
  simp [h]

theorem occupy_first (h : st.sameTuple=none) (hkeys : st.filter.replicasOnSame≠[]) :
    (st.occupy p).sameTuple=
      some (lookupKeys (st.nodeProps p.nodeName) st.filter.replicasOnSame) := by
  unfold occupy notePool
  simp [h,hkeys]

variable {start : Option Props}

theorem Shares.admitted (h : Shares s rdName filter start x) (hkeys : filter.replicasOnSame≠[])
    (hp : Eligible lib s rdName filter p) (hadmits : x.1.admits p=true) :
    ∃tuple,(x.1.occupy p).sameTuple=some tuple ∧
      matchesTuple (s.nodeProps p.nodeName) filter.replicasOnSame (some tuple)=true := by
  have hmatch := (admits_iff.mp hadmits).2.1
  rw [h.tracks.nodeProps,h.tracks.sameFilter] at hmatch
  cases htuple : x.1.sameTuple with
  | none =>
    refine ⟨_,occupy_first htuple (by rw [h.tracks.sameFilter]; exact hkeys),?_⟩
    rw [h.tracks.nodeProps,h.tracks.sameFilter]
    exact matchesTuple_lookupKeys hp.pins
  | some tuple =>
    rw [htuple] at hmatch
    exact ⟨tuple,occupy_sameTuple htuple,hmatch⟩

theorem Shares.step (h : Shares s rdName filter start x) (hkeys : filter.replicasOnSame≠[])
    (hp : Eligible lib s rdName filter p) (hplaces : Places rdName x p y) :
    Shares s rdName filter start y := by
  have htracks := h.tracks.step hp.mem hplaces
  obtain ⟨tuple,htuple,hmatch⟩ := h.admitted hkeys hp hplaces.1
  rw [← hplaces.2.1] at htuple
  have hstart : ∀tuple,start=some tuple → y.1.sameTuple=some tuple := by
    intro tuple htuple
    rw [hplaces.2.1]
    exact occupy_sameTuple (h.start tuple htuple)
  have hjoined : ∀r∈x.2.resources,r.diskful=true → r∉s.resources → ∃tuple,
      y.1.sameTuple=some tuple ∧
        matchesTuple (s.nodeProps r.nodeName) filter.replicasOnSame (some tuple)=true := by
    intro r hr hd hnew
    obtain ⟨tuple,htuple,hmatch⟩ := h.joined r hr hd hnew
    rw [hplaces.2.1]
    exact ⟨tuple,occupy_sameTuple htuple,hmatch⟩
  rcases h.tracks.cases hplaces with hsame|⟨r₀,hr₀⟩
  · refine ⟨htracks,hstart,?_,?_,?_⟩
    · rw [hsame]
      exact hjoined
    · rw [hsame]
      exact h.kept
    · rw [hsame]
      exact h.own
  · refine ⟨htracks,hstart,fun r hr hd hnew => ?_,fun r hr => ?_,fun r hr hnew b hb hkey => ?_⟩
    · rcases (hr₀.mem r).mp hr with rfl|⟨hr,_⟩
      · rw [hr₀.node]
        exact ⟨tuple,htuple,hmatch⟩
      · exact hjoined r hr hd hnew
    · have hput : r₀∈y.2.resources := (hr₀.mem r₀).mpr (.inl rfl)
      rcases h.kept r hr with hold|⟨r',hr',hkey,hd⟩
      · by_cases heq : r.key=r₀.key
        · exact .inr ⟨r₀,hput,heq.symm,hr₀.diskful⟩
        · exact .inl ((hr₀.mem r).mpr (.inr ⟨hold,heq⟩))
      · refine .inr ⟨r',(hr₀.mem r').mpr (.inr ⟨hr',fun heq => ?_⟩),hkey,hd⟩
        rw [(hr₀.witness r' hr' heq).2.2] at hd
        cases hd
    · rcases (hr₀.mem r).mp hr with rfl|⟨hr,_⟩
      · rw [hr₀.node]
        rcases h.kept b hb with hold|⟨r',hr',hkey',hd⟩
        · exact ⟨(hr₀.witness b hold hkey).1,(hr₀.witness b hold hkey).2.1⟩
        · rw [(hr₀.witness r' hr' (hkey'.trans hkey)).2.2] at hd
          cases hd
      · exact h.own r hr hnew b hb hkey

theorem Shares.run (h : Shares s rdName filter start x) (hkeys : filter.replicasOnSame≠[])
    (hrun : Run (Places rdName) x ps y) (hps : ∀p∈ps,Eligible lib s rdName filter p) :
    Shares s rdName filter start y :=
  hrun.invariant_of (Eligible lib s rdName filter) _ hps
    (fun _ _ _ hp hx hstep => hx.step hkeys hp hstep) h

theorem Started.shares (h : Started s rdName filter st) :
    Shares s rdName filter st.sameTuple (st,s) :=
  ⟨h.tracks,fun _ h => h,fun _ hr _ hnew => absurd hr hnew,fun _ hr => .inl hr,
    fun _ hr hnew => absurd hr hnew⟩

end Follows

section Reference

variable {tuple : Props}

theorem Assembled.sameTuple {st : PlaceState} (h : Assembled s rdName filter st)
    (htuple : topologyTuple (s.listByDefinition rdName) s.nodeProps filter.replicasOnSame=
      some tuple) : st.sameTuple=some tuple := by
  obtain ⟨candidates,rfl⟩ := h
  have hstart : (startState s rdName filter).sameTuple=some tuple := by
    unfold startState newState
    rw [foldl_seed_eq]
    exact htuple
  simp [plannedPools,hstart]

theorem Restored.sameKeys {filter' : AutoSelectFilter} (h : Restored s rdName filter filter') :
    filter'.replicasOnSame=filter.replicasOnSame := by
  rcases h with rfl|⟨_,_,_,_,_,_,_,rfl⟩
  · rfl
  · rfl

theorem together_of_matches {n n' : String}
    (h : matchesTuple (s.nodeProps n) keys (some tuple)=true)
    (h' : matchesTuple (s.nodeProps n') keys (some tuple)=true) : Together s keys n n' :=
  fun _ hk => (auxValue_bare hk h).trans (auxValue_bare hk h').symm

theorem topologyTuple_some {r : Resource} (hr : r∈s.listByDefinition rdName) (hkeys : keys≠[]) :
    ∃tuple,topologyTuple (s.listByDefinition rdName) s.nodeProps keys=some tuple := by
  unfold topologyTuple
  rw [if_neg hkeys]
  cases hlist : s.listByDefinition rdName with
  | nil =>
    rw [hlist] at hr
    cases hr
  | cons a as => exact ⟨_,rfl⟩

theorem place_follows {r : Except Err Placement} (hleads : Leads s rdName filter.replicasOnSame)
    (h : Exec Step (place lib rdName filter) s r t) :
    Follows s rdName filter.replicasOnSame t := by
  obtain ⟨filter',hfilter,rfl|⟨gated,plan,hbuild,hsome,hexec⟩⟩ := exec_place_plan h
  · exact ⟨fun _ r hr hnew => absurd hr.1 hnew,fun _ r _ hr hnew => absurd hr.1 hnew⟩
  · rw [← hfilter.sameKeys] at hleads ⊢
    by_cases hkeys : filter'.replicasOnSame=[]
    · rw [hkeys]
      exact ⟨fun _ _ _ _ _ _ k hk => absurd hk not_mem_nil,
        fun _ _ _ _ _ _ _ k hk => absurd hk not_mem_nil⟩
    obtain ⟨hplan,hassembled⟩ := (yields_buildPlan _ _ hbuild).2 gated rfl plan hsome
    obtain ⟨ps₁,ps₂,u,hfilled⟩ := hplan.filled hexec
    obtain ⟨st,hrun⟩ := hfilled.run
    have hshares := hfilled.started.shares.run hkeys hrun hfilled.eligible
    have hjoined : ∀r,t.HasDisk rdName r → r∉s.resources → ∃tuple,st.sameTuple=some tuple ∧
        matchesTuple (s.nodeProps r.nodeName) filter'.replicasOnSame (some tuple)=true :=
      fun r hr hnew => hshares.joined r (hfilled.diskful hr.1 hr.2.2) hr.2.2 hnew
    refine ⟨fun hagree r hr hnew old hold => ?_,fun _ r r' hr hnew hr' hnew' => ?_⟩
    · obtain ⟨tuple,htuple⟩ := topologyTuple_some
        ((s.mem_listByDefinition _ _).mpr ⟨hold.1,hold.2.1⟩) hkeys
      have hstart := hshares.start tuple (hassembled.sameTuple htuple)
      obtain ⟨tuple',htuple',hmatch⟩ := hjoined r hr hnew
      obtain rfl : tuple=tuple' := Option.some.inj (hstart.symm.trans htuple')
      have hconstrained := hfilled.constrained hr.1 hr.2.2 hnew
      refine hleads hagree tuple htuple r.nodeName ⟨?_,fun a ha => hconstrained.free a ha.1 ha.2.1 ha.2.2,
        fun b hb hkey => ?_⟩ hconstrained.pins hmatch old hold
      · obtain ⟨q,_,hnode,_,hmatches,_⟩ := hconstrained.pool
        rw [← hnode]
        intro hexcluded
        simp [matchesPoolFilter,hexcluded] at hmatches
      · refine hshares.own r (hfilled.diskful hr.1 hr.2.2) hnew b hb (hkey.trans ?_)
        unfold Resource.key
        rw [hr.2.1]
    · obtain ⟨tuple,htuple,hmatch⟩ := hjoined r hr hnew
      obtain ⟨tuple',htuple',hmatch'⟩ := hjoined r' hr' hnew'
      obtain rfl : tuple=tuple' := Option.some.inj (htuple.symm.trans htuple')
      exact together_of_matches hmatch hmatch'

end Reference

section Offer

def offer (s : State) (rdName node : String) : State where
  nodes := s.nodes
  pools := ⟨[poolOn node ""],nodup_singleton _⟩
  resources := s.resources
  definitions := ⟨[⟨rdName,"",[],none,[]⟩],nodup_singleton _⟩
  groups := ⟨[],nodup_nil⟩
  controllerProps := []

def oneMore (s : State) (rdName : String) (keys : List String) : AutoSelectFilter :=
  {AutoSelectFilter.empty with
    placeCount := countDiskfulReplicas (s.listByDefinition rdName) (disabledNodes s.listNodes)+1
    replicasOnSame := keys}

variable {node : String} {tuple : Props}

theorem gates_offer (h : node∉autoplaceExcludedNodes s.listNodes (disabledNodes s.listNodes)) :
    gatedPools lib (offer s rdName node) (oneMore s rdName keys) 0=([poolOn node ""],.empty) := by
  have hpools : (offer s rdName node).listPools=[poolOn node ""] := rfl
  have hnodes : (offer s rdName node).listNodes=s.listNodes := rfl
  unfold gatedPools
  rw [hpools,hnodes]
  simp [applyCapacityAndOversubGates,applyGate,matchesPoolFilter,oneMore,AutoSelectFilter.empty,
    poolOn,h,storagePoolKindDiskless]

def offered (s : State) (rdName node : String) (keys : List String) : PlaceState :=
  startState (offer s rdName node) rdName (oneMore s rdName keys)

theorem offered_fields : (offered s rdName node keys).nodes=s.listNodes ∧
    (offered s rdName node keys).filter=oneMore s rdName keys ∧
    (offered s rdName node keys).sameTuple=
      topologyTuple (s.listByDefinition rdName) s.nodeProps keys := by
  unfold offered startState newState
  rw [foldl_seed_eq]
  exact ⟨rfl,rfl,rfl⟩

theorem mem_offered_taken {n : String} : n∈(offered s rdName node keys).taken ↔
    ∃r,s.HasDisk rdName r ∧ r.nodeName=n := by
  unfold offered startState newState
  rw [foldl_seed_eq]
  simp only [append_nil,mem_reverse,mem_map,mem_filter]
  refine exists_congr fun r => and_congr_left fun _ => ?_
  exact (and_congr_left fun _ => s.mem_listByDefinition _ r).trans and_assoc

theorem mem_offered_upgradeable {n : String} : n∈(offered s rdName node keys).upgradeable ↔
    ∃r∈s.resources,r.name=rdName ∧ r.diskful=false ∧ r.nodeName=n := by
  unfold offered startState newState
  rw [foldl_seed_eq]
  simp only [append_nil,mem_reverse,mem_map,mem_filter,Bool.not_eq_true']
  refine exists_congr fun r => ?_
  rw [show r∈(offer s rdName node).listByDefinition rdName ↔ _ from s.mem_listByDefinition _ r]
  simp only [and_assoc]

theorem firstKind_offered : (offered s rdName node keys).firstKind="" := by
  have hkinds : ∀r,seededKind (offer s rdName node).listPools r="" := by
    intro r
    unfold seededKind
    cases hpool : seededPool (offer s rdName node).listPools r with
    | none => rfl
    | some q =>
      unfold seededPool at hpool
      split at hpool
      · cases hpool
      · rw [mem_singleton.mp (mem_of_find?_eq_some hpool)]
        rfl
  unfold offered startState newState
  rw [foldl_seed_eq]
  dsimp only
  rw [find?_eq_none.mpr]
  · rfl
  · intro kind hkind
    rcases mem_cons.mp hkind with rfl|hkind
    · simp
    · obtain ⟨r,_,rfl⟩ := mem_map.mp hkind
      simp [hkinds r]

theorem admits_offered (hopen : Open s rdName node)
    (htuple : topologyTuple (s.listByDefinition rdName) s.nodeProps keys=some tuple)
    (hmatch : matchesTuple (s.nodeProps node) keys (some tuple)=true) :
    (offered s rdName node keys).admits (poolOn node "")=true := by
  obtain ⟨hnodes,hfilter,hsame⟩ := @offered_fields s rdName keys node
  rw [admits_iff,hfilter,hsame,htuple,nodeProps,hnodes]
  refine ⟨fun htaken => ?_,hmatch,fun k hk => (not_mem_nil hk).elim,
    fun cap hcap => (not_mem_nil hcap).elim,fun hshared => absurd rfl hshared,?_⟩
  · obtain ⟨r,hr,hnode⟩ := mem_offered_taken.mp htaken
    exact hopen.free r hr hnode
  · unfold allowsKindMix
    rw [firstKind_offered]
    rfl

theorem plannedPools_offered
    (htuple : topologyTuple (s.listByDefinition rdName) s.nodeProps keys=some tuple)
    (hpins : matchesAllSamePins (s.nodeProps node) keys=true) :
    plannedPools (offered s rdName node keys) [poolOn node ""]=
      (offered s rdName node keys,[poolOn node ""],[]) := by
  obtain ⟨hnodes,hfilter,hsame⟩ := @offered_fields s rdName keys node
  have hpinned : filterSamePinned [poolOn node ""] (offered s rdName node keys).nodeProps keys=
      [poolOn node ""] := by
    unfold filterSamePinned
    split
    · refine filter_cons_of_pos ?_
      rw [nodeProps,hnodes]
      exact hpins
    · rfl
  have hfixed : ¬((offered s rdName node keys).sameTuple=none ∧ keys≠[]) := by
    rw [hsame,htuple]
    exact fun h => Option.some_ne_none _ h.1
  have hkeys : (offered s rdName node keys).filter.replicasOnSame=keys := by rw [hfilter]; rfl
  have hdiff : (offered s rdName node keys).filter.replicasOnDifferent=[] := by rw [hfilter]; rfl
  unfold plannedPools
  rw [hkeys,hdiff,hpinned]
  simp only [if_neg hfixed]
  rfl

theorem place_offer (lib : Lib) (hopen : Open s rdName node)
    (htuple : topologyTuple (s.listByDefinition rdName) s.nodeProps keys=some tuple)
    (hpins : matchesAllSamePins (s.nodeProps node) keys=true)
    (hmatch : matchesTuple (s.nodeProps node) keys (some tuple)=true) :
    ∃placement t,Exec Step (place lib rdName (oneMore s rdName keys)) (offer s rdName node)
      (.ok placement) t ∧ ∃r,t.HasDisk rdName r ∧ r∉s.resources ∧ r.nodeName=node := by
  have hadmits := admits_offered hopen htuple hmatch
  have hrd : (offer s rdName node).getDefinition rdName=some ⟨rdName,"",[],none,[]⟩ := by
    simp [State.getDefinition,offer,Keyed.get?,ResourceDefinition.key]
  have hmore : (countDiskfulReplicas ((offer s rdName node).listByDefinition rdName)
      (disabledNodes (offer s rdName node).listNodes) : Int)<(oneMore s rdName keys).placeCount :=
    Int.lt_succ _
  have hplace : ∀t,Exec Step ((offered s rdName node keys).tryPlace rdName (poolOn node ""))
      (offer s rdName node) (.ok (some ((offered s rdName node keys).occupy (poolOn node "")))) t →
      ∃placement,Exec Step (place lib rdName (oneMore s rdName keys)) (offer s rdName node)
        (.ok placement) t := by
    intro t htry
    obtain ⟨_,_,_,h⟩ := place_served hrd rfl ⟨rfl,rfl⟩ (gates_offer hopen.enabled)
      (plannedPools_offered htuple hpins) rfl (placeDiskful_one hmore htry)
    exact ⟨_,h⟩
  by_cases hstored : ∃w∈s.resources,w.key=resourceCRDName rdName node
  · -- the definition's replica there has no disk yet, and is promoted
    obtain ⟨w,hw,hkey⟩ := hstored
    obtain ⟨hname,hnode⟩ := hopen.own w hw hkey
    have hdiskless : w.diskful=false := by
      rw [← Bool.not_eq_true]
      exact fun hd => hopen.free w ⟨hw,hname,hd⟩ hnode
    obtain ⟨placement,hexec⟩ := hplace _ (tryPlace_promotes hadmits
      (mem_offered_upgradeable.mpr ⟨w,hw,hname,hdiskless,hnode⟩)
      (show (offer s rdName node).resources.get? (resourceCRDName rdName (poolOn node "").nodeName)=
        some w from (s.resources.get?_eq_some _ _).mpr ⟨hw,hkey⟩))
    refine ⟨placement,_,hexec,w.withSpec (promote (poolOn node "")),⟨?_,hname,promote_diskful _ w⟩,
      fun hold => ?_,hnode⟩
    · exact (s.resources.mem_modify _ _ (Resource.key_withSpec _) _).mpr (.inl ⟨w,hw,hkey,rfl⟩)
    · have hsame := s.resources.eq_of_key hold hw rfl
      have hd := promote_diskful (poolOn node "") w
      rw [hsame,hdiskless] at hd
      cases hd
  · have hfree : ∀r∈s.resources,r.key≠(newReplica rdName (poolOn node "")).key :=
      fun r hr hkey => hstored ⟨r,hr,hkey⟩
    have hup : node∉(offered s rdName node keys).upgradeable := by
      intro hup
      obtain ⟨w,hw,hname,_,hnode⟩ := mem_offered_upgradeable.mp hup
      refine hstored ⟨w,hw,?_⟩
      unfold Resource.key
      rw [hname,hnode]
    obtain ⟨placement,hexec⟩ := hplace _ (tryPlace_creates hadmits hup
      (show ∀r∈(offer s rdName node).resources,_ from hfree))
    exact ⟨placement,_,hexec,newReplica rdName (poolOn node ""),
      ⟨(s.resources.mem_insert _ hfree _).mpr (.inr rfl),rfl,rfl⟩,
      fun hold => hfree _ hold rfl,rfl⟩

end Offer

/-- A diskless replica is listed first and is in another zone than the only disk; a third node is in
the zone of the diskless one. -/
def astray : State where
  nodes := ⟨[⟨"a",[],[("Aux/zone","east")]⟩,⟨"b",[],[("Aux/zone","west")]⟩,
    ⟨"c",[],[("Aux/zone","east")]⟩],by decide⟩
  pools := .empty
  resources := ⟨[disklessReplica "pvc-1" "a",replicaOn "b"],by decide⟩
  definitions := .empty
  groups := .empty
  controllerProps := []

theorem disk_astray {r : Resource} (h : astray.HasDisk "pvc-1" r) : r=replicaOn "b" := by
  have hall : ∀r∈[disklessReplica "pvc-1" "a",replicaOn "b"],r.diskful=true → r=replicaOn "b" := by
    decide
  exact hall r h.1 h.2.2

end Blockstor.Placer
