import Blockstor.Placer.PlaceSpec

namespace Blockstor.Placer

open Framework Shell List

namespace State

def nodeProps (s : State) (node : String) : Props := nodesByName s.listNodes node

def poolOf (s : State) (r : Resource) : Option StoragePool :=
  if r.props.get storPoolNameProp="" then none
  else s.pools.get? (poolKey r.nodeName (r.props.get storPoolNameProp))

def bucketCount (s : State) (rdName key bucket : String) (t : State) : Nat :=
  t.resources.items.countP fun r => r.name=rdName && r.diskful &&
    xBucketKey key (s.nodeProps r.nodeName)=bucket

end State

variable {lib : Lib} {s t u : State} {rdName : String} {filter : AutoSelectFilter}
  {p : StoragePool} {x y : PlaceState × State}

structure Tracks (s : State) (rdName : String) (filter : AutoSelectFilter)
    (x : PlaceState × State) : Prop where
  rest : SameRest s x.2
  nodes : x.1.nodes=s.listNodes
  sameFilter : x.1.filter=filter
  taken : ∀r∈x.2.resources,r.name=rdName → r.diskful=true → r.nodeName∈x.1.taken
  different : ∀r∈x.2.resources,r.name=rdName → r.diskful=true →
    ∀k∈bareKeys filter.replicasOnDifferent,seenKey k (s.nodeProps r.nodeName)∈x.1.diffSeen
  buckets : ∀cap∈filter.xReplicasOnDifferentMap,∀b,
    s.bucketCount rdName cap.1 b x.2 ≤ x.1.xBuckets.count b
  shared : ∀r∈x.2.resources,r.name=rdName → r.diskful=true → ∀q,s.poolOf r=some q →
    q.sharedSpaceID≠"" → q.sharedSpaceID∈x.1.sharedSeen
  witness : ∀n∈x.1.upgradeable,∃w∈x.2.resources,w.name=rdName ∧ w.nodeName=n ∧ w.diskful=false
  kept : ∀r∈s.resources,r.name≠rdName ∨ r.diskful=true → r∈x.2.resources
  others : ∀r∈x.2.resources,r.name≠rdName → r∈s.resources

/-- A replica `r` was put into a pool: it takes the place of a witness, if there was one. -/
structure PutInto (rdName : String) (p : StoragePool) (s : State) (r : Resource) (t : State) :
    Prop where
  name : r.name=rdName
  node : r.nodeName=p.nodeName
  diskful : r.diskful=true
  pool : r.props.get storPoolNameProp=p.storagePoolName
  mem : ∀x,x∈t.resources ↔ x=r ∨ x∈s.resources ∧ x.key≠r.key
  witness : ∀x∈s.resources,x.key=r.key → x.name=rdName ∧ x.nodeName=p.nodeName ∧ x.diskful=false
  rest : SameRest s t

theorem promote_diskful (p : StoragePool) (w : Resource) :
    (w.withSpec (promote p)).diskful=true := by
  simp [Resource.diskful,Resource.withSpec,promote,promoteWitnessFlags]

theorem Adds.cases {up : List String} (h : Adds up rdName p s t)
    (hwitness : ∀n∈up,∃w∈s.resources,w.name=rdName ∧ w.nodeName=n ∧ w.diskful=false) :
    t=s ∨ ∃r,PutInto rdName p s r t := by
  cases h with
  | none => exact .inl rfl
  | created hfree =>
    refine .inr ⟨newReplica rdName p,rfl,rfl,rfl,?_,fun x => ?_,fun x hx hkey => ?_,rfl,rfl,rfl,rfl,rfl⟩
    · simp [newReplica,Props.get]
    · rw [s.resources.mem_insert]
      constructor
      · intro h
        rcases h with h|h
        · exact .inr ⟨h,hfree x h⟩
        · exact .inl h
      · intro h
        rcases h with h|h
        · exact .inr h
        · exact .inl h.1
    · exact absurd hkey (hfree x hx)
  | promoted hup w hw =>
    obtain ⟨w',hw',hname,hnode,hdiskless⟩ := hwitness _ hup
    obtain ⟨hmem,hkey⟩ := (s.resources.get?_eq_some _ _).mp hw
    obtain rfl : w'=w := s.resources.eq_of_key hw' hmem
      (by rw [hkey]; unfold Resource.key; rw [hname,hnode])
    refine .inr ⟨w'.withSpec (promote p),hname,hnode,promote_diskful p w',?_,fun x => ?_,
      fun x hx hxkey => ?_,rfl,rfl,rfl,rfl,rfl⟩
    · exact Props.get_set _ _ _
    · have hkey' : (w'.withSpec (promote p)).key=resourceCRDName rdName p.nodeName := hkey
      rw [hkey']
      refine (s.resources.mem_modify (resourceCRDName rdName p.nodeName) (·.withSpec (promote p))
        (Resource.key_withSpec _) x).trans ?_
      constructor
      · intro h
        rcases h with ⟨a,ha,hakey,rfl⟩|h
        · obtain rfl := s.resources.eq_of_key ha hmem (hakey.trans hkey.symm)
          exact .inl rfl
        · exact .inr h
      · intro h
        rcases h with rfl|h
        · exact .inl ⟨w',hmem,hkey,rfl⟩
        · exact .inr h
    · obtain rfl : x=w' := s.resources.eq_of_key hx hmem (hxkey.trans rfl)
      exact ⟨hname,hnode,hdiskless⟩

theorem Tracks.cases (h : Tracks s rdName filter x) (hplaces : Places rdName x p y) :
    y.2=x.2 ∨ ∃r,PutInto rdName p x.2 r y.2 :=
  hplaces.2.2.cases h.witness

theorem PutInto.countP_le {r : Resource} (h : PutInto rdName p s r t) (P : Resource → Bool) :
    t.resources.items.countP P ≤ s.resources.items.countP P+1 := by
  refine Keyed.countP_le_succ _ r fun a ha hP => ?_
  rcases (h.mem a).mp ha with rfl|⟨ha,_⟩
  · exact .inl rfl
  · exact .inr ⟨ha,hP⟩

theorem PutInto.countP_le_of_not {r : Resource} (h : PutInto rdName p s r t) {P : Resource → Bool}
    (hr : P r=false) : t.resources.items.countP P ≤ s.resources.items.countP P := by
  refine Keyed.countP_le _ fun a ha hP => ?_
  rcases (h.mem a).mp ha with rfl|⟨ha,_⟩
  · rw [hr] at hP
    cases hP
  · exact ⟨ha,hP⟩

section Occupy

variable {st : PlaceState}

@[simp] theorem occupy_taken : (st.occupy p).taken=p.nodeName::st.taken := rfl

@[simp] theorem occupy_diffSeen : (st.occupy p).diffSeen=
    (bareKeys st.filter.replicasOnDifferent).map (fun k => seenKey k (st.nodeProps p.nodeName))++
      st.diffSeen := rfl

@[simp] theorem occupy_xBuckets : (st.occupy p).xBuckets=
    xBucketKeys st.filter (st.nodeProps p.nodeName)++st.xBuckets := rfl

@[simp] theorem occupy_upgradeable :
    (st.occupy p).upgradeable=st.upgradeable.filter fun n => n≠p.nodeName := rfl

theorem mem_occupy_sharedSeen {id : String} :
    id∈(st.occupy p).sharedSeen ↔ id∈st.sharedSeen ∨ id=p.sharedSpaceID ∧ id≠"" := by
  unfold PlaceState.occupy
  rw [notePool_eq,mem_append]
  by_cases h : p.sharedSpaceID=""
  · simp [sharedSpace,h]
  · simp only [sharedSpace,if_neg h,mem_singleton]
    grind

end Occupy

theorem poolOf_rest (hrest : SameRest s t) (r : Resource) : t.poolOf r=s.poolOf r := by
  unfold State.poolOf
  rw [hrest.pools]

theorem PutInto.poolOf_le {r : Resource} (h : PutInto rdName p u r t) (hp : p∈s.pools)
    {q : StoragePool} (hq : s.poolOf r=some q) : q=p := by
  unfold State.poolOf at hq
  split at hq
  · cases hq
  · rw [h.pool,h.node] at hq
    obtain ⟨hmem,hkey⟩ := (s.pools.get?_eq_some _ _).mp hq
    exact s.pools.eq_of_key hmem hp hkey

theorem Tracks.nodeProps (h : Tracks s rdName filter x) (node : String) :
    x.1.nodeProps node=s.nodeProps node := by
  unfold PlaceState.nodeProps State.nodeProps
  rw [h.nodes]

theorem Tracks.step (h : Tracks s rdName filter x) (hp : p∈s.pools)
    (hplaces : Places rdName x p y) : Tracks s rdName filter y := by
  obtain ⟨st,v⟩ := x
  obtain ⟨st',w⟩ := y
  obtain ⟨hadmits,hst,hadds⟩ := hplaces
  obtain rfl : st'=st.occupy p := hst
  have hprops : ∀node,st.nodeProps node=s.nodeProps node := h.nodeProps
  have hfilter : st.filter=filter := h.sameFilter
  rcases hadds.cases h.witness with hsame|⟨r,hr⟩
  · obtain rfl : w=v := hsame
    refine ⟨h.rest,h.nodes,h.sameFilter,fun r hr hn hd => ?_,fun r hr hn hd k hk => ?_,
      fun cap hcap b => ?_,fun r hr hn hd q hq hne => ?_,fun n hn => ?_,h.kept,h.others⟩
    · exact .tail _ (h.taken r hr hn hd)
    · rw [occupy_diffSeen,mem_append]
      exact .inr (h.different r hr hn hd k hk)
    · rw [occupy_xBuckets,count_append]
      exact (h.buckets cap hcap b).trans (Nat.le_add_left _ _)
    · exact mem_occupy_sharedSeen.mpr (.inl (h.shared r hr hn hd q hq hne))
    · rw [occupy_upgradeable,mem_filter] at hn
      exact h.witness n hn.1
  · refine ⟨h.rest.trans hr.rest,h.nodes,h.sameFilter,fun a ha hn hd => ?_,fun a ha hn hd k hk => ?_,
      fun cap hcap b => ?_,fun a ha hn hd q hq hne => ?_,fun n hn => ?_,fun a ha hkept => ?_,
      fun a ha hname => ?_⟩
    · rw [occupy_taken]
      rcases (hr.mem a).mp ha with rfl|⟨ha,_⟩
      · rw [hr.node]
        exact .head _
      · exact .tail _ (h.taken a ha hn hd)
    · rw [occupy_diffSeen,mem_append,hfilter,hprops]
      rcases (hr.mem a).mp ha with rfl|⟨ha,_⟩
      · rw [hr.node]
        exact .inl (mem_map.mpr ⟨k,hk,rfl⟩)
      · exact .inr (h.different a ha hn hd k hk)
    · rw [occupy_xBuckets,count_append,hfilter,hprops]
      have hold : s.bucketCount rdName cap.1 b v ≤ st.xBuckets.count b := h.buckets cap hcap b
      change s.bucketCount rdName cap.1 b w ≤ _
      by_cases hb : xBucketKey cap.1 (s.nodeProps p.nodeName)=b
      · have hpos : 0<(xBucketKeys filter (s.nodeProps p.nodeName)).count b :=
          count_pos_iff.mpr (mem_map.mpr ⟨cap,hcap,hb⟩)
        have hone := hr.countP_le fun r => r.name=rdName && r.diskful &&
          xBucketKey cap.1 (s.nodeProps r.nodeName)=b
        exact (hone.trans (Nat.add_le_add_right hold 1)).trans (by omega)
      · have hnone := hr.countP_le_of_not (P := fun r => r.name=rdName && r.diskful &&
          xBucketKey cap.1 (s.nodeProps r.nodeName)=b) (by simp [hr.node,hb])
        exact (hnone.trans hold).trans (Nat.le_add_left _ _)
    · rw [mem_occupy_sharedSeen]
      rcases (hr.mem a).mp ha with rfl|⟨ha,_⟩
      · obtain rfl := hr.poolOf_le hp hq
        exact .inr ⟨rfl,hne⟩
      · exact .inl (h.shared a ha hn hd q hq hne)
    · rw [occupy_upgradeable,mem_filter] at hn
      obtain ⟨a,ha,haname,hanode,hadiskless⟩ := h.witness n hn.1
      refine ⟨a,(hr.mem a).mpr (.inr ⟨ha,fun hkey => ?_⟩),haname,hanode,hadiskless⟩
      have := (hr.witness a ha hkey).2.1
      rw [hanode] at this
      simp [this] at hn
    · refine (hr.mem a).mpr (.inr ⟨h.kept a ha hkept,fun hkey => ?_⟩)
      obtain ⟨haname,_,hadiskless⟩ := hr.witness a (h.kept a ha hkept) hkey
      rcases hkept with hkept|hkept
      · exact hkept haname
      · rw [hadiskless] at hkept
        cases hkept
    · rcases (hr.mem a).mp ha with rfl|⟨ha,_⟩
      · exact absurd hr.name hname
      · exact h.others a ha hname

section Start

theorem find?_listPools (s : State) (key : String) :
    (s.listPools.find? fun p => p.key=key)=s.pools.get? key := by
  cases h : s.pools.get? key with
  | none =>
    refine find?_eq_none.mpr fun p hp => ?_
    simpa using (s.pools.get?_eq_none key).mp h p ((s.mem_listPools p).mp hp)
  | some p =>
    obtain ⟨hp,hkey⟩ := (s.pools.get?_eq_some _ _).mp h
    cases hfind : s.listPools.find? fun p => p.key=key with
    | none =>
      have := find?_eq_none.mp hfind p ((s.mem_listPools p).mpr hp)
      simp [hkey] at this
    | some q =>
      have hq := (s.mem_listPools q).mp (mem_of_find?_eq_some hfind)
      have hqkey : q.key=key := by simpa using find?_some hfind
      rw [s.pools.eq_of_key hq hp (hqkey.trans hkey.symm)]

theorem seededPool_listPools (s : State) (r : Resource) :
    seededPool s.listPools r=if r.diskful=true then s.poolOf r else none := by
  unfold seededPool State.poolOf
  rw [find?_listPools]
  cases r.diskful <;> simp

theorem countP_le_count_flatMap {l : List Resource} {P : Resource → Bool}
    {buckets : Resource → List String} {b : String} (h : ∀r∈l,P r=true → b∈buckets r) :
    l.countP P ≤ (l.flatMap buckets).count b := by
  induction l with
  | nil => exact le_rfl
  | cons r l ih =>
    rw [countP_cons,flatMap_cons,count_append]
    have hrest := ih fun r hr => h r (.tail _ hr)
    split
    · rename_i hr
      have hpos := count_pos_iff.mpr (h r (.head _) hr)
      omega
    · omega

theorem Started.tracks {st : PlaceState} (h : Started s rdName filter st) :
    Tracks s rdName filter (st,s) := by
  obtain ⟨mixing,tuple,rfl⟩ := h
  have hmem : ∀{r},r∈s.resources → r.name=rdName → r∈s.listByDefinition rdName :=
    fun hr hn => (s.mem_listByDefinition _ _).mpr ⟨hr,hn⟩
  unfold newState
  rw [foldl_seed_eq]
  simp only [append_nil]
  refine ⟨.refl s,rfl,rfl,fun r hr hn hd => ?_,fun r hr hn hd k hk => ?_,fun cap hcap b => ?_,
    fun r hr hn hd q hq hne => ?_,fun n hn => ?_,fun r hr _ => hr,fun r hr _ => hr⟩
  · exact mem_reverse.mpr (mem_map.mpr ⟨r,mem_filter.mpr ⟨hmem hr hn,hd⟩,rfl⟩)
  · exact mem_flatMap.mpr ⟨k,hk,mem_map.mpr ⟨r,hmem hr hn,rfl⟩⟩
  · have hcount : ((s.listByDefinition rdName).filter (·.diskful)).reverse.countP
        (fun r => xBucketKey cap.1 (s.nodeProps r.nodeName)=b) ≤
        (((s.listByDefinition rdName).filter (·.diskful)).reverse.flatMap fun r =>
          xBucketKeys filter (s.nodeProps r.nodeName)).count b :=
      countP_le_count_flatMap fun r _ hb => mem_map.mpr ⟨cap,hcap,of_decide_eq_true hb⟩
    rw [countP_reverse,countP_filter,s.countP_listByDefinition] at hcount
    refine le_trans (le_of_eq ?_) hcount
    exact countP_congr fun r _ => by simp [and_assoc,and_comm]
  · refine mem_flatMap.mpr ⟨q,mem_reverse.mpr (mem_filterMap.mpr ⟨r,hmem hr hn,?_⟩),
      by simp [sharedSpace,hne]⟩
    rw [seededPool_listPools,if_pos hd]
    exact hq
  · obtain ⟨w,hw,rfl⟩ := mem_map.mp (mem_reverse.mp hn)
    obtain ⟨hw,hdiskless⟩ := mem_filter.mp hw
    obtain ⟨hw,hname⟩ := (s.mem_listByDefinition _ _).mp hw
    exact ⟨w,hw,hname,rfl,by simpa using hdiskless⟩

end Start

end Blockstor.Placer
