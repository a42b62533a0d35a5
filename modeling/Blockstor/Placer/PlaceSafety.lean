import Blockstor.Placer.Tracking

namespace Blockstor.Placer

open Framework Shell List

variable {lib : Lib} {s t u : State} {rdName : String} {filter : AutoSelectFilter}
  {p : StoragePool} {x y : PlaceState × State} {ps : List StoragePool}

theorem Tracks.run (h : Tracks s rdName filter x) (hrun : Run (Places rdName) x ps y)
    (hps : ∀p∈ps,p∈s.pools) : Tracks s rdName filter y :=
  hrun.invariant_of (fun p => p∈s.pools) _ hps (fun _ _ _ hp hx hstep => hx.step hp hstep) h

theorem Tracks.countP_run (h : Tracks s rdName filter x) (hrun : Run (Places rdName) x ps y)
    (hps : ∀p∈ps,p∈s.pools) (P : Resource → Bool) (N : StoragePool → Bool)
    (hN : ∀p∈ps,∀r,r.nodeName=p.nodeName → P r=true → N p=true) :
    y.2.resources.items.countP P ≤ x.2.resources.items.countP P+ps.countP N := by
  induction hrun with
  | nil => exact Nat.le_add_right _ _
  | cons x z y p ps hstep _ ih =>
    have hrest := ih (h.step (hps p (.head _)) hstep) (fun p hp => hps p (.tail _ hp))
      fun p hp => hN p (.tail _ hp)
    rw [countP_cons]
    rcases h.cases hstep with hsame|⟨r,hr⟩
    · rw [hsame] at hrest
      omega
    · cases hPr : P r with
      | false =>
        have := hr.countP_le_of_not hPr
        omega
      | true =>
        rw [if_pos (hN p (.head _) r hr.node hPr)]
        have := hr.countP_le P
        omega

structure Apart (s : State) (filter : AutoSelectFilter) (r r' : Resource) : Prop where
  different : ∀k∈bareKeys filter.replicasOnDifferent,
    auxValue (s.nodeProps r.nodeName) k≠auxValue (s.nodeProps r'.nodeName) k
  shared : ∀p q,s.poolOf r=some p → s.poolOf r'=some q → p.sharedSpaceID≠"" →
    p.sharedSpaceID≠q.sharedSpaceID

theorem Apart.symm {r r' : Resource} (h : Apart s filter r r') : Apart s filter r' r where
  different := fun k hk => (h.different k hk).symm
  shared := by
    intro q p hq hp hne heq
    exact h.shared p q hp hq (heq ▸ hne) heq.symm

structure Spread (s : State) (rdName : String) (filter : AutoSelectFilter) (t : State)
    (r : Resource) : Prop where
  apart : ∀r'∈t.resources,r'.name=rdName → r'.diskful=true → r'≠r → Apart s filter r r'
  caps : ∀cap∈filter.xReplicasOnDifferentMap,0<cap.2 →
    (s.bucketCount rdName cap.1 (xBucketKey cap.1 (s.nodeProps r.nodeName)) t : Int) ≤ cap.2

/-- Where a replica sits: in an eligible pool, on a node that had no disk of the definition. -/
structure Sits (lib : Lib) (s : State) (rdName : String) (filter : AutoSelectFilter)
    (r : Resource) : Prop where
  name : r.name=rdName
  pool : ∃p,Eligible lib s rdName filter p ∧ p.nodeName=r.nodeName ∧
    p.storagePoolName=r.props.get storPoolNameProp
  free : ∀r'∈s.resources,r'.name=rdName → r'.diskful=true → r'.nodeName≠r.nodeName

theorem admits_iff {st : PlaceState} : st.admits p=true ↔ p.nodeName∉st.taken ∧
    matchesTuple (st.nodeProps p.nodeName) st.filter.replicasOnSame st.sameTuple=true ∧
    (∀k∈bareKeys st.filter.replicasOnDifferent,seenKey k (st.nodeProps p.nodeName)∉st.diffSeen) ∧
    (∀cap∈st.filter.xReplicasOnDifferentMap,0<cap.2 →
      (st.xBuckets.count (xBucketKey cap.1 (st.nodeProps p.nodeName)) : Int)<cap.2) ∧
    (p.sharedSpaceID≠"" → p.sharedSpaceID∉st.sharedSeen) ∧
    st.allowsKindMix p.providerKind=true := by
  simp only [PlaceState.admits,collidesWithDiff,PlaceState.exceedsXBucket,Bool.and_eq_true,
    Bool.not_eq_true',any_eq_false,Bool.and_eq_false_iff,decide_eq_true_eq,
    decide_eq_false_iff_not,contains_eq_mem,not_and,not_le]
  tauto

theorem Tracks.apart (h : Tracks s rdName filter x) (hp : p∈s.pools)
    (hadmits : x.1.admits p=true) {r r' : Resource} (hr : PutInto rdName p x.2 r t)
    (hr' : r'∈x.2.resources) (hname : r'.name=rdName) (hdiskful : r'.diskful=true) :
    Apart s filter r r' := by
  obtain ⟨_,_,hdiff,_,hshared,_⟩ := admits_iff.mp hadmits
  rw [h.sameFilter] at hdiff
  refine ⟨fun k hk heq => ?_,fun q q' hq hq' hne heq => ?_⟩
  · apply hdiff k hk
    rw [h.nodeProps]
    have hseen := h.different r' hr' hname hdiskful k hk
    unfold seenKey at hseen ⊢
    rw [hr.node] at heq
    rw [heq]
    exact hseen
  · obtain rfl := hr.poolOf_le hp hq
    apply hshared hne
    rw [heq]
    exact h.shared r' hr' hname hdiskful q' hq' (heq ▸ hne)

theorem Tracks.caps (h : Tracks s rdName filter x) (hadmits : x.1.admits p=true) {r : Resource}
    (hr : PutInto rdName p x.2 r t) {cap : String × Int}
    (hcap : cap∈filter.xReplicasOnDifferentMap) (hpos : 0<cap.2) :
    (s.bucketCount rdName cap.1 (xBucketKey cap.1 (s.nodeProps p.nodeName)) t : Int) ≤ cap.2 := by
  obtain ⟨_,_,_,hcaps,_,_⟩ := admits_iff.mp hadmits
  rw [h.sameFilter] at hcaps
  have hbelow := hcaps cap hcap hpos
  rw [h.nodeProps] at hbelow
  have hknown := h.buckets cap hcap (xBucketKey cap.1 (s.nodeProps p.nodeName))
  have hone : s.bucketCount rdName cap.1 (xBucketKey cap.1 (s.nodeProps p.nodeName)) t ≤
      s.bucketCount rdName cap.1 (xBucketKey cap.1 (s.nodeProps p.nodeName)) x.2+1 :=
    hr.countP_le _
  omega

def Sound (lib : Lib) (s : State) (rdName : String) (filter : AutoSelectFilter)
    (x : PlaceState × State) : Prop :=
  Tracks s rdName filter x ∧ ∀r∈x.2.resources,r.diskful=true → r∉s.resources →
    Sits lib s rdName filter r ∧ Spread s rdName filter x.2 r

theorem Sound.step (h : Sound lib s rdName filter x) (hp : Eligible lib s rdName filter p)
    (hplaces : Places rdName x p y) : Sound lib s rdName filter y := by
  obtain ⟨htracks,hnew⟩ := h
  refine ⟨htracks.step hp.mem hplaces,?_⟩
  have hadmits := hplaces.1
  rcases htracks.cases hplaces with hsame|⟨r₀,hr₀⟩
  · rw [hsame]
    exact hnew
  · intro r hr hdiskful hfresh
    rcases (hr₀.mem r).mp hr with rfl|⟨hold,hkey⟩
    · refine ⟨⟨hr₀.name,⟨p,hp,hr₀.node.symm,hr₀.pool.symm⟩,fun r' hr' hn hd heq => ?_⟩,
        fun r' hr' hn hd hne => ?_,fun cap hcap hpos => ?_⟩
      · apply (admits_iff.mp hadmits).1
        rw [← hr₀.node,← heq]
        exact htracks.taken r' (htracks.kept r' hr' (.inr hd)) hn hd
      · rcases (hr₀.mem r').mp hr' with rfl|⟨hr',_⟩
        · exact absurd rfl hne
        · exact htracks.apart hp.mem hadmits hr₀ hr' hn hd
      · rw [hr₀.node]
        exact htracks.caps hadmits hr₀ hcap hpos
    · obtain ⟨hsits,hspread⟩ := hnew r hold hdiskful hfresh
      refine ⟨hsits,fun r' hr' hn hd hne => ?_,fun cap hcap hpos => ?_⟩
      · rcases (hr₀.mem r').mp hr' with rfl|⟨hr',_⟩
        · exact (htracks.apart hp.mem hadmits hr₀ hold hsits.name hdiskful).symm
        · exact hspread.apart r' hr' hn hd hne
      · by_cases hb : xBucketKey cap.1 (s.nodeProps p.nodeName)=
            xBucketKey cap.1 (s.nodeProps r.nodeName)
        · rw [← hb]
          exact htracks.caps hadmits hr₀ hcap hpos
        · have hnone := hr₀.countP_le_of_not (P := fun a => a.name=rdName && a.diskful &&
            xBucketKey cap.1 (s.nodeProps a.nodeName)=xBucketKey cap.1 (s.nodeProps r.nodeName))
            (by simp [hr₀.node,hb])
          exact le_trans (Int.ofNat_le.mpr hnone) (hspread.caps cap hcap hpos)

theorem Sound.run (h : Sound lib s rdName filter x) (hrun : Run (Places rdName) x ps y)
    (hps : ∀p∈ps,Eligible lib s rdName filter p) : Sound lib s rdName filter y :=
  hrun.invariant_of (Eligible lib s rdName filter) _ hps (fun _ _ _ hp hx hstep => hx.step hp hstep) h

/-- The node carries a pair that `replicas_on_different` wants to avoid. -/
def avoided (s : State) (filter : AutoSelectFilter) (node : String) : Bool :=
  matchesAnyExcludedPair (s.nodeProps node) filter.replicasOnDifferent

def addedElsewhere (s : State) (rdName : String) (filter : AutoSelectFilter) (t : State) : Nat :=
  t.resources.items.countP fun r => r.name=rdName && r.diskful &&
    !s.resources.items.contains r && !avoided s filter r.nodeName

structure Constrained (lib : Lib) (s : State) (rdName : String) (filter : AutoSelectFilter)
    (t : State) (r : Resource) : Prop where
  name : r.name=rdName
  alone : ∀r'∈t.resources,r'.name=rdName → r'.nodeName=r.nodeName → r'=r
  free : ∀r'∈s.resources,r'.name=rdName → r'.diskful=true → r'.nodeName≠r.nodeName
  pool : ∃p∈s.pools,p.nodeName=r.nodeName ∧ p.storagePoolName=r.props.get storPoolNameProp ∧
    matchesPoolFilter p filter
      (autoplaceExcludedNodes s.listNodes (disabledNodes s.listNodes))=true ∧
    ∃vds,(s.getDefinition rdName).map (·.volumeDefinitions)=some vds ∧
      fits lib p s.controllerProps (requiredKib vds)=true
  enabled : ∀n∈s.nodes,n.name=r.nodeName → n.disabled=false
  neighbours : ∀r'∈s.resources,r'.name≠rdName → r'.nodeName=r.nodeName →
    r'.name∉filter.notPlaceWithRsc ∧ (filter.notPlaceWithRscRegex≠"" →
      ∀matchString,lib.compile filter.notPlaceWithRscRegex=some matchString →
        matchString r'.name=false)
  spread : Spread s rdName filter t r
  pins : matchesAllSamePins (s.nodeProps r.nodeName) filter.replicasOnSame=true
  lastResort : avoided s filter r.nodeName=true →
    (countDiskfulReplicas (s.listByDefinition rdName) (disabledNodes s.listNodes) : Int)+
      addedElsewhere s rdName filter t<filter.placeCount

theorem Eligible.enabled (h : Eligible lib s rdName filter p) {n : Node} (hn : n∈s.nodes)
    (hname : n.name=p.nodeName) : n.disabled=false := by
  by_contra hdis
  have hdis : n.disabled=true := by simpa using hdis
  have hmatch := h.matchesFilter
  unfold matchesPoolFilter autoplaceExcludedNodes at hmatch
  have hmem : p.nodeName∈disabledNodes s.listNodes :=
    mem_map.mpr ⟨n,mem_filter.mpr ⟨(s.mem_listNodes n).mpr hn,hdis⟩,hname⟩
  simp [hmem] at hmatch

theorem Eligible.neighbour (h : Eligible lib s rdName filter p) {r : Resource}
    (hr : r∈s.resources) (hne : r.name≠rdName) (hnode : r.nodeName=p.nodeName) :
    r.name∉filter.notPlaceWithRsc ∧ (filter.notPlaceWithRscRegex≠"" →
      ∀matchString,lib.compile filter.notPlaceWithRscRegex=some matchString →
        matchString r.name=false) := by
  have hexcluded : ∀hbad : (filter.notPlaceWithRsc.contains r.name || (if
      filter.notPlaceWithRscRegex="" then none else lib.compile filter.notPlaceWithRscRegex).any
      fun matchString => matchString r.name)=true,False := by
    intro hbad
    refine h.neighbours (mem_map.mpr ⟨r,mem_filter.mpr
      ⟨(s.mem_listResources r).mpr hr,?_⟩,hnode⟩)
    rw [Bool.and_eq_true]
    exact ⟨by simpa using hne,hbad⟩
  refine ⟨fun hlisted => hexcluded (by simp [hlisted]),fun hregex m hm => ?_⟩
  by_contra hmatch
  exact hexcluded (by simp [hregex,hm,hmatch])

section Filled

variable {st : PlaceState} {ps₁ ps₂ : List StoragePool} {r : Resource}
  (h : Filled lib s rdName filter st ps₁ ps₂ u t)
include h

theorem Filled.eligible : ∀p∈ps₁++ps₂,Eligible lib s rdName filter p := by
  intro p hp
  rcases mem_append.mp hp with hp|hp
  · exact (h.preferred p hp).1
  · exact (h.lastResort p hp).1

theorem Filled.diskful (hr : r∈t.resources) (hdiskful : r.diskful=true) : r∈u.resources := by
  rcases h.diskless.adds r hr with hr|⟨_,hdiskless⟩
  · exact hr
  · rw [hdiskful] at hdiskless
    cases hdiskless

theorem Filled.countP_le (P : Resource → Bool)
    (N : StoragePool → Bool) (hP : ∀r,P r=true → r.diskful=true)
    (hN : ∀p∈ps₁++ps₂,∀r,r.nodeName=p.nodeName → P r=true → N p=true) :
    t.resources.items.countP P ≤ s.resources.items.countP P+(ps₁++ps₂).countP N := by
  obtain ⟨st',hrun⟩ := h.run
  exact le_trans (Keyed.countP_le u.resources fun a ha hPa => ⟨h.diskful ha (hP a hPa),hPa⟩)
    (h.started.tracks.countP_run hrun (fun p hp => (h.eligible p hp).mem) P N hN)

theorem Filled.onNode (hr : r∈t.resources) (hdiskful : r.diskful=true) (hfresh : r∉s.resources) :
    ∃p∈ps₁++ps₂,p.nodeName=r.nodeName := by
  have hcount := h.countP_le (fun a => decide (a=r)) (fun p => decide (p.nodeName=r.nodeName))
    (fun a ha => by simpa [of_decide_eq_true ha] using hdiskful)
    (fun p _ a hnode ha => by simp [← hnode,of_decide_eq_true ha])
  have hnone : s.resources.items.countP (fun a => decide (a=r))=0 := by
    refine countP_eq_zero.mpr fun a ha heq => hfresh ?_
    rw [← of_decide_eq_true heq]
    exact ha
  have hone : 0<t.resources.items.countP (fun a => decide (a=r)) :=
    countP_pos_iff.mpr ⟨r,hr,by simp⟩
  obtain ⟨p,hp,hnode⟩ := countP_pos_iff.mp (by omega :
    0<(ps₁++ps₂).countP fun p => decide (p.nodeName=r.nodeName))
  exact ⟨p,hp,of_decide_eq_true hnode⟩

theorem Filled.addedElsewhere_le : addedElsewhere s rdName filter t ≤ ps₁.length := by
  have hcount := h.countP_le (fun a => a.name=rdName && a.diskful &&
      !s.resources.items.contains a && !avoided s filter a.nodeName)
    (fun p => !avoided s filter p.nodeName)
    (fun a ha => by simp only [Bool.and_eq_true] at ha; exact ha.1.1.2)
    (fun p _ a hnode ha => by simp only [Bool.and_eq_true] at ha; rw [← hnode]; exact ha.2)
  have hnone : s.resources.items.countP (fun a => a.name=rdName && a.diskful &&
      !s.resources.items.contains a && !avoided s filter a.nodeName)=0 := by
    refine countP_eq_zero.mpr fun a ha => ?_
    simp [ha]
  have hlast : ps₂.countP (fun p => !avoided s filter p.nodeName)=0 := by
    refine countP_eq_zero.mpr fun p hp => ?_
    unfold avoided State.nodeProps
    rw [(h.lastResort p hp).2]
    exact Bool.false_ne_true
  have hfirst : ps₁.countP (fun p => !avoided s filter p.nodeName) ≤ ps₁.length :=
    countP_le_length
  rw [countP_append] at hcount
  unfold addedElsewhere
  omega

theorem Filled.constrained (hr : r∈t.resources)
    (hdiskful : r.diskful=true) (hfresh : r∉s.resources) :
    Constrained lib s rdName filter t r := by
  obtain ⟨st',hrun⟩ := h.run
  have hsound : Sound lib s rdName filter (st',u) :=
    Sound.run ⟨h.started.tracks,fun r hr _ hfresh => absurd hr hfresh⟩ hrun h.eligible
  obtain ⟨hsits,hspread⟩ := hsound.2 r (h.diskful hr hdiskful) hdiskful hfresh
  obtain ⟨p,hp,hnode,hstor⟩ := hsits.pool
  refine ⟨hsits.name,fun r' hr' hn hnode' => ?_,hsits.free,
    ⟨p,hp.mem,hnode,hstor,hp.matchesFilter,hp.fits⟩,
    fun n hn hname => hp.enabled hn (hname.trans hnode.symm),
    fun r' hr' hne hnode' => hp.neighbour hr' hne (hnode'.trans hnode.symm),
    ⟨fun r' hr' hn hd hne => hspread.apart r' (h.diskful hr' hd) hn hd hne,
      fun cap hcap hpos => ?_⟩,?_,fun havoided => ?_⟩
  · refine t.resources.eq_of_key hr' hr ?_
    unfold Resource.key
    rw [hn,hnode',hsits.name]
  · refine le_trans (Int.ofNat_le.mpr ?_) (hspread.caps cap hcap hpos)
    refine Keyed.countP_le _ fun a ha hP => ⟨h.diskful ha ?_,hP⟩
    simp only [Bool.and_eq_true] at hP
    exact hP.1.2
  · have hpins := hp.pins
    rw [hnode] at hpins
    exact hpins
  · have hsecond : ps₂≠[] := by
      intro hnil
      obtain ⟨q,hq,hqnode⟩ := h.onNode hr hdiskful hfresh
      rw [hnil,append_nil] at hq
      have hclear := (h.preferred q hq).2
      rw [hqnode] at hclear
      unfold avoided State.nodeProps at havoided
      rw [hclear] at havoided
      cases havoided
    have hroom := h.resort hsecond
    have helsewhere := h.addedElsewhere_le
    omega

end Filled

/-- Every replica with a disk that a call creates or promotes meets the constraints of the filter,
alone and together with all others. A pair that `replicas_on_different` names only decides which
nodes are tried last, and a restored definition stays on the backend of its source. -/
theorem place_constrains (lib : Lib) (s : State) (rdName : String) (filter : AutoSelectFilter)
    (x : Except Err Placement) (t : State) (h : Exec Step (place lib rdName filter) s x t) :
    ∃filter',Restored s rdName filter filter' ∧ ∀r∈t.resources,r.diskful=true → r∉s.resources →
      Constrained lib s rdName filter' t r := by
  obtain ⟨filter',hfilter,rfl|⟨st,ps₁,ps₂,u,hfilled⟩⟩ := exec_place h
  · exact ⟨filter',hfilter,fun r hr _ hfresh => absurd hr hfresh⟩
  · exact ⟨filter',hfilter,fun r hr hd hfresh => hfilled.constrained hr hd hfresh⟩

section OnlyNode

/-- One node in zone `a` with one pool, and a definition without replicas. -/
def onlyNode : State where
  nodes := ⟨[⟨"n1",[],[("Aux/zone","a")]⟩],by decide⟩
  pools := ⟨[⟨"n1","pool",storagePoolKindLVM,4096,4096,"",false,[]⟩],by decide⟩
  resources := .empty
  definitions := ⟨[⟨"pvc-1","",[],none,[⟨0,1024⟩]⟩],by decide⟩
  groups := .empty
  controllerProps := []

/-- One replica, not in zone `a`. -/
def awayFromZone : AutoSelectFilter :=
  {AutoSelectFilter.empty with placeCount := 1, replicasOnDifferent := ["zone=a"]}

def noLib : Lib := ⟨fun _ => none,fun _ => none⟩

theorem onlyNode_placed : ∃r∈(simulate serve (place noLib "pvc-1" awayFromZone) onlyNode).2.resources,
    r.diskful=true ∧ r∉onlyNode.resources ∧ avoided onlyNode awayFromZone r.nodeName=true := by
  have h : ((simulate serve (place noLib "pvc-1" awayFromZone) onlyNode).2.resources.items.any fun r =>
      r.diskful && avoided onlyNode awayFromZone r.nodeName)=true := by decide +kernel
  obtain ⟨r,hr,hP⟩ := any_eq_true.mp h
  obtain ⟨hdiskful,havoided⟩ := (Bool.and_eq_true _ _).mp hP
  exact ⟨r,hr,hdiskful,fun h => (not_mem_nil h).elim,havoided⟩

/-- The only node is used although `replicas_on_different` names its zone. -/
theorem place_uses_avoided_node : ∃x t,Exec Step (place noLib "pvc-1" awayFromZone) onlyNode x t ∧
    ∃r∈t.resources,r.diskful=true ∧ r∉onlyNode.resources ∧
      avoided onlyNode awayFromZone r.nodeName=true :=
  ⟨_,_,exec_simulate serve step_serve _ _,onlyNode_placed⟩

theorem place_constrains_onlyNode : ∃x t,Exec Step (place noLib "pvc-1" awayFromZone) onlyNode x t ∧
      (∃r∈t.resources,r.diskful=true ∧ r∉onlyNode.resources) ∧
      ∃filter',Restored onlyNode "pvc-1" awayFromZone filter' ∧ ∀r∈t.resources,r.diskful=true →
        r∉onlyNode.resources → Constrained noLib onlyNode "pvc-1" filter' t r := by
  have hexec := exec_simulate serve step_serve (place noLib "pvc-1" awayFromZone) onlyNode
  obtain ⟨r,hr,hdiskful,hfresh,_⟩ := onlyNode_placed
  exact ⟨_,_,hexec,⟨r,hr,hdiskful,hfresh⟩,place_constrains _ _ _ _ _ _ hexec⟩

end OnlyNode

end Blockstor.Placer
