import Blockstor.Evacuation.Drain

namespace Blockstor.Evacuation.Drain

open Framework Shell Placer Resource

section Placed

variable {lib : Lib} {s t u : State} {rdName : String} {filter : AutoSelectFilter}
  {p : StoragePool}

structure SameReport (r r' : Resource) : Prop where
  name : r'.name=r.name
  nodeName : r'.nodeName=r.nodeName
  deleting : r'.deleting=r.deleting
  volumes : r'.volumes=r.volumes

theorem SameReport.refl (r : Resource) : SameReport r r := ⟨rfl,rfl,rfl,rfl⟩

theorem SameReport.key {r r' : Resource} (h : SameReport r r') : r'.key=r.key := by
  unfold Resource.key
  rw [h.name,h.nodeName]

theorem SameReport.trans {r r' r'' : Resource} (h : SameReport r r') (h' : SameReport r' r'') :
    SameReport r r'' :=
  ⟨h'.name.trans h.name,h'.nodeName.trans h.nodeName,h'.deleting.trans h.deleting,
    h'.volumes.trans h.volumes⟩

structure Kept (s t : State) : Prop where
  rest : SameRest s t
  keeps : ∀r∈s.resources,∃r'∈t.resources,SameReport r r'
  origin : ∀r'∈t.resources,r'.volumes=[] ∨ ∃r∈s.resources,SameReport r r'

theorem Kept.refl (s : State) : Kept s s :=
  ⟨.refl s,fun r hr => ⟨r,hr,.refl r⟩,fun r hr => .inr ⟨r,hr,.refl r⟩⟩

theorem Kept.trans (h : Kept s t) (h' : Kept t u) : Kept s u where
  rest := h.rest.trans h'.rest
  keeps := by
    intro r hr
    obtain ⟨r',hr',hsame⟩ := h.keeps r hr
    obtain ⟨r'',hr'',hsame'⟩ := h'.keeps r' hr'
    exact ⟨r'',hr'',hsame.trans hsame'⟩
  origin := by
    intro r'' hr''
    rcases h'.origin r'' hr'' with hnew|⟨r',hr',hsame'⟩
    · exact .inl hnew
    · rcases h.origin r' hr' with hnew|⟨r,hr,hsame⟩
      · exact .inl (hsame'.volumes.trans hnew)
      · exact .inr ⟨r,hr,hsame.trans hsame'⟩

theorem adds_kept {up : List String} (h : Adds up rdName p s t) : Kept s t := by
  cases h with
  | none => exact .refl s
  | created hfree =>
    refine ⟨⟨rfl,rfl,rfl,rfl,rfl⟩,fun r hr => ?_,fun r hr => ?_⟩
    · exact ⟨r,(s.resources.mem_insert _ hfree r).mpr (.inl hr),.refl r⟩
    · rcases (s.resources.mem_insert _ hfree r).mp hr with hr|rfl
      · exact .inr ⟨r,hr,.refl r⟩
      · exact .inl rfl
  | promoted _ w hw =>
    refine ⟨⟨rfl,rfl,rfl,rfl,rfl⟩,fun r hr => ?_,fun r hr => ?_⟩
    · by_cases hkey : r.key=Placer.resourceCRDName rdName p.nodeName
      · exact ⟨r.withSpec (promote p),(s.resources.mem_modify _ _ (key_withSpec _) _).mpr
          (.inl ⟨r,hr,hkey,rfl⟩),⟨rfl,rfl,rfl,rfl⟩⟩
      · exact ⟨r,(s.resources.mem_modify _ _ (key_withSpec _) _).mpr (.inr ⟨hr,hkey⟩),.refl r⟩
    · rcases (s.resources.mem_modify _ _ (key_withSpec _) _).mp hr with ⟨a,ha,_,rfl⟩|⟨hr,_⟩
      · exact .inr ⟨a,ha,⟨rfl,rfl,rfl,rfl⟩⟩
      · exact .inr ⟨r,hr,.refl r⟩

theorem exec_place_kept {x : Except Err Placement} (h : Exec Step (place lib rdName filter) s x t) :
    ∃u,Kept s u ∧ DisklessOnly rdName u t := by
  obtain ⟨filter',_,rfl|⟨st,ps₁,ps₂,u,hfilled⟩⟩ := exec_place h
  · exact ⟨t,.refl t,.refl _ t⟩
  · obtain ⟨st',hrun⟩ := hfilled.run
    exact ⟨u,hrun.invariant (fun y => Kept s y.2)
      (fun _ _ _ hkept hstep => hkept.trans (adds_kept hstep.2.2)) (.refl s),hfilled.diskless⟩

/-- What is there after a call: what was there before, and nothing that has a disk is reported of
but what was. -/
structure Grown (s t : State) : Prop where
  rest : SameRest s t
  keeps : ∀r∈s.resources,∃r'∈t.resources,SameReport r r'
  origin : ∀r'∈t.resources,r'.diskful=true → r'.volumes=[] ∨ ∃r∈s.resources,SameReport r r'

theorem exec_place_grown {x : Except Err Placement}
    (h : Exec Step (place lib rdName filter) s x t) : Grown s t := by
  obtain ⟨u,hkept,hdiskless⟩ := exec_place_kept h
  refine ⟨hkept.rest.trans hdiskless.rest,fun r hr => ?_,fun r hr hdiskful => ?_⟩
  · obtain ⟨r',hr',hsame⟩ := hkept.keeps r hr
    exact ⟨r',hdiskless.keeps r' hr',hsame⟩
  · rcases hdiskless.adds r hr with hr|⟨_,hnone⟩
    · exact hkept.origin r hr
    · rw [hdiskful] at hnone
      cases hnone

/-- A call of `Place`, however it ends. -/
def PlaceCall (lib : Lib) (s : State) (c : String × AutoSelectFilter) (t : State) : Prop :=
  ∃x,Exec Step (place lib c.1 c.2) s x t

theorem Grown.live (h : Grown s t) {n : String} (hlive : Live s n) : Live t n := by
  obtain ⟨r,hget,hr⟩ := hlive
  obtain ⟨hmem,hkey⟩ := (s.resources.get?_eq_some _ _).mp hget
  obtain ⟨r',hr',hsame⟩ := h.keeps r hmem
  exact ⟨r',(t.resources.get?_eq_some _ _).mpr ⟨hr',hsame.key.trans hkey⟩,hsame.deleting.trans hr⟩

end Placed

section Names

variable {s : State} {r y : Resource}

theorem dot_mem_crdName (rd node : String) : '.'∈(resourceCRDName rd node).toList := by
  simp [resourceCRDName]

theorem eq_of_found (hr : r∈s.resources)
    (hget : s.resources.get? (resourceCRDName r.name r.nodeName)=some y) : y=r := by
  obtain ⟨hy,hkey⟩ := (s.resources.get?_eq_some _ _).mp hget
  refine s.resources.eq_of_key hy hr ?_
  have hdot : '.'∈(Store.K8s.name (y.name++"."++y.nodeName)).toList := by
    have := dot_mem_crdName r.name r.nodeName
    rw [← hkey] at this
    exact this
  have hfix := Store.K8s.name_of_dot hdot
  change Store.K8s.name y.key=y.key at hfix
  rw [← hfix,hkey]
  rfl

end Names

section Safety

variable {lib : Lib} {s t u : State} {filter : AutoSelectFilter} {victim : Resource}
  {vds : List VolumeDefinition}

/-- The replicas with a disk on other nodes that stay which are up to date on every volume. -/
def completeCount (s : State) (victim : Resource) (vds : List VolumeDefinition) : Nat :=
  (s.listByDefinition victim.name).countP fun r =>
    elsewhere s victim.nodeName r && completeFor vds r

/-- Nothing but the source goes, and only when as many other replicas as are to be preserved, and
at least one, are up to date on every volume. -/
def PrunesLast (s : State) (victim : Resource) (vds : List VolumeDefinition) : Prop :=
  ∀lib filter r t,Exec Step (migrateInto lib victim false filter) s r t → ∀n,Deleted s t n →
    n=source victim ∧ 1 ≤ completeCount t victim vds ∧
      max filter.placeCount (diskfulTarget s victim.name victim.nodeName) ≤
        completeCount t victim vds

/-- A replica with a disk on a node that is drained, among the replicas of its definition. -/
structure Draining (s : State) (replicas : Keyed key) (victim : Resource)
    (vds : List VolumeDefinition) : Prop where
  resources : s.resources=replicas
  volumes : (s.getDefinition victim.name).map (·.volumeDefinitions)=some vds
  evicted : ∃n∈s.nodes,n.name=victim.nodeName ∧ nodeFlagEvicted∈n.flags ∧ nodeFlagLost∉n.flags
  mem : victim∈replicas
  diskful : victim.diskful=true

def Found (replicas : Keyed key) (r : Resource) : Prop :=
  replicas.get? (resourceCRDName r.name r.nodeName)=some r

/-- No replica on another node reports some volumes of the definition only, all of them up to
date. -/
def ReportsAll (replicas : Keyed key) (victim : Resource)
    (vds : List VolumeDefinition) : Prop :=
  victim.diskful=true → victim.deleting=false → Found replicas victim →
    ∀r∈replicas,r.name=victim.name → r.nodeName≠victim.nodeName → Found replicas r →
      allVolumesUpToDate r=true → covers vds r=true

theorem elsewhere_rest (hrest : SameRest s t) (node : String) (r : Resource) :
    elsewhere t node r=elsewhere s node r := by
  unfold elsewhere drained State.listNodes
  rw [hrest.nodes]

theorem delete_rest (s : State) (n : String) : SameRest s (serve s (.delete n)).2 := by
  simp only [serve]
  split
  · exact .refl s
  · split <;> exact ⟨rfl,rfl,rfl,rfl,rfl⟩

theorem seenUpToDate_iff {rdName node : String} : seenUpToDate s rdName node=true ↔
    ∃y,s.resources.get? (resourceCRDName rdName node)=some y ∧ allVolumesUpToDate y=true := by
  unfold seenUpToDate
  cases s.resources.get? (resourceCRDName rdName node) <;> simp

theorem elsewhere_ne {r : Resource} (h : elsewhere s victim.nodeName r=true)
    (hname : r.name=victim.name) : resourceCRDName r.name r.nodeName≠source victim := by
  intro heq
  rw [elsewhere_eq,Bool.not_eq_true',Bool.or_eq_false_iff,Bool.or_eq_false_iff] at h
  refine of_decide_eq_false h.1.1 ?_
  have := congrArg String.toList heq
  simp only [source,resourceCRDName,hname,String.toList_append,List.append_cancel_left_eq] at this
  exact String.toList_inj.mp this

theorem ready_complete (hreports : ∀r∈s.resources,r.name=victim.name →
      r.nodeName≠victim.nodeName → Found s.resources r → allVolumesUpToDate r=true →
      covers vds r=true)
    (hgrown : Grown s u) :
    readyCount u victim.name victim.nodeName ≤
      completeCount (serve u (.delete (source victim))).2 victim vds := by
  unfold readyCount completeCount
  rw [State.countP_listByDefinition,State.countP_listByDefinition]
  refine Keyed.countP_le _ fun r hr hP => ?_
  simp only [Bool.and_eq_true,decide_eq_true_eq] at hP
  obtain ⟨hname,helse,hseen⟩ := hP
  obtain ⟨y,hget,hready⟩ := seenUpToDate_iff.mp hseen
  have hfound : u.resources.get? (resourceCRDName r.name r.nodeName)=some y := by rw [hname]; exact hget
  obtain rfl := eq_of_found hr hfound
  have hdiskful : y.diskful=true := by
    rw [elsewhere_eq,Bool.not_eq_true',Bool.or_eq_false_iff] at helse
    simpa using helse.2
  have hother := elsewhere_ne helse hname
  have hcovers : covers vds y=true := by
    rcases hgrown.origin y hr hdiskful with hnew|⟨w,hw,hsame⟩
    · simp [allVolumesUpToDate,hnew] at hready
    · have hfoundw : Found s.resources w := by
        refine (s.resources.get?_eq_some _ _).mpr ⟨hw,?_⟩
        rw [← hsame.key,← hsame.name,← hsame.nodeName]
        exact ((u.resources.get?_eq_some _ _).mp hfound).2
      have hnode : w.nodeName≠victim.nodeName := by
        intro heq
        apply hother
        rw [source,← heq,← hsame.nodeName,hname]
      have hw := hreports w hw (hsame.name.symm.trans hname) hnode hfoundw
      unfold allVolumesUpToDate at hready hw
      unfold covers at hw ⊢
      rw [hsame.volumes] at hready ⊢
      exact hw hready
  refine ⟨?_,?_⟩
  · have hkept := get?_delete_other u hother
    rw [hfound] at hkept
    exact ((Keyed.get?_eq_some _ _ _).mp hkept).1
  · simp only [Bool.and_eq_true,decide_eq_true_eq]
    rw [elsewhere_rest (delete_rest u _)]
    exact ⟨hname,helse,completeFor_of_covers hready hcovers⟩

theorem prunesLast_of_reportsAll {replicas : Keyed key}
    (h : ReportsAll replicas victim vds) (hs : Draining s replicas victim vds) :
    PrunesLast s victim vds := by
  intro lib filter r t hexec n hdeleted
  obtain ⟨hlive,hgone⟩ := hdeleted
  rcases exec_migrateInto hexec with rfl|⟨x,u,hplace,rfl|⟨hmay,rfl⟩⟩
  · exact absurd hlive hgone
  · exact absurd ((exec_place_grown hplace).live hlive) hgone
  · have hgrown := exec_place_grown hplace
    have hsource : n=source victim := by
      by_contra hne
      obtain ⟨y,hget,hy⟩ := hgrown.live hlive
      exact hgone ⟨y,(get?_delete_other u hne).trans hget,hy⟩
    obtain ⟨y,hget,hy⟩ := hlive
    rw [hsource] at hget
    obtain rfl := eq_of_found (hs.resources ▸ hs.mem) hget
    rw [hs.resources] at hget
    have hreports := h hs.diskful hy hget
    rw [← hs.resources] at hreports
    have hcount := ready_complete hreports hgrown
    rcases hmay with hlost|⟨htarget,hone⟩
    · cases hlost
    · rw [targetFilter_placeCount] at htarget
      exact ⟨hsource,by omega,by omega⟩

end Safety

end Blockstor.Evacuation.Drain
