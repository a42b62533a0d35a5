import Blockstor.Doors.AutoPlace

namespace Blockstor.Doors

open Framework Placer Text Rest AutoSelectFilter List

variable {w : World} {rdName : String} {rd : ResourceDefinition} {req : Request}

section Flags

theorem cutPlus_formatInt {n : Int} (h : 0 ≤ n) : cutPrefix "+" (formatInt n)=none := by
  cases hcut : cutPrefix "+" (formatInt n) with
  | none => rfl
  | some rest =>
    have hplus : '+'∈(formatInt n).toList := by
      rw [cutPrefix_eq_some.mp hcut,String.toList_append]
      exact .head _
    exact absurd (isDigit_of_mem_formatInt h hplus) (by decide)

theorem Cli.parseInt32_formatInt {n : Int} (h : 1 ≤ n ∧ n < 2^31) (what : String) :
    Cli.parseInt32 (formatInt n) what=.ok n := by
  unfold Cli.parseInt32
  rw [trimSpace_of_none fun c hc => not_isSpace_of_isDigit
    (Text.isDigit_of_mem_formatInt (by omega) hc),Text.parseInt32_formatInt (by omega)]

theorem Cli.applyPlaceCountFlag_none {flags : Props} {name : String} (h : flags.get name="")
    (filter : SelectFilter) : Cli.applyPlaceCountFlag flags filter name=.ok filter := by
  unfold Cli.applyPlaceCountFlag
  rw [if_pos h]
  rfl

theorem Cli.applyPlaceCountFlag_text {flags : Props} {name : String} {n : Int}
    (hn : 1 ≤ n ∧ n < 2^31) (delta : Bool)
    (h : flags.get name=if delta then "+"++formatInt n else formatInt n)
    (filter : SelectFilter) : Cli.applyPlaceCountFlag flags filter name=.ok
      (if delta then {filter with additionalPlaceCount := n} else {filter with placeCount := n}) := by
  have hmore : ¬n<1 := by omega
  unfold Cli.applyPlaceCountFlag
  cases delta with
  | true =>
    have hne : "+"++formatInt n≠"" := by
      intro hnil
      have := congrArg String.toList hnil
      rw [String.toList_append] at this
      cases this
    rw [if_pos rfl] at h
    rw [h,if_neg hne,cutPrefix_eq_some.mpr rfl]
    simp only [Cli.parseInt32_formatInt hn]
    exact if_neg hmore
  | false =>
    rw [if_neg Bool.false_ne_true] at h
    rw [h,if_neg (formatInt_ne_empty n),cutPlus_formatInt (by omega)]
    simp only [Cli.parseInt32_formatInt hn]
    exact if_neg hmore

theorem applyPlaceCountFlags_flags (req : Request) :
    Cli.applyPlaceCountFlags req.flags .empty=.ok {SelectFilter.empty with
      placeCount := if req.delta then 0 else req.count
      additionalPlaceCount := if req.delta then req.count else 0} := by
  unfold Cli.applyPlaceCountFlags
  simp only [foldlM_cons,foldlM_nil]
  have hfilter : ∀delta : Bool,(if delta then {SelectFilter.empty with
      additionalPlaceCount := req.count} else {SelectFilter.empty with placeCount := req.count})=
      {SelectFilter.empty with
        placeCount := if delta then 0 else req.count
        additionalPlaceCount := if delta then req.count else 0} := by
    intro delta
    cases delta <;> rfl
  cases hauto : req.autoPlace with
  | true =>
    have hnone : req.flags.get "place-count"="" := by
      rw [Request.flags,hauto]
      rfl
    have htext : req.flags.get "auto-place"=if req.delta then "+"++formatInt req.count
        else formatInt req.count := by
      rw [Request.flags,hauto]
      rfl
    rw [Cli.applyPlaceCountFlag_none hnone]
    change (Cli.applyPlaceCountFlag _ _ _ >>= pure)=_
    rw [Cli.applyPlaceCountFlag_text req.range req.delta htext,hfilter]
    rfl
  | false =>
    have hnone : req.flags.get "auto-place"="" := by
      rw [Request.flags,hauto]
      rfl
    have htext : req.flags.get "place-count"=if req.delta then "+"++formatInt req.count
        else formatInt req.count := by
      rw [Request.flags,hauto]
      rfl
    rw [Cli.applyPlaceCountFlag_text req.range req.delta htext,hfilter]
    change (Cli.applyPlaceCountFlag _ _ _ >>= pure)=_
    rw [Cli.applyPlaceCountFlag_none hnone]
    rfl

end Flags

section Filters

def Request.target (req : Request) (existing : Nat) : Int :=
  if req.delta then laxInt32 (laxInt32 existing+req.count) else req.count

def Request.pool (req : Request) (pool : String) : String :=
  if req.storagePool≠"" then req.storagePool else pool

theorem groupOf_eq (hrd : w.state.getDefinition rdName=some rd) :
    (Cli.groupOf w rdName=.ok none ∧ groupFilter w rd=.empty) ∨
      ∃g,Cli.groupOf w rdName=.ok (some g) ∧ groupFilter w rd=g.selectFilter := by
  unfold Cli.groupOf groupFilter
  rw [hrd]
  dsimp only
  split
  · exact .inl ⟨rfl,rfl⟩
  · cases w.groups.get? (Store.K8s.name rd.resourceGroupName) with
    | none => exact .inl ⟨rfl,rfl⟩
    | some g => exact .inr ⟨g,rfl,rfl⟩

theorem placementFilter_flags (hrd : w.state.getDefinition rdName=some rd) (req : Request) :
    ∃layers,Cli.placementFilter w req.flags rdName=.ok {SelectFilter.empty with
      placeCount := if req.delta then 0 else req.count
      additionalPlaceCount := if req.delta then req.count else 0
      storagePool := req.pool (groupFilter w rd).storagePool
      layerStack := layers} := by
  have hpool : req.flags.get "storage-pool"=req.storagePool := by
    unfold Request.flags
    cases req.autoPlace <;> rfl
  have hlayers : req.flags.get "layer-list"="" := by
    unfold Request.flags
    cases req.autoPlace <;> rfl
  have hcount : ¬((if req.delta then 0 else req.count)=0 ∧ (if req.delta then req.count else 0)=0) := by
    have := req.range
    split <;> omega
  unfold Cli.placementFilter Request.pool
  rw [applyPlaceCountFlags_flags,hpool,hlayers]
  rcases groupOf_eq hrd with ⟨hgroup,hempty⟩|⟨g,hgroup,hfilter⟩
  · rw [hgroup,hempty]
    exact ⟨_,rfl⟩
  · rw [hgroup,hfilter]
    refine ⟨g.selectFilter.layerStack,congrArg Except.ok ?_⟩
    unfold Cli.fallBack
    simp only [if_neg hcount]
    by_cases hnone : req.storagePool=""
    · simp [hnone,SelectFilter.empty,empty]
    · simp [hnone,SelectFilter.empty,empty]

seal laxInt32 in
theorem cliFilter_eq (hrd : w.state.getDefinition rdName=some rd) (req : Request) :
    cliFilter w rdName req=.ok {empty with
      placeCount := req.target (diskful (w.state.listByDefinition rdName))
      storagePool := req.pool (groupFilter w rd).storagePool} := by
  obtain ⟨layers,hfilter⟩ := placementFilter_flags hrd req
  have hrange := req.range
  unfold cliFilter Cli.resolveAdditionalPlaceCount Request.target
  rw [hfilter]
  refine congrArg Except.ok ?_
  cases req.delta with
  | true =>
    simp only [if_true]
    rw [if_neg (by omega)]
    simp only [SelectFilter.empty]
  | false =>
    simp only [Bool.false_eq_true,if_false]
    rw [if_pos (by omega)]
    simp only [SelectFilter.empty]

seal laxInt32 in
theorem restFilter_eq (hrd : w.state.getDefinition rdName=some rd) (req : Request) :
    restFilter w rdName req=.ok {(groupFilter w rd).toAutoSelectFilter with
      placeCount := if req.delta=false ∧ 0<(groupFilter w rd).additionalPlaceCount then
          laxInt32 (laxInt32 (diskfulEnabled w rdName)+
            (groupFilter w rd).additionalPlaceCount)
        else req.target (diskfulEnabled w rdName)
      storagePool := req.pool (if rd.props.get storPoolNameProp≠"" then
        rd.props.get storPoolNameProp else (groupFilter w rd).storagePool)
      storagePoolList := if rd.props.get storPoolNameProp≠"" then []
        else (groupFilter w rd).storagePoolList} := by
  have hpos : 0<req.count := req.range.1
  unfold restFilter mergeAutoplaceFilter mergeAutoplaceFilterFromRequest
    resolveAdditionalPlaceCount Request.target Request.pool Request.selectFilter
  rw [hrd]
  refine congrArg Except.ok ?_
  cases req.delta with
  | true => simp [hpos,Int.not_le.mpr hpos,SelectFilter.empty,empty]
  | false =>
    by_cases hadditional : (groupFilter w rd).additionalPlaceCount ≤ 0
    · simp [hpos,hpos.ne',hadditional,Int.not_lt.mpr hadditional,SelectFilter.empty,
        empty]
    · simp [hadditional,Int.not_le.mp hadditional,SelectFilter.empty,empty]

end Filters

section Compare

structure SamePlacements (rdName : String) (f g : AutoSelectFilter) : Prop where
  target : f.placeCount=g.placeCount
  pools : ∀pool disabled,matchesPoolFilter pool f disabled=matchesPoolFilter pool g disabled
  same : f.replicasOnSame=g.replicasOnSame
  different : f.replicasOnDifferent=g.replicasOnDifferent
  caps : ∀cap,0<cap.2 → (cap∈f.xReplicasOnDifferentMap ↔ cap∈g.xReplicasOnDifferentMap)
  neighbours : ∀lib all,notPlaceWithNodes lib rdName f all=notPlaceWithNodes lib rdName g all

theorem exists_unlisted (l : List String) : ∃x,x∉l := by
  have : Infinite String := .of_injective (fun n : Nat => formatInt n) fun m n h => by
    have hparse := parseSigned_formatInt m
    rw [show formatInt m=formatInt n from h,parseSigned_formatInt] at hparse
    exact (Int.ofNat.inj (Option.some.inj hparse)).symm
  obtain ⟨x,hx⟩ := Infinite.exists_notMem_finset l.toFinset
  exact ⟨x,fun h => hx (List.mem_toFinset.mpr h)⟩

theorem matchesPoolFilter_iff {pool : StoragePool} {f : AutoSelectFilter} {disabled : List String} :
    matchesPoolFilter pool f disabled=true ↔
      (pool.providerKind≠storagePoolKindDiskless ∧ pool.nodeName∉disabled ∧ pool.poolMissing=false) ∧
      ((f.storagePool="" ∨ pool.storagePoolName=f.storagePool) ∧
        (f.storagePoolList=[] ∨ pool.storagePoolName∈f.storagePoolList)) ∧
      (f.nodeNameList=[] ∨ pool.nodeName∈f.nodeNameList) ∧
      (f.providerList=[] ∨ pool.providerKind∈f.providerList) := by
  unfold matchesPoolFilter
  simp only [Bool.and_eq_true,Bool.or_eq_true,decide_eq_true_eq,Bool.not_eq_true',
    List.contains_eq_mem,decide_eq_false_iff_not,List.isEmpty_iff]
  tauto

theorem same_names_iff {sc sr : String} {l : List String} (hsr : sr="" → sc="") :
    (∀name,(sc="" ∨ name=sc) ↔ (sr="" ∨ name=sr) ∧ (l=[] ∨ name∈l)) ↔
      sr=sc ∧ (l=[] ∨ sc≠"" ∧ sc∈l) := by
  constructor
  · intro h
    obtain ⟨hname,hlist⟩ := (h sc).mp (.inr rfl)
    by_cases hsc : sc=""
    · obtain ⟨x,hx⟩ := exists_unlisted (sr::l)
      obtain ⟨hpool,hempty⟩ := (h x).mp (.inl hsc)
      rw [mem_cons,not_or] at hx
      exact ⟨(hpool.resolve_right hx.1).trans hsc.symm,.inl (hempty.resolve_right hx.2)⟩
    · have heq : sc=sr := hname.resolve_left fun hnil => hsc (hsr hnil)
      exact ⟨heq.symm,hlist.imp id fun hmem => ⟨hsc,hmem⟩⟩
  · rintro ⟨rfl,hl⟩ name
    constructor
    · intro hname
      refine ⟨hname,hl.imp id fun ⟨hne,hmem⟩ => ?_⟩
      rw [hname.resolve_left hne]
      exact hmem
    · exact And.left

theorem same_pools_iff {f g : AutoSelectFilter} (hlist : f.storagePoolList=[])
    (hnodes : f.nodeNameList=[]) (hproviders : f.providerList=[]) :
    (∀pool disabled,matchesPoolFilter pool f disabled=matchesPoolFilter pool g disabled) ↔
      g.nodeNameList=[] ∧ g.providerList=[] ∧ ∀name,(f.storagePool="" ∨ name=f.storagePool) ↔
        (g.storagePool="" ∨ name=g.storagePool) ∧
          (g.storagePoolList=[] ∨ name∈g.storagePoolList) := by
  constructor
  · intro h
    have hadmits : ∀name node kind,kind≠storagePoolKindDiskless →
        ((f.storagePool="" ∨ name=f.storagePool) ↔
          ((g.storagePool="" ∨ name=g.storagePool) ∧
            (g.storagePoolList=[] ∨ name∈g.storagePoolList)) ∧
          (g.nodeNameList=[] ∨ node∈g.nodeNameList) ∧ (g.providerList=[] ∨ kind∈g.providerList)) := by
      intro name node kind hkind
      have := h ⟨node,name,kind,0,0,"",false,[]⟩ []
      rw [Bool.eq_iff_iff,matchesPoolFilter_iff,matchesPoolFilter_iff] at this
      simpa [hlist,hnodes,hproviders,hkind] using this
    obtain ⟨node,hnode⟩ := exists_unlisted g.nodeNameList
    obtain ⟨kind,hkind⟩ := exists_unlisted (storagePoolKindDiskless::g.providerList)
    rw [mem_cons,not_or] at hkind
    have hself := (hadmits f.storagePool node kind hkind.1).mp (.inr rfl)
    have hn : g.nodeNameList=[] := hself.2.1.resolve_right hnode
    have hp : g.providerList=[] := hself.2.2.resolve_right hkind.2
    refine ⟨hn,hp,fun name => ?_⟩
    have := hadmits name node kind hkind.1
    simpa [hn,hp] using this
  · rintro ⟨hn,hp,hnames⟩ pool disabled
    rw [Bool.eq_iff_iff,matchesPoolFilter_iff,matchesPoolFilter_iff,← hnames pool.storagePoolName]
    simp [hlist,hnodes,hproviders,hn,hp]

theorem same_neighbours_iff {f g : AutoSelectFilter} (hnone : f.notPlaceWithRsc=[])
    (hregex : f.notPlaceWithRscRegex="") :
    (∀lib all,notPlaceWithNodes lib rdName f all=notPlaceWithNodes lib rdName g all) ↔
      (∀n∈g.notPlaceWithRsc,n=rdName) ∧ g.notPlaceWithRscRegex="" := by
  have hempty : ∀lib all,notPlaceWithNodes lib rdName f all=[] := by
    intro lib all
    simp [notPlaceWithNodes,hnone,hregex]
  have hother : ∀name,name≠rdName → ∀lib,
      notPlaceWithNodes lib rdName g [⟨name,"n1",[],[],false,false,[]⟩]=[] →
      name∉g.notPlaceWithRsc ∧ ∀m,g.notPlaceWithRscRegex≠"" →
        lib.compile g.notPlaceWithRscRegex=some m → m name=false := by
    intro name hne lib h
    simp only [notPlaceWithNodes,map_eq_nil_iff,filter_eq_nil_iff,mem_singleton,
      forall_eq,Bool.and_eq_true,Bool.or_eq_true,decide_eq_true_eq,contains_eq_mem] at h
    rw [not_and,not_or] at h
    obtain ⟨hrsc,hpattern⟩ := h hne
    refine ⟨hrsc,fun m hg hm => ?_⟩
    rw [if_neg hg,hm] at hpattern
    simpa using hpattern
  constructor
  · intro h
    have hg : ∀lib all,notPlaceWithNodes lib rdName g all=[] :=
      fun lib all => (h lib all).symm.trans (hempty lib all)
    constructor
    · intro n hn
      by_contra hne
      exact (hother n hne ⟨fun _ => none,fun _ => none⟩ (hg _ _)).1 hn
    · by_contra hne
      obtain ⟨x,hx⟩ := exists_unlisted [rdName]
      have := (hother x (by simpa using hx) ⟨fun _ => none,fun _ => some fun _ => true⟩
        (hg _ _)).2 _ hne rfl
      cases this
  · rintro ⟨hrsc,hregex'⟩ lib all
    rw [hempty]
    symm
    simp only [notPlaceWithNodes,hregex',if_true,Option.any_none,Bool.or_false,map_eq_nil_iff,
      filter_eq_nil_iff,Bool.and_eq_true,decide_eq_true_eq,contains_eq_mem,not_and]
    exact fun r _ hne hmem => hne (hrsc _ hmem)

end Compare

section Targets

theorem laxInt32_eq_iff (m n k : Int) :
    laxInt32 (laxInt32 (m+k)+n)=laxInt32 (laxInt32 m+n) ↔ laxInt32 k=0 := by
  unfold laxInt32
  rw [Int.bmod_add_bmod,Int.bmod_add_bmod,Int.bmod_eq_bmod_iff_bmod_sub_eq_zero]
  congr! 2
  omega

def diskfulDisabled (w : World) (rdName : String) : Nat :=
  (w.state.listByDefinition rdName).countP fun r =>
    (disabledNodes w.state.listNodes).contains r.nodeName && r.diskful

theorem diskful_eq (w : World) (rdName : String) : diskful (w.state.listByDefinition rdName)=
      diskfulEnabled w rdName+diskfulDisabled w rdName := by
  unfold diskful diskfulEnabled diskfulDisabled
  induction w.state.listByDefinition rdName with
  | nil => rfl
  | cons r rs ih =>
    simp only [countP_cons,ih]
    cases (disabledNodes w.state.listNodes).contains r.nodeName <;> cases r.diskful <;>
      simp <;> omega

end Targets

def DoorsAgree (w : World) (rdName : String) (req : Request) : Prop :=
  match cliFilter w rdName req,restFilter w rdName req with
  | .ok f,.ok g => SamePlacements rdName f g
  | .error _,.error _ => True
  | _,_ => False

structure Covered (w : World) (rdName : String) (rd : ResourceDefinition) (req : Request) : Prop where
  drained : req.delta=true → laxInt32 (diskfulDisabled w rdName)=0
  additional : req.delta=false → 0<(groupFilter w rd).additionalPlaceCount →
    laxInt32 (laxInt32 (diskfulEnabled w rdName)+
      (groupFilter w rd).additionalPlaceCount)=req.count
  pinned : req.storagePool≠"" ∨ rd.props.get storPoolNameProp="" ∨
    rd.props.get storPoolNameProp=(groupFilter w rd).storagePool
  poolList : rd.props.get storPoolNameProp≠"" ∨ (groupFilter w rd).storagePoolList=[] ∨
    req.pool (groupFilter w rd).storagePool≠"" ∧
      req.pool (groupFilter w rd).storagePool∈(groupFilter w rd).storagePoolList
  nodes : (groupFilter w rd).nodeNameList=[]
  providers : (groupFilter w rd).providerList=[]
  same : (groupFilter w rd).replicasOnSame=[]
  different : (groupFilter w rd).replicasOnDifferent=[]
  caps : ∀cap∈(groupFilter w rd).xReplicasOnDifferentMap,cap.2 ≤ 0
  neighbours : ∀n∈(groupFilter w rd).notPlaceWithRsc,n=rdName
  pattern : (groupFilter w rd).notPlaceWithRscRegex=""

theorem same_target_iff : req.target (diskful (w.state.listByDefinition rdName))=
      (if req.delta=false ∧ 0<(groupFilter w rd).additionalPlaceCount then
          laxInt32 (laxInt32 (diskfulEnabled w rdName)+
            (groupFilter w rd).additionalPlaceCount)
        else req.target (diskfulEnabled w rdName)) ↔
    (req.delta=true → laxInt32 (diskfulDisabled w rdName)=0) ∧
    (req.delta=false → 0<(groupFilter w rd).additionalPlaceCount →
      laxInt32 (laxInt32 (diskfulEnabled w rdName)+
        (groupFilter w rd).additionalPlaceCount)=req.count) := by
  unfold Request.target
  cases req.delta with
  | true =>
    rw [diskful_eq,Int.natCast_add]
    simp [laxInt32_eq_iff]
  | false =>
    by_cases hadditional : 0<(groupFilter w rd).additionalPlaceCount
    · simp [hadditional,eq_comm]
    · simp [hadditional]

theorem same_pool_iff {group pinned : String} {l : List String} :
    (∀name,(req.pool group="" ∨ name=req.pool group) ↔
      (req.pool (if pinned≠"" then pinned else group)="" ∨
        name=req.pool (if pinned≠"" then pinned else group)) ∧
      ((if pinned≠"" then [] else l)=[] ∨ name∈if pinned≠"" then [] else l)) ↔
    (req.storagePool≠"" ∨ pinned="" ∨ pinned=group) ∧
      (pinned≠"" ∨ l=[] ∨ req.pool group≠"" ∧ req.pool group∈l) := by
  rw [same_names_iff]
  · unfold Request.pool
    by_cases hpool : req.storagePool=""
    · by_cases hpinned : pinned=""
      · simp [hpool,hpinned]
      · simp [hpool,hpinned]
    · by_cases hpinned : pinned=""
      · simp [hpool,hpinned]
      · simp [hpool,hpinned]
  · unfold Request.pool
    by_cases hpool : req.storagePool=""
    · by_cases hpinned : pinned=""
      · simp [hpool,hpinned]
      · simp [hpool,hpinned]
    · simp [hpool]

theorem doorsAgree_of_definition (hrd : w.state.getDefinition rdName=some rd) (req : Request) :
    DoorsAgree w rdName req ↔ Covered w rdName rd req := by
  unfold DoorsAgree
  rw [cliFilter_eq hrd,restFilter_eq hrd]
  constructor
  · rintro ⟨htarget,hpools,hsame,hdifferent,hcaps,hneighbours⟩
    obtain ⟨hdrained,hadditional⟩ := same_target_iff.mp htarget
    obtain ⟨hnodes,hproviders,hnames⟩ := (same_pools_iff rfl rfl rfl).mp hpools
    obtain ⟨hpinned,hlist⟩ := same_pool_iff.mp hnames
    obtain ⟨hrsc,hpattern⟩ := (same_neighbours_iff rfl rfl).mp hneighbours
    refine ⟨hdrained,hadditional,hpinned,hlist,hnodes,hproviders,hsame.symm,hdifferent.symm,
      fun cap hcap => ?_,hrsc,hpattern⟩
    by_contra hpos
    exact not_mem_nil ((hcaps cap (by omega)).mpr hcap)
  · intro h
    refine ⟨same_target_iff.mpr ⟨h.drained,h.additional⟩,
      (same_pools_iff rfl rfl rfl).mpr ⟨h.nodes,h.providers,same_pool_iff.mpr ⟨h.pinned,h.poolList⟩⟩,
      h.same.symm,h.different.symm,fun cap hpos => ⟨fun hcap => (not_mem_nil hcap).elim,
        fun hcap => absurd (h.caps cap hcap) (by omega)⟩,
      (same_neighbours_iff rfl rfl).mpr ⟨h.neighbours,h.pattern⟩⟩

/-- The command line and the API ask for the same placement exactly where the group and the
definition carry nothing that the command line leaves out, and a delta counts no drained replica. -/
theorem doorsAgree_iff (w : World) (rdName : String) (req : Request) : DoorsAgree w rdName req ↔
      ∀rd,w.state.getDefinition rdName=some rd → Covered w rdName rd req := by
  cases hrd : w.state.getDefinition rdName with
  | none =>
    refine ⟨fun _ rd h => (by cases h),fun _ => ?_⟩
    have hrest : restFilter w rdName req=.error .notFound := by
      unfold restFilter
      rw [hrd]
      rfl
    have hcli : ∃e,cliFilter w rdName req=.error e := by
      unfold cliFilter Cli.placementFilter Cli.groupOf
      rw [applyPlaceCountFlags_flags,hrd]
      exact ⟨_,rfl⟩
    obtain ⟨e,hcli⟩ := hcli
    unfold DoorsAgree
    rw [hrest,hcli]
    trivial
  | some rd =>
    rw [doorsAgree_of_definition hrd]
    exact ⟨fun h rd' heq => Option.some.inj heq ▸ h,fun h => h rd rfl⟩

section Zones

def zonedGroup : Group := ⟨"fast",{SelectFilter.empty with placeCount := 2, replicasOnDifferent := ["zone"]}⟩

def zoned : World where
  state := {
    nodes := .empty
    pools := .empty
    resources := .empty
    definitions := ⟨[⟨"pvc-1","fast",[],none,[]⟩],by decide⟩
    groups := .empty
    controllerProps := [] }
  groups := ⟨[zonedGroup],by decide⟩

/-- Two replicas, as `--auto-place 2`. -/
def twoReplicas : Request := ⟨2,by decide,false,true,""⟩

/-- The command line drops the wish for different zones. -/
theorem zones_dropped : ∃f g,cliFilter zoned "pvc-1" twoReplicas=.ok f ∧
    restFilter zoned "pvc-1" twoReplicas=.ok g ∧ ¬SamePlacements "pvc-1" f g := by
  have hrd : zoned.state.getDefinition "pvc-1"=some ⟨"pvc-1","fast",[],none,[]⟩ := by decide
  have hgroup : (groupFilter zoned ⟨"pvc-1","fast",[],none,[]⟩).replicasOnDifferent=["zone"] := by
    decide
  refine ⟨_,_,cliFilter_eq hrd _,restFilter_eq hrd _,fun h => ?_⟩
  exact absurd (h.different.trans hgroup) (by decide)

end Zones

end Blockstor.Doors
