import Blockstor.Placer.PlaceSafety

namespace Blockstor.Placer

open Framework Shell PlaceState List

namespace State

def HasKind (s : State) (rdName : String) (t : State) (kind : String) : Prop :=
  ∃r∈t.resources,r.name=rdName ∧ r.diskful=true ∧ ∃p,s.poolOf r=some p ∧ p.providerKind=kind

def Mixes (s : State) (rdName : String) : Prop :=
  ∀a b,s.HasKind rdName s a → s.HasKind rdName s b →
    isProviderKindMixingAllowed a b s.allowsMixing=true

structure Within (kinds : List String) (s : State) (rdName : String) : Prop where
  pools : ∀p∈s.pools,p.providerKind≠storagePoolKindDiskless → p.providerKind∈kinds
  replicas : ∀kind,s.HasKind rdName s kind → kind∈kinds

end State

section Relation

variable {mixing : Bool} {a b f : String}

def backend (kind : String) : String :=
  if kind=storagePoolKindFileThin then storagePoolKindFile
  else if kind=storagePoolKindZFSThin then storagePoolKindZFS
  else kind

theorem backend_eq_iff : backend a=backend b ↔ a=b ∨
    (a=storagePoolKindFile ∨ a=storagePoolKindFileThin) ∧
      (b=storagePoolKindFile ∨ b=storagePoolKindFileThin) ∨
    (a=storagePoolKindZFS ∨ a=storagePoolKindZFSThin) ∧
      (b=storagePoolKindZFS ∨ b=storagePoolKindZFSThin) := by
  unfold backend storagePoolKindFile storagePoolKindFileThin storagePoolKindZFS
    storagePoolKindZFSThin
  split <;> split <;> (try split) <;> (try split) <;> simp_all <;> grind

theorem isMixingAllowedDirected_iff : isMixingAllowedDirected a b=true ↔
    (a=storagePoolKindFile ∨ a=storagePoolKindFileThin) ∧
      (b=storagePoolKindFile ∨ b=storagePoolKindFileThin ∨ b=storagePoolKindDiskless) ∨
    (a=storagePoolKindZFS ∨ a=storagePoolKindZFSThin) ∧
      (b=storagePoolKindZFS ∨ b=storagePoolKindZFSThin) := by
  unfold isMixingAllowedDirected
  split
  · rename_i hfile
    have hzfs : ¬(a=storagePoolKindZFS ∨ a=storagePoolKindZFSThin) := by
      rcases hfile with rfl|rfl <;> decide
    simp only [hfile,hzfs,Bool.or_eq_true,decide_eq_true_eq]
    tauto
  · rename_i hfile
    split
    · rename_i hzfs
      simp only [hfile,hzfs,Bool.or_eq_true,decide_eq_true_eq]
      tauto
    · rename_i hzfs
      simp only [hfile,hzfs,Bool.false_eq_true]
      tauto

theorem isProviderKindMixingAllowed_iff : isProviderKindMixingAllowed a b mixing=true ↔
    a=storagePoolKindDiskless ∨ b=storagePoolKindDiskless ∨ backend a=backend b ∨
    mixing=true ∧ (a=storagePoolKindLVMThin ∧ b=storagePoolKindZFSThin ∨
      a=storagePoolKindZFSThin ∧ b=storagePoolKindLVMThin) := by
  unfold isProviderKindMixingAllowed isThinCrossKindPair
  simp only [Bool.or_eq_true,Bool.and_eq_true,decide_eq_true_eq,isMixingAllowedDirected_iff,
    backend_eq_iff]
  grind

theorem isProviderKindMixingAllowed_comm :
    isProviderKindMixingAllowed a b mixing=isProviderKindMixingAllowed b a mixing := by
  rw [Bool.eq_iff_iff,isProviderKindMixingAllowed_iff,isProviderKindMixingAllowed_iff]
  tauto

theorem isProviderKindMixingAllowed_self : isProviderKindMixingAllowed a a mixing=true :=
  isProviderKindMixingAllowed_iff.mpr (.inr (.inr (.inl rfl)))

theorem isProviderKindMixingAllowed_unnamed : isProviderKindMixingAllowed a "" mixing=true ↔
    a="" ∨ a=storagePoolKindDiskless := by
  rw [isProviderKindMixingAllowed_iff,backend_eq_iff]
  simp [storagePoolKindDiskless,storagePoolKindLVMThin,storagePoolKindFile,storagePoolKindFileThin,
    storagePoolKindZFS,storagePoolKindZFSThin,or_comm]

theorem backend_eq_lvmThin : backend a=backend storagePoolKindLVMThin ↔ a=storagePoolKindLVMThin := by
  rw [backend_eq_iff]
  simp [storagePoolKindLVMThin,storagePoolKindFile,storagePoolKindFileThin,storagePoolKindZFS,
    storagePoolKindZFSThin]

theorem backend_eq_zfsThin : backend a=backend storagePoolKindZFSThin ↔
    a=storagePoolKindZFS ∨ a=storagePoolKindZFSThin := by
  rw [backend_eq_iff]
  constructor
  · rintro (rfl|⟨_,h⟩|⟨h,_⟩)
    · exact .inr rfl
    · exact absurd h (by decide)
    · exact h
  · exact fun h => .inr (.inr ⟨h,.inr rfl⟩)

theorem isProviderKindMixingAllowed_trans (hf : f≠storagePoolKindDiskless)
    (hopen : ¬(mixing=true ∧ f=storagePoolKindZFSThin ∧ (a=storagePoolKindLVMThin ∧
      b=storagePoolKindZFS ∨ a=storagePoolKindZFS ∧ b=storagePoolKindLVMThin)))
    (ha : isProviderKindMixingAllowed f a mixing=true)
    (hb : isProviderKindMixingAllowed f b mixing=true) :
    isProviderKindMixingAllowed a b mixing=true := by
  rw [isProviderKindMixingAllowed_iff] at ha hb ⊢
  rcases ha with h|rfl|ha|⟨hm,ha⟩
  · exact absurd h hf
  · exact .inl rfl
  · rcases hb with h|rfl|hb|⟨hm,⟨rfl,rfl⟩|⟨rfl,rfl⟩⟩
    · exact absurd h hf
    · exact .inr (.inl rfl)
    · exact .inr (.inr (.inl (ha.symm.trans hb)))
    · exact .inr (.inr (.inr ⟨hm,.inl ⟨backend_eq_lvmThin.mp ha.symm,rfl⟩⟩))
    · rcases backend_eq_zfsThin.mp ha.symm with rfl|rfl
      · exact absurd ⟨hm,rfl,.inr ⟨rfl,rfl⟩⟩ hopen
      · exact .inr (.inr (.inr ⟨hm,.inr ⟨rfl,rfl⟩⟩))
  · rcases ha with ⟨rfl,rfl⟩|⟨rfl,rfl⟩
    · rcases hb with h|rfl|hb|⟨_,⟨_,rfl⟩|⟨h,_⟩⟩
      · exact absurd h (by decide)
      · exact .inr (.inl rfl)
      · exact .inr (.inr (.inr ⟨hm,.inr ⟨rfl,backend_eq_lvmThin.mp hb.symm⟩⟩))
      · exact .inr (.inr (.inl rfl))
      · exact absurd h (by decide)
    · rcases hb with h|rfl|hb|⟨_,⟨h,_⟩|⟨_,rfl⟩⟩
      · exact absurd h (by decide)
      · exact .inr (.inl rfl)
      · rcases backend_eq_zfsThin.mp hb.symm with rfl|rfl
        · exact absurd ⟨hm,rfl,.inl ⟨rfl,rfl⟩⟩ hopen
        · exact .inr (.inr (.inr ⟨hm,.inl ⟨rfl,rfl⟩⟩))
      · exact absurd h (by decide)
      · exact .inr (.inr (.inl rfl))

end Relation

/-- The kinds of a cluster in which a kind that goes with one replica goes with all of them: the
opened pair does not meet `ZFS`, a pool without a kind meets no other, and where a replica with a
disk sits on a pool without one all kinds go together. -/
structure OneReference (mixing : Bool) (kinds : List String) : Prop where
  thin : ¬(mixing=true ∧ storagePoolKindLVMThin∈kinds ∧ storagePoolKindZFSThin∈kinds ∧
    storagePoolKindZFS∈kinds)
  unnamed : ""∈kinds → ∀a∈kinds,a="" ∨ a=storagePoolKindDiskless
  diskless : storagePoolKindDiskless∈kinds → ∀a∈kinds,∀b∈kinds,
    isProviderKindMixingAllowed a b mixing=true

variable {lib : Lib} {s t u : State} {rdName : String} {filter : AutoSelectFilter}
  {p : StoragePool} {x y : PlaceState × State} {ps : List StoragePool} {mixing : Bool}
  {kinds : List String} {kind : String}

theorem hasKind_firstKind (s : State) (rdName : String) :
    ((s.listByDefinition rdName).map (seededKind s.listPools)).find? (·≠"")=some kind →
      kind≠"" ∧ s.HasKind rdName s kind := by
  intro h
  have hne : kind≠"" := by simpa using find?_some h
  obtain ⟨r,hr,hkind⟩ := mem_map.mp (mem_of_find?_eq_some h)
  obtain ⟨hmem,hname⟩ := (s.mem_listByDefinition _ _).mp hr
  unfold seededKind at hkind
  rw [seededPool_listPools] at hkind
  split at hkind
  · rename_i hdiskful
    cases hpool : s.poolOf r with
    | none =>
      rw [hpool] at hkind
      exact absurd hkind.symm hne
    | some p =>
      rw [hpool] at hkind
      exact ⟨hne,r,hmem,hname,hdiskful,p,hpool,hkind⟩
  · exact absurd hkind.symm hne

theorem hasKind_unnamed
    (h : ((s.listByDefinition rdName).map (seededKind s.listPools)).find? (·≠"")=none)
    (hkind : s.HasKind rdName s kind) : kind="" := by
  obtain ⟨r,hr,hname,hdiskful,p,hpool,rfl⟩ := hkind
  have hseeded := find?_eq_none.mp h (seededKind s.listPools r)
    (mem_map.mpr ⟨r,(s.mem_listByDefinition _ _).mpr ⟨hr,hname⟩,rfl⟩)
  unfold seededKind at hseeded
  rw [seededPool_listPools,if_pos hdiskful,hpool] at hseeded
  exact Decidable.not_not.mp fun hne => hseeded (decide_eq_true hne)

theorem Assembled.flag {st : PlaceState} (h : Assembled s rdName filter st) :
    st.allowPoolDriverMixing=s.allowsMixing := by
  obtain ⟨candidates,rfl⟩ := h
  unfold plannedPools startState newState
  rw [foldl_seed_eq]

structure Refers (s : State) (rdName : String) (filter : AutoSelectFilter) (mixing : Bool)
    (kinds : List String) (x : PlaceState × State) : Prop where
  tracks : Tracks s rdName filter x
  flag : x.1.allowPoolDriverMixing=mixing
  within : ∀kind,s.HasKind rdName x.2 kind → kind∈kinds
  pairs : ∀a b,s.HasKind rdName x.2 a → s.HasKind rdName x.2 b →
    isProviderKindMixingAllowed a b mixing=true
  named : x.1.firstKind≠"" → x.1.firstKind∈kinds ∧ ∀kind,s.HasKind rdName x.2 kind →
    isProviderKindMixingAllowed x.1.firstKind kind mixing=true
  unnamed : x.1.firstKind="" → ∀kind,s.HasKind rdName x.2 kind → kind=""

theorem Started.refers {st : PlaceState} (h : Started s rdName filter st)
    (hflag : st.allowPoolDriverMixing=s.allowsMixing) (hwithin : s.Within kinds rdName)
    (hmixes : s.Mixes rdName) : Refers s rdName filter s.allowsMixing kinds (st,s) := by
  have hfirst : st.firstKind=
      (((s.listByDefinition rdName).map (seededKind s.listPools)).find? (·≠"")).getD "" := by
    obtain ⟨mixing,tuple,rfl⟩ := h
    unfold newState
    rw [foldl_seed_eq]
    simp
  refine ⟨h.tracks,hflag,hwithin.replicas,hmixes,fun hne => ?_,fun hnil kind hkind => ?_⟩
  · cases hfind : ((s.listByDefinition rdName).map (seededKind s.listPools)).find? (·≠"") with
    | none =>
      rw [hfind] at hfirst
      exact absurd hfirst hne
    | some f =>
      rw [hfind,Option.getD_some] at hfirst
      obtain ⟨_,hf⟩ := hasKind_firstKind s rdName hfind
      rw [← hfirst] at hf
      exact ⟨hwithin.replicas _ hf,fun kind hkind => hmixes _ _ hf hkind⟩
  · cases hfind : ((s.listByDefinition rdName).map (seededKind s.listPools)).find? (·≠"") with
    | none => exact hasKind_unnamed hfind hkind
    | some f =>
      rw [hfind,Option.getD_some] at hfirst
      exact absurd (hfirst.symm.trans hnil) (hasKind_firstKind s rdName hfind).1

theorem Refers.admitted (h : Refers s rdName filter mixing kinds x)
    (hone : OneReference mixing kinds) (hp : p.providerKind∈kinds)
    (hallows : x.1.allowsKindMix p.providerKind=true) (hkind : s.HasKind rdName x.2 kind) :
    isProviderKindMixingAllowed p.providerKind kind mixing=true := by
  by_cases hf : x.1.firstKind=""
  · obtain rfl := h.unnamed hf kind hkind
    exact isProviderKindMixingAllowed_unnamed.mpr (hone.unnamed (h.within _ hkind) _ hp)
  · obtain ⟨hmem,hall⟩ := h.named hf
    have hallows : isProviderKindMixingAllowed x.1.firstKind p.providerKind mixing=true := by
      unfold allowsKindMix at hallows
      rw [h.flag,decide_eq_false hf,Bool.false_or] at hallows
      exact hallows
    by_cases hdiskless : x.1.firstKind=storagePoolKindDiskless
    · rw [hdiskless] at hmem
      exact hone.diskless hmem _ hp _ (h.within _ hkind)
    · refine isProviderKindMixingAllowed_trans hdiskless (fun hopen => hone.thin ?_) hallows
        (hall kind hkind)
      have hk := h.within _ hkind
      rcases hopen with ⟨hm,hzfs,⟨ha,hb⟩|⟨ha,hb⟩⟩
      · exact ⟨hm,ha ▸ hp,hzfs ▸ hmem,hb ▸ hk⟩
      · exact ⟨hm,hb ▸ hk,hzfs ▸ hmem,ha ▸ hp⟩

theorem Refers.hasKind (h : Refers s rdName filter mixing kinds x) (hp : p∈s.pools)
    (hplaces : Places rdName x p y) (hkind : s.HasKind rdName y.2 kind) :
    kind=p.providerKind ∨ s.HasKind rdName x.2 kind := by
  rcases h.tracks.cases hplaces with hsame|⟨r,hr⟩
  · rw [hsame] at hkind
    exact .inr hkind
  · obtain ⟨r',hr',hname,hdiskful,q,hq,rfl⟩ := hkind
    rcases (hr.mem r').mp hr' with rfl|⟨hold,_⟩
    · rw [hr.poolOf_le hp hq]
      exact .inl rfl
    · exact .inr ⟨r',hold,hname,hdiskful,q,hq,rfl⟩

theorem Refers.step (h : Refers s rdName filter mixing kinds x) (hone : OneReference mixing kinds)
    (hp : p∈s.pools) (hkind : p.providerKind∈kinds) (hplaces : Places rdName x p y) :
    Refers s rdName filter mixing kinds y := by
  have hallows := (admits_iff.mp hplaces.1).2.2.2.2.2
  have hadmitted : ∀kind,s.HasKind rdName x.2 kind →
      isProviderKindMixingAllowed p.providerKind kind mixing=true :=
    fun kind => h.admitted hone hkind hallows
  have hfirst : y.1.firstKind=
      if x.1.firstKind="" then p.providerKind else x.1.firstKind := by
    rw [hplaces.2.1]
    rfl
  refine ⟨h.tracks.step hp hplaces,?_,fun kind hk => ?_,fun a b ha hb => ?_,fun hnamed => ?_,
    fun hunnamed kind hk => ?_⟩
  · rw [hplaces.2.1]
    exact h.flag
  · rcases h.hasKind hp hplaces hk with rfl|hk
    · exact hkind
    · exact h.within kind hk
  · rcases h.hasKind hp hplaces ha with rfl|ha
    · rcases h.hasKind hp hplaces hb with rfl|hb
      · exact isProviderKindMixingAllowed_self
      · exact hadmitted b hb
    · rcases h.hasKind hp hplaces hb with rfl|hb
      · rw [isProviderKindMixingAllowed_comm]
        exact hadmitted a ha
      · exact h.pairs a b ha hb
  · rw [hfirst] at hnamed ⊢
    by_cases hf : x.1.firstKind=""
    · rw [if_pos hf]
      refine ⟨hkind,fun kind hk => ?_⟩
      rcases h.hasKind hp hplaces hk with rfl|hk
      · exact isProviderKindMixingAllowed_self
      · exact hadmitted kind hk
    · rw [if_neg hf]
      refine ⟨(h.named hf).1,fun kind hk => ?_⟩
      rcases h.hasKind hp hplaces hk with rfl|hk
      · unfold allowsKindMix at hallows
        rw [h.flag,decide_eq_false hf,Bool.false_or] at hallows
        exact hallows
      · exact (h.named hf).2 kind hk
  · rw [hfirst] at hunnamed
    by_cases hf : x.1.firstKind=""
    · rw [if_pos hf] at hunnamed
      rcases h.hasKind hp hplaces hk with rfl|hk
      · exact hunnamed
      · exact h.unnamed hf kind hk
    · rw [if_neg hf] at hunnamed
      exact absurd hunnamed hf

theorem Refers.run (h : Refers s rdName filter mixing kinds x) (hone : OneReference mixing kinds)
    (hrun : Run (Places rdName) x ps y) (hps : ∀p∈ps,p∈s.pools ∧ p.providerKind∈kinds) :
    Refers s rdName filter mixing kinds y :=
  hrun.invariant_of _ _ hps (fun _ _ _ hp hx hstep => hx.step hone hp.1 hp.2 hstep) h

theorem Eligible.kind_ne (h : Eligible lib s rdName filter p) :
    p.providerKind≠storagePoolKindDiskless := by
  have hmatch := h.matchesFilter
  unfold matchesPoolFilter at hmatch
  simp only [Bool.and_eq_true] at hmatch
  exact of_decide_eq_true hmatch.1.1.1.1.1.1

theorem hasKind_rest (hrest : SameRest s t) (h : t.HasKind rdName u kind) :
    s.HasKind rdName u kind := by
  obtain ⟨r,hr,hname,hdiskful,p,hp,hkind⟩ := h
  exact ⟨r,hr,hname,hdiskful,p,(poolOf_rest hrest r).symm.trans hp,hkind⟩

theorem place_keeps_mixes {r : Except Err Placement} (hone : OneReference s.allowsMixing kinds)
    (hwithin : s.Within kinds rdName) (hmixes : s.Mixes rdName)
    (h : Exec Step (place lib rdName filter) s r t) : t.Mixes rdName := by
  obtain ⟨filter',_,rfl|⟨gated,plan,hbuild,hsome,hexec⟩⟩ := exec_place_plan h
  · exact hmixes
  · obtain ⟨hplan,hstate⟩ := (yields_buildPlan _ _ hbuild).2 gated rfl plan hsome
    obtain ⟨ps₁,ps₂,u,hfilled⟩ := hplan.filled hexec
    obtain ⟨st',hrun⟩ := hfilled.run
    have hrefers : Refers s rdName filter' s.allowsMixing kinds (st',u) := by
      refine (hplan.state.refers hstate.flag hwithin hmixes).run hone hrun fun p hp => ?_
      have helig := hfilled.eligible p hp
      exact ⟨helig.mem,hwithin.pools p helig.mem helig.kind_ne⟩
    have hrest : SameRest s t := hrefers.tracks.rest.trans hfilled.diskless.rest
    have hold : ∀kind,t.HasKind rdName t kind → s.HasKind rdName u kind := by
      intro kind hkind
      obtain ⟨r,hr,hname,hdiskful,hpool⟩ := hasKind_rest hrest hkind
      exact ⟨r,hfilled.diskful hr hdiskful,hname,hdiskful,hpool⟩
    intro a b ha hb
    unfold State.allowsMixing
    rw [hrest.controllerProps]
    exact hrefers.pairs a b (hold a ha) (hold b hb)

section Third

def poolOn (node kind : String) : StoragePool := ⟨node,"pool",kind,0,0,"",false,[]⟩

def replicaOn (node : String) : Resource :=
  ⟨"pvc-1",node,[],[(storPoolNameProp,"pool")],false,false,[]⟩

def third (mixing : Bool) (f b a : String) : State where
  nodes := .empty
  pools := ⟨[poolOn "n1" f,poolOn "n2" b,poolOn "n3" a],by simp [StoragePool.key,poolKey,poolOn]⟩
  resources := ⟨[replicaOn "n1",replicaOn "n2"],by decide⟩
  definitions := ⟨[⟨"pvc-1","",[],none,[]⟩],by decide⟩
  groups := .empty
  controllerProps := if mixing then [(propAllowMixingStoragePoolDriver,"true")] else []

theorem third_free (mixing : Bool) (f b a : String) :
    ∀r∈(third mixing f b a).resources,r.key≠(newReplica "pvc-1" (poolOn "n3" a)).key :=
  show ∀r∈[replicaOn "n1",replicaOn "n2"],r.key≠resourceCRDName "pvc-1" "n3" by decide

def thirdPlaced (mixing : Bool) (f b a : String) : State :=
  {third mixing f b a with
    resources := (third mixing f b a).resources.insert _ (third_free mixing f b a)}

def onThird : AutoSelectFilter := {AutoSelectFilter.empty with placeCount := 3, nodeNameList := ["n3"]}

variable {f a b : String}

theorem listPools_third : (third mixing f b a).listPools=
    [poolOn "n1" f,poolOn "n2" b,poolOn "n3" a] :=
  sortBy_eq_self (show [("n1","pool"),("n2","pool"),("n3","pool")].Pairwise _ by decide)

theorem listByDefinition_third : (third mixing f b a).listByDefinition "pvc-1"=
    [replicaOn "n1",replicaOn "n2"] :=
  sortBy_eq_self (show [("n1",""),("n2","")].Pairwise _ by decide)

theorem gates_third (ha : a≠storagePoolKindDiskless) :
    gatedPools lib (third mixing f b a) onThird 0=([poolOn "n3" a],.empty) := by
  have hnodes : (third mixing f b a).listNodes=[] := rfl
  unfold gatedPools
  rw [listPools_third,hnodes]
  simp [applyCapacityAndOversubGates,applyGate,matchesPoolFilter,onThird,AutoSelectFilter.empty,
    autoplaceExcludedNodes,disabledNodes,poolOn,ha]

theorem allowsMixing_third : (third mixing f b a).allowsMixing=mixing := by
  cases mixing with
  | false => rfl
  | true =>
    change Text.equalFold (Props.get [(propAllowMixingStoragePoolDriver,"true")]
      propAllowMixingStoragePoolDriver) "true"=true
    decide

theorem thirdState_fields : (startState (third mixing f b a) "pvc-1" onThird).filter=onThird ∧
    (startState (third mixing f b a) "pvc-1" onThird).allowPoolDriverMixing=mixing ∧
    (startState (third mixing f b a) "pvc-1" onThird).taken=["n2","n1"] ∧ (startState (third mixing f b a) "pvc-1" onThird).upgradeable=[] ∧
    (startState (third mixing f b a) "pvc-1" onThird).firstKind=if f="" then b else f := by
  unfold startState newState
  rw [listByDefinition_third,listPools_third,foldl_cons,foldl_cons,foldl_nil,
    allowsMixing_third]
  simp [seed,Resource.diskful,Props.get,StoragePool.key,poolKey,notePool,
    poolOn,replicaOn]

theorem admits_third (h : f="" ∧ b="" ∨ f≠"" ∧ isProviderKindMixingAllowed f a mixing=true) :
    (startState (third mixing f b a) "pvc-1" onThird).admits (poolOn "n3" a)=true := by
  obtain ⟨hfilter,hmixing,htaken,_,hfirst⟩ := @thirdState_fields mixing f a b
  rw [admits_iff,hfilter,htaken]
  refine ⟨show "n3"∉["n2","n1"] by decide,?_,fun k hk => (not_mem_nil hk).elim,
    fun cap hcap => (not_mem_nil hcap).elim,fun hshared => absurd rfl hshared,?_⟩
  · unfold matchesTuple
    split <;> rfl
  · unfold allowsKindMix
    rw [hfirst,hmixing]
    rcases h with ⟨rfl,rfl⟩|⟨hf,hallowed⟩
    · rfl
    · rw [if_neg hf]
      exact (Bool.or_eq_true _ _).mpr (.inr hallowed)

theorem place_third (ha : a≠storagePoolKindDiskless)
    (h : f="" ∧ b="" ∨ f≠"" ∧ isProviderKindMixingAllowed f a mixing=true) :
    ∃placement,Exec Step (place lib "pvc-1" onThird) (third mixing f b a) (.ok placement)
      (thirdPlaced mixing f b a) := by
  have hrd : (third mixing f b a).getDefinition "pvc-1"=some ⟨"pvc-1","",[],none,[]⟩ := rfl
  refine place_onePool hrd rfl ⟨rfl,rfl,rfl,rfl⟩ (gates_third ha) (admits_third h) ?_ ?_
    (third_free mixing f b a) rfl
  · rw [thirdState_fields.2.2.2.1]
    exact not_mem_nil
  · rw [listByDefinition_third]
    exact show (countDiskfulReplicas [replicaOn "n1",replicaOn "n2"] [] : Int)<3 by decide

theorem poolOf_third : (third mixing f b a).poolOf (replicaOn "n1")=some (poolOn "n1" f) ∧
    (third mixing f b a).poolOf (replicaOn "n2")=some (poolOn "n2" b) ∧
    (third mixing f b a).poolOf (replicaOn "n3")=some (poolOn "n3" a) := by
  simp [State.poolOf,Props.get,third,Keyed.get?,StoragePool.key,poolKey,poolOn,replicaOn]

theorem hasKind_third (h : (third mixing f b a).HasKind "pvc-1" (third mixing f b a) kind) :
    kind=f ∨ kind=b := by
  obtain ⟨hfirst,hsecond,_⟩ := @poolOf_third mixing f a b
  obtain ⟨r,hr,_,_,p,hp,rfl⟩ := h
  change r∈[replicaOn "n1",replicaOn "n2"] at hr
  simp only [mem_cons,not_mem_nil,or_false] at hr
  rcases hr with rfl|rfl
  · rw [hfirst] at hp
    cases hp
    exact .inl rfl
  · rw [hsecond] at hp
    cases hp
    exact .inr rfl

theorem mixes_third (h : isProviderKindMixingAllowed f b mixing=true) :
    (third mixing f b a).Mixes "pvc-1" := by
  intro c d hc hd
  rw [allowsMixing_third]
  rcases hasKind_third hc with rfl|rfl
  · rcases hasKind_third hd with rfl|rfl
    · exact isProviderKindMixingAllowed_self
    · exact h
  · rcases hasKind_third hd with rfl|rfl
    · rw [isProviderKindMixingAllowed_comm]
      exact h
    · exact isProviderKindMixingAllowed_self

theorem within_third (hf : f∈kinds) (hb : b∈kinds) (ha : a∈kinds) :
    (third mixing f b a).Within kinds "pvc-1" where
  pools := by
    intro p hp _
    change p∈[poolOn "n1" f,poolOn "n2" b,poolOn "n3" a] at hp
    simp only [mem_cons,not_mem_nil,or_false] at hp
    rcases hp with rfl|rfl|rfl
    · exact hf
    · exact hb
    · exact ha
  replicas := by
    intro kind hkind
    rcases hasKind_third hkind with rfl|rfl
    · exact hf
    · exact hb

theorem mixes_thirdPlaced (h : (thirdPlaced mixing f b a).Mixes "pvc-1") :
    isProviderKindMixingAllowed a b mixing=true := by
  obtain ⟨_,hsecond,hthird⟩ := @poolOf_third mixing f a b
  have hmixes := h a b ⟨replicaOn "n3",.tail _ (.tail _ (.head _)),rfl,rfl,_,hthird,rfl⟩
    ⟨replicaOn "n2",.tail _ (.head _),rfl,rfl,_,hsecond,rfl⟩
  have hflag : (thirdPlaced mixing f b a).allowsMixing=mixing :=
    @allowsMixing_third mixing f a b
  rw [hflag] at hmixes
  exact hmixes

end Third

theorem oneReference_of (h : ∀f∈kinds,∀b∈kinds,∀a∈kinds,a≠storagePoolKindDiskless →
    isProviderKindMixingAllowed f b mixing=true →
    (f="" ∧ b="" ∨ f≠"" ∧ isProviderKindMixingAllowed f a mixing=true) →
    isProviderKindMixingAllowed a b mixing=true) : OneReference mixing kinds := by
  refine ⟨fun hthin => ?_,fun hnil a ha => ?_,fun hdiskless a ha b hb => ?_⟩
  · obtain ⟨rfl,hlvm,hthin,hzfs⟩ := hthin
    exact absurd (h _ hthin _ hzfs _ hlvm (by decide) (by decide) (.inr ⟨by decide,by decide⟩))
      (by decide)
  · by_cases hne : a=storagePoolKindDiskless
    · exact .inr hne
    · exact isProviderKindMixingAllowed_unnamed.mp (h "" hnil "" hnil a ha hne
        isProviderKindMixingAllowed_self (.inl ⟨rfl,rfl⟩))
  · by_cases hne : a=storagePoolKindDiskless
    · exact isProviderKindMixingAllowed_iff.mpr (.inl hne)
    · exact h _ hdiskless b hb a ha hne (isProviderKindMixingAllowed_iff.mpr (.inl rfl))
        (.inr ⟨by decide,isProviderKindMixingAllowed_iff.mpr (.inl rfl)⟩)

end Blockstor.Placer
