import Blockstor.Doors.Agree

namespace Blockstor.Doors

open Framework Placer Rest

def inherited (w : World) (rd : ResourceDefinition) : SelectFilter :=
  let rdPool := rd.props.get storPoolNameProp
  {groupFilter w rd with
    storagePool := if rdPool≠"" then rdPool else (groupFilter w rd).storagePool
    storagePoolList := if rdPool≠"" then [] else (groupFilter w rd).storagePoolList}

def SelectFilter.poolFields (f : SelectFilter) : AutoSelectFilter :=
  {AutoSelectFilter.empty with storagePool := f.storagePool,storagePoolList := f.storagePoolList}

def Honoured {α : Type} [DecidableEq α] (unset req kept merged : α) : Prop :=
  merged=if req=unset then kept else req

structure RequestWins (kept req merged : SelectFilter) : Prop where
  pools : req.storagePool≠"" ∨ req.storagePoolList≠[] → ∀pool disabled,
    matchesPoolFilter pool merged.poolFields disabled=matchesPoolFilter pool req.poolFields disabled
  poolsKept : req.storagePool="" → req.storagePoolList=[] → merged.poolFields=kept.poolFields
  placeCount : 0<req.placeCount → merged.placeCount=req.placeCount
  additional : 0<req.additionalPlaceCount → merged.additionalPlaceCount=req.additionalPlaceCount
  disklessPools : Honoured [] req.storagePoolDisklessList kept.storagePoolDisklessList
    merged.storagePoolDisklessList
  nodes : Honoured [] req.nodeNameList kept.nodeNameList merged.nodeNameList
  same : Honoured [] req.replicasOnSame kept.replicasOnSame merged.replicasOnSame
  different : Honoured [] req.replicasOnDifferent kept.replicasOnDifferent
    merged.replicasOnDifferent
  xReplicas : Honoured [] req.xReplicasOnDifferentMap kept.xReplicasOnDifferentMap
    merged.xReplicasOnDifferentMap
  providers : Honoured [] req.providerList kept.providerList merged.providerList
  diskless : Honoured false req.disklessOnRemaining kept.disklessOnRemaining
    merged.disklessOnRemaining
  notPlaceWith : Honoured [] req.notPlaceWithRsc kept.notPlaceWithRsc merged.notPlaceWithRsc
  notPlaceWithRegex : Honoured "" req.notPlaceWithRscRegex kept.notPlaceWithRscRegex
    merged.notPlaceWithRscRegex

theorem honoured_if {α : Type} [DecidableEq α] {unset req kept : α} :
    Honoured unset req kept (if req≠unset then req else kept) := by
  unfold Honoured
  split_ifs <;> trivial

theorem honoured_kept_iff {α : Type} [DecidableEq α] {unset req kept : α} :
    Honoured unset req kept kept ↔ req=unset ∨ req=kept := by
  unfold Honoured
  split_ifs with h
  · simp [h]
  · simp [h,eq_comm]

section Pools

variable {f g : SelectFilter}

theorem poolFields_agree_iff : (∀pool disabled,matchesPoolFilter pool f.poolFields disabled=
      matchesPoolFilter pool g.poolFields disabled) ↔
    ∀name,((f.storagePool="" ∨ name=f.storagePool) ∧
        (f.storagePoolList=[] ∨ name∈f.storagePoolList)) ↔
      (g.storagePool="" ∨ name=g.storagePool) ∧ (g.storagePoolList=[] ∨ name∈g.storagePoolList) := by
  constructor
  · intro h name
    have := h ⟨"n1",name,storagePoolKindLVM,0,0,"",false,[]⟩ []
    rw [Bool.eq_iff_iff,matchesPoolFilter_iff,matchesPoolFilter_iff] at this
    simpa [SelectFilter.poolFields,AutoSelectFilter.empty,storagePoolKindLVM,
      storagePoolKindDiskless] using this
  · intro h pool disabled
    have hname := h pool.storagePoolName
    rw [Bool.eq_iff_iff,matchesPoolFilter_iff,matchesPoolFilter_iff]
    simp only [SelectFilter.poolFields,AutoSelectFilter.empty]
    rw [hname]

theorem pool_over_list_iff {name : String} {list : List String} :
    (∀n,n=name ∧ (list=[] ∨ n∈list) ↔ n=name) ↔ list=[] ∨ name∈list := by
  constructor
  · intro h
    exact ((h name).mpr rfl).2
  · rintro h n
    refine ⟨And.left,?_⟩
    rintro rfl
    exact ⟨rfl,h⟩

theorem list_over_pool_iff {name : String} {list : List String} :
    (∀n,(name="" ∨ n=name) ∧ n∈list ↔ n∈list) ↔ name="" ∨ ∀n∈list,n=name := by
  constructor
  · intro h
    by_cases hname : name=""
    · exact .inl hname
    · exact .inr fun n hn => ((h n).mpr hn).1.resolve_left hname
  · rintro h n
    exact ⟨And.right,fun hn => ⟨h.imp id fun hall => hall n hn,hn⟩⟩

end Pools

/-- The pools of a request stand alone just if they meet no list, or no pool, they are not part of. -/
structure PoolsAlone (kept req : SelectFilter) : Prop where
  pool : req.storagePool≠"" → req.storagePoolList=[] →
    kept.storagePoolList=[] ∨ req.storagePool∈kept.storagePoolList
  list : req.storagePool="" → req.storagePoolList≠[] →
    kept.storagePool="" ∨ ∀n∈req.storagePoolList,n=kept.storagePool

section Merge

variable (w : World) (rd : ResourceDefinition) (req : SelectFilter)

theorem merged_pools : (mergeAutoplaceFilter w rd req).storagePool=
      (if req.storagePool≠"" then req.storagePool else (inherited w rd).storagePool) ∧
    (mergeAutoplaceFilter w rd req).storagePoolList=
      if req.storagePoolList≠[] then req.storagePoolList else (inherited w rd).storagePoolList :=
  ⟨rfl,rfl⟩

theorem pools_win_iff : (req.storagePool≠"" ∨ req.storagePoolList≠[] → ∀pool disabled,
      matchesPoolFilter pool (mergeAutoplaceFilter w rd req).poolFields disabled=
        matchesPoolFilter pool req.poolFields disabled) ↔ PoolsAlone (inherited w rd) req := by
  obtain ⟨hpool,hlist⟩ := merged_pools w rd req
  rw [poolFields_agree_iff,hpool,hlist]
  by_cases hp : req.storagePool="" <;> by_cases hl : req.storagePoolList=[]
  · exact iff_of_true (fun h => absurd h (by simp [hp,hl]))
      ⟨fun h => absurd hp h,fun _ h => absurd hl h⟩
  · simp only [hp,hl,ne_eq,not_true_eq_false,not_false_eq_true,if_false,if_true,or_true,true_imp_iff,
      true_or,true_and,false_or,list_over_pool_iff]
    exact ⟨fun h => ⟨fun hne => absurd hp hne,fun _ _ => h⟩,fun h => h.list hp hl⟩
  · simp only [hp,hl,ne_eq,not_true_eq_false,not_false_eq_true,if_false,if_true,true_or,true_imp_iff,
      and_true,false_or,pool_over_list_iff]
    exact ⟨fun h => ⟨fun _ _ => h,fun hnil => absurd hnil hp⟩,fun h => h.pool hp hl⟩
  · refine iff_of_true (fun _ n => ?_) ⟨fun _ h => absurd h hl,fun h => absurd h hp⟩
    rw [if_pos hp,if_pos hl]

/-- The request wins just if its pools stand alone, and what it must not be placed with is not set
or is what the group says. -/
theorem request_wins_iff : RequestWins (inherited w rd) req (mergeAutoplaceFilter w rd req) ↔
    PoolsAlone (inherited w rd) req ∧
      (req.notPlaceWithRsc=[] ∨ req.notPlaceWithRsc=(groupFilter w rd).notPlaceWithRsc) ∧
      (req.notPlaceWithRscRegex="" ∨
        req.notPlaceWithRscRegex=(groupFilter w rd).notPlaceWithRscRegex) := by
  constructor
  · intro h
    exact ⟨(pools_win_iff w rd req).mp h.pools,honoured_kept_iff.mp h.notPlaceWith,
      honoured_kept_iff.mp h.notPlaceWithRegex⟩
  · rintro ⟨hpools,hnot,hregex⟩
    obtain ⟨hpool,hlist⟩ := merged_pools w rd req
    exact {
      pools := (pools_win_iff w rd req).mpr hpools
      poolsKept := fun hp hl => by
        rw [SelectFilter.poolFields,SelectFilter.poolFields,hpool,hlist,hp,hl]
        rfl
      placeCount := fun h => by
        have hcount : (if req.placeCount>0 then req.placeCount
          else (inherited w rd).placeCount)=req.placeCount := if_pos h
        exact (if_neg (hcount.trans_ne (by omega))).trans hcount
      additional := fun h => if_pos h
      disklessPools := honoured_if
      nodes := honoured_if
      same := honoured_if
      different := honoured_if
      xReplicas := honoured_if
      providers := honoured_if
      diskless := by
        change (req.disklessOnRemaining || (inherited w rd).disklessOnRemaining)=_
        cases req.disklessOnRemaining <;> rfl
      notPlaceWith := honoured_kept_iff.mpr hnot
      notPlaceWithRegex := honoured_kept_iff.mpr hregex }

end Merge

def apart : SelectFilter := {SelectFilter.empty with notPlaceWithRsc := ["pvc-0"]}

theorem apart_dropped : ¬RequestWins (inherited zoned ⟨"pvc-1","",[],none,[]⟩) apart
    (mergeAutoplaceFilter zoned ⟨"pvc-1","",[],none,[]⟩ apart) := by
  intro h
  rcases honoured_kept_iff.mp h.notPlaceWith with h|h
  · exact absurd h (by decide)
  · exact absurd h (by decide)

end Blockstor.Doors
