import Blockstor.Evacuation.LastNode

namespace Blockstor.Evacuation.Drain

open Framework Shell Placer

section Iff

variable {replicas : Keyed Resource.key} {victim x : Resource} {vds : List VolumeDefinition}
  {s t u : State}

theorem draining_lastNode (hmem : victim∈replicas) (hdiskful : victim.diskful=true)
    (hne : x.nodeName≠victim.nodeName) :
    Draining (lastNode replicas victim x vds) replicas victim vds := by
  refine ⟨rfl,by rw [lastNode_getDefinition]; rfl,⟨⟨victim.nodeName,[nodeFlagEvicted],[]⟩,
    .tail _ (List.mem_map.mpr ⟨victim.nodeName,?_,rfl⟩),rfl,.head _,by simp [nodeFlagLost,nodeFlagEvicted]⟩,
    hmem,hdiskful⟩
  simp only [otherNodes,List.mem_filter,List.mem_dedup,List.mem_map,decide_eq_true_eq]
  exact ⟨⟨victim,hmem,rfl⟩,hne.symm⟩

theorem mem_delete {n : String} {r : Resource} (h : r∈(serve s (.delete n)).2.resources) :
    ∃w∈s.resources,w.name=r.name ∧ w.nodeName=r.nodeName ∧ w.volumes=r.volumes := by
  simp only [serve] at h
  split at h
  · exact ⟨r,h,rfl,rfl,rfl⟩
  · split at h
    · rcases (s.resources.mem_modify _ _ Resource.key_markDeleting _).mp h with ⟨w,hw,_,rfl⟩|⟨hr,_⟩
      · exact ⟨w,hw,rfl,rfl,rfl⟩
      · exact ⟨r,hr,rfl,rfl,rfl⟩
    · exact ⟨r,((s.resources.mem_erase _ _).mp h).1,rfl,rfl,rfl⟩

theorem completeCount_last (hx : x∈replicas) (hname : x.name=victim.name)
    (hnot : completeFor vds x=false) (hhosts : Hosts replicas x u)
    (hrest : SameRest (lastNode replicas victim x vds) u) (n : String) :
    completeCount (serve u (.delete n)).2 victim vds=0 := by
  refine List.countP_eq_zero.mpr fun r hr hcounts => ?_
  obtain ⟨hmem,hrname⟩ := (State.mem_listByDefinition _ _ _).mp hr
  obtain ⟨w,hw,hwname,hwnode,hwvolumes⟩ := mem_delete hmem
  obtain ⟨v,hv,hsame⟩ := hhosts.2 w hw
  rw [Bool.and_eq_true,elsewhere_rest (delete_rest u n),elsewhere_rest hrest] at hcounts
  have hnode : v.nodeName=x.nodeName := by
    by_contra hne
    have hdrained : (drained (lastNode replicas victim x vds)).contains v.nodeName=true :=
      drained_other hv hne
    rw [← hsame.nodeName,hwnode] at hdrained
    have hstays := hcounts.1
    rw [elsewhere_eq,hdrained] at hstays
    simp at hstays
  obtain rfl := eq_last hx hname hv ((hsame.name.symm.trans hwname).trans hrname) hnode
  have hvolumes : r.volumes=v.volumes := hwvolumes.symm.trans hsame.volumes
  have hcomplete := hcounts.2
  unfold completeFor reportsUpToDate at hcomplete hnot
  rw [hvolumes,hnot] at hcomplete
  cases hcomplete

theorem readyCount_last (hne : x.nodeName≠victim.nodeName) (hname : x.name=victim.name)
    (hfound : Found replicas x) (hready : allVolumesUpToDate x=true) (hhosts : Hosts replicas x u)
    (hrest : SameRest (lastNode replicas victim x vds) u) :
    1 ≤ readyCount u victim.name victim.nodeName := by
  obtain ⟨y,hy,hsame,hdiskful⟩ := hhosts.1
  refine List.countP_pos_iff.mpr ⟨y,(State.mem_listByDefinition _ _ _).mpr
    ⟨hy,hsame.name.trans hname⟩,(Bool.and_eq_true _ _).mpr ⟨?_,?_⟩⟩
  · rw [elsewhere_rest hrest,elsewhere_eq,hsame.nodeName,not_drained_last,hdiskful,
      decide_eq_false hne]
    rfl
  · refine seenUpToDate_iff.mpr ⟨y,(u.resources.get?_eq_some _ _).mpr ⟨hy,?_⟩,?_⟩
    · rw [hsame.key,hsame.nodeName,← hname]
      exact ((replicas.get?_eq_some _ _).mp hfound).2
    · unfold allVolumesUpToDate at hready ⊢
      rw [hsame.volumes]
      exact hready

theorem reportsAll_of_prunesLast (h : ∀s,Draining s replicas victim vds → PrunesLast s victim vds) :
    ReportsAll replicas victim vds := by
  intro hdiskful hlive hvictim x hx hname hne hfound hready
  by_contra hcovers
  have hnot : completeFor vds x=false := by
    rw [← Bool.not_eq_true]
    exact fun hcomplete => hcovers (covers_of_completeFor hcomplete)
  have hmem := ((replicas.get?_eq_some _ _).mp hvictim).1
  obtain ⟨placement,u,herr,hplace,hhosts⟩ := place_hosts noLib vds hx hname
  have hgrown := exec_place_grown hplace
  have hone := readyCount_last hne hname hfound hready hhosts hgrown.rest
  have hsource : Live (lastNode replicas victim x vds) (source victim) := ⟨victim,hvictim,hlive⟩
  obtain ⟨y,hy,_⟩ := hgrown.live hsource
  have hexec : Exec Step (migrateInto noLib victim false .empty) (lastNode replicas victim x vds)
      (.ok ()) (serve u (.delete (source victim))).2 := by
    refine exec_bind.mpr (.inr ⟨_,_,currentDiskfulTarget_serve,?_⟩)
    change Exec Step (place noLib victim.name (targetFilter (lastNode replicas victim x vds) victim
      .empty) >>= _) _ _ _
    rw [targetFilter_lastNode hmem hdiskful]
    refine exec_bind.mpr (.inr ⟨_,_,hplace,?_⟩)
    rw [herr]
    dsimp only
    rw [if_neg Bool.false_ne_true]
    refine exec_bind.mpr (.inr ⟨_,_,ready_serve,?_⟩)
    change Exec Step (if !(decide ((targetFilter (lastNode replicas victim x vds) victim
      .empty).placeCount ≤ readyCount u victim.name victim.nodeName) && _) then _ else _) _ _ _
    have htarget : oneReplica.placeCount ≤ readyCount u victim.name victim.nodeName :=
      Int.ofNat_le.mpr hone
    rw [targetFilter_lastNode hmem hdiskful,decide_eq_true htarget,decide_eq_true hone]
    exact pruneSource_serve hy
  obtain ⟨_,hcount,_⟩ := h _ (draining_lastNode hmem hdiskful hne) noLib .empty _ _ hexec _
    ⟨hsource,not_live_delete u⟩
  rw [completeCount_last hx hname hnot hhosts hgrown.rest] at hcount
  cases hcount

theorem not_deleted_update {rd : ResourceDefinition} {n : String} :
    ¬Deleted s (serve s (.updateDefinition rd)).2 n := by
  rintro ⟨⟨r,hget,hr⟩,hgone⟩
  refine hgone ⟨r,?_,hr⟩
  simp only [serve]
  split <;> exact hget

end Iff

section Syncing

def onDrained : Resource :=
  ⟨"pvc-1","n1",[],[],true,false,[⟨0,"UpToDate"⟩,⟨1,"UpToDate"⟩]⟩

def syncing : State where
  nodes := ⟨[⟨"n1",[nodeFlagEvicted],[]⟩,⟨"n2",[],[]⟩],by decide⟩
  pools := ⟨[⟨"n2","pool",storagePoolKindLVM,4096,4096,"",false,[]⟩],by decide⟩
  resources := ⟨[onDrained,⟨"pvc-1","n2",[],[],true,false,[⟨0,"UpToDate"⟩]⟩],by decide⟩
  definitions := ⟨[⟨"pvc-1","rg",[],none,[⟨0,1024⟩,⟨1,1024⟩]⟩],List.nodup_singleton "pvc-1"⟩
  groups := ⟨[⟨"rg",.empty⟩],List.nodup_singleton "rg"⟩
  controllerProps := []

end Syncing

end Blockstor.Evacuation.Drain
