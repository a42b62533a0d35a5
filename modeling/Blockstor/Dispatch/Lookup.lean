import Blockstor.Dispatch.Desired

namespace Blockstor.Dispatch

open Framework Text Dict List

def peerFields : List String := [".port",".node-id",".address",".diskless"]

theorem toList_peerKey (peer field : String) :
    (peerKey peer field).toList="peer.".toList++(peer.toList++field.toList) := by
  simp [peerKey]

theorem field_suffix : ∀f∈peerFields,∀g∈peerFields,f.toList <:+ g.toList → f=g := by
  decide

theorem peerKey_inj {p q f g : String} (hf : f∈peerFields) (hg : g∈peerFields)
    (h : peerKey p f=peerKey q g) : p=q ∧ f=g := by
  have hlist : p.toList++f.toList=q.toList++g.toList := by
    have := congrArg String.toList h
    rw [toList_peerKey,toList_peerKey] at this
    exact append_cancel_left this
  have hfg : f=g := by
    have hsuffix : f.toList <:+ q.toList++g.toList := ⟨_,hlist⟩
    rcases suffix_or_suffix_of_suffix hsuffix ⟨_,rfl⟩ with h|h
    · exact field_suffix f hf g hg h
    · exact (field_suffix g hg f hf h).symm
  subst hfg
  exact ⟨String.toList_injective (append_cancel_right hlist),rfl⟩

theorem peerKey_ne {p f key : String} (h : cutPrefix "peer." key=none) : peerKey p f≠key := by
  intro hkey
  have hsome : cutPrefix "peer." key=some (p++f) :=
    cutPrefix_eq_some.mpr (by rw [← hkey,peerKey,String.append_assoc])
  rw [hsome] at h
  cases h

/-- Not an option that comes from the resolved properties, and not one that is kept secret. -/
def OwnKey (key : String) : Prop :=
  cutPrefix propNamespace key=none ∧ isPlaintextPropKey key=false

instance (key : String) : Decidable (OwnKey key) := inferInstanceAs (Decidable (_ ∧ _))

theorem ownKey_peerKey (p f : String) : OwnKey (peerKey p f) := by
  constructor
  · cases h : cutPrefix propNamespace (peerKey p f) with
    | none => rfl
    | some rest =>
      have hlist := congrArg String.toList (cutPrefix_eq_some.mp h)
      rw [toList_peerKey] at hlist
      simp [propNamespace] at hlist
  · have hd : foldChar 'p' ≠foldChar 'D' := by decide
    have hl : foldChar 'p' ≠foldChar 'L' := by decide
    simp [isPlaintextPropKey,equalFold,toList_peerKey,hd,hl]

theorem mem_of_lookup {l : List (String × String)} {k v : String} (h : l.lookup k=some v) :
    (k,v)∈l := by
  obtain ⟨l₁,l₂,rfl,_⟩ := lookup_eq_some_iff.mp h
  simp

section

variable (unmarshal : String → Option (List Props)) (target : Resource) (peers : List Resource)
  (nodes : List Node) (pools : List StoragePool) (rd : ResourceDefinition)
  (effectiveProps : Option Props)

theorem peerEntries_fields (byName : Dict String Resource) (ids : Dict String Int32) (port : Int)
    (peer : String) :
    ((peerEntries nodes pools byName ids port peer).map Prod.fst).Sublist peerFields := by
  rw [peerEntries,map_append]
  split
  · exact show [".port",".node-id",".address",".diskless"].Sublist peerFields by decide
  · exact show [".port",".node-id",".address"].Sublist peerFields by decide

def allPeerEntries (ids : Dict String Int32) (port : Int) (peerNames : List String) :
    List (String × String) :=
  peerNames.flatMap fun peer => (peerEntries nodes pools (peerByName peers) ids port peer).map
    fun x => (peerKey peer x.1,x.2)

theorem addPeerEntries_eq (drbdOpts : Props) (peerNames : List String) (port : Int)
    (ids : Dict String Int32) : addPeerEntries drbdOpts peerNames peers nodes pools port ids=
      drbdOpts.setAll (allPeerEntries peers nodes pools ids port peerNames) := by
  unfold addPeerEntries setAll allPeerEntries
  rw [foldl_flatMap]

theorem mem_allPeerEntries {ids : Dict String Int32} {port : Int} {peerNames : List String}
    {x : String × String} : x∈allPeerEntries peers nodes pools ids port peerNames ↔
      ∃peer∈peerNames,∃y∈peerEntries nodes pools (peerByName peers) ids port peer,
        (peerKey peer y.1,y.2)=x := by
  simp only [allPeerEntries,mem_flatMap,mem_map]

theorem drbdOptions_find {key : String} (hkey : OwnKey key) :
    (BuildDesired unmarshal target peers nodes pools rd effectiveProps).drbdOptions.find key=
      ((empty.setAll (ownOptions target peers nodes pools rd)).setAll
        (allPeerEntries peers nodes pools (idOf target peers) (readDRBDPort target)
          (dropped target peers))).find key := by
  obtain ⟨hnone,hplain⟩ := hkey
  change (dropPlaintextProps (mergeEffectiveProps _ _ _).2).find key=_
  rw [dropPlaintextProps,find_keep,hplain,Bool.not_false,if_pos rfl,addPeerEntries_eq]
  cases effectiveProps with
  | none => rfl
  | some props =>
    change (copy _ (keep _ props)).find key=_
    rw [find_copy,find_keep,hnone]
    rfl

theorem drbdOptions_own {key : String} (hkey : OwnKey key)
    (hpeer : cutPrefix "peer." key=none) :
    (BuildDesired unmarshal target peers nodes pools rd effectiveProps).drbdOptions.find key=
      (empty.setAll (ownOptions target peers nodes pools rd)).find key := by
  rw [drbdOptions_find _ _ _ _ _ _ _ hkey]
  refine find_setAll_of_ne (fun x hx => ?_) _
  obtain ⟨peer,_,y,_,rfl⟩ := (mem_allPeerEntries _ _ _).mp hx
  exact peerKey_ne hpeer

variable {target peers nodes pools rd} in
theorem ownOptions_keys {x : String × String} (h : x∈ownOptions target peers nodes pools rd) :
    cutPrefix "peer." x.1=none := by
  have hkey : x.1∈["port","address","minor","node-id","auto-primary"] := by
    unfold ownOptions at h
    rcases mem_append.mp h with h|h
    · rcases mem_append.mp h with h|h
      · simp only [mem_cons,not_mem_nil,or_false] at h
        rcases h with rfl|rfl|rfl <;> simp
      · split at h
        · cases h
        · obtain rfl := mem_singleton.mp h
          simp
    · split at h
      · obtain rfl := mem_singleton.mp h
        simp
      · cases h
  revert hkey
  generalize x.1=key
  revert key
  decide

variable {target peers} in
theorem drbdOptions_peer {peer field : String} (hpeer : peer∈dropped target peers)
    (hfield : field∈peerFields) :
    (BuildDesired unmarshal target peers nodes pools rd effectiveProps).drbdOptions.find
      (peerKey peer field)=(peerEntries nodes pools (peerByName peers) (idOf target peers)
        (readDRBDPort target) peer).lookup field := by
  rw [drbdOptions_find _ _ _ _ _ _ _ (ownKey_peerKey peer field)]
  have hfields (q : String) := peerEntries_fields nodes pools (peerByName peers)
    (idOf target peers) (readDRBDPort target) q
  -- an entry under this key is one of this field of this peer
  have hkey (x : String × String) (hx : x∈allPeerEntries peers nodes pools (idOf target peers)
      (readDRBDPort target) (dropped target peers)) (hx' : x.1=peerKey peer field) :
      (field,x.2)∈peerEntries nodes pools (peerByName peers) (idOf target peers)
        (readDRBDPort target) peer := by
    obtain ⟨q,_,y,hy,rfl⟩ := (mem_allPeerEntries _ _ _).mp hx
    have hy' := (hfields q).subset (mem_map_of_mem hy)
    obtain ⟨rfl,rfl⟩ := peerKey_inj hy' hfield hx'
    exact hy
  have hnodup := (hfields peer).nodup (by decide)
  cases hl : (peerEntries nodes pools (peerByName peers) (idOf target peers)
      (readDRBDPort target) peer).lookup field with
  | none =>
    refine (find_setAll_of_ne (fun x hx hx' => ?_) _).trans ?_
    · simpa using lookup_eq_none_iff.mp hl _ (hkey x hx hx')
    · exact find_setAll_of_ne (fun x hx => (peerKey_ne (ownOptions_keys hx)).symm) _
  | some value =>
    have hmem := mem_of_lookup hl
    refine find_setAll_of_eq
      ((mem_allPeerEntries _ _ _).mpr ⟨peer,hpeer,_,hmem,rfl⟩) (fun x hx hx' => ?_) _
    exact (Prod.mk.inj (inj_on_of_nodup_map hnodup (hkey x hx hx') hmem rfl)).2

section Own

variable {target peers nodes pools rd}

theorem find_addID (ids : Dict String Int32) (p : Resource) (name : String) :
    (addID target ids p).find name=if p.nodeName=name ∧ name≠target.nodeName ∧
      p.inactive=false ∧ 0 ≤ nodeIDOf p then some (nodeIDOf p) else ids.find name := by
  unfold addID
  split_ifs with h₁ h₂ h₃ <;> grind [find_set]

theorem idOf_self : (idOf target peers).find target.nodeName=
    if 0 ≤ nodeIDOf target then some (nodeIDOf target) else none := by
  have hkeep (ids : Dict String Int32) :
      (peers.foldl (addID target) ids).find target.nodeName=ids.find target.nodeName := by
    induction peers generalizing ids with
    | nil => rfl
    | cons p ps ih =>
      refine (ih _).trans ?_
      rw [find_addID,if_neg fun h => h.2.1 rfl]
  refine (hkeep _).trans ?_
  split
  · rw [find_set,if_pos rfl]
  · rfl

theorem drbdOptions_nodeID (h : 0 ≤ nodeIDOf target) :
    (BuildDesired unmarshal target peers nodes pools rd effectiveProps).drbdOptions.find "node-id"=
      some (formatInt (nodeIDOf target).toInt) := by
  rw [drbdOptions_own _ _ _ _ _ _ _ (by decide) (by decide),ownOptions,idOf_self,if_pos h]
  cases electsSelf target peers rd <;> simp [setAll]

theorem drbdOptions_autoPrimary :
    (BuildDesired unmarshal target peers nodes pools rd effectiveProps).drbdOptions.find
      "auto-primary"=if electsSelf target peers rd then some boolPropTrue else none := by
  rw [drbdOptions_own _ _ _ _ _ _ _ (by decide) (by decide),ownOptions]
  cases (idOf target peers).find target.nodeName <;> cases electsSelf target peers rd <;>
    simp [setAll]

end Own

section Stored

variable {replicas : Keyed Resource.nodeName} {target p : Resource} {name : String}

theorem peerByName_find (name : String) :
    (peerByName replicas.items).find name=replicas.get? name := by
  have hkeys : (replicas.items.map fun p => (p.nodeName,p)).map Prod.fst=
      replicas.items.map Resource.nodeName := by
    rw [map_map]
    rfl
  have hnodup : ((replicas.items.map fun p => (p.nodeName,p)).map Prod.fst).Nodup := by
    rw [hkeys]
    exact replicas.nodup
  rw [peerByName,find_setAll _ hnodup,find_empty,Option.or_none]
  refine Option.ext fun p => ?_
  rw [find_eq_some,replicas.get?_eq_some]
  constructor
  · intro h
    obtain ⟨q,hq,heq⟩ := mem_map.mp h
    cases heq
    exact ⟨hq,rfl⟩
  · rintro ⟨hp,rfl⟩
    exact mem_map.mpr ⟨p,hp,rfl⟩

theorem foldl_addID_of_ne {l : List Resource} (h : ∀p∈l,p.nodeName≠name)
    (ids : Dict String Int32) : (l.foldl (addID target) ids).find name=ids.find name := by
  induction l generalizing ids with
  | nil => rfl
  | cons p l ih =>
    refine (ih (fun q hq => h q (.tail _ hq)) _).trans ?_
    rw [find_addID,if_neg fun hp => h p (.head _) hp.1]

theorem idOf_other (hname : name≠target.nodeName) {id : Int32} :
    (idOf target replicas.items).find name=some id ↔ ∃p∈replicas,p.nodeName=name ∧
      p.inactive=false ∧ 0 ≤ nodeIDOf p ∧ nodeIDOf p=id := by
  have hfold (l : List Resource) (hl : (l.map Resource.nodeName).Nodup) (ids : Dict String Int32)
      (hids : ids.find name=none) : (l.foldl (addID target) ids).find name=some id ↔
        ∃p∈l,p.nodeName=name ∧ p.inactive=false ∧ 0 ≤ nodeIDOf p ∧ nodeIDOf p=id := by
    induction l generalizing ids with
    | nil => simp [hids]
    | cons p l ih =>
      obtain ⟨hp,hnodup⟩ := nodup_cons.mp hl
      rw [foldl_cons]
      by_cases hpn : p.nodeName=name
      · have hrest : ∀q∈l,q.nodeName≠name :=
          fun q hq hqn => hp (mem_map.mpr ⟨q,hq,hqn.trans hpn.symm⟩)
        rw [foldl_addID_of_ne hrest,find_addID,hids]
        simp only [exists_mem_cons_iff]
        grind
      · rw [ih hnodup _ (by rw [find_addID,if_neg fun h => hpn h.1,hids])]
        simp only [exists_mem_cons_iff,hpn,false_and,false_or]
  refine hfold replicas.items replicas.nodup _ ?_
  split
  · rw [find_set,if_neg hname]
    rfl
  · rfl

end Stored

end

end Blockstor.Dispatch
