import Blockstor.Controller.Allocate

namespace Blockstor.Controller

open Drbd Framework Shell

section

variable {c t : Cluster}

def Cmd.isRead : Cmd → Bool
  | .patchSpec _ _ _ _ => false
  | .patchStatus _ _ _ _ => false
  | .patchVolumes _ _ => false
  | .patchInitialized _ => false
  | .patchSkipInitialSync _ _ => false
  | .updateResource _ _ => false
  | .deleteResource _ => false
  | _ => true

theorem step_read (cmd : Cmd) (h : cmd.isRead=true) (answer : Answer cmd)
    (hstep : Step c cmd answer t) : t=c := by
  cases cmd with
  | patchSpec _ _ _ _ => cases h
  | patchStatus _ _ _ _ => cases h
  | patchVolumes _ _ => cases h
  | patchInitialized _ => cases h
  | patchSkipInitialSync _ _ => cases h
  | updateResource _ _ => cases h
  | deleteResource _ => cases h
  | cachedResources => exact hstep
  | cachedNodes => exact hstep
  | _ => exact hstep.1

def Cmd.looks : Cmd → Bool
  | .getResource _ => false
  | cmd => cmd.isRead

theorem Cmd.isRead_of_looks {cmd : Cmd} (h : cmd.looks=true) : cmd.isRead=true := by
  cases cmd with
  | getResource _ => cases h
  | _ => exact h

abbrev Looks {α : Type} (p : Prog α) : Prop := p.Calls fun cmd => cmd.looks=true

theorem Looks.stays {α : Type} {p : Prog α} (h : Looks p) : Stays Step p :=
  Calls.stays h fun _ cmd a _ hcmd hs => step_read cmd (Cmd.isRead_of_looks hcmd) a hs

theorem api_looks {cmd : Cmd} (h : cmd.looks=true) : Looks (api cmd) := by
  refine calls_ask h fun a => ?_
  cases a <;> trivial

theorem api_ok {cmd : Cmd} {a : Payload cmd} (h : Exec Step (api cmd) c (.ok a) t) :
    Step c cmd (.ok a) t := by
  obtain ⟨answer,u,hs,h⟩ := exec_ask.mp h
  cases answer with
  | error e => cases h
  | ok b =>
    obtain ⟨he,rfl⟩ := exec_pure.mp h
    cases he
    exact hs

theorem listResources_ok {l : List Resource} (h : Exec Step (api .listResources) c (.ok l) t) :
    l=c.resources.items := by
  obtain ⟨_,h|⟨e,h,_⟩⟩ := api_ok h
  · exact Except.ok.inj h
  · cases h

theorem listDefinitions_ok {l : List ResourceDefinition}
    (h : Exec Step (api .listDefinitions) c (.ok l) t) : l=c.definitions.items := by
  obtain ⟨_,h|⟨e,h,_⟩⟩ := api_ok h
  · exact Except.ok.inj h
  · cases h

theorem found_ok {α : Type} {x : Option α} {a : α} {c t : Cluster}
    (h : Reads (found x) (.ok a) c t) : x=some a := by
  obtain ⟨_,h|⟨e,h,_⟩⟩ := h
  · cases x with
    | none => cases h
    | some b => rw [Except.ok.inj h]
  · cases h

theorem found_notFound {α : Type} {x : Option α} {c t : Cluster}
    (h : Reads (found x) (.error .notFound) c t) : x=none := by
  obtain ⟨_,h|⟨e,h,he⟩⟩ := h
  · cases x with
    | none => rfl
    | some b => cases h
  · cases h
    exact absurd rfl he

section

variable (nodeName : String) (pick : NodeSpec → Option PortRange) (legacyProp clusterProp : String)
  (default : Int32 × Int32)

variable (prop : String) (r : Int32 × Int32)

def clusterRangeIn (c : Cluster) : Except RangeErr (Option (Int32 × Int32)) :=
  match c.extraProps with
  | none => .ok none
  | some extraProps => rangeProp (extraProps prop)

def nodeRangeIn (c : Cluster) : Except RangeErr (Int32 × Int32) :=
  match c.nodes nodeName with
  | none => .ok default
  | some node =>
    match pick node with
    | some typed => .ok (typed.min,typed.max)
    | none => (rangeProp (node.props legacyProp)).map fun legacy => legacy.getD default

def rangeIn (c : Cluster) : Except RangeErr (Int32 × Int32) :=
  (clusterRangeIn clusterProp c).bind fun cluster =>
    nodeRangeIn nodeName pick legacyProp (cluster.getD default) c

theorem liftRange_looks {α : Type} (x : Except RangeErr α) : Looks (liftRange x) := by
  cases x <;> trivial

theorem liftRange_ok {α : Type} (x : Except RangeErr α) (a : α)
    (h : Exec Step (liftRange x) c (.ok a) t) : x=.ok a := by
  cases x with
  | ok b =>
    obtain ⟨he,_⟩ := exec_pure.mp h
    rw [Except.ok.inj he]
  | error e => cases h

theorem clusterRange_looks : Looks (clusterRange prop) := by
  refine calls_ask rfl fun a => ?_
  rcases a with e|a
  · cases e <;> trivial
  · exact liftRange_looks _

theorem clusterRange_ok (r : Option (Int32 × Int32))
    (h : Exec Step (clusterRange prop) c (.ok r) t) : clusterRangeIn prop c=.ok r := by
  unfold clusterRangeIn
  obtain ⟨a,u,ha,h⟩ := exec_ask.mp h
  rcases a with e|props
  · cases e with
    | notFound =>
      rw [found_notFound ha]
      obtain ⟨he,_⟩ := exec_pure.mp h
      rw [Except.ok.inj he]
    | conflict => cases h
    | other => cases h
  · rw [found_ok ha]
    exact liftRange_ok _ _ h

theorem nodeRange_looks : Looks (nodeRange nodeName pick legacyProp default) := by
  refine calls_ask rfl fun a => ?_
  rcases a with e|node
  · cases e <;> trivial
  · dsimp only
    split
    · trivial
    · exact (liftRange_looks _).bind fun _ => trivial

theorem nodeRange_ok
    (h : Exec Step (nodeRange nodeName pick legacyProp default) c (.ok r) t) :
    nodeRangeIn nodeName pick legacyProp default c=.ok r := by
  unfold nodeRangeIn
  obtain ⟨a,u,ha,h⟩ := exec_ask.mp h
  rcases a with e|node
  · cases e with
    | notFound =>
      rw [found_notFound ha]
      obtain ⟨he,_⟩ := exec_pure.mp h
      rw [Except.ok.inj he]
    | conflict => cases h
    | other => cases h
  · rw [found_ok ha]
    dsimp only at h ⊢
    cases hp : pick node with
    | some typed =>
      rw [hp] at h
      obtain ⟨he,_⟩ := exec_pure.mp h
      rw [Except.ok.inj he]
    | none =>
      rw [hp] at h
      obtain ⟨legacy,w,hl,h1⟩ := exec_bind_ok.mp h
      obtain ⟨he,_⟩ := exec_pure.mp h1
      rw [Except.ok.inj he,liftRange_ok _ _ hl]
      rfl

theorem nodeRangeWithClusterFallback_looks :
    Looks (nodeRangeWithClusterFallback nodeName pick legacyProp clusterProp default) :=
  (clusterRange_looks _).bind fun _ => nodeRange_looks _ _ _ _

theorem nodeRangeWithClusterFallback_ok (h : Exec Step
    (nodeRangeWithClusterFallback nodeName pick legacyProp clusterProp default) c (.ok r) t) :
    rangeIn nodeName pick legacyProp clusterProp default c=.ok r := by
  obtain ⟨cluster,u,hcluster,hnode⟩ := exec_bind_ok.mp h
  obtain rfl := (clusterRange_looks _).stays _ _ _ hcluster
  rw [rangeIn,clusterRange_ok _ _ hcluster]
  exact nodeRange_ok _ _ _ _ r hnode

end

abbrev portRangeIn (nodeName : String) : Cluster → Except RangeErr (Int32 × Int32) :=
  rangeIn nodeName NodeSpec.drbdPortRange "DrbdOptions/TcpPortRange" "TcpPortAutoRange"
    (defaultPortMin,defaultPortMax)

def Cluster.preferredPort (c : Cluster) (rdName : String) : Option Int32 :=
  (c.definitions.get? rdName).bind ResourceDefinition.drbdPort

def FreeNodeID (c : Cluster) (target : Resource) (i : Int32) : Prop :=
  0 ≤ i ∧ i<16 ∧ i∉collectTakenNodeIDs target c.resources.items

/-- A port the allocator may hand out: the free preferred port of the definition, or what the scan
of the node's range gives. -/
def PickedPort (c : Cluster) (target : Resource) (port : Int32) : Prop :=
  ∃low high,portRangeIn target.spec.nodeName c=.ok (low,high) ∧
    let taken := takenPortsOnNode target.spec.nodeName target.name c.resources.items
    (c.preferredPort target.spec.resourceDefinitionName=some port ∧ low ≤ port ∧ port ≤ high ∧
      port∉taken) ∨ Picked taken low high port

variable (target : Resource)

theorem allocateNodeIDLocked_looks : Looks (allocateNodeIDLocked target) := by
  refine (api_looks rfl).bind fun list => ?_
  split <;> trivial

theorem allocateNodeIDLocked_ok (i : Int32)
    (h : Exec Step (allocateNodeIDLocked target) c (.ok i) t) : FreeNodeID c target i := by
  obtain ⟨list,u,hl,h⟩ := exec_bind_ok.mp h
  obtain rfl := listResources_ok hl
  split at h
  · cases h
  · rename_i id hid
    obtain ⟨he,_⟩ := exec_pure.mp h
    cases he
    exact lowestFreeNodeID_some hid

variable (rdName : String) (port : Int32)

theorem rdPreferredPort_looks : Looks (rdPreferredPort rdName) := by
  refine calls_ask rfl fun a => ?_
  cases a <;> trivial

theorem rdPreferredPort_ok (h : Exec Step (rdPreferredPort rdName) c (.ok (some port)) t) :
    c.preferredPort rdName=some port := by
  obtain ⟨a,u,ha,h⟩ := exec_ask.mp h
  cases a with
  | error e => cases h
  | ok rd =>
    obtain ⟨he,_⟩ := exec_pure.mp h
    rw [Cluster.preferredPort,found_ok ha]
    exact (Except.ok.inj he).symm

theorem allocatePortForNode_looks : Looks (allocatePortForNode target) := by
  refine (nodeRangeWithClusterFallback_looks _ _ _ _ _).bind fun range => ?_
  refine (api_looks rfl).bind fun list => ?_
  refine (rdPreferredPort_looks _).bind fun seed => ?_
  split
  · trivial
  split <;> trivial

theorem allocatePortForNode_ok
    (h : Exec Step (allocatePortForNode target) c (.ok port) t) : PickedPort c target port := by
  obtain ⟨⟨low,high⟩,u,hrange,h1⟩ := exec_bind_ok.mp h
  obtain rfl := (nodeRangeWithClusterFallback_looks _ _ _ _ _).stays _ _ _ hrange
  obtain ⟨list,v,hl,h2⟩ := exec_bind_ok.mp h1
  obtain rfl := (api_looks rfl).stays _ _ _ hl
  obtain rfl := listResources_ok hl
  obtain ⟨seed,w,hseed,h3⟩ := exec_bind_ok.mp h2
  refine ⟨low,high,nodeRangeWithClusterFallback_ok _ _ _ _ _ _ hrange,?_⟩
  split at h3
  · rename_i s hs
    obtain ⟨he,_⟩ := exec_pure.mp h3
    cases he
    obtain ⟨rfl,hfree⟩ := Option.filter_eq_some_iff.mp hs
    exact .inl ⟨rdPreferredPort_ok _ _ hseed,of_decide_eq_true hfree⟩
  split at h3
  · cases h3
  · rename_i p hp
    obtain ⟨he,_⟩ := exec_pure.mp h3
    cases he
    exact .inr (lowestFree_picked _ _ _ _ hp)

theorem rdInitializedForResource_looks : Looks (rdInitializedForResource rdName) := by
  refine calls_ask rfl fun a => ?_
  rcases a with e|rd
  · cases e <;> trivial
  · trivial

theorem ifUnset_looks (value : Option Int32) {p : Prog Int32} (hp : Looks p) :
    Looks (ifUnset value p) := by
  cases value with
  | some a => trivial
  | none => exact hp

theorem ifUnset_ok (value : Option Int32) (p : Prog Int32) (a : Int32)
    (h : Exec Step (ifUnset value p) c (.ok a) t) :
    value=some a ∨ value=none ∧ Exec Step p c (.ok a) t := by
  cases value with
  | none => exact .inr ⟨rfl,h⟩
  | some b =>
    obtain ⟨he,_⟩ := exec_pure.mp h
    exact .inl (congrArg some (Except.ok.inj he).symm)

theorem stampIfUnset_looks (skip : Option Bool) (rdName : String) :
    Looks (stampIfUnset skip rdName) := by
  cases skip with
  | some b => trivial
  | none => exact (rdInitializedForResource_looks _).bind fun _ => trivial

theorem allocateResourceSpecFields_looks : Looks (allocateResourceSpecFields target) := by
  refine (ifUnset_looks _ (allocateNodeIDLocked_looks target)).bind fun _ => ?_
  refine (ifUnset_looks _ (allocatePortForNode_looks target)).bind fun _ => ?_
  exact (stampIfUnset_looks _ _).bind fun _ => trivial

theorem allocateResourceSpecFields_ok (r : Resource)
    (h : Exec Step (allocateResourceSpecFields target) c (.ok r) t) :
    ∃i p skip,r=target.withSpec (some i) (some p) skip ∧
      (target.spec.drbdNodeID=some i ∨ target.spec.drbdNodeID=none ∧ FreeNodeID c target i) ∧
      (target.spec.drbdPort=some p ∨ target.spec.drbdPort=none ∧ PickedPort c target p) := by
  obtain ⟨i,u,hi,h1⟩ := exec_bind_ok.mp h
  obtain rfl := (ifUnset_looks _ (allocateNodeIDLocked_looks target)).stays _ _ _ hi
  obtain ⟨p,v,hp,h2⟩ := exec_bind_ok.mp h1
  obtain ⟨skip,w,_,h3⟩ := exec_bind_ok.mp h2
  obtain ⟨he,_⟩ := exec_pure.mp h3
  refine ⟨i,p,skip,Except.ok.inj he,?_,?_⟩
  · rcases ifUnset_ok _ _ _ hi with h|⟨h,hi⟩
    · exact .inl h
    · exact .inr ⟨h,allocateNodeIDLocked_ok target i hi⟩
  · rcases ifUnset_ok _ _ _ hp with h|⟨h,hp⟩
    · exact .inl h
    · exact .inr ⟨h,allocatePortForNode_ok target p hp⟩

theorem allocateResourceSpecFields_exhausted (hid : target.spec.drbdNodeID=none)
    (hfull : ∀i : Int32,0 ≤ i → i<16 → i∈collectTakenNodeIDs target c.resources.items)
    (r : Except AllocErr Resource) (h : Exec Step (allocateResourceSpecFields target) c r t) :
    ∃e,r=.error e ∧ e≠.api .notFound := by
  have hnone := lowestFreeNodeID_none.mpr hfull
  rcases exec_bind.mp h with ⟨e,he,rfl⟩|⟨i,u,hi,_⟩
  · refine ⟨e,rfl,?_⟩
    rw [hid] at he
    rcases exec_bind.mp he with ⟨e',he,h'⟩|⟨list,u,hl,h'⟩
    · cases h'
      obtain ⟨answer,u,hs,h'⟩ := exec_ask.mp he
      rcases answer with e1|a
      · obtain ⟨he,_⟩ := exec_throw.mp h'
        cases he
        obtain ⟨_,hs|⟨e2,hs,hne⟩⟩ := hs
        · cases hs
        · cases hs
          intro heq
          exact hne (AllocErr.api.inj heq)
      · cases h'
    · obtain rfl := listResources_ok hl
      rw [hnone] at h'
      obtain ⟨he,_⟩ := exec_throw.mp h'
      cases he
      exact AllocErr.noConfusion
  · rcases ifUnset_ok _ _ _ hi with h|⟨_,hi⟩
    · rw [hid] at h
      cases h
    · obtain ⟨hle,hlt,hfree⟩ := allocateNodeIDLocked_ok target i hi
      exact absurd (hfull i hle hlt) hfree

end

end Blockstor.Controller
