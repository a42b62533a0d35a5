import Blockstor.Controller.Identity

namespace Blockstor.Controller

open Drbd Framework Shell Resource

def Resource.definitionName (r : Resource) : String := r.spec.resourceDefinitionName

def Occupies (a : Resource) (i : Int32) (s : Resource) : Prop :=
  s.name≠a.name ∧ s.definitionName=a.definitionName ∧
    (s.effectiveNodeID=some i ∨ ∃conn∈s.status.connections,conn.peerDRBDNodeID=some i)

abbrev DistinctNodeIDs : Cluster → Prop := Distinct definitionName effectiveNodeID

def NodeIDsInRange (c : Cluster) : Prop :=
  ∀a∈c.resources,∀i,a.effectiveNodeID=some i → 0 ≤ i ∧ i<16

def nodeIDGuard (c : Cluster) : Event → Prop
  | .create r => ∀i,r.effectiveNodeID=some i →
      Unused definitionName effectiveNodeID c r i
  | _ => True

section

variable {c t : Cluster}

variable (name : String) (a : Resource) (e : Event) (i : Int32)

theorem mem_collectTakenNodeIDs {list : List Resource} (i : Int32) :
    i∈collectTakenNodeIDs a list ↔ ∃s∈list,Occupies a i s := by
  simp only [collectTakenNodeIDs,List.mem_flatMap,List.mem_filter,decide_eq_true_eq,
    List.mem_append,Option.mem_toList,List.mem_filterMap,Occupies,definitionName,
    and_assoc]

theorem freeNodeID_unused (h : FreeNodeID c a i) :
    Unused definitionName effectiveNodeID c a i := by
  intro b hb hne hscope hi
  exact h.2.2 ((mem_collectTakenNodeIDs a i).mpr ⟨b,hb,hne,hscope,.inl hi⟩)

theorem distinctNodeIDs_step (h : DistinctNodeIDs c) (hguard : nodeIDGuard c e)
    (hstep : Transition c e t) : DistinctNodeIDs t := by
  cases e with
  | ensure name res =>
    refine h.settled (ensureDRBDIDs_settled res hstep) fun a _ _ b hab => ⟨hab.definition,?_⟩
    intro i hi
    rcases hab.nodeID with he|⟨hnone,j,hj,hfree⟩
    · exact .inl (he ▸ hi)
    · obtain rfl := Option.some.inj (hj.symm.trans hi)
      exact .inr ⟨hnone,freeNodeID_unused a j hfree⟩
  | create r =>
    obtain ⟨hfree,rfl⟩ := hstep
    exact h.create r hfree hguard
  | delete name =>
    obtain rfl := hstep
    exact h.delete name
  | observe name connections =>
    obtain rfl := hstep
    exact h.observe name connections (fun _ => rfl) (fun _ => rfl)

theorem nodeIDsInRange_step (h : NodeIDsInRange c)
    (hcreate : ∀r,e=.create r → ∀i,r.effectiveNodeID=some i → 0 ≤ i ∧ i<16)
    (hstep : Transition c e t) : NodeIDsInRange t := by
  intro b hb i hi
  cases e with
  | ensure name res =>
    have hs := ensureDRBDIDs_settled res hstep
    by_cases hn : b.name=name
    · obtain ⟨a,ha,hab⟩ := hs.target b hb hn
      rcases hab.nodeID with he|⟨_,j,hj,hlo,hhi,_⟩
      · exact h a ha i (he ▸ hi)
      · obtain rfl := Option.some.inj (hj.symm.trans hi)
        exact ⟨hlo,hhi⟩
    · exact h b ((hs.others b hn).mp hb) i hi
  | create r =>
    obtain ⟨hfree,rfl⟩ := hstep
    rcases (c.resources.mem_insert r hfree b).mp hb with hb|rfl
    · exact h b hb i hi
    · exact hcreate b rfl i hi
  | delete name =>
    obtain rfl := hstep
    exact h b ((c.resources.mem_erase name b).mp hb).1 i hi
  | observe name connections =>
    obtain rfl := hstep
    rcases (c.resources.mem_modify name (.withConnections connections) (fun _ => rfl) b).mp hb with
      ⟨a,ha,_,rfl⟩|⟨hb,_⟩
    · exact h a ha i hi
    · exact h b hb i hi

/-- The replica `name` exists with this id. -/
def HasNodeID (c : Cluster) : Prop :=
  ∃a∈c.resources,a.name=name ∧ a.effectiveNodeID=some i

theorem hasNodeID_step (e : Event) (h : HasNodeID name i c)
    (hdelete : e≠.delete name) (hstep : Transition c e t) : HasNodeID name i t := by
  obtain ⟨a,ha,hn,hi⟩ := h
  cases e with
  | ensure other res =>
    have hs := ensureDRBDIDs_settled res hstep
    by_cases hother : a.name=other
    · obtain ⟨b,hb,hab⟩ := hs.kept a ha hother
      refine ⟨b,hb,hab.name.trans hn,?_⟩
      rcases hab.nodeID with he|⟨hnone,_⟩
      · exact he.trans hi
      · rw [hi] at hnone
        cases hnone
    · exact ⟨a,(hs.others a hother).mpr ha,hn,hi⟩
  | create r =>
    obtain ⟨hfree,rfl⟩ := hstep
    exact ⟨a,(c.resources.mem_insert r hfree a).mpr (.inl ha),hn,hi⟩
  | delete other =>
    obtain rfl := hstep
    refine ⟨a,(c.resources.mem_erase other a).mpr ⟨ha,?_⟩,hn,hi⟩
    intro he
    exact hdelete (congrArg Event.delete (he.symm.trans hn))
  | observe other connections =>
    obtain rfl := hstep
    have hmem := c.resources.mem_modify other (.withConnections connections) fun _ => rfl
    by_cases hother : a.name=other
    · exact ⟨a.withConnections connections,(hmem _).mpr (.inl ⟨a,ha,hother,rfl⟩),hn,hi⟩
    · exact ⟨a,(hmem _).mpr (.inr ⟨ha,hother⟩),hn,hi⟩

theorem ensure_allocates_free (res : Except AllocErr Bool) (a b : Resource)
    (ha : a∈c.resources) (han : a.name=name) (hnone : a.effectiveNodeID=none) (hb : b∈t.resources)
    (hbn : b.name=name) (i : Int32) (hi : b.effectiveNodeID=some i)
    (hstep : Exec Step (ensureDRBDIDs name) c res t) :
    0 ≤ i ∧ i<16 ∧ ∀s∈c.resources,¬Occupies a i s := by
  obtain ⟨a',ha',hab⟩ := (ensureDRBDIDs_settled res hstep).target b hb hbn
  obtain rfl := c.resources.eq_of_key ha ha' (han.trans (hab.name.symm.trans hbn).symm)
  rcases hab.nodeID with he|⟨_,j,hj,hlo,hhi,hfree⟩
  · rw [he,hnone] at hi
    cases hi
  · obtain rfl := Option.some.inj (hj.symm.trans hi)
    refine ⟨hlo,hhi,fun s hs hocc => hfree ?_⟩
    exact (mem_collectTakenNodeIDs a j).mpr ⟨s,hs,hocc⟩

end

/-- Node-id safety over every run: ids stay distinct, in range if they and the preset ones were,
and unchanged while the replica exists; a new id is in range and neither had nor reported by a
sibling; with no such id free the run fails and writes nothing. -/
theorem nodeID_safety (c : Cluster) (hc : DistinctNodeIDs c) (es : List Event) (t : Cluster)
    (hrun : Run (guarded nodeIDGuard Transition) c es t) :
    DistinctNodeIDs t ∧
    (NodeIDsInRange c →
      (∀r,.create r∈es → ∀i,r.effectiveNodeID=some i → 0 ≤ i ∧ i<16) → NodeIDsInRange t) ∧
    (∀name i es' u,HasNodeID name i t → Run (guarded nodeIDGuard Transition) t es' u →
      (∀e∈es',e≠.delete name) → HasNodeID name i u) ∧
    (∀name res u,Exec Step (ensureDRBDIDs name) t res u →
      ∀a∈t.resources,a.name=name → a.effectiveNodeID=none →
        (∀b∈u.resources,b.name=name → ∀i,b.effectiveNodeID=some i →
          0 ≤ i ∧ i<16 ∧ ∀s∈t.resources,¬Occupies a i s) ∧
        ((∀i : Int32,0 ≤ i → i<16 → ∃s∈t.resources,Occupies a i s) →
          (∃e,res=.error e) ∧ u=t)) := by
  refine ⟨?_,?_,?_,?_⟩
  · exact hrun.invariant DistinctNodeIDs (fun s e t h hs => distinctNodeIDs_step e h hs.1 hs.2) hc
  · intro hrange hcreate
    refine hrun.invariant_of (fun e => ∀r,e=.create r → ∀i,r.effectiveNodeID=some i → 0 ≤ i ∧ i<16)
      NodeIDsInRange (fun e he r hr => hcreate r (hr ▸ he)) ?_ hrange
    exact fun s e t hlabel h hs => nodeIDsInRange_step e h hlabel hs.2
  · intro name i es' u hid hrun' hes
    exact hrun'.invariant_of (· ≠.delete name) (HasNodeID name i) hes
      (fun s e t hne h hs => hasNodeID_step name i e h hne hs.2) hid
  · intro name res u hstep a ha han hnone
    refine ⟨fun b hb hbn i hi => ?_,fun hfull => ?_⟩
    · exact ensure_allocates_free name res a b ha han hnone hb hbn i hi hstep
    · refine ensureDRBDIDs_exhausted a ((t.resources.get?_eq_some _ _).mpr ⟨ha,han⟩) hnone ?_ res
        hstep
      intro i hlo hhi
      exact (mem_collectTakenNodeIDs a i).mpr (hfull i hlo hhi)

theorem ensure_served {c : Cluster} {name : String} :
    Transition c (.ensure name (simulate serve (ensureDRBDIDs name) c).1)
      (simulate serve (ensureDRBDIDs name) c).2 :=
  exec_simulate serve step_serve _ c

/-- A replica taken over from before the upgrade, with an id beyond the allocator's limit. -/
def adoptedReplica : Cluster where
  resources := ⟨[(newReplica "pvc-1.a" "pvc-1" "a").withStatus (some 20) none none],by decide⟩
  definitions := .empty
  nodes := fun _ => none
  extraProps := none

/-- The allocator copies the id into the spec and keeps it there. -/
theorem adopted_id_stays_out_of_range : ¬∀(c : Cluster) (es : List Event) (t : Cluster),
    DistinctNodeIDs c → Run (guarded nodeIDGuard Transition) c es t → NodeIDsInRange t := by
  intro h
  let t := (simulate serve (ensureDRBDIDs "pvc-1.a") adoptedReplica).2
  have hrun : Run (guarded nodeIDGuard Transition) adoptedReplica [.ensure "pvc-1.a" _] t :=
    .cons _ _ _ _ _ ⟨trivial,ensure_served⟩ (.nil t)
  have hall := h adoptedReplica _ t (by decide) hrun
  have hmem : ∃a∈t.resources.items,a.effectiveNodeID=some 20 := by decide
  obtain ⟨a,ha,hi⟩ := hmem
  exact absurd (hall a ha 20 hi) (by decide)

/-- Node `b` joins while `a` still reports the departed peer with id 1. -/
def departedPeer : Cluster where
  resources := ⟨[((newReplica "pvc-1.a" "pvc-1" "a").withSpec (some 0) (some 20000) none).withConnections
      [{peerDRBDNodeID := some 1}],newReplica "pvc-1.b" "pvc-1" "b"],by decide⟩
  definitions := .empty
  nodes := fun _ => none
  extraProps := none

theorem joining_replica_gets_third_id : DistinctNodeIDs departedPeer ∧
    HasNodeID "pvc-1.b" 2 (simulate serve (ensureDRBDIDs "pvc-1.b") departedPeer).2 ∧
    DistinctNodeIDs (simulate serve (ensureDRBDIDs "pvc-1.b") departedPeer).2 := by
  refine ⟨by decide,?_,?_⟩
  · have hmem : ∃a∈(simulate serve (ensureDRBDIDs "pvc-1.b") departedPeer).2.resources.items,
        a.name="pvc-1.b" ∧ a.effectiveNodeID=some 2 := by decide
    exact hmem
  · exact (nodeID_safety departedPeer (by decide) [.ensure "pvc-1.b" _] _
      (.cons _ _ _ _ _ ⟨trivial,ensure_served⟩ (.nil _))).1

end Blockstor.Controller
