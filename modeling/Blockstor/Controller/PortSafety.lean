import Blockstor.Controller.Identity

namespace Blockstor.Controller

open Drbd Framework Shell Resource

def Resource.hostName (r : Resource) : String := r.spec.nodeName

abbrev DistinctPorts : Cluster → Prop := Distinct hostName effectivePort

/-- The allocation of a port for `a` cannot hit a port in use: a port of the node's range that
another replica has in its status only is not the preferred port of the definition, and a port
below it is in no spec; and the scan does not run past the last value of its type while a replica
of the node has the first one. -/
def PortAvoidsLegacy (c : Cluster) (a : Resource) : Prop :=
  ∀low high,portRangeIn a.spec.nodeName c=.ok (low,high) →
  ∀b∈c.resources,b.name≠a.name → b.hostName=a.hostName → ∀u,b.effectivePort=some u →
    let taken := takenPortsOnNode a.spec.nodeName a.name c.resources.items
    (b.spec.drbdPort=none → low ≤ u → u ≤ high →
      c.preferredPort a.spec.resourceDefinitionName≠some u ∧ ∃w,low ≤ w ∧ w<u ∧ w∉taken) ∧
    (u=Int32.minValue → u<low → high=Int32.maxValue → ∃w,low ≤ w ∧ w∉taken)

def portGuard (c : Cluster) : Event → Prop
  | .ensure name _ => ∀a∈c.resources,a.name=name → a.effectivePort=none → PortAvoidsLegacy c a
  | .create r => ∀p,r.effectivePort=some p → Unused hostName effectivePort c r p
  | _ => True

section

variable {c t : Cluster}

theorem mem_takenPortsOnNode {node self : String} {list : List Resource} {p : Int32} :
    p∈takenPortsOnNode node self list ↔
      ∃b∈list,b.hostName=node ∧ b.name≠self ∧ b.spec.drbdPort=some p := by
  simp only [takenPortsOnNode,List.mem_filterMap,List.mem_filter,decide_eq_true_eq,
    hostName,and_assoc]

theorem pickedPort_unused (a : Resource) (p : Int32) (hpick : PickedPort c a p)
    (havoid : PortAvoidsLegacy c a) : Unused hostName effectivePort c a p := by
  obtain ⟨low,high,hrange,hpick⟩ := hpick
  intro b hb hne hhost hp
  obtain ⟨hlegacy,hwrap⟩ := havoid low high hrange b hb hne hhost p hp
  -- A port in the spec of another replica is taken, and what is handed out is not.
  have hspec (hfree : p∉takenPortsOnNode a.spec.nodeName a.name c.resources.items) :
      b.spec.drbdPort=none := by
    cases hs : b.spec.drbdPort with
    | none => rfl
    | some q =>
      have hq : q=p := by simpa [effectivePort,hs] using hp
      subst hq
      exact absurd (mem_takenPortsOnNode.mpr ⟨b,hb,hhost,hne,hs⟩) hfree
  rcases hpick with ⟨hpreferred,hlo,hhi,hfree⟩|⟨hlo,hhi,hfree,hbelow⟩|⟨hmax,hmin,hlt,hfull⟩
  · exact (hlegacy (hspec hfree) hlo hhi).1 hpreferred
  · obtain ⟨_,w,hw,hwp,hwfree⟩ := hlegacy (hspec hfree) hlo hhi
    exact hwfree (hbelow w hw hwp)
  · obtain ⟨w,hw,hwfree⟩ := hwrap hmin hlt hmax
    exact hwfree (hfull w hw)

theorem distinctPorts_step (e : Event) (h : DistinctPorts c) (hguard : portGuard c e)
    (hstep : Transition c e t) : DistinctPorts t := by
  cases e with
  | ensure name res =>
    refine h.settled (ensureDRBDIDs_settled res hstep) fun a ha hn b hab => ⟨hab.node,?_⟩
    intro p hp
    rcases hab.port with he|⟨hnone,q,hq,hpick⟩
    · exact .inl (he ▸ hp)
    · obtain rfl := Option.some.inj (hq.symm.trans hp)
      exact .inr ⟨hnone,pickedPort_unused a q hpick (hguard a ha hn hnone)⟩
  | create r =>
    obtain ⟨hfree,rfl⟩ := hstep
    exact h.create r hfree hguard
  | delete name =>
    obtain rfl := hstep
    exact h.delete name
  | observe name connections =>
    obtain rfl := hstep
    exact h.observe name connections (fun _ => rfl) (fun _ => rfl)

end

/-- Port safety through an upgrade: in every run whose allocations avoid the ports that stand in a
status only, the ports of each node stay distinct in every state reached. -/
theorem port_safety_of_avoiding (c : Cluster) (hc : DistinctPorts c) (es : List Event) (t : Cluster)
    (hrun : Run (guarded portGuard Transition) c es t) : DistinctPorts t :=
  hrun.invariant DistinctPorts (fun _ e _ h hs => distinctPorts_step e h hs.1 hs.2) hc

/-- A node with a replica from before the upgrade, whose port stands in its status only, and a new
replica of another definition. -/
def upgradedNode (legacyPort : Int32) : Cluster where
  resources := ⟨[(newReplica "pvc-1.a" "pvc-1" "a").withStatus (some 0) (some legacyPort) none,
    newReplica "pvc-2.a" "pvc-2" "a"],
    by change ["pvc-1.a","pvc-2.a"].Nodup; decide⟩
  definitions := .empty
  nodes := fun _ => none
  extraProps := none

/-- The new replica is given the port the old one listens on. -/
theorem new_replica_takes_legacy_port : ¬∀(c : Cluster) (es : List Event) (t : Cluster),
    DistinctPorts c → Run Transition c es t → DistinctPorts t := by
  intro h
  let t := (simulate serve (ensureDRBDIDs "pvc-2.a") (upgradedNode 20000)).2
  have hstep : Transition (upgradedNode 20000) (.ensure "pvc-2.a" _) t :=
    exec_simulate serve step_serve _ _
  have ht := h (upgradedNode 20000) _ t (by decide) (.cons _ _ _ _ _ hstep (.nil t))
  exact absurd ht (by decide)

/-- Higher up in the range the old port is safe. -/
theorem new_replica_avoids_high_legacy_port : DistinctPorts (upgradedNode 20005) ∧
    DistinctPorts (simulate serve (ensureDRBDIDs "pvc-2.a") (upgradedNode 20005)).2 := by
  refine ⟨by decide,port_safety_of_avoiding (upgradedNode 20005) (by decide) [.ensure "pvc-2.a" _] _
    (.cons _ _ _ _ _ ⟨?_,exec_simulate serve step_serve _ _⟩ (.nil _))⟩
  intro a ha _ _ low high hrange b hb _ _ u hu
  have hnode : ∀r∈(upgradedNode 20005).resources.items,r.spec.nodeName="a" ∧
      takenPortsOnNode r.spec.nodeName r.name (upgradedNode 20005).resources.items=[] ∧
      (r.effectivePort=none ∨ r.effectivePort=some 20005) := by decide
  obtain ⟨ha,htaken,_⟩ := hnode a ha
  have hdefault : portRangeIn "a" (upgradedNode 20005)=.ok (20000,20999) := rfl
  rw [ha,hdefault] at hrange
  cases hrange
  rw [htaken]
  obtain ⟨_,_,hnone|hsome⟩ := hnode b hb
  · rw [hnone] at hu
    cases hu
  · obtain rfl := Option.some.inj (hsome.symm.trans hu)
    exact ⟨fun _ _ _ => ⟨nofun,20000,by decide⟩,fun hmin => absurd hmin (by decide)⟩

end Blockstor.Controller
