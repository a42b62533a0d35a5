import Blockstor.Controller.MinorSpec

namespace Blockstor.Controller

open Drbd Framework Shell

/-- What a run of the allocator does to its replica: identities it has stay, identities it lacks
become ones that were free in `c`. -/
structure Identified (c : Cluster) (a b : Resource) : Prop where
  name : b.name=a.name
  definition : b.spec.resourceDefinitionName=a.spec.resourceDefinitionName
  node : b.spec.nodeName=a.spec.nodeName
  connections : b.status.connections=a.status.connections
  nodeID : b.effectiveNodeID=a.effectiveNodeID ∨
    a.effectiveNodeID=none ∧ ∃i,b.effectiveNodeID=some i ∧ FreeNodeID c a i
  port : b.effectivePort=a.effectivePort ∨
    a.effectivePort=none ∧ ∃p,b.effectivePort=some p ∧ PickedPort c a p

/-- The effect of a run on the cluster: only the replica `name` changes. -/
structure Settled (name : String) (c t : Cluster) : Prop where
  target : ∀b∈t.resources,b.name=name → ∃a∈c.resources,Identified c a b
  kept : ∀a∈c.resources,a.name=name → ∃b∈t.resources,Identified c a b
  others : ∀b,b.name≠name → (b∈t.resources ↔ b∈c.resources)
  preferred : t.preferredPort=c.preferredPort
  nodes : t.nodes=c.nodes
  extraProps : t.extraProps=c.extraProps

theorem Identified.refl (c : Cluster) (a : Resource) : Identified c a a :=
  ⟨rfl,rfl,rfl,rfl,.inl rfl,.inl rfl⟩

theorem Settled.refl (name : String) (c : Cluster) : Settled name c c where
  target b hb _ := ⟨b,hb,.refl c b⟩
  kept a ha _ := ⟨a,ha,.refl c a⟩
  others _ _ := Iff.rfl
  preferred := rfl
  nodes := rfl
  extraProps := rfl

section

variable {name : String} {c t u : Cluster}

theorem Settled.mem_taken (h : Settled name c t) (a : Resource) (ha : a.name=name) (i : Int32) :
    i∈collectTakenNodeIDs a t.resources.items ↔ i∈collectTakenNodeIDs a c.resources.items := by
  simp only [collectTakenNodeIDs,List.mem_flatMap,List.mem_filter,decide_eq_true_eq]
  constructor
  · intro hi
    obtain ⟨r,⟨hr,hne,hrd⟩,hi⟩ := hi
    exact ⟨r,⟨(h.others r (ha ▸ hne)).mp hr,hne,hrd⟩,hi⟩
  · intro hi
    obtain ⟨r,⟨hr,hne,hrd⟩,hi⟩ := hi
    exact ⟨r,⟨(h.others r (ha ▸ hne)).mpr hr,hne,hrd⟩,hi⟩

theorem Settled.mem_ports (h : Settled name c t) (node : String) (p : Int32) :
    p∈takenPortsOnNode node name t.resources.items ↔
      p∈takenPortsOnNode node name c.resources.items := by
  simp only [takenPortsOnNode,List.mem_filterMap,List.mem_filter,decide_eq_true_eq]
  constructor
  · intro hp
    obtain ⟨r,⟨hr,hnode,hne⟩,hp⟩ := hp
    exact ⟨r,⟨(h.others r hne).mp hr,hnode,hne⟩,hp⟩
  · intro hp
    obtain ⟨r,⟨hr,hnode,hne⟩,hp⟩ := hp
    exact ⟨r,⟨(h.others r hne).mpr hr,hnode,hne⟩,hp⟩

theorem picked_congr {taken taken' : List Int32} (h : ∀v,v∈taken ↔ v∈taken') (low high v : Int32) :
    Picked taken low high v ↔ Picked taken' low high v := by
  simp only [Picked,h]

theorem Settled.freeNodeID_iff (h : Settled name c t) (a : Resource) (ha : a.name=name) (i : Int32) :
    FreeNodeID t a i ↔ FreeNodeID c a i := by
  simp only [FreeNodeID,h.mem_taken a ha]

theorem Settled.pickedPort_iff (h : Settled name c t) (a : Resource) (ha : a.name=name) (p : Int32) :
    PickedPort t a p ↔ PickedPort c a p := by
  simp only [PickedPort,portRangeIn,rangeIn,clusterRangeIn,nodeRangeIn,h.nodes,h.extraProps,
    h.preferred,ha,h.mem_ports,picked_congr (h.mem_ports a.spec.nodeName)]

theorem Identified.trans (h : Settled name c t) {a b d : Resource} (ha : a.name=name)
    (hab : Identified c a b) (hbd : Identified t b d) : Identified c a d := by
  refine ⟨hbd.name.trans hab.name,hbd.definition.trans hab.definition,hbd.node.trans hab.node,
    hbd.connections.trans hab.connections,?_,?_⟩
  · rcases hbd.nodeID with he|⟨hnone,i,hi,hfree⟩
    · rw [he]
      exact hab.nodeID
    rcases hab.nodeID with he|⟨_,j,hj,_⟩
    · refine .inr ⟨he ▸ hnone,i,hi,(h.freeNodeID_iff a ha i).mp ?_⟩
      simpa only [FreeNodeID,collectTakenNodeIDs,hab.name,hab.definition] using hfree
    · rw [hj] at hnone
      cases hnone
  · rcases hbd.port with he|⟨hnone,p,hp,hpick⟩
    · rw [he]
      exact hab.port
    rcases hab.port with he|⟨_,q,hq,_⟩
    · refine .inr ⟨he ▸ hnone,p,hp,(h.pickedPort_iff a ha p).mp ?_⟩
      simpa only [PickedPort,hab.name,hab.definition,hab.node] using hpick
    · rw [hq] at hnone
      cases hnone

theorem Settled.trans (h : Settled name c t) (h' : Settled name t u) : Settled name c u where
  target d hd hn := by
    obtain ⟨b,hb,hbd⟩ := h'.target d hd hn
    have hbn : b.name=name := hbd.name.symm.trans hn
    obtain ⟨a,ha,hab⟩ := h.target b hb hbn
    exact ⟨a,ha,hab.trans h (hab.name.symm.trans hbn) hbd⟩
  kept a ha hn := by
    obtain ⟨b,hb,hab⟩ := h.kept a ha hn
    obtain ⟨d,hd,hbd⟩ := h'.kept b hb (hab.name.trans hn)
    exact ⟨d,hd,hab.trans h hn hbd⟩
  others b hb := (h'.others b hb).trans (h.others b hb)
  preferred := h'.preferred.trans h.preferred
  nodes := h'.nodes.trans h.nodes
  extraProps := h'.extraProps.trans h.extraProps

theorem settled_modify {f : Resource → Resource} {hf : ∀a,(f a).name=a.name}
    (h : ∀a∈c.resources,a.name=name → Identified c a (f a)) :
    Settled name c {c with resources := c.resources.modify name f hf} where
  target b hb hn := by
    rcases (c.resources.mem_modify _ _ hf _).mp hb with ⟨a,ha,han,rfl⟩|⟨_,hne⟩
    · exact ⟨a,ha,h a ha han⟩
    · exact absurd hn hne
  kept a ha hn := ⟨f a,(c.resources.mem_modify _ _ hf _).mpr (.inl ⟨a,ha,hn,rfl⟩),h a ha hn⟩
  others b hb := by
    constructor
    · intro hmem
      rcases (c.resources.mem_modify _ _ hf _).mp hmem with ⟨a,_,han,rfl⟩|⟨hmem,_⟩
      · exact absurd ((hf a).trans han) hb
      · exact hmem
    · intro hmem
      exact (c.resources.mem_modify _ _ hf _).mpr (.inr ⟨hmem,hb⟩)
  preferred := rfl
  nodes := rfl
  extraProps := rfl

theorem preferredPort_patchVolumes (c : Cluster) (rdName : String) (vds : List VolumeDefinition) :
    (c.patchVolumes rdName vds).preferredPort=c.preferredPort := by
  funext n
  have hget : (c.patchVolumes rdName vds).definitions.get? n=(c.definitions.get? n).map _ :=
    c.definitions.get?_modify rdName n (.withVolumes vds) fun _ => rfl
  rw [Cluster.preferredPort,Cluster.preferredPort,hget]
  cases c.definitions.get? n with
  | none => rfl
  | some rd =>
    simp only [Option.map_some,Option.bind_some]
    split
    · rfl
    · rfl

theorem ensureRDVolumeMinors_settled {rdName : String} {r : Except AllocErr (Bool × Option Int32)}
    (h : Exec Step (ensureRDVolumeMinors rdName) c r t) : Settled name c t := by
  rcases ensureRDVolumeMinors_effect rdName r h with rfl|⟨rd,vds,_,_,rfl⟩
  · exact .refl name t
  · exact {Settled.refl name c with preferred := preferredPort_patchVolumes c rdName vds}

theorem ensureRDVolumeMinors_resources {rdName : String} {r : Except AllocErr (Bool × Option Int32)}
    (h : Exec Step (ensureRDVolumeMinors rdName) c r t) : t.resources=c.resources := by
  rcases ensureRDVolumeMinors_effect rdName r h with rfl|⟨rd,vds,_,_,rfl⟩
  · rfl
  · rfl

variable (original : Resource) (r : Except AllocErr Bool)

theorem patchSpec_settled (hmem : original∈c.resources)
    (hname : original.name=name) (i p : Int32) (skip : Option Bool)
    (hi : original.effectiveNodeID=some i ∨ original.effectiveNodeID=none ∧
      FreeNodeID c original i)
    (hp : original.effectivePort=some p ∨ original.effectivePort=none ∧
      PickedPort c original p) :
    Settled name c (c.patchSpec name (some i) (some p) skip) := by
  refine settled_modify fun a ha hn => ?_
  obtain rfl := c.resources.eq_of_key ha hmem (hn.trans hname.symm)
  refine ⟨rfl,rfl,rfl,rfl,?_,?_⟩
  · rcases hi with hi|⟨hnone,hfree⟩
    · exact .inl hi.symm
    · exact .inr ⟨hnone,i,rfl,hfree⟩
  · rcases hp with hp|⟨hnone,hpick⟩
    · exact .inl hp.symm
    · exact .inr ⟨hnone,p,rfl,hpick⟩

theorem patchStatus_settled {nodeID port minor : Option Int32}
    (h : ∀a∈c.resources,a.name=name → a.spec.drbdNodeID.isSome=true ∧ a.spec.drbdPort.isSome=true) :
    Settled name c (c.patchStatus name nodeID port minor) := by
  refine settled_modify fun a ha hn => ?_
  obtain ⟨hid,hport⟩ := h a ha hn
  obtain ⟨i,hi⟩ := Option.isSome_iff_exists.mp hid
  obtain ⟨p,hp⟩ := Option.isSome_iff_exists.mp hport
  refine ⟨rfl,rfl,rfl,rfl,.inl ?_,.inl ?_⟩
  · simp [Resource.effectiveNodeID,Resource.withStatus,hi]
  · simp [Resource.effectivePort,Resource.withStatus,hp]

/-- A command that writes `after`: it lands, or reports a failure and may have landed. -/
def LandsAs (c : Cluster) (cmd : Cmd) (after : Cluster) : Prop :=
  ∀answer t,Step c cmd answer t → (∃a,answer=.ok a) ∧ t=after ∨
    (∃e,answer=.error e) ∧ (t=c ∨ t=after)

theorem patchSpec_lands (c : Cluster) (name : String) (i p : Option Int32) (skip : Option Bool) :
    LandsAs c (.patchSpec name i p skip) (c.patchSpec name i p skip) := by
  intro answer t h
  rcases Admits.writes h with ⟨ha,ht⟩|h
  · exact .inl ⟨⟨(),ha⟩,ht⟩
  · exact .inr h

theorem patchStatus_lands {c : Cluster} {name : String} {i p m : Option Int32} :
    LandsAs c (.patchStatus name i p m) (c.patchStatus name i p m) := by
  intro answer t h
  rcases h with ⟨ha,ht⟩|h
  · exact .inl ⟨⟨(),ha⟩,ht⟩
  · exact .inr h

/-- A write that may not be needed: nothing is written, or it was needed and did or did not land;
it went through if the run goes on. -/
theorem patchIfChanged_effect {changed : Bool} {cmd : Cmd} {after : Cluster}
    (hcmd : LandsAs c cmd after)
    (r : Except AllocErr (Option Unit)) (h : Exec Step (patchIfChanged changed cmd) c r t) :
    (t=c ∨ changed=true ∧ t=after) ∧
      (r=.ok (some ()) → changed=false ∧ t=c ∨ changed=true ∧ t=after) := by
  unfold patchIfChanged at h
  cases changed with
  | false =>
    obtain ⟨_,ht⟩ := exec_pure.mp h
    exact ⟨.inl ht,fun _ => .inl ⟨rfl,ht⟩⟩
  | true =>
    obtain ⟨answer,u,hs,h⟩ := exec_ask.mp h
    rcases hcmd answer u hs with ⟨⟨a,rfl⟩,rfl⟩|⟨⟨e,rfl⟩,hu⟩
    · obtain ⟨_,rfl⟩ := exec_pure.mp h
      exact ⟨.inr ⟨rfl,rfl⟩,fun _ => .inr ⟨rfl,rfl⟩⟩
    · have hr : r≠.ok (some ()) ∧ t=u := by
        cases e with
        | notFound =>
          obtain ⟨rfl,ht⟩ := exec_pure.mp h
          exact ⟨nofun,ht⟩
        | conflict =>
          obtain ⟨rfl,ht⟩ := exec_throw.mp h
          exact ⟨nofun,ht⟩
        | other =>
          obtain ⟨rfl,ht⟩ := exec_throw.mp h
          exact ⟨nofun,ht⟩
      obtain ⟨hne,rfl⟩ := hr
      refine ⟨?_,fun he => absurd he hne⟩
      rcases hu with hu|hu
      · exact .inl hu
      · exact .inr ⟨rfl,hu⟩

/-- After the first patch the spec holds both identities, whether this attempt wrote it or not. -/
theorem patchSpec_written {original x : Resource} (hmem : original∈c.resources) {i p : Int32}
    {skip : Option Bool} (h : Exec Step (patchIfChanged (!equalResourceIdentitySpec original.spec
      (original.withSpec (some i) (some p) skip).spec)
        (.patchSpec original.name (some i) (some p) skip)) c (.ok (some ())) t)
    (hx : x∈t.resources) (hn : x.name=original.name) :
    x.spec.drbdNodeID=some i ∧ x.spec.drbdPort=some p ∧ x.status=original.status := by
  rcases (patchIfChanged_effect (patchSpec_lands _ _ _ _ _) _ h).2 rfl with
    ⟨hsame,rfl⟩|⟨_,rfl⟩
  · obtain rfl := t.resources.eq_of_key hx hmem hn
    obtain ⟨hi,hp,_⟩ := of_decide_eq_true (Bool.not_eq_eq_eq_not.mp hsame)
    exact ⟨hi,hp,rfl⟩
  · rcases (c.resources.mem_modify _ (.withSpec (some i) (some p) skip) (fun _ => rfl) _).mp hx
      with ⟨b,hb,hbn,rfl⟩|⟨_,hne⟩
    · rw [c.resources.eq_of_key hb hmem hbn]
      exact ⟨rfl,rfl,rfl⟩
    · exact absurd hn hne

theorem applyDRBDIDs_settled (hmem : original∈c.resources)
    (hname : original.name=name) (i p : Int32) (skip : Option Bool)
    (hi : original.effectiveNodeID=some i ∨ original.effectiveNodeID=none ∧
      FreeNodeID c original i)
    (hp : original.effectivePort=some p ∨ original.effectivePort=none ∧
      PickedPort c original p) (r : Except AllocErr Bool)
    (h : Exec Step (applyDRBDIDs original (original.withSpec (some i) (some p) skip)) c r t) :
    Settled name c t := by
  subst hname
  rcases exec_bind.mp h with ⟨e,he,_⟩|⟨⟨minorMutated,vol0Minor⟩,u,hu,h1⟩
  · exact ensureRDVolumeMinors_settled he
  have hminors : Settled original.name c u := ensureRDVolumeMinors_settled hu
  have hres := ensureRDVolumeMinors_resources hu
  have hspec : Settled original.name u (u.patchSpec original.name (some i) (some p) skip) := by
    refine patchSpec_settled original (hres ▸ hmem) rfl i p skip ?_ ?_
    · rwa [hminors.freeNodeID_iff original rfl]
    · rwa [hminors.pickedPort_iff original rfl]
  refine hminors.trans ?_
  have hlands := patchSpec_lands u original.name (some i) (some p) skip
  rcases exec_bind.mp h1 with ⟨e,he,_⟩|⟨written,v,hv,h2⟩
  · rcases (patchIfChanged_effect hlands _ he).1 with rfl|⟨_,rfl⟩
    · exact .refl _ _
    · exact hspec
  have hsettled : Settled original.name u v := by
    rcases (patchIfChanged_effect hlands _ hv).1 with rfl|⟨_,rfl⟩
    · exact .refl _ _
    · exact hspec
  refine hsettled.trans ?_
  cases written with
  | none =>
    obtain ⟨_,rfl⟩ := exec_pure.mp h2
    exact .refl _ _
  | some w =>
    have hfull : ∀a∈v.resources,a.name=original.name →
        a.spec.drbdNodeID.isSome=true ∧ a.spec.drbdPort.isSome=true := by
      intro a ha hn
      obtain ⟨hid,hport,_⟩ := patchSpec_written (hres ▸ hmem) hv ha hn
      rw [hid,hport]
      exact ⟨rfl,rfl⟩
    have hsecond (changed : Bool) (j q m : Option Int32) (x : Except AllocErr (Option Unit))
        (y : Cluster)
        (hy : Exec Step (patchIfChanged changed (.patchStatus original.name j q m)) v x y) :
        Settled original.name v y := by
      rcases (patchIfChanged_effect patchStatus_lands x hy).1 with rfl|⟨_,rfl⟩
      · exact .refl _ _
      · exact patchStatus_settled hfull
    rcases exec_bind.mp h2 with ⟨e,he,_⟩|⟨mirrored,y,hy,h3⟩
    · exact hsecond _ _ _ _ _ _ he
    · have ht : t=y := by
        cases mirrored with
        | none => exact (exec_pure.mp h3).2
        | some _ => exact (exec_pure.mp h3).2
      rw [ht]
      exact hsecond _ _ _ _ _ _ hy

theorem allocateAndApplyDRBDIDs_settled
    (h : Exec Step (allocateAndApplyDRBDIDs name) c r t) : Settled name c t := by
  obtain ⟨a,u,ha,h1⟩ := exec_ask.mp h
  obtain rfl := step_read _ rfl _ ha
  rcases a with e|original
  · have ht : t=u := by
      cases e with
      | notFound => exact (exec_pure.mp h1).2
      | conflict => exact (exec_throw.mp h1).2
      | other => exact (exec_throw.mp h1).2
    rw [ht]
    exact .refl _ _
  obtain ⟨hmem,hname⟩ := (u.resources.get?_eq_some _ _).mp (found_ok ha)
  rcases exec_bind.mp h1 with ⟨e,he,_⟩|⟨x,v,hx,h2⟩
  · obtain ⟨x,hx,_⟩ := exec_attempt.mp he
    rw [(allocateResourceSpecFields_looks _).stays _ _ _ hx]
    exact .refl _ _
  obtain ⟨y,hy,hxy⟩ := exec_attempt.mp hx
  cases hxy
  obtain rfl := (allocateResourceSpecFields_looks _).stays _ _ _ hy
  rcases x with e|target
  · have ht : t=v := by
      split at h2
      · exact (exec_pure.mp h2).2
      · exact (exec_throw.mp h2).2
      · cases ‹Except.error e=_›
    rw [ht]
    exact .refl _ _
  obtain ⟨i,p,skip,rfl,hi,hp⟩ := allocateResourceSpecFields_ok _ _ hy
  exact applyDRBDIDs_settled original hmem hname i p skip hi hp r h2

theorem allocateAndApplyDRBDIDs_exhausted
    (hget : c.resources.get? name=some original) (hid : original.effectiveNodeID=none)
    (hfull : ∀i : Int32,0 ≤ i → i<16 → i∈collectTakenNodeIDs original c.resources.items)
    (r : Except AllocErr Bool) (h : Exec Step (allocateAndApplyDRBDIDs name) c r t) :
    (∃e,r=.error e) ∧ t=c := by
  obtain ⟨a,u,ha,h1⟩ := exec_ask.mp h
  obtain rfl := step_read _ rfl _ ha
  rcases a with e|found
  · cases e with
    | notFound =>
      rw [found_notFound ha] at hget
      cases hget
    | conflict =>
      obtain ⟨hr,ht⟩ := exec_throw.mp h1
      exact ⟨⟨_,hr⟩,ht⟩
    | other =>
      obtain ⟨hr,ht⟩ := exec_throw.mp h1
      exact ⟨⟨_,hr⟩,ht⟩
  obtain rfl := Option.some.inj (hget.symm.trans (found_ok ha))
  rcases exec_bind.mp h1 with ⟨e,he,_⟩|⟨x,v,hx,h2⟩
  · obtain ⟨x,_,hx⟩ := exec_attempt.mp he
    cases hx
  obtain ⟨y,hy,hxy⟩ := exec_attempt.mp hx
  cases hxy
  obtain rfl := (allocateResourceSpecFields_looks _).stays _ _ _ hy
  obtain ⟨e,rfl,hne⟩ := allocateResourceSpecFields_exhausted
    (backfillResourceSpecFromStatus original) hid hfull _ hy
  split at h2
  · rename_i heq
    exact absurd (Except.error.inj heq) hne
  · obtain ⟨hr,ht⟩ := exec_throw.mp h2
    exact ⟨⟨_,hr⟩,ht⟩
  · cases ‹Except.error e=_›

theorem retryOnConflict_rel {α : Type} (R : Cluster → Cluster → Prop) (hrefl : ∀c,R c c)
    (htrans : ∀c t u,R c t → R t u → R c u) (p : Prog α)
    (hp : ∀c r t,Exec Step p c r t → R c t) (n : Nat) (c t : Cluster) (r : Except AllocErr α)
    (h : Exec Step (retryOnConflict n p) c r t) : R c t := by
  induction n generalizing c with
  | zero => exact hp c r t h
  | succ n ih =>
    rcases exec_bind.mp h with ⟨e,he,_⟩|⟨x,u,hx,h1⟩
    · obtain ⟨x,hx,_⟩ := exec_attempt.mp he
      exact hp c x t hx
    obtain ⟨y,hy,_⟩ := exec_attempt.mp hx
    refine htrans c u t (hp c y u hy) ?_
    split at h1
    · obtain ⟨_,rfl⟩ := exec_pure.mp h1
      exact hrefl _
    · exact ih u h1
    · obtain ⟨_,rfl⟩ := exec_throw.mp h1
      exact hrefl _

theorem retryOnConflict_error {α : Type} (p : Prog α) (c : Cluster)
    (hp : ∀r t,Exec Step p c r t → (∃e,r=.error e) ∧ t=c) (n : Nat) (t : Cluster)
    (r : Except AllocErr α) (h : Exec Step (retryOnConflict n p) c r t) :
    (∃e,r=.error e) ∧ t=c := by
  induction n with
  | zero => exact hp r t h
  | succ n ih =>
    rcases exec_bind.mp h with ⟨e,he,_⟩|⟨x,u,hx,h1⟩
    · obtain ⟨x,_,hx⟩ := exec_attempt.mp he
      cases hx
    obtain ⟨y,hy,hxy⟩ := exec_attempt.mp hx
    cases hxy
    obtain ⟨⟨e,rfl⟩,rfl⟩ := hp _ _ hy
    split at h1
    · cases ‹Except.error e=_›
    · exact ih h1
    · obtain ⟨hr,ht⟩ := exec_throw.mp h1
      exact ⟨⟨_,hr⟩,ht⟩

theorem ensureDRBDIDs_settled (h : Exec Step (ensureDRBDIDs name) c r t) : Settled name c t :=
  retryOnConflict_rel (Settled name) (.refl name) (fun _ _ _ => .trans) _
    (fun _ r _ h => allocateAndApplyDRBDIDs_settled r h) 4 c t r h

theorem ensureDRBDIDs_exhausted
    (hget : c.resources.get? name=some original) (hid : original.effectiveNodeID=none)
    (hfull : ∀i : Int32,0 ≤ i → i<16 → i∈collectTakenNodeIDs original c.resources.items)
    (r : Except AllocErr Bool) (h : Exec Step (ensureDRBDIDs name) c r t) :
    (∃e,r=.error e) ∧ t=c :=
  retryOnConflict_error _ c
    (fun r _ h => allocateAndApplyDRBDIDs_exhausted original hget hid hfull r h) 4 t r h

end

end Blockstor.Controller
