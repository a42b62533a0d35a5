import Blockstor.Controller.PortSafety

namespace Blockstor.Controller

open Drbd Framework Shell Resource

def Resource.clearPort (r : Resource) : Resource :=
  {r with status := {r.status with drbdPort := none}}

variable (c : Cluster) (stamped : Bool) (a : Resource)

def Cluster.clearDRBDPort (name : String) : Except ApiErr Cluster :=
  match c.resources.get? name with
  | none => .error .notFound
  | some existing =>
    if existing.status.drbdPort=none then .ok c
    else .ok {c with resources := c.resources.modify name .clearPort fun _ => rfl}

section

variable {c t u : Cluster} {a : Resource} {name : String}

theorem clearDRBDPort_ok (h : c.clearDRBDPort a.name=.ok u) (ha : a∈c.resources) :
    a.clearPort∈u.resources ∧ (∀b,b.name≠a.name → (b∈u.resources ↔ b∈c.resources)) ∧
      u.nodes=c.nodes ∧ u.extraProps=c.extraProps := by
  have hget : c.resources.get? a.name=some a := (c.resources.get?_eq_some _ _).mpr ⟨ha,rfl⟩
  unfold Cluster.clearDRBDPort at h
  rw [hget] at h
  dsimp only at h
  split at h
  · rename_i hnone
    cases h
    have hsame : a.clearPort=a := by
      unfold clearPort
      rw [← hnone]
    exact ⟨hsame ▸ ha,fun _ _ => Iff.rfl,rfl,rfl⟩
  · cases h
    have hmodify := c.resources.mem_modify a.name .clearPort fun _ => rfl
    refine ⟨(hmodify _).mpr (.inl ⟨a,ha,rfl,rfl⟩),fun b hb => ?_,rfl,rfl⟩
    refine (hmodify b).trans ⟨?_,fun h => .inr ⟨h,hb⟩⟩
    rintro (⟨d,_,hd,rfl⟩|⟨h,_⟩)
    · exact absurd hd hb
    · exact h

theorem retryOnConflict_ok {α : Type} {p : Prog α} {n : Nat} {x : α}
    (h : Exec Step (retryOnConflict n p) c (.ok x) t) : ∃u,Exec Step p u (.ok x) t := by
  induction n generalizing c with
  | zero => exact ⟨c,h⟩
  | succ n ih =>
    obtain ⟨y,u,hy,h⟩ := exec_bind_ok.mp h
    obtain ⟨z,hz,he⟩ := exec_attempt.mp hy
    cases he
    split at h
    · obtain ⟨he,rfl⟩ := exec_pure.mp h
      cases he
      exact ⟨c,hz⟩
    · exact ih h
    · cases h

def Agrees (t : Cluster) (name : String) : Prop :=
  ∃p,∀x∈t.resources,x.name=name → x.spec.drbdPort=some p ∧ x.status.drbdPort=some p

theorem applyDRBDIDs_agrees {original : Resource} (hmem : original∈c.resources) {i p : Int32}
    {skip : Option Bool}
    (h : Exec Step (applyDRBDIDs original (original.withSpec (some i) (some p) skip)) c
      (.ok true) t) : Agrees t original.name := by
  obtain ⟨⟨minorMutated,vol0Minor⟩,u,hu,h1⟩ := exec_bind_ok.mp h
  have hmem : original∈u.resources := ensureRDVolumeMinors_resources hu ▸ hmem
  obtain ⟨written,v,hv,h2⟩ := exec_bind_ok.mp h1
  cases written with
  | none => cases h2
  | some _ =>
    obtain ⟨mirrored,w,hw,h3⟩ := exec_bind_ok.mp h2
    cases mirrored with
    | none => cases h3
    | some _ =>
      obtain ⟨_,rfl⟩ := exec_pure.mp h3
      refine ⟨p,fun x hx hn => ?_⟩
      rcases (patchIfChanged_effect patchStatus_lands _ hw).2 rfl with ⟨hsame,rfl⟩|⟨_,rfl⟩
      · obtain ⟨_,hport,hstatus⟩ := patchSpec_written hmem hv hx hn
        refine ⟨hport,?_⟩
        rw [hstatus]
        exact (of_decide_eq_true (by simpa using hsame :
          equalStatusIdentities original.status _=true)).2.1
      · rcases (v.resources.mem_modify _ (.withStatus _ _ _) (fun _ => rfl) _).mp hx with
          ⟨b,hb,hbn,rfl⟩|⟨_,hne⟩
        · exact ⟨(patchSpec_written hmem hv hb hbn).2.1,rfl⟩
        · exact absurd hn hne

theorem ensureDRBDIDs_agrees (h : Exec Step (ensureDRBDIDs name) c (.ok true) t) :
    Agrees t name := by
  obtain ⟨c',h'⟩ := retryOnConflict_ok h
  obtain ⟨answer,u,ha,h1⟩ := exec_ask.mp h'
  obtain rfl := step_read _ rfl _ ha
  rcases answer with e|original
  · cases e <;> cases h1
  obtain ⟨hmem,hname⟩ := (u.resources.get?_eq_some _ _).mp (found_ok ha)
  obtain ⟨x,v,hx,h2⟩ := exec_bind_ok.mp h1
  obtain ⟨y,hy,hxy⟩ := exec_attempt.mp hx
  cases hxy
  obtain rfl := (allocateResourceSpecFields_looks _).stays _ _ _ hy
  split at h2
  · cases h2
  · cases h2
  · obtain ⟨i,p,skip,rfl,_,_⟩ := allocateResourceSpecFields_ok _ _ hy
    exact hname ▸ applyDRBDIDs_agrees hmem h2

end

def Collides : Prop :=
  ∃b∈c.resources,b.name≠a.name ∧ b.hostName=a.hostName ∧ ∃p,a.effectivePort=some p ∧
    b.effectivePort=some p

def HasFreePort : Prop :=
  ∀low high,portRangeIn a.spec.nodeName c=.ok (low,high) →
    ∃p,low ≤ p ∧ p ≤ high ∧ Unused hostName effectivePort c a p

def SharesLegacy : Prop :=
  ∃b∈c.resources,b.name≠a.name ∧ b.hostName=a.hostName ∧ b.spec.drbdPort=none ∧
    b.status.drbdPort≠none

/-- The replica has one port, in its spec and in its status, and no other of its node has it. -/
def Reallocated (t : Cluster) (name : String) : Prop :=
  ∃x∈t.resources,x.name=name ∧ ∃p,x.spec.drbdPort=some p ∧ x.status.drbdPort=some p ∧
    Unused hostName effectivePort t x p

theorem reallocated_of {c u t : Cluster} {a : Resource} (ha : a∈c.resources)
    (hspec : a.spec.drbdPort=none) (hfree : HasFreePort c a) (hlegacy : ¬SharesLegacy c a)
    (hu : c.clearDRBDPort a.name=.ok u) (h : Exec Step (ensureDRBDIDs a.name) u (.ok true) t) :
    Reallocated t a.name := by
  obtain ⟨hmem,hothers,hnodes,hprops⟩ := clearDRBDPort_ok hu ha
  have hsettled := ensureDRBDIDs_settled _ h
  obtain ⟨x,hx,hid⟩ := hsettled.kept _ hmem rfl
  obtain ⟨p,hp⟩ := ensureDRBDIDs_agrees h
  obtain ⟨hxspec,hxstatus⟩ := hp x hx hid.name
  refine ⟨x,hx,hid.name,p,hxspec,hxstatus,?_⟩
  have hnone : a.clearPort.effectivePort=none := by
    simp [effectivePort,clearPort,hspec]
  have heffective : x.effectivePort=some p := by
    rw [effectivePort,hxspec]
    rfl
  have hpick : PickedPort u a.clearPort p := by
    rcases hid.port with hsame|⟨_,q,hq,hpick⟩
    · rw [heffective,hnone] at hsame
      cases hsame
    · rw [heffective] at hq
      exact Option.some.inj hq ▸ hpick
  have havoid : PortAvoidsLegacy u a.clearPort := by
    intro low high hrange b hb hne hhost v hv
    refine ⟨fun hbspec => ?_,fun _ _ _ => ?_⟩
    · refine (hlegacy ⟨b,(hothers b hne).mp hb,hne,hhost,hbspec,fun hbstatus => ?_⟩).elim
      simp [effectivePort,hbspec,hbstatus] at hv
    · have hrange : portRangeIn a.spec.nodeName c=.ok (low,high) := by
        rw [← hrange]
        simp [portRangeIn,rangeIn,nodeRangeIn,clusterRangeIn,hnodes,hprops,clearPort]
      obtain ⟨w,hlow,_,hw⟩ := hfree low high hrange
      refine ⟨w,hlow,fun htaken => ?_⟩
      obtain ⟨d,hd,hdhost,hdne,hdspec⟩ := mem_takenPortsOnNode.mp htaken
      refine hw d ((hothers d hdne).mp hd) hdne hdhost ?_
      rw [effectivePort,hdspec]
      rfl
  intro b hb hne hhost
  have hne : b.name≠a.clearPort.name := fun he => hne (he.trans hid.name.symm)
  exact pickedPort_unused _ p hpick havoid b ((hsettled.others b hne).mp hb) hne
    (hhost.trans hid.node)

def collided : Cluster where
  resources := ⟨["pvc-1","pvc-2"].map fun rd =>
    ((newReplica (rd++".a") rd "a").withSpec none (if stamped then some 20000 else none) none).withStatus
      none (some 20000) none,by cases stamped <;> decide⟩
  definitions := .empty
  nodes := fun _ => none
  extraProps := none

theorem collided_stays :
    ∃u t,(collided stamped).clearDRBDPort "pvc-1.a"=.ok u ∧
      Exec Step (ensureDRBDIDs "pvc-1.a") u (.ok true) t ∧ ¬Reallocated t "pvc-1.a" := by
  let u : Cluster := {collided stamped with
    resources := (collided stamped).resources.modify "pvc-1.a" .clearPort fun _ => rfl}
  have hrun := exec_simulate serve step_serve (ensureDRBDIDs "pvc-1.a") u
  have hok : (simulate serve (ensureDRBDIDs "pvc-1.a") u).1=.ok true := by
    cases stamped <;> decide
  rw [hok] at hrun
  refine ⟨u,_,by cases stamped <;> rfl,hrun,?_⟩
  rintro ⟨x,hx,hn,p,hp,_,hunused⟩
  have hsame : ∀x∈(simulate serve (ensureDRBDIDs "pvc-1.a") u).2.resources.items,x.name="pvc-1.a" →
      ∃y∈(simulate serve (ensureDRBDIDs "pvc-1.a") u).2.resources.items,y.name≠x.name ∧
        y.hostName=x.hostName ∧ y.effectivePort=x.effectivePort := by
    cases stamped <;> decide
  obtain ⟨y,hy,hne,hhost,hport⟩ := hsame x hx hn
  refine hunused y hy hne hhost (hport.trans ?_)
  rw [effectivePort,hp]
  rfl

theorem collided_premises : ∃a∈(collided stamped).resources,a.name="pvc-1.a" ∧
    Collides (collided stamped) a ∧ HasFreePort (collided stamped) a ∧
    a.spec.drbdPort.isSome=stamped ∧ (SharesLegacy (collided stamped) a → stamped=false) := by
  refine ⟨_,.head _,by decide +revert,⟨_,.tail _ (.head _),by decide +revert,rfl,20000,?_⟩,?_,?_,?_⟩
  · cases stamped <;> exact ⟨rfl,rfl⟩
  · intro low high hrange
    have hdefault : portRangeIn "a" (collided stamped)=.ok (20000,20999) := rfl
    obtain ⟨rfl,rfl⟩ := Prod.mk.inj (Except.ok.inj (hdefault.symm.trans hrange))
    refine ⟨20001,by decide,by decide,fun b hb _ _ => ?_⟩
    have hports : ∀b∈(collided stamped).resources.items,b.effectivePort≠some 20001 := by
      cases stamped <;> decide
    exact hports b hb
  · cases stamped <;> rfl
  · rintro ⟨b,hb,_,_,hspec,_⟩
    have hspecs : ∀b∈(collided stamped).resources.items,b.spec.drbdPort=none → stamped=false := by
      cases stamped <;> decide
    exact hspecs b hb hspec

end Blockstor.Controller
