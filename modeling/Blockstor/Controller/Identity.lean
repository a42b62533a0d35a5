import Blockstor.Controller.Settle
import Blockstor.Framework.Transition

namespace Blockstor.Controller

open Drbd Framework Shell

/-- What happens to the replicas of a cluster: a run of the allocator with its outcome, a replica
created or deleted, an observer's report of connections. -/
inductive Event
  | ensure (name : String) (res : Except AllocErr Bool)
  | create (r : Resource)
  | delete (name : String)
  | observe (name : String) (connections : List ResourceConnectionStatus)

def Resource.withConnections (connections : List ResourceConnectionStatus) (r : Resource) :
    Resource :=
  {r with status := {r.status with connections := connections}}

namespace Cluster

variable (c : Cluster)

def create (r : Resource) (h : ∀b∈c.resources,b.name≠r.name) : Cluster :=
  {c with resources := c.resources.insert r h}

def delete (name : String) : Cluster := {c with resources := c.resources.erase name}

def observe (name : String) (connections : List ResourceConnectionStatus) : Cluster :=
  {c with resources := c.resources.modify name (.withConnections connections) fun _ => rfl}

end Cluster

def Transition (c : Cluster) (e : Event) (t : Cluster) : Prop :=
  match e with
  | .ensure name res => Exec Step (ensureDRBDIDs name) c res t
  | .create r => ∃h,t=c.create r h
  | .delete name => t=c.delete name
  | .observe name connections => t=c.observe name connections

def Distinct (scope : Resource → String) (val : Resource → Option Int32) (c : Cluster) : Prop :=
  ∀a∈c.resources,∀b∈c.resources,a.name≠b.name → scope a=scope b → ∀i,val a=some i → val b≠some i

instance (scope : Resource → String) (val : Resource → Option Int32) (c : Cluster) :
    Decidable (Distinct scope val c) :=
  decidable_of_iff (∀a∈c.resources.items,∀b∈c.resources.items,a.name≠b.name → scope a=scope b →
    val a=none ∨ val b≠val a) <| by
      constructor
      · intro h a ha b hb hne hs i hi
        rcases h a ha b hb hne hs with hn|hn
        · rw [hi] at hn
          cases hn
        · rwa [hi] at hn
      · intro h a ha b hb hne hs
        cases hi : val a with
        | none => exact .inl rfl
        | some i => exact .inr (h a ha b hb hne hs i hi)

def Unused (scope : Resource → String) (val : Resource → Option Int32) (c : Cluster) (a : Resource)
    (i : Int32) : Prop :=
  ∀b∈c.resources,b.name≠a.name → scope b=scope a → val b≠some i

section

variable {scope : Resource → String} {val : Resource → Option Int32} {c t : Cluster}

theorem Distinct.change (name : String) (h : Distinct scope val c)
    (hothers : ∀b,b.name≠name → b∈t.resources → b∈c.resources)
    (htarget : ∀b∈t.resources,b.name=name → ∀i,val b=some i →
      ∀d∈c.resources,d.name≠name → scope d=scope b → val d≠some i) : Distinct scope val t := by
  intro a ha b hb hne hscope i hi
  by_cases han : a.name=name
  · have hbn : b.name≠name := fun he => hne (han.trans he.symm)
    exact htarget a ha han i hi b (hothers b hbn hb) hbn hscope.symm
  · by_cases hbn : b.name=name
    · intro hj
      exact htarget b hb hbn i hj a (hothers a han ha) han hscope hi
    · exact h a (hothers a han ha) b (hothers b hbn hb) hne hscope i hi

theorem Distinct.settled {name : String} (h : Distinct scope val c) (hs : Settled name c t)
    (hval : ∀a∈c.resources,a.name=name → ∀b,Identified c a b → scope b=scope a ∧
      ∀i,val b=some i → val a=some i ∨ val a=none ∧ Unused scope val c a i) :
    Distinct scope val t := by
  refine h.change name (fun b hb => (hs.others b hb).mp) fun b hb hn i hi d hd hdn hscope => ?_
  obtain ⟨a,ha,hab⟩ := hs.target b hb hn
  have han : a.name=name := hab.name.symm.trans hn
  obtain ⟨hba,hv⟩ := hval a ha han b hab
  have had : a.name≠d.name := fun he => hdn (he.symm.trans han)
  rcases hv i hi with hv|⟨_,hunused⟩
  · exact h a ha d hd had (hba.symm.trans hscope.symm) i hv
  · exact hunused d hd had.symm (hscope.trans hba)

theorem Distinct.create (h : Distinct scope val c) (r : Resource)
    (hfree : ∀b∈c.resources,b.name≠r.name)
    (hfits : ∀i,val r=some i → Unused scope val c r i) :
    Distinct scope val (c.create r hfree) := by
  refine h.change r.name (fun b hb hmem => ?_) fun b hb hn i hi d hd hdn hscope => ?_
  · rcases (c.resources.mem_insert r hfree b).mp hmem with hmem|rfl
    · exact hmem
    · exact absurd rfl hb
  · rcases (c.resources.mem_insert r hfree b).mp hb with hmem|rfl
    · exact absurd hn (hfree b hmem)
    · exact hfits i hi d hd hdn hscope

theorem Distinct.delete (h : Distinct scope val c) (name : String) :
    Distinct scope val (c.delete name) := by
  intro a ha b hb
  exact h a ((c.resources.mem_erase name a).mp ha).1 b ((c.resources.mem_erase name b).mp hb).1

theorem Distinct.observe (h : Distinct scope val c) (name : String)
    (connections : List ResourceConnectionStatus)
    (hscope : ∀r : Resource,scope (r.withConnections connections)=scope r)
    (hval : ∀r : Resource,val (r.withConnections connections)=val r) :
    Distinct scope val (c.observe name connections) := by
  -- Every replica stems from one with its name, scope and value.
  have hfrom (b : Resource) (hb : b∈(c.observe name connections).resources) :
      ∃a∈c.resources,a.name=b.name ∧ scope a=scope b ∧ val a=val b := by
    rcases (c.resources.mem_modify name (.withConnections connections) (fun _ => rfl) b).mp hb with ⟨a,ha,_,rfl⟩|⟨hb,_⟩
    · exact ⟨a,ha,rfl,(hscope a).symm,(hval a).symm⟩
    · exact ⟨b,hb,rfl,rfl,rfl⟩
  intro a ha b hb hne hs i hi
  obtain ⟨a',ha',han,has,hav⟩ := hfrom a ha
  obtain ⟨b',hb',hbn,hbs,hbv⟩ := hfrom b hb
  rw [← hbv]
  exact h a' ha' b' hb' (by rwa [han,hbn]) (by rw [has,hbs,hs]) i (by rwa [hav])

end

end Blockstor.Controller
