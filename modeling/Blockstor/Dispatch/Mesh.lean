import Blockstor.Dispatch.ResFile

namespace Blockstor.Dispatch

open Framework List

def Connection.seenFrom (a b : String) (c : Connection) : Option (Bool × List (Endpoint × Endpoint)) :=
  if c.hostA=a ∧ c.hostB=b then some (c.explicitPaths,c.ends)
  else if c.hostA=b ∧ c.hostB=a then some (c.explicitPaths,c.ends.map Prod.swap)
  else none

section Links

variable (conns : List DesiredConnection)

def link (hostA hostB : Host) : Bool × List (Endpoint × Endpoint) :=
  ((writeOneConnection conns hostA hostB).explicitPaths,(writeOneConnection conns hostA hostB).ends)

variable {conns}

theorem swapPathSides_swapPathSides (paths : List DesiredConnectionPath) :
    swapPathSides (swapPathSides paths)=paths := by
  simp only [swapPathSides,map_map]
  exact map_id paths

theorem lookupPaths_swap {a b : String} (hab : a≠b) :
    lookupPaths conns b a=swapPathSides (lookupPaths conns a b) := by
  induction conns with
  | nil => rfl
  | cons c conns ih =>
    simp only [lookupPaths]
    by_cases h₁ : c.nodeA=a ∧ c.nodeB=b
    · have h₂ : ¬(c.nodeA=b ∧ c.nodeB=a) := fun h => hab (h₁.1.symm.trans h.1)
      rw [if_pos h₁,if_neg h₂,if_pos h₁]
    · by_cases h₂ : c.nodeA=b ∧ c.nodeB=a
      · rw [if_pos h₂,if_neg h₁,if_pos h₂,swapPathSides_swapPathSides]
      · rw [if_neg h₁,if_neg h₂,if_neg h₂,if_neg h₁,ih]

theorem link_swap {A B : Host} (h : A.nodeName≠B.nodeName) :
    ((link conns B A).1,(link conns B A).2.map Prod.swap)=link conns A B := by
  simp only [link,writeOneConnection,lookupPaths_swap h]
  cases lookupPaths conns A.nodeName B.nodeName with
  | nil => rfl
  | cons p paths => simp [swapPathSides]

theorem writeOneConnection_seen {A B : Host} (h : A.nodeName≠B.nodeName) :
    (writeOneConnection conns A B).seenFrom A.nodeName B.nodeName=some (link conns A B) ∧
    (writeOneConnection conns B A).seenFrom A.nodeName B.nodeName=some (link conns A B) := by
  constructor
  · exact if_pos ⟨rfl,rfl⟩
  · have hne : ¬(B.nodeName=A.nodeName ∧ A.nodeName=B.nodeName) := fun hn => h hn.2
    refine (if_neg hne).trans ((if_pos ⟨rfl,rfl⟩).trans ?_)
    rw [← link_swap h]
    rfl

theorem mem_mesh {hosts : List Host} {c : Connection} (h : c∈writeConnectionMesh conns hosts) :
    ∃A∈hosts,∃B∈hosts,c=writeOneConnection conns A B ∧ [A,B].Sublist hosts := by
  induction hosts with
  | nil => cases h
  | cons x hosts ih =>
    rcases mem_append.mp h with h|h
    · obtain ⟨B,hB,rfl⟩ := mem_map.mp h
      exact ⟨x,.head _,B,.tail _ hB,rfl,(singleton_sublist.mpr hB).cons_cons x⟩
    · obtain ⟨A,hA,B,hB,hc,hsub⟩ := ih h
      exact ⟨A,.tail _ hA,B,.tail _ hB,hc,hsub.cons x⟩

theorem filterMap_named {α : Type} {hosts : List Host} (hnodup : (hosts.map Host.nodeName).Nodup)
    {B : Host} (hB : B∈hosts) {f : Host → Option α} (hf : ∀h∈hosts,h.nodeName≠B.nodeName → f h=none)
    {a : α} (ha : f B=some a) : hosts.filterMap f=[a] := by
  induction hosts with
  | nil => cases hB
  | cons x hosts ih =>
    obtain ⟨hx,hrest⟩ := nodup_cons.mp hnodup
    rcases mem_cons.mp hB with rfl|hB
    · have hnone : hosts.filterMap f=[] := by
        refine filterMap_eq_nil_iff.mpr fun h hh => hf h (.tail _ hh) fun hn => hx ?_
        exact mem_map.mpr ⟨h,hh,hn⟩
      rw [filterMap_cons_some ha,hnone]
    · have hxB : x.nodeName≠B.nodeName := fun hn => hx (hn ▸ mem_map_of_mem hB)
      rw [filterMap_cons_none (hf x (.head _) hxB)]
      exact ih hrest hB fun h hh => hf h (.tail _ hh)

theorem mesh_seen {hosts : List Host} (hnodup : (hosts.map Host.nodeName).Nodup) {A B : Host}
    (hA : A∈hosts) (hB : B∈hosts) (hAB : A.nodeName≠B.nodeName) :
    (writeConnectionMesh conns hosts).filterMap (Connection.seenFrom A.nodeName B.nodeName)=
      [link conns A B] := by
  induction hosts with
  | nil => cases hA
  | cons x hosts ih =>
    obtain ⟨hx,hrest⟩ := nodup_cons.mp hnodup
    -- the rest of the mesh does not mention the first host
    have hrestnone (a b : String) (hab : a=x.nodeName ∨ b=x.nodeName) :
        (writeConnectionMesh conns hosts).filterMap (Connection.seenFrom a b)=[] := by
      refine filterMap_eq_nil_iff.mpr fun c hc => ?_
      obtain ⟨C,hC,D,hD,rfl,_⟩ := mem_mesh hc
      have hCx : C.nodeName≠x.nodeName := fun hn => hx (hn ▸ mem_map_of_mem hC)
      have hDx : D.nodeName≠x.nodeName := fun hn => hx (hn ▸ mem_map_of_mem hD)
      simp only [Connection.seenFrom,writeOneConnection]
      grind
    rw [writeConnectionMesh,filterMap_append,filterMap_map]
    rcases mem_cons.mp hA with rfl|hA'
    · have hB : B∈hosts := (mem_cons.mp hB).resolve_left fun h => hAB (h ▸ rfl)
      rw [hrestnone _ _ (.inl rfl),append_nil]
      refine filterMap_named hrest hB (fun h hh hn => ?_) (writeOneConnection_seen hAB).1
      simp only [Function.comp_apply,Connection.seenFrom,writeOneConnection]
      grind
    · rcases mem_cons.mp hB with rfl|hB'
      · rw [hrestnone _ _ (.inr rfl),append_nil]
        refine filterMap_named hrest hA' (fun h hh hn => ?_) (writeOneConnection_seen hAB).2
        simp only [Function.comp_apply,Connection.seenFrom,writeOneConnection]
        grind
      · have hnone : hosts.filterMap (Connection.seenFrom A.nodeName B.nodeName ∘
            writeOneConnection conns x)=[] := by
          refine filterMap_eq_nil_iff.mpr fun h hh => ?_
          have hAx : A.nodeName≠x.nodeName := fun hn => hx (hn ▸ mem_map_of_mem hA')
          have hBx : B.nodeName≠x.nodeName := fun hn => hx (hn ▸ mem_map_of_mem hB')
          simp only [Function.comp_apply,Connection.seenFrom,writeOneConnection]
          grind
        rw [hnone,nil_append]
        exact ih hrest hA' hB'

end Links

end Blockstor.Dispatch
