import Blockstor.Placer.PlaceSafety

namespace Blockstor.Placer

open Framework Shell List

theorem Adds.diskless {up : List String} {rdName : String} {p : StoragePool} {s t : State}
    {x : Resource} (h : Adds up rdName p s t) (hx : x∈t.resources) (hd : x.diskful=false) :
    x∈s.resources := by
  cases h with
  | none => exact hx
  | created hfree =>
    rcases (s.resources.mem_insert _ hfree x).mp hx with hx|rfl
    · exact hx
    · cases hd
  | promoted _ w _ =>
    rcases (s.resources.mem_modify _ _ (Resource.key_withSpec _) x).mp hx with ⟨b,_,_,rfl⟩|hx
    · rw [promote_diskful] at hd
      cases hd
    · exact hx.1

def oneNode (n : Node) : State where
  nodes := ⟨[n],nodup_singleton _⟩
  pools := ⟨[],nodup_nil⟩
  resources := ⟨[],nodup_nil⟩
  definitions := ⟨[⟨"pvc-1","",[],none,[]⟩],nodup_singleton _⟩
  groups := ⟨[],nodup_nil⟩
  controllerProps := []

def onRemaining : AutoSelectFilter := {AutoSelectFilter.empty with disklessOnRemaining := true}

theorem place_oneNode (n : Node) : ∃r t,Exec Step (place noLib "pvc-1" onRemaining) (oneNode n) r t ∧
    ∃x∈t.resources,x∉(oneNode n).resources ∧ n.name=x.nodeName := by
  have hitems : (simulate serve (place noLib "pvc-1" onRemaining) (oneNode n)).2.resources.items=
      [disklessReplica "pvc-1" n.name] := rfl
  have hmem : disklessReplica "pvc-1" n.name∈
      (simulate serve (place noLib "pvc-1" onRemaining) (oneNode n)).2.resources.items := by
    rw [hitems]
    exact mem_singleton_self _
  exact ⟨_,_,exec_simulate serve step_serve _ _,_,hmem,not_mem_nil,rfl⟩

end Blockstor.Placer
