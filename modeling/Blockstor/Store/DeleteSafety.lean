import Blockstor.Store.RemovalSafety

namespace Blockstor.Store

open Framework Shell

/-- A removal takes its mark off only while no other one that has marked the snapshot may still
delete it, and no mark that a restore has read expires before the restore judges it. -/
def Exclusive (src snap : String) (p : Removals) (e : PoolEvent Actor Answer Change) : Prop :=
  Timely .deleting p e ∧ Alone .deleting src snap p e

/-- Deletes that do not take the mark off under one another never leave a restore without its
source. -/
theorem delete_keeps_restore_source (src snap : String) (s : State) (hs : Start s) :
    ¬LosesSource .deleting src snap (Exclusive src snap) s :=
  keepsSource_of_invariant (Exclusive src snap) (fun _ _ h => h.1) (Held .deleting src snap)
    (fun _ h => h) (fun _ _ _ hp hg h => held_step hp hg.1 hg.2 h) s (held_start s hs)

theorem delete_keeps_restore_source_once :
    Start newSnapshot ∧ ¬LosesSource .deleting "pvc-1" "snap" (Exclusive "pvc-1" "snap") newSnapshot :=
  ⟨start_newSnapshot,delete_keeps_restore_source "pvc-1" "snap" newSnapshot start_newSnapshot⟩

theorem deleted_of_test {src snap : String} {s t : State}
    (hs : (s.snapshot src snap).any (fun x => !x.deleting)=true)
    (ht : (t.snapshot src snap).all Snapshot.deleting=true) : Deleted src snap s t := by
  obtain ⟨x,hx,hdel⟩ := (Option.any_eq_true ..).mp hs
  refine ⟨⟨x,hx,by simpa using hdel⟩,fun y hy => ?_⟩
  rw [hy] at ht
  exact ht

/-- Both deletes have marked the snapshot, the first has found no dependent, and the second drops
the mark over the restore that came in between. -/
def overwrittenMark : List Actor :=
  List.replicate 8 (.remove 0)++List.replicate 7 (.remove 1)++
    List.replicate 3 (.restore 0 "pvc-2")++List.replicate 9 (.remove 1)++
    List.replicate 4 (.restore 0 "pvc-2")

/-- The first delete then takes the snapshot away under that restore. -/
theorem delete_loses_restore_source :
    ∃s,Start s ∧ LosesSource .deleting "pvc-1" "snap" (Timely .deleting) s := by
  let p := (removalsOn .deleting newSnapshot overwrittenMark).2
  let d : Definition := ⟨"pvc-2",1,withRestoreMarker .empty ⟨"pvc-1","snap",[⟨0,1024⟩],⟨none,none⟩,false⟩,
    false,[]⟩
  have hrun := run_removals .deleting newSnapshot overwrittenMark
  have hbefore : (p.shared.snapshot "pvc-1" "snap").any (fun x => !x.deleting)=true := by
    decide +kernel
  have hneeds : NeedsSource .deleting "pvc-1" "snap" p.shared d := by
    refine ⟨?_,?_,?_⟩
    · change d∈p.shared.definitions.items
      decide +kernel
    · decide +kernel
    · unfold Unfinished
      decide +kernel
  have hafter : (Pool.turn (removals .deleting "pvc-1" "snap") inTime (fun _ _ => none) p
      (.inl (.remove 0))).any (fun r => (r.2.shared.snapshot "pvc-1" "snap").all Snapshot.deleting &&
        decide (.restoreProceeds 1∈r.2.shared.reached))=true := by decide +kernel
  cases hq : Pool.turn (removals .deleting "pvc-1" "snap") inTime (fun _ _ => none) p
      (.inl (.remove 0)) with
  | none =>
    rw [hq] at hafter
    cases hafter
  | some r =>
    rw [hq] at hafter
    obtain ⟨hgone,hgoing⟩ := (Bool.and_eq_true _ _).mp hafter
    refine ⟨newSnapshot,start_newSnapshot,_,p,r.1,r.2,d,[],r.2,hrun,
      ⟨timely_turn .deleting hq,Pool.step_turn (fun s c r h => step_inTime s c r h)
        (fun _ _ _ h => (by cases h)) _ _ hq⟩,deleted_of_test hbefore hgone,
      hneeds,.nil _,by simpa using hgoing⟩

end Blockstor.Store
