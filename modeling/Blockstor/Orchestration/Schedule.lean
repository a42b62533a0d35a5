import Blockstor.Orchestration.Rows

namespace Blockstor.Orchestration

open Framework

instance (w : Wire) (s : State) : Decidable (w.Batched s) :=
  inferInstanceAs (Decidable ((w.groupID="" → w.groupSize=0) ∧
    ∀x∈s.snapshots.items,x.groupID=w.groupID → w.groupID≠"" → x.groupSize=w.groupSize))

variable (s : State) (op : Op)

theorem name_withStatus (nodeStatus : List NodeStatus) (x : Snapshot) :
    {x with nodeStatus}.name=x.name := rfl

theorem name_withFinalizers (finalizers : List String) (x : Snapshot) :
    {x with finalizers}.name=x.name := rfl

def change : Change → Option State
  | .tick now => if s.now ≤ now then some {s with now} else none
  | .request w name => some {s with requests := Function.update s.requests w name}
  | .create name w =>
    if w.Batched s then
      if h : s.get? name=none then some (s.create name w h) else none
    else none
  | .delete name => some (s.delete name)
  | .writeStatus name nodeStatus => some (s.write name (fun x => {x with nodeStatus})
      (name_withStatus nodeStatus))
  | .writeResources resources => some {s with resources}
  | .dropFinalizers name finalizers =>
    if ∀x∈s.get? name,(∀f∈finalizers,f∈x.finalizers) ∧
      (satelliteSnapshotFinalizer∈x.finalizers → satelliteSnapshotFinalizer∈finalizers)
    then some ((s.write name (fun x => {x with finalizers})
      (name_withFinalizers finalizers)).sweep name)
    else none

theorem changes_change (c : Change) (t : State) (h : change s c=some t) :
    Changes s c t := by
  cases c with
  | tick now =>
    simp only [change] at h
    split at h
    · rename_i hle
      cases h
      exact ⟨hle,rfl⟩
    · cases h
  | request w name => exact (Option.some.inj h).symm
  | create name w =>
    simp only [change] at h
    split at h
    · rename_i hw
      split at h
      · rename_i hnone
        exact ⟨hw,hnone,(Option.some.inj h).symm⟩
      · cases h
    · cases h
  | delete name => exact (Option.some.inj h).symm
  | writeStatus name rows => exact (Option.some.inj h).symm
  | writeResources resources => exact (Option.some.inj h).symm
  | dropFinalizers name fs =>
    simp only [change] at h
    split at h
    · rename_i hfs
      exact ⟨hfs,(Option.some.inj h).symm⟩
    · cases h

def carryOut : Option (OpAnswer op × State) := some (serve s op)

theorem step_carryOut (r : OpAnswer op × State) (h : carryOut s op=some r) :
    Step s op r.1 r.2 := by
  cases h
  exact .inl ⟨rfl,rfl⟩

abbrev Turn := Pool.Turn Worker Change

def scheduled (xs : List Turn) : List Event × Cluster :=
  acts (Pool.act system carryOut change) (Pool.idle .initial) xs

def undeleting : Turn → Bool
  | .other (.delete _) => false
  | _ => true

theorem act_other {s t : Cluster} {c : Change} (x : Turn)
    (h : Pool.act system carryOut change s x=some (.other c,t)) : x=.other c := by
  cases x with
  | go w =>
    have h : Pool.turn system carryOut change s (.inl w)=some (.other c,t) := h
    rcases Pool.turn_program w _ h with h|⟨_,_,h⟩ <;> cases h
  | stop w => cases h
  | other c' =>
    obtain ⟨u,_,hu⟩ := Option.map_eq_some_iff.mp h
    cases hu
    rfl

theorem undeleted_act {s t : Cluster} {e : Event} (x : Turn) (hx : undeleting x=true)
    (h : Pool.act system carryOut change s x=some (e,t)) : Undeleted e := by
  rintro name rfl
  rw [act_other x h] at hx
  cases hx

def faithful : Turn → Bool
  | .other (.writeStatus _ _) => false
  | _ => true

theorem faithful_act {s t : Cluster} {e : Event} (x : Turn) (hx : faithful x=true)
    (h : Pool.act system carryOut change s x=some (e,t)) : Faithful e := by
  rintro name rows rfl
  rw [act_other x h] at hx
  cases hx

def reconciling (w : Worker) (name : String) (n : Nat) : List Turn :=
  .other (.request w name)::List.replicate n (.go w)++[.stop w]

theorem run_scheduled (guard : Cluster → Event → Prop) (check : Cluster → Turn → Bool)
    (hguard : ∀s x e t,check s x=true → Pool.act system carryOut change s x=some (e,t) → guard s e)
    (xs : List Turn)
    (h : actsAll (Pool.act system carryOut change) check (Pool.idle .initial) xs=true) :
    Run (guarded guard (Pool.Step system)) (Pool.idle .initial) (scheduled xs).1
      (scheduled xs).2 :=
  run_acts check (fun s x e t hx ht =>
    ⟨hguard s x e t hx ht,Pool.step_act step_carryOut changes_change x e ht⟩) xs _ h

end Blockstor.Orchestration
