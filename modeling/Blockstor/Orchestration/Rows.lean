import Blockstor.Orchestration.Standing

namespace Blockstor.Orchestration

open Framework NodeStatus List

variable {name n rd sn : String}

def Snapshot.acked (x : Snapshot) (node : String) : Bool :=
  perNodeStatusSuspendIOAcked x.nodeStatus node

def Patch.acks : Patch → String → Option Bool
  | .suspendAcked node,k => if k=node then some true else none
  | .suspendCleared node,k => if k=node then some false else none
  | _,_ => none

section Rows

variable {node k : String} {es es' : List NodeStatus} {f : NodeStatus → Option NodeStatus}

theorem firstRow_upsert (hf : ∀e e',f e=some e' → e'.nodeName=e.nodeName)
    (h : upsertPerNodeStatusInPlace node f es=some es') :
    ∃e',f ((firstRow es node).getD (.fresh node))=some e' ∧
      ∀k,firstRow es' k=if k=node then some e' else firstRow es k := by
  induction es generalizing es' with
  | nil =>
    obtain ⟨e,he,rfl⟩ := Option.map_eq_some_iff.mp h
    have hname : e.nodeName=node := hf _ _ he
    refine ⟨e,he,fun k => ?_⟩
    by_cases hk : k=node
    · simp [firstRow,hname,hk]
    · simp [firstRow,hname,hk,Ne.symm hk]
  | cons e es ih =>
    unfold upsertPerNodeStatusInPlace at h
    split at h
    · rename_i hnode
      obtain ⟨e',he,rfl⟩ := Option.map_eq_some_iff.mp h
      have hname : e'.nodeName=node := (hf _ _ he).trans hnode
      refine ⟨e',by simp [firstRow,hnode,he],fun k => ?_⟩
      by_cases hk : k=node
      · simp [firstRow,hname,hk]
      · simp [firstRow,hname,hnode,hk,Ne.symm hk]
    · rename_i hnode
      obtain ⟨rest,hrest,rfl⟩ := Option.map_eq_some_iff.mp h
      obtain ⟨e',he,hall⟩ := ih hrest
      refine ⟨e',by simpa [firstRow,hnode] using he,fun k => ?_⟩
      by_cases hk : e.nodeName=k
      · simp [firstRow,hk,hk ▸ hnode]
      · simpa [firstRow,hk] using hall k

theorem names_upsert (hf : ∀e e',f e=some e' → e'.nodeName=e.nodeName)
    (h : upsertPerNodeStatusInPlace node f es=some es') :
    es'.map nodeName=es.map nodeName ∨
      node∉es.map nodeName ∧
        es'.map nodeName=es.map nodeName++[node] := by
  induction es generalizing es' with
  | nil =>
    obtain ⟨e,he,rfl⟩ := Option.map_eq_some_iff.mp h
    have hname : e.nodeName=node := hf _ _ he
    exact .inr ⟨not_mem_nil,by simp [hname]⟩
  | cons e es ih =>
    unfold upsertPerNodeStatusInPlace at h
    split at h
    · obtain ⟨e',he,rfl⟩ := Option.map_eq_some_iff.mp h
      exact .inl (by simp [hf _ _ he])
    · rename_i hnode
      obtain ⟨rest,hrest,rfl⟩ := Option.map_eq_some_iff.mp h
      rcases ih hrest with hsame|⟨hnew,happend⟩
      · exact .inl (by simp [hsame])
      · refine .inr ⟨?_,by simp [happend]⟩
        rw [map_cons,mem_cons,not_or]
        exact ⟨Ne.symm hnode,hnew⟩

theorem hasNodeStatusEntry_iff :
    hasNodeStatusEntry es node=true ↔ node∈es.map nodeName := by
  simp [hasNodeStatusEntry]

theorem acked_append {e : NodeStatus} (he : e.suspendIOAcked=false) :
    perNodeStatusSuspendIOAcked (es++[e]) k=perNodeStatusSuspendIOAcked es k := by
  unfold perNodeStatusSuspendIOAcked firstRow
  rw [find?_append]
  cases es.find? fun e => decide (e.nodeName=k) with
  | some row => rfl
  | none =>
    by_cases hk : e.nodeName=k
    · simp [hk,he]
    · simp [hk]

theorem nodup_append (e : NodeStatus) (hnew : hasNodeStatusEntry es e.nodeName≠true)
    (h : (es.map nodeName).Nodup) : ((es++[e]).map nodeName).Nodup := by
  rw [Ne,hasNodeStatusEntry_iff] at hnew
  rw [map_append]
  exact nodup_append_comm.mp (nodup_cons.mpr ⟨hnew,h⟩)

variable (ts : Int) (createdAt : Int) (nodes : List String)

theorem acked_upsertPerNodeStatus :
    perNodeStatusSuspendIOAcked (upsertPerNodeStatus es node ts) k=
      perNodeStatusSuspendIOAcked es k := by
  unfold upsertPerNodeStatus
  split
  · unfold perNodeStatusSuspendIOAcked firstRow
    rw [find?_map]
    have hkey : (fun e : NodeStatus => decide (e.nodeName=k))∘(fun e =>
        if e.nodeName=node then {e with ready := true, createTimestamp := ts} else e)=
        fun e : NodeStatus => decide (e.nodeName=k) := by
      funext e
      by_cases he : e.nodeName=node <;> simp [he]
    rw [hkey]
    cases es.find? fun e => decide (e.nodeName=k) with
    | none => rfl
    | some e => by_cases he : e.nodeName=node <;> simp [he]
  · exact acked_append rfl

theorem nodup_upsertPerNodeStatus (h : (es.map nodeName).Nodup) :
    ((upsertPerNodeStatus es node ts).map nodeName).Nodup := by
  unfold upsertPerNodeStatus
  split
  · rw [map_map]
    have hkey : nodeName∘(fun e : NodeStatus =>
        if e.nodeName=node then {e with ready := true, createTimestamp := ts} else e)=
        nodeName := by
      funext e
      by_cases he : e.nodeName=node <;> simp [he]
    rw [hkey]
    exact h
  · rename_i hnew
    exact nodup_append _ hnew h

theorem acked_backfillRows :
    perNodeStatusSuspendIOAcked (backfillRows createdAt nodes es) k=
      perNodeStatusSuspendIOAcked es k := by
  induction nodes generalizing es with
  | nil => rfl
  | cons n nodes ih =>
    unfold backfillRows
    split
    · exact ih
    · rw [ih]
      exact acked_append rfl

theorem nodup_backfillRows
    (h : (es.map nodeName).Nodup) :
    ((backfillRows createdAt nodes es).map nodeName).Nodup := by
  induction nodes generalizing es with
  | nil => exact h
  | cons n nodes ih =>
    unfold backfillRows
    split
    · exact ih h
    · rename_i hnew
      exact ih (nodup_append _ hnew h)

theorem byNode_eq_firstRow (h : (es.map nodeName).Nodup) :
    byNode es node=firstRow es node := by
  have hrev : (es.reverse.map nodeName).Nodup := by
    rw [map_reverse]
    exact nodup_reverse.mpr h
  let rows : Keyed nodeName := ⟨es,h⟩
  let back : Keyed nodeName := ⟨es.reverse,hrev⟩
  have heq : back.get? node=rows.get? node := by
    apply Option.ext
    intro e
    rw [back.get?_eq_some,rows.get?_eq_some]
    exact and_congr_left' mem_reverse
  exact heq

end Rows

section Patch

variable {now : Nat} {x y : Snapshot} {p : Patch} {k : String} {f : NodeStatus → Option NodeStatus}
  {rows es : List NodeStatus}

theorem acked_upsert {node : String}
    {v : Option Bool} (hname : ∀e e',f e=some e' → e'.nodeName=e.nodeName)
    (hf : ∀e e',f e=some e' → e'.suspendIOAcked=v.getD e.suspendIOAcked)
    (h : upsertPerNodeStatusInPlace node f x.nodeStatus=some rows) :
    perNodeStatusSuspendIOAcked rows k=(if k=node then v else none).getD (x.acked k) := by
  obtain ⟨e',he,hall⟩ := firstRow_upsert hname h
  unfold perNodeStatusSuspendIOAcked
  rw [hall k]
  by_cases hk : k=node
  · subst hk
    rw [if_pos rfl,if_pos rfl,Option.any_some,hf _ _ he]
    unfold Snapshot.acked perNodeStatusSuspendIOAcked
    cases firstRow x.nodeStatus k <;> rfl
  · rw [if_neg hk,if_neg hk]
    rfl

theorem nodup_upsert {node : String} (hname : ∀e e',f e=some e' → e'.nodeName=e.nodeName)
    (h : upsertPerNodeStatusInPlace node f es=some rows)
    (hes : (es.map nodeName).Nodup) : (rows.map nodeName).Nodup := by
  rcases names_upsert hname h with hsame|⟨hnew,happend⟩
  · rw [hsame]
    exact hes
  · rw [happend]
    exact nodup_append_comm.mp (nodup_cons.mpr ⟨hnew,hes⟩)

inductive Reworks (x : Snapshot) : Patch → List NodeStatus → Prop
  | same (p : Patch) (hp : ∀k,p.acks k=none) : Reworks x p x.nodeStatus
  | upserted (p : Patch) (node : String) (f : NodeStatus → Option NodeStatus) (v : Option Bool)
      (rows : List NodeStatus) (hp : ∀k,p.acks k=if k=node then v else none)
      (hname : ∀e e',f e=some e' → e'.nodeName=e.nodeName)
      (hf : ∀e e',f e=some e' → e'.suspendIOAcked=v.getD e.suspendIOAcked)
      (h : upsertPerNodeStatusInPlace node f x.nodeStatus=some rows) : Reworks x p rows
  | backfilled (createdAt : Int) :
      Reworks x (.backfill createdAt) (backfillRows createdAt x.nodes x.nodeStatus)
  | readied (node : String) (ts : Int) :
      Reworks x (.ready node ts) (upsertPerNodeStatus x.nodeStatus node ts)

theorem mutate_rows (h : p.mutate now x=some y) : Reworks x p y.nodeStatus := by
  cases p with
  | flip a b =>
    obtain ⟨_,⟨⟩⟩ := Option.ite_none_left_eq_some.mp h
    exact .same _ fun _ => rfl
  | failedDisconnect reason =>
    simp only [Patch.mutate] at h
    split at h
    · cases h
      exact .same _ fun _ => rfl
    · obtain ⟨_,⟨⟩⟩ := Option.ite_none_left_eq_some.mp h
      exact .same _ fun _ => rfl
  | backfill createdAt =>
    obtain ⟨_,⟨⟩⟩ := Option.ite_none_left_eq_some.mp h
    exact .backfilled createdAt
  | suspendAcked node =>
    obtain ⟨rows,hrows,rfl⟩ := Option.map_eq_some_iff.mp h
    refine .upserted _ node _ (some true) rows (fun _ => rfl) (fun e e' he => ?_)
      (fun e e' he => ?_) hrows
    all_goals
      obtain ⟨_,⟨⟩⟩ := Option.ite_none_left_eq_some.mp he
      rfl
  | suspendCleared node =>
    obtain ⟨rows,hrows,rfl⟩ := Option.map_eq_some_iff.mp h
    refine .upserted _ node _ (some false) rows (fun _ => rfl) (fun e e' he => ?_)
      (fun e e' he => ?_) hrows
    all_goals
      obtain ⟨_,⟨⟩⟩ := Option.ite_none_right_eq_some.mp he
      rfl
  | failed node =>
    simp only [Patch.mutate] at h
    split at h
    · rename_i rows hrows
      cases h
      refine .upserted _ node _ none rows (fun _ => (ite_self none).symm) (fun e e' he => ?_)
        (fun e e' he => ?_) hrows
      all_goals
        obtain ⟨_,⟨⟩⟩ := Option.ite_none_left_eq_some.mp he
        rfl
    · obtain ⟨_,⟨⟩⟩ := Option.ite_none_left_eq_some.mp h
      exact .same _ fun _ => rfl
  | ready node ts =>
    obtain ⟨_,⟨⟩⟩ := Option.ite_none_left_eq_some.mp h
    exact .readied node ts

theorem mutate_acked (h : p.mutate now x=some y) (k : String) :
    y.acked k=(p.acks k).getD (x.acked k) := by
  have hrows := mutate_rows h
  unfold Snapshot.acked
  generalize y.nodeStatus=rows at hrows
  cases hrows with
  | same p hp =>
    rw [hp]
    rfl
  | upserted p node f v rows hp hname hf h =>
    rw [hp]
    exact acked_upsert hname hf h
  | backfilled createdAt => exact acked_backfillRows createdAt x.nodes
  | readied node ts => exact acked_upsertPerNodeStatus ts

theorem mutate_nodup (h : p.mutate now x=some y)
    (hx : (x.nodeStatus.map nodeName).Nodup) :
    (y.nodeStatus.map nodeName).Nodup := by
  have hrows := mutate_rows h
  generalize y.nodeStatus=rows at hrows
  cases hrows with
  | same p hp => exact hx
  | upserted p node f v rows hp hname hf h => exact nodup_upsert hname h hx
  | backfilled createdAt => exact nodup_backfillRows createdAt x.nodes hx
  | readied node ts => exact nodup_upsertPerNodeStatus ts hx

end Patch

def Faithful (e : Event) : Prop := ∀name rows,e≠.other (.writeStatus name rows)

variable {s t : Cluster} {e : Event} {x y : Snapshot} {k : String}

theorem may_acks {w : Worker} {m : Note} {p : Patch} {v : Bool}
    (h : may w m (.patch name p)) (hp : p.acks k=some v) :
    w=.satellite k ∧ m.did=some (if v then .suspended else .resumed) ∧
      ∃z,m.Live k z ∧ z.name=name := by
  cases p with
  | suspendAcked node =>
    obtain ⟨rfl,⟨⟩⟩ := Option.ite_none_right_eq_some.mp hp
    cases w with
    | controller => exact h.elim
    | satellite n =>
      obtain ⟨rfl,hdid,hz⟩ := h
      exact ⟨rfl,hdid,hz⟩
  | suspendCleared node =>
    obtain ⟨rfl,⟨⟩⟩ := Option.ite_none_right_eq_some.mp hp
    cases w with
    | controller => exact h.elim
    | satellite n =>
      obtain ⟨rfl,hdid,hz⟩ := h
      exact ⟨rfl,hdid,hz⟩
  | _ => cases hp

theorem Turned.acked (h : Turned s e x y) (he : Faithful e) (k : String) :
    y.acked k=x.acked k ∨ ∃m z,s.notes (.satellite k)=some m ∧ m.Live k z ∧ z.name=x.name ∧
      m.did=some (if y.acked k then .suspended else .resumed) := by
  cases h with
  | same => exact .inl rfl
  | called w op a m y _ hm hmay h =>
    cases h with
    | same => exact .inl rfl
    | finalized _ _ _ _ _ => exact .inl rfl
    | patched p y hop h =>
      subst hop
      change y.acked k=x.acked k ∨ ∃m z,s.notes (.satellite k)=some m ∧ m.Live k z ∧
        z.name=x.name ∧ m.did=some (if y.acked k then .suspended else .resumed)
      rw [mutate_acked h k]
      cases hp : p.acks k with
      | none => exact .inl rfl
      | some v =>
        obtain ⟨rfl,hdid,z,hlive,hz⟩ := may_acks hmay hp
        exact .inr ⟨m,z,hm,hlive,hz,hdid⟩
  | changed c y hc h =>
    cases h with
    | status rows hs => exact absurd (by rw [hc,hs]) (he x.name rows)
    | _ => exact .inl rfl

theorem Turned.nodup (h : Turned s e x y) (he : Faithful e)
    (hx : (x.nodeStatus.map nodeName).Nodup) :
    (y.nodeStatus.map nodeName).Nodup := by
  cases h with
  | same => exact hx
  | called w op a m y _ hm hmay h =>
    cases h with
    | same => exact hx
    | finalized _ _ _ _ _ => exact hx
    | patched p y hop h => exact mutate_nodup (y := y) h hx
  | changed c y hc h =>
    cases h with
    | status rows hs => exact absurd (by rw [hc,hs]) (he x.name rows)
    | _ => exact hx

theorem may_resume {w : Worker} {m : Note} (h : may w m (.resumeResource n rd sn)) :
    w=.satellite n ∧ m.did=none ∧ ∃z,m.Live n z ∧ rd=z.resourceDefinitionName ∧ sn=z.name ∧
      z.suspendIO=false ∧ z.acked n=true := by
  cases w with
  | controller => exact h.elim
  | satellite k =>
    obtain ⟨rfl,hdid,hz⟩ := h
    exact ⟨rfl,hdid,hz⟩

theorem step_resumeResource {s t : State} (h : Step s (.resumeResource n rd sn) (.ok ()) t) :
    t={s with suspended := set₂ s.suspended n rd false, frozen := set₂ s.frozen n sn false} := by
  rcases h with ⟨_,ht⟩|⟨hfail,_⟩
  · exact ht
  · cases hfail

end Blockstor.Orchestration
