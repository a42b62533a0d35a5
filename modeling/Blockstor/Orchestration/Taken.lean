import Blockstor.Orchestration.Schedule

namespace Blockstor.Orchestration

open Framework Pool NodeStatus List

def takes (s : Cluster) (node name : String) : Bool :=
  (s.notes (.satellite node)).any fun m => decide (m.did=none) && m.snap.any fun z =>
    decide (z.name=name) && z.takeSnapshot && !perNodeStatusReady z.nodeStatus node

/-- The condition: nothing is deleted. A node is resumed while no other snapshot of the resource
counts on its acknowledgement, and none that targets the node is being taken. A snapshot is
suspended anew when none of its nodes acknowledges a suspension that is over. -/
def sharesNothing (s : Cluster) : Event → Bool
  | .other (.delete _) => false
  | .other (.writeStatus _ _) => false
  | .call (.satellite _) (.resumeResource n rd name) (.ok _) => s.shared.snapshots.items.all fun x =>
      decide (x.resourceDefinitionName≠rd) || decide (n∉x.nodes) ||
        (decide (x.name=name) || !x.acked n) && x.nodes.all fun k => !takes s k x.name
  | .call .controller (.patch name (.flip true b)) _ => (s.shared.get? name).all fun x =>
      x.suspendIO || !b && x.nodes.all fun n => !x.acked n
  | _ => true

def TakesUnsuspended (s : Cluster) (e : Event) : Prop :=
  ∃k n rd sn vols a m z j,e=.call (.satellite k) (.createSnapshot n rd sn vols) a ∧
    s.notes (.satellite k)=some m ∧ m.snap=some z ∧ j∈z.nodes ∧ s.shared.suspended j rd=false

variable {s t : Cluster} {e : Event} {n name : String} {m : Note} {x y z : Snapshot}

theorem undeleted_of_sharesNothing (h : sharesNothing s e=true) : Undeleted e := by
  rintro name rfl
  cases h

theorem faithful_of_sharesNothing (h : sharesNothing s e=true) : Faithful e := by
  rintro name rows rfl
  cases h

/-- What a satellite that works on `z` relies on. -/
structure Relies (s : State) (n : String) (m : Note) (z : Snapshot) : Prop where
  suspended : m.did=some .suspended → s.suspended n z.resourceDefinitionName=true
  resuming : m.did=none → z.suspendIO=false → z.acked n=true →
    ∀x,s.get? z.name=some x → x.suspendIO=false ∧ x.acked n=true
  resumed : m.did=some .resumed → ∀x,s.get? z.name=some x → x.suspendIO=false ∨ x.acked n=false
  taking : m.did=none → z.takeSnapshot=true → perNodeStatusReady z.nodeStatus n=false →
    ∀j∈z.nodes,s.suspended j z.resourceDefinitionName=true

def Working (s : State) (w : Worker) (m : Note) : Prop :=
  ∀n z,w=.satellite n → m.snap=some z → n∈z.nodes → Relies s n m z

def Note.Has (m : Note) (z : Snapshot) : Prop :=
  m.snap=some z ∨ ∃items,m.listed=some items ∧ z∈items

/-- As long as the controller only promotes, the acknowledgements it has fetched stand where the
snapshot is suspended. -/
def Recalls (s : State) (w : Worker) (m : Note) : Prop :=
  w=.controller → (∀f∈m.flips,f=(true,true)) → ∀z,m.Has z →
    (z.nodeStatus.map nodeName).Nodup ∧
      ∀x,s.get? z.name=some x → x.suspendIO=true → ∀n,z.acked n=true → x.acked n=true

/-- Where a snapshot is suspended, the nodes that acknowledge it are; and it is taken only where
all of them do. -/
structure Holding (s : Cluster) : Prop extends Standing s where
  rows : ∀name x,s.shared.get? name=some x → (x.nodeStatus.map nodeName).Nodup
  held : ∀name x n,s.shared.get? name=some x → n∈x.nodes → x.acked n=true → x.suspendIO=true →
    s.shared.suspended n x.resourceDefinitionName=true
  taking : ∀name x,s.shared.get? name=some x → x.takeSnapshot=true →
    x.suspendIO=true ∧ ∀n∈x.nodes,x.acked n=true
  working : ∀w m,s.notes w=some m → Working s.shared w m
  recalls : ∀w m,s.notes w=some m → Recalls s.shared w m

theorem Holding.object (hs : Holding s) {w : Worker} (hm : s.notes w=some m)
    (hz : m.snap=some z) : ∃x,s.shared.get? z.name=some x ∧ x.Same z :=
  (hs.fetched w m hm).snap z hz

theorem suspended_step {rd : String} (h : NoteStep system s e t)
    (hold : s.shared.suspended n rd=true) : t.shared.suspended n rd=true ∨
      ∃m z,s.notes (.satellite n)=some m ∧ m.did=none ∧ m.Live n z ∧
        z.resourceDefinitionName=rd ∧ z.suspendIO=false ∧ z.acked n=true ∧
        e=.call (.satellite n) (.resumeResource n rd z.name) (.ok ()) := by
  cases h with
  | start i _ _ hs _ => exact .inl (hs ▸ hold)
  | stop i _ hs _ => exact .inl (hs ▸ hold)
  | other c _ hc _ =>
    obtain ⟨_,_,_,_,_,hshape⟩ := changes_shape hc
    rw [hshape]
    exact .inl hold
  | call w op a m _ hm hmay henv _ =>
    rcases step_io henv with ⟨hs,_⟩|⟨k,rd',sn,_,hs,_⟩|⟨k,rd',sn,he,hs,_⟩
    · exact .inl (hs ▸ hold)
    · left
      rw [hs]
      simp [set₂,hold]
    · by_cases hk : n=k ∧ rd=rd'
      · obtain ⟨rfl,rfl⟩ := hk
        cases he
        obtain ⟨rfl,hdid,z,hlive,hrd,rfl,hio,hacked⟩ := may_resume hmay
        exact .inr ⟨m,z,hm,hdid,hlive,hrd.symm,hio,hacked,rfl⟩
      · left
        rw [hs]
        simp [set₂,hk,hold]

theorem of_sharesNothing_resume {w : Worker} {rd sn : String}
    (h : sharesNothing s (.call w (.resumeResource n rd sn) (.ok ()))=true)
    (hw : w=.satellite n) (hx : s.shared.get? name=some x) (hrd : x.resourceDefinitionName=rd)
    (hn : n∈x.nodes) :
    (x.name=sn ∨ x.acked n=false) ∧ ∀k∈x.nodes,takes s k x.name=false := by
  subst hw
  have hall := all_eq_true.mp h x ((s.shared.snapshots.get?_eq_some name x).mp hx).1
  simpa [hrd,hn] using hall

theorem of_sharesNothing_flip {b : Bool} {a : Except Err Unit}
    (h : sharesNothing s (.call .controller (.patch x.name (.flip true b)) a)=true)
    (hx : s.shared.get? name=some x) :
    x.suspendIO=true ∨ b=false ∧ ∀n∈x.nodes,x.acked n=false := by
  rw [get?_name hx] at h
  simpa [sharesNothing,hx] using h

theorem Holding.acked_turned (hs : Holding s) (he : Faithful e) (hx : s.shared.get? name=some x)
    (ht : Turned s e x y) (hio : x.suspendIO=true) (h : x.acked n=true) : y.acked n=true := by
  rcases ht.acked he n with hsame|⟨m,z,hm,hlive,hname,hdid⟩
  · rw [hsame,h]
  · cases hy : y.acked n with
    | true => rfl
    | false =>
      rw [hy] at hdid
      have hx' : s.shared.get? z.name=some x := by rw [hname,get?_name hx,hx]
      rcases (hs.working _ m hm n z rfl hlive.1.1 hlive.1.2).resumed hdid x hx' with h'|h'
      · rw [hio] at h'
        cases h'
      · rw [h] at h'
        cases h'

theorem Holding.suspended_keeps (h : NoteStep system s e t) (hguard : sharesNothing s e=true)
    (hs : Holding s) (hx : s.shared.get? name=some x) (hn : n∈x.nodes) (hacked : x.acked n=true)
    (hio : x.suspendIO=true) : t.shared.suspended n x.resourceDefinitionName=true := by
  rcases suspended_step h (hs.held name x n hx hn hacked hio) with hkept|
    ⟨m,z,hm,hdid,hlive,hrd,hzio,hzacked,he⟩
  · exact hkept
  · rw [he] at hguard
    rcases (of_sharesNothing_resume hguard rfl hx rfl hn).1 with hname|hfalse
    · have hx' : s.shared.get? z.name=some x := by rw [← hname,get?_name hx,hx]
      have hcleared := (hs.working _ m hm n z rfl hlive.1.1 hlive.1.2).resuming hdid hzio hzacked
        x hx'
      rw [hio] at hcleared
      cases hcleared.1
    · rw [hacked] at hfalse
      cases hfalse

theorem Holding.held_step (h : NoteStep system s e t) (hguard : sharesNothing s e=true)
    (hs : Holding s) (hx : s.shared.get? name=some x) (ht : Turned s e x y) (hn : n∈y.nodes)
    (hacked : y.acked n=true) (hio : y.suspendIO=true) :
    t.shared.suspended n y.resourceDefinitionName=true := by
  have hsame := ht.same_fields
  rw [hsame.nodes] at hn
  rw [hsame.2.1]
  cases hxacked : x.acked n with
  | false =>
    -- the satellite has just acknowledged
    rcases ht.acked (faithful_of_sharesNothing hguard) n with heq|⟨m,z,hm,hlive,hname,hdid⟩
    · rw [heq,hxacked] at hacked
      cases hacked
    · rw [hacked] at hdid
      have hrd : z.resourceDefinitionName=x.resourceDefinitionName := by
        obtain ⟨x',hx',hz⟩ := hs.object hm hlive.1.1
        rw [hname,get?_name hx,hx] at hx'
        cases hx'
        exact hz.2.1.symm
      have hold := (hs.working _ m hm n z rfl hlive.1.1 hlive.1.2).suspended hdid
      rcases suspended_step h hold with hkept|⟨m',_,hm',hnone,_⟩
      · rw [← hrd]
        exact hkept
      · rw [hm] at hm'
        cases hm'
        rw [hdid] at hnone
        cases hnone
  | true =>
    cases hxio : x.suspendIO with
    | true => exact hs.suspended_keeps h hguard hx hn hxacked hxio
    | false =>
      obtain ⟨a,he⟩ := ht.flipped (by rw [hio,hxio]; exact Bool.false_ne_true.symm)
      rw [he,hio] at hguard
      rcases of_sharesNothing_flip hguard hx with h'|⟨_,h'⟩
      · rw [hxio] at h'
        cases h'
      · rw [h' n hn] at hxacked
        cases hxacked

theorem acked_of_allNodesSuspendAcked (hrows : (z.nodeStatus.map nodeName).Nodup)
    (h : allNodesSuspendAcked z.nodeStatus z.nodes=true) : ∀n∈z.nodes,z.acked n=true := by
  intro n hn
  have hn := all_eq_true.mp h n hn
  rw [byNode_eq_firstRow hrows] at hn
  exact hn

theorem has_of_mem_siblings {snap : Snapshot} (hsnap : m.snap=some snap) (hz : z∈m.siblings) :
    m.Has z := by
  unfold Note.siblings at hz
  rw [hsnap] at hz
  dsimp only at hz
  split at hz
  · exact .inl ((mem_singleton.mp hz) ▸ hsnap)
  · split at hz
    · cases hz
    · rename_i items hitems
      rcases of_mem_withSelf hz with rfl|hz
      · exact .inl hsnap
      · exact .inr ⟨items,hitems,hz⟩

theorem Note.Decided.promotes {snap : Snapshot} {a b : Bool} (h : m.Decided snap a b)
    (hb : b=true) : a=true ∧ (∀f∈m.flips,f=(true,true)) ∧
      allSiblingsSuspendAcked m.siblings=true := by
  obtain ⟨_,hflips,⟨_,_,hfalse⟩|⟨_,_,_,hverdict⟩⟩ := h
  · rw [hb] at hfalse
    cases hfalse
  · cases hverdict with
    | suspend _ _ _ _ _ => cases hb
    | take _ _ hacked _ => exact ⟨rfl,hflips,hacked⟩
    | resume _ _ _ => cases hb

theorem Holding.taking_step (hguard : sharesNothing s e=true) (hs : Holding s)
    (hx : s.shared.get? name=some x) (ht : Turned s e x y) (htake : y.takeSnapshot=true) :
    y.suspendIO=true ∧ ∀n∈y.nodes,y.acked n=true := by
  have he := faithful_of_sharesNothing hguard
  have hfields := ht.same_fields
  rcases ht.flags with ⟨hio,htake'⟩|⟨m,snap,a,hevent,hm,hd,z,hz,hname⟩
  · rw [htake'] at htake
    obtain ⟨hxio,hacked⟩ := hs.taking name x hx htake
    refine ⟨hio.trans hxio,fun n hn => hs.acked_turned he hx ht hxio (hacked n ?_)⟩
    rw [← hfields.nodes]
    exact hn
  · obtain ⟨hio,hflips,hacked⟩ := hd.promotes htake
    rw [hevent,hio,htake] at hguard
    -- a promotion finds the snapshot suspended
    have hxio : x.suspendIO=true :=
      (of_sharesNothing_flip hguard hx).resolve_right fun h => by cases h.1
    refine ⟨hio,fun n hn => hs.acked_turned he hx ht hxio ?_⟩
    obtain ⟨hrows,hrecalls⟩ := hs.recalls _ m hm rfl hflips z (has_of_mem_siblings hd.1 hz)
    obtain ⟨_,⟨x',hx',hsame⟩,_⟩ := (hs.fetched _ m hm).mem_siblings hd.1 hz
    have hx'' : s.shared.get? z.name=some x := by rw [hname,get?_name hx,hx]
    rw [hx''] at hx'
    cases hx'
    refine hrecalls x hx'' hxio n (acked_of_allNodesSuspendAcked hrows
      (all_eq_true.mp hacked z hz) n ?_)
    rw [← hsame.nodes,← hfields.nodes]
    exact hn

theorem Holding.relies_keeps (h : NoteStep system s e t) (hguard : sharesNothing s e=true)
    (hs : Holding s) (hm : s.notes (.satellite n)=some m) (hz : m.snap=some z) (hn : n∈z.nodes) :
    Relies t.shared n m z := by
  have he := faithful_of_sharesNothing hguard
  have hold := hs.working _ m hm n z rfl hz hn
  obtain ⟨x,hx,hsame⟩ := hs.object hm hz
  have hname := get?_name hx
  -- the object as it is after the step, and whose acknowledgement may have changed
  have hback (y : Snapshot) (hy : t.shared.get? z.name=some y) : Turned s e x y := by
    rcases turned_back h hy with ⟨x',hx',ht⟩|⟨hnone,_⟩
    · rw [hx] at hx'
      cases hx'
      exact ht
    · rw [hx] at hnone
      cases hnone
  have hacked (y : Snapshot) (ht : Turned s e x y) : y.acked n=x.acked n ∨
      m.did=some (if y.acked n then .suspended else .resumed) := by
    rcases ht.acked he n with hsame|⟨m',_,hm',_,_,hdid⟩
    · exact .inl hsame
    · rw [hm] at hm'
      cases hm'
      exact .inr hdid
  have hraised (y : Snapshot) (ht : Turned s e x y) (hxio : x.suspendIO=false)
      (hyio : y.suspendIO=true) : x.acked n=false := by
    obtain ⟨a,hflip⟩ := ht.flipped (by rw [hxio,hyio]; exact Bool.false_ne_true.symm)
    rw [hflip,hyio] at hguard
    rcases of_sharesNothing_flip hguard hx with h'|⟨_,h'⟩
    · rw [hxio] at h'
      cases h'
    · exact h' n (hsame.nodes ▸ hn)
  refine ⟨fun hdid => ?_,fun hdid hzio hzacked y hy => ?_,fun hdid y hy => ?_,
    fun hdid htake hready j hj => ?_⟩
  · rcases suspended_step h (hold.suspended hdid) with hkept|⟨m',_,hm',hnone,_⟩
    · exact hkept
    · rw [hm] at hm'
      cases hm'
      rw [hdid] at hnone
      cases hnone
  · have ht := hback y hy
    obtain ⟨hxio,hxacked⟩ := hold.resuming hdid hzio hzacked x hx
    have hyacked : y.acked n=true := by
      rcases hacked y ht with heq|hdid'
      · rw [heq,hxacked]
      · rw [hdid] at hdid'
        cases hdid'
    refine ⟨?_,hyacked⟩
    cases hyio : y.suspendIO with
    | false => rfl
    | true =>
      rw [hraised y ht hxio hyio] at hxacked
      cases hxacked
  · have ht := hback y hy
    cases hyio : y.suspendIO with
    | false => exact .inl rfl
    | true =>
      right
      have hxacked : x.acked n=false := by
        rcases hold.resumed hdid x hx with hxio|h'
        · exact hraised y ht hxio hyio
        · exact h'
      rcases hacked y ht with heq|hdid'
      · rw [heq,hxacked]
      · rw [hdid] at hdid'
        cases hya : y.acked n with
        | false => rfl
        | true =>
          rw [hya] at hdid'
          cases hdid'
  · rcases suspended_step h (hold.taking hdid htake hready j hj) with hkept|
      ⟨_,_,_,_,_,_,_,_,hevent⟩
    · exact hkept
    · rw [hevent] at hguard
      have htakes := (of_sharesNothing_resume hguard rfl hx hsame.2.1 (hsame.nodes ▸ hj)).2 n
        (hsame.nodes ▸ hn)
      simp [takes,hm,hdid,hz,hname,htake,hready] at htakes

theorem Holding.relies_fetched (hs : Holding s) (hz : s.shared.get? z.name=some z)
    (hdid : m.did=none) : Relies s.shared n m z where
  suspended h := by
    rw [hdid] at h
    cases h
  resuming _ hzio hzacked x hx := by
    rw [hz] at hx
    cases hx
    exact ⟨hzio,hzacked⟩
  resumed h := by
    rw [hdid] at h
    cases h
  taking _ htake _ j hj := by
    obtain ⟨hio,hacked⟩ := hs.taking _ z hz htake
    exact hs.held _ z j hz hj (hacked j hj) hio

theorem relies_of_did {s : State} {d : Action} (hd : m.did=some d)
    (hsuspended : d=.suspended → s.suspended n z.resourceDefinitionName=true)
    (hresumed : d=.resumed → ∀x,s.get? z.name=some x → x.suspendIO=false ∨ x.acked n=false) :
    Relies s n m z where
  suspended h := hsuspended (Option.some.inj (hd.symm.trans h))
  resuming h := by
    rw [hd] at h
    cases h
  resumed h := hresumed (Option.some.inj (hd.symm.trans h))
  taking h := by
    rw [hd] at h
    cases h

theorem step_suspendResource {s t : State} {n rd sn : String}
    (h : Step s (.suspendResource n rd sn) (.ok ()) t) :
    t={s with suspended := set₂ s.suspended n rd true, frozen := set₂ s.frozen n sn true} := by
  rcases h with ⟨_,ht⟩|⟨hfail,_⟩
  · exact ht
  · cases hfail

theorem Holding.working_step (h : NoteStep system s e t) (hguard : sharesNothing s e=true)
    (hs : Holding s) : ∀w m,t.notes w=some m → Working t.shared w m := by
  have hkeep (w : Worker) (m : Note) (hm : s.notes w=some m) : Working t.shared w m := by
    rintro n z rfl hz hn
    exact hs.relies_keeps h hguard hm hz hn
  refine h.each (fun sh w m => Working sh w m) hs.working (fun _ _ _ _ hz => by cases hz) ?_ ?_
  · intro w op a m _ hm hmay henv
    refine ⟨?_,fun j k _ hk => hkeep j k hk⟩
    rintro n z rfl hz hn
    change may (.satellite n) m op at hmay
    change (m.next op a).snap=some z at hz
    change Relies t.shared n (m.next op a) z
    rcases next_fetched m op a with ⟨hsnap,_⟩|⟨k,x,he,hnext⟩|⟨g,items,he,_⟩
    · rw [hsnap] at hz
      have hold := hkeep _ m hm n z rfl hz hn
      rcases next_did m op a with hd|⟨_,_,_,he,hd⟩|⟨_,_,_,he,hd⟩|⟨_,_,_,_,_,_,_,hd⟩|⟨_,_,_,_,hd⟩
      · obtain ⟨h₁,h₂,h₃,h₄⟩ := hold
        rw [← hd] at h₁ h₂ h₃ h₄
        exact ⟨h₁,h₂,h₃,h₄⟩
      · cases he
        obtain ⟨rfl,_,z',⟨⟨hz',_⟩,_⟩,rfl,rfl,_⟩ := hmay
        rw [hz] at hz'
        cases hz'
        rw [step_suspendResource henv]
        exact relies_of_did hd (fun _ => by simp [set₂]) fun h => by cases h
      · cases he
        obtain ⟨hw,hdid,z',⟨⟨hz',_⟩,_⟩,_,_,hio,hacked⟩ := may_resume hmay
        cases hw
        rw [hz] at hz'
        cases hz'
        exact relies_of_did hd (fun h => by cases h) fun _ x hx =>
          .inl (hold.resuming hdid hio hacked x hx).1
      · exact relies_of_did hd (fun h => by cases h) fun h => by cases h
      · exact relies_of_did hd (fun h => by cases h) fun h => by cases h
    · cases he
      obtain ⟨hst,hx⟩ := step_getSnapshot henv
      obtain rfl := may_getSnapshot hmay
      cases hz
      rw [hst]
      exact hs.relies_fetched (get?_name hx ▸ hx) rfl
    · cases he
      cases (may_listSiblings hmay).1
  · intro c _ _ j k hk
    exact hkeep j k hk

theorem next_flips (m : Note) (op : Op) (a : OpAnswer op) :
    (m.next op a).flips=m.flips ∨ ∃f,(m.next op a).flips=m.flips++[f] := by
  cases op with
  | getSnapshot n => cases a <;> exact .inl rfl
  | listSiblings g => cases a <;> exact .inl rfl
  | listResources => cases a <;> exact .inl rfl
  | patch n p =>
    cases p with
    | flip b c => exact .inr ⟨(b,c),rfl⟩
    | _ => exact .inl rfl
  | suspendResource n rd x => cases a <;> exact .inl rfl
  | resumeResource n rd x => cases a <;> exact .inl rfl
  | createSnapshot n rd x vols =>
    left
    cases a with
    | ok r =>
      simp only [Note.next]
      split <;> rfl
    | error e => rfl
  | deleteSnapshot n rd x =>
    rcases a with _|(_|_) <;> exact .inl rfl
  | _ => exact .inl rfl

theorem Fetched.has {sh : State} (h : Fetched sh m) (hz : m.Has z) : Stands sh z := by
  rcases hz with hz|⟨items,hitems,hz⟩
  · exact h.snap z hz
  · obtain ⟨_,_,_,_,_,hall⟩ := h.listed items hitems
    exact (hall z hz).2

theorem Holding.recalls_keeps (h : NoteStep system s e t) (hguard : sharesNothing s e=true)
    (hs : Holding s) (hm : s.notes .controller=some m) (hflips : ∀f∈m.flips,f=(true,true))
    (hpromotes : ∀name b a,e=.call .controller (.patch name (.flip true b)) a → b=true)
    (hz : m.Has z) : (z.nodeStatus.map nodeName).Nodup ∧
      ∀y,t.shared.get? z.name=some y → y.suspendIO=true → ∀n,z.acked n=true → y.acked n=true := by
  obtain ⟨hrows,hold⟩ := hs.recalls _ m hm rfl hflips z hz
  refine ⟨hrows,fun y hy hyio n hn => ?_⟩
  obtain ⟨x,hx,_⟩ := (hs.fetched _ m hm).has hz
  rcases turned_back h hy with ⟨x',hx',ht⟩|⟨hnone,_⟩
  · rw [hx] at hx'
    cases hx'
    cases hxio : x.suspendIO with
    | true =>
      exact hs.acked_turned (faithful_of_sharesNothing hguard) hx ht hxio (hold x hx hxio n hn)
    | false =>
      obtain ⟨a,he⟩ := ht.flipped (by rw [hxio,hyio]; exact Bool.false_ne_true.symm)
      rw [hyio] at he
      have hb := hpromotes _ _ a he
      rw [he] at hguard
      rcases of_sharesNothing_flip hguard hx with h'|⟨hfalse,_⟩
      · rw [hxio] at h'
        cases h'
      · rw [hb] at hfalse
        cases hfalse
  · rw [hx] at hnone
    cases hnone

theorem Holding.recalls_fetched (hs : Holding s) (hz : s.shared.get? z.name=some z) :
    (z.nodeStatus.map nodeName).Nodup ∧
      ∀x,s.shared.get? z.name=some x → x.suspendIO=true → ∀n,z.acked n=true → x.acked n=true := by
  refine ⟨hs.rows _ z hz,fun x hx _ n hn => ?_⟩
  rw [hz] at hx
  cases hx
  exact hn

theorem Holding.recalls_step (h : NoteStep system s e t) (hguard : sharesNothing s e=true)
    (hs : Holding s) : ∀w m,t.notes w=some m → Recalls t.shared w m := by
  refine h.each (fun sh w m => Recalls sh w m) hs.recalls ?_ ?_ ?_
  · rintro w rfl _ z (hz|⟨items,hitems,_⟩)
    · cases hz
    · cases hitems
  · intro w op a m he hm hmay henv
    constructor
    · rintro rfl hflips z hz
      change may .controller m op at hmay
      change ∀f∈(m.next op a).flips,f=(true,true) at hflips
      change (m.next op a).Has z at hz
      have hpromotes (name : String) (b : Bool) (r : Except Err Unit)
          (hcall : e=.call .controller (.patch name (.flip true b)) r) : b=true := by
        rw [he] at hcall
        cases hcall
        exact congrArg Prod.snd (hflips (true,b) (mem_append_right m.flips mem_cons_self))
      have hflips' : ∀f∈m.flips,f=(true,true) := by
        rcases next_flips m op a with hf|⟨_,hf⟩
        · rw [hf] at hflips
          exact hflips
        · exact fun f hmem => hflips f (by rw [hf]; exact mem_append_left _ hmem)
      have hkeep (z : Snapshot) (hz : m.Has z) :=
        hs.recalls_keeps h hguard hm hflips' hpromotes hz
      rcases next_fetched m op a with ⟨hsnap,hlisted⟩|⟨k,x,he',hnext⟩|⟨g,items,he',hnext⟩
      · refine hkeep z ?_
        unfold Note.Has at hz ⊢
        rwa [hsnap,hlisted] at hz
      · cases he'
        obtain ⟨hst,hx⟩ := step_getSnapshot henv
        obtain rfl := may_getSnapshot hmay
        rw [hnext] at hz
        rcases hz with hz|⟨_,hitems,_⟩
        · cases hz
          rw [hst]
          exact hs.recalls_fetched (get?_name hx ▸ hx)
        · cases hitems
      · cases he'
        obtain ⟨hst,rfl⟩ := step_listSiblings henv
        rw [hnext] at hz
        rcases hz with hz|⟨_,hitems,hz⟩
        · exact hkeep z (.inl hz)
        · cases hitems
          rw [hst]
          exact hs.recalls_fetched (mem_siblings hz).1
    · rintro j k hne hk rfl hflips z hz
      refine hs.recalls_keeps h hguard hk hflips (fun name b r hcall => ?_) hz
      rw [he] at hcall
      cases hcall
      exact absurd rfl hne
  · rintro c he _ j k hk rfl hflips z hz
    refine hs.recalls_keeps h hguard hk hflips (fun name b r hcall => ?_) hz
    rw [he] at hcall
    cases hcall

theorem Holding.step (h : NoteStep system s e t) (hguard : sharesNothing s e=true)
    (hs : Holding s) : Holding t where
  toStanding := hs.toStanding.step h (undeleted_of_sharesNothing hguard)
  rows name y hy := by
    rcases turned_back h hy with ⟨x,hx,ht⟩|⟨_,w,_,_,rfl⟩
    · exact ht.nodup (faithful_of_sharesNothing hguard) (hs.rows name x hx)
    · exact nodup_nil
  held name y n hy hn hacked hio := by
    rcases turned_back h hy with ⟨x,hx,ht⟩|⟨_,w,_,_,rfl⟩
    · exact hs.held_step h hguard hx ht hn hacked hio
    · cases hacked
  taking name y hy htake := by
    rcases turned_back h hy with ⟨x,hx,ht⟩|⟨_,w,_,_,rfl⟩
    · exact hs.taking_step hguard hx ht htake
    · cases htake
  working := hs.working_step h hguard
  recalls := hs.recalls_step h hguard

theorem holding_initial : Holding (idle .initial) where
  toStanding := standing_initial
  rows _ _ h := by cases h
  held _ _ _ h := by cases h
  taking _ _ h := by cases h
  working _ _ h := by cases h
  recalls _ _ h := by cases h

/-- A snapshot is taken under suspended I/O. In every run in which no node is resumed under another
snapshot of the resource, and no snapshot is suspended anew on old acknowledgements, a satellite
takes a snapshot only while all nodes of the snapshot are suspended. -/
theorem taken_under_suspension {es : List Event}
    (hrun : Run (guarded (fun s e => sharesNothing s e=true) (Pool.Step system))
      (Pool.idle .initial) es s) (hstep : Pool.Step system s e t) : ¬TakesUnsuspended s e := by
  obtain ⟨hfollow,hs⟩ := (Pool.following_idle _).invariant system_sound _ Holding
    (fun _ _ _ hs hguard hstep => hs.step hstep hguard) holding_initial hrun
  rintro ⟨k,n,rd,sn,vols,a,m,z,j,rfl,hm,hz,hj,hfalse⟩
  have hnote := hfollow.noteStep _ hstep
  cases hnote with
  | call _ _ _ m' _ hm' hmay _ _ =>
    rw [hm] at hm'
    cases hm'
    obtain ⟨rfl,hdid,z',⟨⟨hz',hn⟩,_⟩,rfl,_,htake,hready⟩ := hmay
    rw [hz] at hz'
    cases hz'
    rw [(hs.working _ m hm n z rfl hz hn).taking hdid htake hready j hj] at hfalse
    cases hfalse

/-- Two snapshots of one resource, each on a node. The first is taken and resumed while the second
is on its way. -/
def overlapping (n k : String) : List Turn :=
  .other (.create "a" ⟨"ra","s",[n],[0],"",0,"",""⟩)::
    .other (.create "b" ⟨"ra","t",[k],[0],"",0,"",""⟩)::
    reconciling (.satellite n) "a" 4++reconciling (.satellite n) "a" 5++
    reconciling (.satellite k) "b" 4++reconciling (.satellite k) "b" 5++
    reconciling .controller "a" 6++reconciling .controller "b" 6++
    reconciling (.satellite n) "a" 6++reconciling .controller "a" 4++
    reconciling (.satellite n) "a" 5++
    .other (.request (.satellite k) "b")::replicate 4 (.go (.satellite k))

def takesOnN : Event → Bool
  | .call (.satellite "n") (.createSnapshot "n" "ra" _ _) _ => true
  | _ => false

def takesOnM : Event → Bool
  | .call (.satellite "m") (.createSnapshot "m" "ra" "t" _) _ => true
  | _ => false

def resumesA : Event → Bool
  | .call (.satellite "n") (.resumeResource "n" "ra" "a") _ => true
  | _ => false

/-- On one node the resume for the first snapshot lets I/O go on under the second. -/
theorem taken_after_resume : ∃es s e t,
    Run (guarded (fun _ e => Undeleted e ∧ Faithful e) (Pool.Step system)) (Pool.idle .initial)
      es s ∧ Pool.Step system s e t ∧ TakesUnsuspended s e := by
  let xs := overlapping "n" "n"
  have hrun := run_scheduled (fun _ e => Undeleted e ∧ Faithful e)
    (fun _ x => undeleting x && faithful x)
    (fun _ x _ _ hx ht => ⟨undeleted_act x ((Bool.and_eq_true _ _).mp hx).1 ht,
      faithful_act x ((Bool.and_eq_true _ _).mp hx).2 ht⟩) xs (by decide +kernel)
  have hlast : (act system carryOut change (scheduled xs).2 (.go (.satellite "n"))).any
      (fun r => takesOnN r.1 && ((scheduled xs).2.notes (.satellite "n")).any (fun m =>
          m.snap.any fun z => decide ("n"∈z.nodes)) &&
        !(scheduled xs).2.shared.suspended "n" "ra")=true := by decide +kernel
  obtain ⟨⟨e,t⟩,hact,htests⟩ := (Option.any_eq_true _ _).mp hlast
  simp only [Bool.and_eq_true,Option.any_eq_true,decide_eq_true_eq,Bool.not_eq_true'] at htests
  obtain ⟨⟨he,m,hm,z,hz,hn⟩,hfalse⟩ := htests
  refine ⟨_,_,e,t,hrun,step_act step_carryOut changes_change _ e hact,?_⟩
  unfold takesOnN at he
  split at he
  · exact ⟨_,_,_,_,_,_,m,z,"n",rfl,hm,hz,hn,hfalse⟩
  · cases he

/-- On different nodes the two do not disturb each other. -/
theorem taken_under_suspension_apart : ∃es s e t,
    Run (guarded (fun s e => sharesNothing s e=true) (Pool.Step system)) (Pool.idle .initial)
      es s ∧ Pool.Step system s e t ∧
      (∃a,.call (.satellite "n") (.resumeResource "n" "ra" "a") a∈es) ∧
      (∃vols a,e=.call (.satellite "m") (.createSnapshot "m" "ra" "t" vols) a) ∧
      ¬TakesUnsuspended s e := by
  let xs := overlapping "n" "m"
  have hrun := run_scheduled (fun s e => sharesNothing s e=true)
    (fun s x => (Pool.act system carryOut change s x).all fun r => sharesNothing s r.1)
    (fun s x e t hx ht => by rw [ht] at hx; exact hx) xs (by decide +kernel)
  have hlast : (Pool.act system carryOut change (scheduled xs).2 (.go (.satellite "m"))).any
      (fun r => takesOnM r.1)=true := by decide +kernel
  have hresume : (scheduled xs).1.any resumesA=true := by decide +kernel
  obtain ⟨⟨e,t⟩,hact,htest⟩ := (Option.any_eq_true _ _).mp hlast
  have hstep := Pool.step_act step_carryOut changes_change _ e hact
  refine ⟨_,_,e,t,hrun,hstep,?_,?_,taken_under_suspension hrun hstep⟩
  · obtain ⟨e',he',htest⟩ := any_eq_true.mp hresume
    unfold resumesA at htest
    split at htest
    · exact ⟨_,he'⟩
    · cases htest
  · dsimp only [takesOnM] at htest
    split at htest
    · exact ⟨_,_,rfl⟩
    · cases htest

end Blockstor.Orchestration
