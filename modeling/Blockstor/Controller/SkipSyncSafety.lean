import Blockstor.Controller.SkipSyncSystem

namespace Blockstor.Controller

open Drbd Framework Shell Pool

variable (rd : String) (s : Passes) (name : String)

def Unstamped (c : Cluster) : Prop :=
  ∃r∈c.resources,r.name=name ∧ r.spec.resourceDefinitionName=rd ∧ r.spec.skipInitialSync=none

/-- A pass over an unstamped replica of the definition has noted `flag`. -/
def Waiting (flag : Seen → Bool) : Prop :=
  ∃name m,s.notes name=some m ∧ flag m=true ∧ Unstamped rd name s.shared

/-- The calls of a pass that are safe to make now. While its replica has no stamp, the latch it
reads is set if there is data, and the cache is not behind; the latch is not set, and no replica
with data is given a disk, while a pass over an unstamped replica counts on the opposite. -/
def CarefulCall : (cmd : Cmd) → Answer cmd → Prop
  | .getDefinition x,.ok _ =>
      x=rd → Unstamped rd name s.shared → DataProven rd s.shared → Initialized rd s.shared
  | .cachedResource _,.ok r =>
      Unstamped rd name s.shared → r.spec.resourceDefinitionName=rd
  | .cachedResources,.ok list =>
      Unstamped rd name s.shared → DataProven rd s.shared → Seen.shows rd list=true
  | .cachedDefinition x,.ok d =>
      x=rd → Unstamped rd name s.shared → Initialized rd s.shared → rdInitialized d=true
  | .patchInitialized x,_ => x=rd → ¬Waiting rd s Seen.latchUnset
  | .updateResource seen changed,_ =>
      (∃r∈s.shared.resources,(Cmd.updateResource seen changed).GivesData rd r) →
        ¬Waiting rd s Seen.noData
  | _,_ => True

/-- The changes by others that are safe now: no replica is created under the name of one whose pass
still runs, and none shows data while a pass over an unstamped replica counts on there being none. -/
def CarefulChange : Change → Prop
  | .create r => s.notes r.name=none ∧
      (r.spec.resourceDefinitionName=rd → HoldsData r → ¬Waiting rd s Seen.noData)
  | .delete _ => True
  | .report name volumes inUse => ∀r∈s.shared.resources,r.name=name →
      r.spec.resourceDefinitionName=rd → HoldsData (r.reported volumes inUse) →
        ¬Waiting rd s Seen.noData

def Careful : PoolEvent String Answer Change → Prop
  | .call name cmd a => CarefulCall rd s name cmd a
  | .other e => CarefulChange rd s e
  | .start _ => True
  | .stop _ => True

structure StampsWell (rd : String) (c t : Cluster) : Prop where
  fresh : ∀a∈c.resources,∀b∈t.resources,b.name=a.name → a.spec.resourceDefinitionName=rd →
    a.spec.skipInitialSync≠some true → b.spec.skipInitialSync=some true →
      ¬Initialized rd c ∧ ¬DataProven rd c
  once : ∀a∈c.resources,∀b∈t.resources,b.name=a.name → a.spec.resourceDefinitionName=rd →
    ∀skip,a.spec.skipInitialSync=some skip → b.spec.skipInitialSync=some skip
  latched : Initialized rd c → Initialized rd t

structure Tracks (rd : String) (c : Cluster) (m : Seen) (r : Resource) : Prop where
  stamp : ∀v,m.stamp=some v → r.spec.skipInitialSync=v
  own : r.spec.skipInitialSync=none → m.foreign=false
  latch : r.spec.skipInitialSync=none → m.latchUnset=true → ¬Initialized rd c
  data : r.spec.skipInitialSync=none → m.noData=true → ¬DataProven rd c

def Tracked : Prop :=
  ∀name m,s.notes name=some m → ∀r∈s.shared.resources,r.name=name →
    r.spec.resourceDefinitionName=rd → Tracks rd s.shared m r

section

variable {rd name : String} {c t : Cluster} {m : Seen} {r : Resource} {cmd : Cmd}

theorem settableOnce_some {old new : Option Bool} {b : Bool} (h : settableOnce old new=true)
    (hold : old=some b) : new=none ∨ new=some b := by
  subst hold
  cases new with
  | none => exact .inl rfl
  | some b' =>
    right
    simpa [settableOnce,eq_comm] using h

theorem Tracks.restamp (h : Tracks rd c m r) (hmay : Seen.may name m cmd) (new : Option Bool)
    (hnew : cmd.Restamps r.name r.spec.skipInitialSync new) :
    (∀b,r.spec.skipInitialSync=some b → new=some b) ∧
    (r.spec.skipInitialSync=none → new=some true → m.Clear) := by
  cases cmd with
  | patchSpec x i p skip =>
    obtain ⟨_,hset,rfl⟩ := hnew
    obtain ⟨_,hw⟩ := hmay
    constructor
    · intro b hb
      rcases settableOnce_some hset hb with hnone|hsame
      · rw [hnone] at hw
        rw [h.stamp none hw] at hb
        cases hb
      · exact hsame
    · intro hnone htrue
      rw [htrue] at hw
      rcases hw with hw|hw
      · rw [h.stamp _ hw] at hnone
        cases hnone
      · exact hw rfl
  | patchSkipInitialSync x skip =>
    obtain ⟨_,hset,rfl⟩ := hnew
    constructor
    · intro b hb
      rcases settableOnce_some hset hb with hnone|hsame
      · cases hnone
      · exact hsame
    · intro _ htrue
      exact hmay.2 (Option.some.inj htrue)
  | updateResource seen changed =>
    obtain ⟨_,hold,rfl⟩ := hnew
    obtain ⟨_,_,_,hup⟩ := hmay
    constructor
    · intro b hb
      rcases hup with hsame|⟨hnone,_⟩
      · rw [hsame,← hold,hb]
      · rw [hold,hnone] at hb
        cases hb
    · intro hnone htrue
      rcases hup with hsame|⟨_,hclear⟩
      · rw [hsame,← hold,hnone] at htrue
        cases htrue
      · exact hclear htrue
  | _ => cases hnew

theorem Tracks.clear (h : Tracks rd c m r) (hnone : r.spec.skipInitialSync=none) (hm : m.Clear) :
    ¬Initialized rd c ∧ ¬DataProven rd c := by
  rcases hm with hm|⟨hl,hd⟩
  · rw [h.own hnone] at hm
    cases hm
  · exact ⟨h.latch hnone hl,h.data hnone hd⟩

theorem call_stampsWell (heffect : Effect rd cmd c t) (hmay : Seen.may name m cmd)
    (htracks : ∀r∈c.resources,r.name=name → r.spec.resourceDefinitionName=rd → Tracks rd c m r)
    (hown : ∀x old new,cmd.Restamps x old new → x=name) : StampsWell rd c t := by
  have hfrom (a : Resource) (ha : a∈c.resources) (b : Resource) (hb : b∈t.resources)
      (hn : b.name=a.name) (hrd : a.spec.resourceDefinitionName=rd) :
      b.spec.skipInitialSync=a.spec.skipInitialSync ∨ Tracks rd c m a ∧
        cmd.Restamps a.name a.spec.skipInitialSync b.spec.skipInitialSync := by
    obtain ⟨a',ha',hn',_,hskip⟩ := heffect.replicas b hb
    obtain rfl := c.resources.eq_of_key ha' ha (hn'.symm.trans hn)
    rcases hskip with hskip|hskip
    · exact .inl hskip
    · exact .inr ⟨htracks a' ha (hown _ _ _ hskip) hrd,hskip⟩
  refine ⟨?_,?_,heffect.latched⟩
  · intro a ha b hb hn hrd hold hnew
    rcases hfrom a ha b hb hn hrd with hsame|⟨htrack,hre⟩
    · exact absurd (hsame.symm.trans hnew) hold
    · obtain ⟨hkeep,hclear⟩ := htrack.restamp hmay _ hre
      have hnone : a.spec.skipInitialSync=none := by
        cases hskip : a.spec.skipInitialSync with
        | none => rfl
        | some b' =>
          have hb' := (hkeep b' hskip).symm.trans hnew
          exact absurd (hskip.trans hb') hold
      exact htrack.clear hnone (hclear hnone hnew)
  · intro a ha b hb hn hrd skip hskip
    rcases hfrom a ha b hb hn hrd with hsame|⟨htrack,hre⟩
    · exact hsame.trans hskip
    · exact (htrack.restamp hmay _ hre).1 skip hskip

theorem restamps_own (hmay : Seen.may name m cmd) (x : String) (old new : Option Bool)
    (h : cmd.Restamps x old new) : x=name := by
  cases cmd with
  | patchSpec y i p skip => exact h.1.trans hmay.1
  | patchSkipInitialSync y skip => exact h.1.trans hmay.1
  | updateResource seen changed => exact h.1.trans hmay.2.1
  | _ => cases h

theorem not_initialized_of_read (d : ResourceDefinition) (hget : c.definitions.get? rd=some d)
    (hinit : rdInitialized d=false) : ¬Initialized rd c := by
  intro h
  obtain ⟨d',hd',hname,htrue⟩ := h
  obtain ⟨hd,hrd⟩ := (c.definitions.get?_eq_some rd d).mp hget
  obtain rfl := c.definitions.eq_of_key hd' hd (hname.trans hrd.symm)
  simp [rdInitialized,htrue] at hinit

theorem Tracks.read {s : Passes} (h : Tracks rd s.shared m r) (hr : r∈s.shared.resources)
    (hname : r.name=name) (hrd : r.spec.resourceDefinitionName=rd) (hmay : Seen.may name m cmd)
    (hread : cmd.isRead=true) (a : Answer cmd) (hstep : Step s.shared cmd a t)
    (hcare : CarefulCall rd s name cmd a) : Tracks rd s.shared (Seen.next rd m cmd a) r := by
  have hunset (hnone : r.spec.skipInitialSync=none) : Unstamped rd name s.shared :=
    ⟨r,hr,hname,hrd,hnone⟩
  cases cmd with
  | getResource x =>
    cases a with
    | error e => exact h
    | ok r' =>
      have hget := found_ok hstep
      obtain rfl : x=name := hmay
      rw [(s.shared.resources.get?_eq_some x r).mpr ⟨hr,hname⟩] at hget
      cases hget
      refine ⟨fun v hv => Option.some.inj hv,fun hnone => ?_,h.latch,h.data⟩
      simp [Seen.next,Seen.sawReplica,hrd,h.own hnone]
  | cachedResource x =>
    cases a with
    | error e => exact h
    | ok r' =>
      refine ⟨h.stamp,fun hnone => ?_,h.latch,h.data⟩
      simp [Seen.next,Seen.sawReplica,hcare (hunset hnone),h.own hnone]
  | getDefinition x =>
    cases a with
    | error e => exact h
    | ok d =>
      simp only [Seen.next]
      split
      · rename_i hx
        obtain ⟨rfl,hinit⟩ := hx
        have hlatch := not_initialized_of_read d (found_ok hstep) hinit
        exact ⟨h.stamp,h.own,fun _ _ => hlatch,
          fun hnone _ hdata => hlatch (hcare rfl (hunset hnone) hdata)⟩
      · exact h
  | cachedDefinition x =>
    cases a with
    | error e => exact h
    | ok d =>
      simp only [Seen.next]
      split
      · rename_i hx
        obtain ⟨rfl,hinit⟩ := hx
        refine ⟨h.stamp,h.own,fun hnone _ hlatch => ?_,h.data⟩
        rw [hcare rfl (hunset hnone) hlatch] at hinit
        cases hinit
      · exact h
  | cachedResources =>
    cases a with
    | error e => exact h
    | ok list =>
      simp only [Seen.next]
      split
      · exact h
      · rename_i hshows
        exact ⟨h.stamp,h.own,h.latch,fun hnone _ hdata => hshows (hcare (hunset hnone) hdata)⟩
  | patchSpec _ _ _ _ => cases hread
  | patchStatus _ _ _ _ => cases hread
  | patchVolumes _ _ => cases hread
  | patchInitialized _ => cases hread
  | patchSkipInitialSync _ _ => cases hread
  | updateResource _ _ => cases hread
  | deleteResource _ => cases hread
  | _ => cases a <;> exact h

variable (rd m) in
theorem next_write (hread : cmd.isRead=false) (a : Answer cmd) :
    (Seen.next rd m cmd a).foreign=m.foreign ∧ (Seen.next rd m cmd a).latchUnset=m.latchUnset ∧
    (Seen.next rd m cmd a).noData=m.noData ∧ (Seen.next rd m cmd a=m ∧ (∀x old new,
      ¬cmd.Restamps x old new) ∨ (Seen.next rd m cmd a).stamp=none) := by
  cases cmd with
  | patchSpec _ _ _ _ => exact ⟨rfl,rfl,rfl,.inr rfl⟩
  | patchSkipInitialSync _ _ => exact ⟨rfl,rfl,rfl,.inr rfl⟩
  | updateResource _ _ => exact ⟨rfl,rfl,rfl,.inr rfl⟩
  | patchStatus _ _ _ _ => exact ⟨rfl,rfl,rfl,.inl ⟨rfl,fun _ _ _ h => h⟩⟩
  | patchVolumes _ _ => exact ⟨rfl,rfl,rfl,.inl ⟨rfl,fun _ _ _ h => h⟩⟩
  | patchInitialized _ => exact ⟨rfl,rfl,rfl,.inl ⟨rfl,fun _ _ _ h => h⟩⟩
  | deleteResource _ => exact ⟨rfl,rfl,rfl,.inl ⟨rfl,fun _ _ _ h => h⟩⟩
  | _ => cases hread

theorem Tracks.after {n : Seen} {b : Resource} (h : Tracks rd c m r)
    (hskip : b.spec.skipInitialSync=none → r.spec.skipInitialSync=none)
    (hstamp : ∀v,n.stamp=some v → b.spec.skipInitialSync=v) (hforeign : n.foreign=m.foreign)
    (hl : n.latchUnset=m.latchUnset) (hd : n.noData=m.noData)
    (hlatch : r.spec.skipInitialSync=none → m.latchUnset=true → Initialized rd t → Initialized rd c)
    (hdata : r.spec.skipInitialSync=none → m.noData=true → DataProven rd t → DataProven rd c) :
    Tracks rd t n b := by
  refine ⟨hstamp,fun hb => ?_,fun hb hm hi => ?_,fun hb hm hp => ?_⟩
  · rw [hforeign]
    exact h.own (hskip hb)
  · rw [hl] at hm
    exact h.latch (hskip hb) hm (hlatch (hskip hb) hm hi)
  · rw [hd] at hm
    exact h.data (hskip hb) hm (hdata (hskip hb) hm hp)

variable {s u : Passes}

theorem Tracked.call (h : Tracked rd s) (a : Answer cmd) (hi : s.notes name=some m)
    (hmay : Seen.may name m cmd) (hstep : Step s.shared cmd a t)
    (hcare : CarefulCall rd s name cmd a) :
    (∀b∈t.resources,b.name=name → b.spec.resourceDefinitionName=rd →
      Tracks rd t (Seen.next rd m cmd a) b) ∧
    ∀k n,k≠name → s.notes k=some n → ∀b∈t.resources,b.name=k →
      b.spec.resourceDefinitionName=rd → Tracks rd t n b := by
  have heffect : Effect rd cmd s.shared t := step_effect name m hmay a hstep
  have hlatch (k : String) (n : Seen) (hk : s.notes k=some n) (hflag : n.latchUnset=true)
      (hunset : Unstamped rd k s.shared) (hinit : Initialized rd t) : Initialized rd s.shared := by
    rcases heffect.latch hinit with hinit|hcmd
    · exact hinit
    · subst hcmd
      exact absurd ⟨k,n,hk,hflag,hunset⟩ (hcare rfl)
  have hdata (k : String) (n : Seen) (hk : s.notes k=some n) (hflag : n.noData=true)
      (hunset : Unstamped rd k s.shared) (hproven : DataProven rd t) : DataProven rd s.shared := by
    rcases heffect.data hproven with hproven|hgives
    · exact hproven
    · cases cmd with
      | updateResource seen changed => exact absurd ⟨k,n,hk,hflag,hunset⟩ (hcare hgives)
      | _ =>
        obtain ⟨_,_,hfalse⟩ := hgives
        cases hfalse
  refine ⟨fun b hb hbn hbrd => ?_,fun k n hki hk b hb hbn hbrd => ?_⟩
  all_goals
    obtain ⟨r,hr,hn,hrd,hskip⟩ := heffect.replicas b hb
    have hrk := hn.symm.trans hbn
    have hrrd := hrd.symm.trans hbrd
  · have htracks := h name m hi r hr hrk hrrd
    cases hread : cmd.isRead with
    | true =>
      obtain rfl := step_read cmd hread a hstep
      obtain rfl := s.shared.resources.eq_of_key hb hr (hbn.trans hrk.symm)
      exact htracks.read hr hrk hrrd hmay hread a hstep hcare
    | false =>
      obtain ⟨hforeign,hl,hd,hstamp⟩ := next_write rd m hread a
      refine htracks.after (fun hnone => ?_) (fun v hv => ?_) hforeign hl hd
        (fun hnone hflag => hlatch name m hi hflag ⟨r,hr,hrk,hrrd,hnone⟩)
        fun hnone hflag => hdata name m hi hflag ⟨r,hr,hrk,hrrd,hnone⟩
      · rcases hskip with hskip|hskip
        · exact hskip.symm.trans hnone
        · cases hold : r.spec.skipInitialSync with
          | none => rfl
          | some x =>
            have hkept := (htracks.restamp hmay _ hskip).1 x hold
            exact absurd (hnone.symm.trans hkept) (by simp)
      · rcases hstamp with ⟨heq,hno⟩|hdropped
        · rw [heq] at hv
          exact (hskip.resolve_right (hno _ _ _)).trans (htracks.stamp v hv)
        · rw [hdropped] at hv
          cases hv
  · have htracks := h k n hk r hr hrk hrrd
    have hsame : b.spec.skipInitialSync=r.spec.skipInitialSync := by
      rcases hskip with hskip|hskip
      · exact hskip
      · exact absurd (hrk.symm.trans (restamps_own hmay _ _ _ hskip)) hki
    exact htracks.after (fun hb => hsame.symm.trans hb) (fun v hv => hsame.trans (htracks.stamp v hv))
      rfl rfl rfl (fun hnone hflag => hlatch k n hk hflag ⟨r,hr,hrk,hrrd,hnone⟩)
      fun hnone hflag => hdata k n hk hflag ⟨r,hr,hrk,hrrd,hnone⟩

theorem Tracked.change (h : Tracked rd s)
    (hfrom : ∀b∈t.resources,s.notes b.name=none ∨ ∃a∈s.shared.resources,
      b.name=a.name ∧ b.spec=a.spec)
    (hdefs : t.definitions=s.shared.definitions)
    (hdata : DataProven rd t → DataProven rd s.shared ∨ ¬Waiting rd s Seen.noData) (k : String)
    (n : Seen) (hk : s.notes k=some n) (b : Resource) (hb : b∈t.resources) (hbn : b.name=k)
    (hbrd : b.spec.resourceDefinitionName=rd) : Tracks rd t n b := by
  rcases hfrom b hb with hnew|⟨a,ha,hn,hspec⟩
  · rw [hbn,hk] at hnew
    cases hnew
  have hak : a.name=k := hn.symm.trans hbn
  have hard : a.spec.resourceDefinitionName=rd := hspec ▸ hbrd
  have htracks := h k n hk a ha hak hard
  refine htracks.after (fun hb => hspec ▸ hb) (fun v hv => hspec ▸ htracks.stamp v hv) rfl rfl rfl
    (fun _ _ hi => ?_) fun hnone hflag hproven => ?_
  · rw [Initialized,hdefs] at hi
    exact hi
  · rcases hdata hproven with hproven|hquiet
    · exact hproven
    · exact absurd ⟨k,n,hk,hflag,a,ha,hak,hard,hnone⟩ hquiet

theorem changes_effect (e : Change) (hcare : CarefulChange rd s e) (ht : Changes s.shared e t) :
    (∀b∈t.resources,s.notes b.name=none ∧ (∀a∈s.shared.resources,b.name≠a.name) ∨
      ∃a∈s.shared.resources,b.name=a.name ∧ b.spec=a.spec) ∧
    t.definitions=s.shared.definitions ∧
    (DataProven rd t → DataProven rd s.shared ∨ ¬Waiting rd s Seen.noData) := by
  cases e with
  | create r =>
    obtain ⟨hfree,rfl⟩ := ht
    have hmem (b : Resource) (hb : b∈(s.shared.create r hfree).resources) :
        b∈s.shared.resources ∨ b=r := (s.shared.resources.mem_insert r hfree b).mp hb
    refine ⟨fun b hb => ?_,rfl,fun hproven => ?_⟩
    · rcases hmem b hb with hb|rfl
      · exact .inr ⟨b,hb,rfl,rfl⟩
      · exact .inl ⟨hcare.1,fun a ha hn => hfree a ha hn.symm⟩
    · obtain ⟨b,hb,hbrd,hdata⟩ := hproven
      rcases hmem b hb with hb|rfl
      · exact .inl ⟨b,hb,hbrd,hdata⟩
      · exact .inr (hcare.2 hbrd hdata)
  | delete name =>
    obtain rfl := ht
    have hmem (b : Resource) (hb : b∈(s.shared.delete name).resources) : b∈s.shared.resources :=
      ((s.shared.resources.mem_erase name b).mp hb).1
    refine ⟨fun b hb => .inr ⟨b,hmem b hb,rfl,rfl⟩,rfl,fun hproven => ?_⟩
    obtain ⟨b,hb,hbrd,hdata⟩ := hproven
    exact .inl ⟨b,hmem b hb,hbrd,hdata⟩
  | report name volumes inUse =>
    obtain rfl := ht
    have hmem (b : Resource) (hb : b∈(s.shared.report name volumes inUse).resources) :=
      (s.shared.resources.mem_modify name (.reported volumes inUse) (fun _ => rfl) b).mp hb
    refine ⟨fun b hb => ?_,rfl,fun hproven => ?_⟩
    · rcases hmem b hb with ⟨a,ha,_,rfl⟩|⟨hb,_⟩
      · exact .inr ⟨a,ha,rfl,rfl⟩
      · exact .inr ⟨b,hb,rfl,rfl⟩
    · obtain ⟨b,hb,hbrd,hdata⟩ := hproven
      rcases hmem b hb with ⟨a,ha,hn,rfl⟩|⟨hb,_⟩
      · exact .inr (hcare a ha hn hbrd hdata)
      · exact .inl ⟨b,hb,hbrd,hdata⟩

theorem tracks_start (rd : String) (c : Cluster) (r : Resource) : Tracks rd c {} r := by
  refine ⟨?_,fun _ => rfl,?_,?_⟩
  · intro v hv
    cases hv
  · intro _ hm
    cases hm
  · intro _ hm
    cases hm

theorem tracked_step (e : PoolEvent String Answer Change) (h : Tracked rd s)
    (hcare : Careful rd s e) (hstep : NoteStep (passes rd) s e u) : Tracked rd u := by
  refine hstep.each (fun c name m => ∀r∈c.resources,r.name=name →
    r.spec.resourceDefinitionName=rd → Tracks rd c m r) h (fun _ r _ _ _ => tracks_start rd _ r) ?_ ?_
  · intro i cmd a m he hi hmay henv
    subst he
    exact h.call a hi hmay henv hcare
  · intro c he hchange
    subst he
    obtain ⟨hfrom,hdefs,hdata⟩ := changes_effect c hcare hchange
    exact h.change (fun b hb => (hfrom b hb).imp_left And.left) hdefs hdata

theorem stampsWell_of_spec (hspec : ∀a∈c.resources,∀b∈t.resources,b.name=a.name → b.spec=a.spec)
    (hdefs : t.definitions=c.definitions) : StampsWell rd c t := by
  refine ⟨fun a ha b hb hn _ hold hnew => ?_,fun a ha b hb hn _ skip hskip => ?_,fun hi => ?_⟩
  · rw [hspec a ha b hb hn] at hnew
    exact absurd hnew hold
  · rw [hspec a ha b hb hn]
    exact hskip
  · rw [Initialized,hdefs]
    exact hi

theorem stampsWell_step (e : PoolEvent String Answer Change) (h : Tracked rd s)
    (hcare : Careful rd s e) (hstep : NoteStep (passes rd) s e u) :
    StampsWell rd s.shared u.shared := by
  have hsame : StampsWell rd s.shared s.shared := by
    refine stampsWell_of_spec (fun a ha b hb hn => ?_) rfl
    rw [s.shared.resources.eq_of_key hb ha hn]
  cases hstep with
  | start i _ _ hs ht => exact hs ▸ hsame
  | call i cmd a m _ hi hmay henv ht =>
    exact call_stampsWell (step_effect i m hmay a henv) hmay (h i m hi) (restamps_own hmay)
  | stop i _ hs ht => exact hs ▸ hsame
  | other e _ he ht =>
    obtain ⟨hfrom,hdefs,_⟩ := changes_effect e hcare he
    refine stampsWell_of_spec (fun a ha b hb hn => ?_) hdefs
    rcases hfrom b hb with ⟨_,hfree⟩|⟨a',ha',hn',hspec⟩
    · exact absurd hn (hfree a ha)
    · rw [hspec,s.shared.resources.eq_of_key ha' ha (hn'.symm.trans hn)]

end

/-- In every careful run skipping the initial sync is stamped only on a replica of a definition
whose latch is unset and whose replicas show no data; no stamp and no set latch changes. -/
theorem skip_stamped_only_when_fresh (rd : String) (c : Cluster)
    (es : List (PoolEvent String Answer Change)) (s : Passes)
    (hrun : Run (guarded (Careful rd) (Pool.Step (passes rd))) (Pool.idle c) es s)
    (e : PoolEvent String Answer Change) (t : Passes) (hcare : Careful rd s e)
    (hstep : Pool.Step (passes rd) s e t) : StampsWell rd s.shared t.shared := by
  have htracked : Tracked rd s := by
    refine invariant_run (passes_sound rd) (Careful rd) c es (Tracked rd) ?_ ?_ hrun
    · intro name m h
      cases h
    · intro s e t h hcare hstep
      exact tracked_step e h hcare hstep
  have hfollowing := following_run (passes_sound rd) (Careful rd) c es hrun
  exact stampsWell_step e htracked hcare (hfollowing.noteStep e hstep)

section Concrete

variable (rd name : String) (c : Cluster) (n : Nat)

def passAfter : Thread Answer AllocErr Bool Seen × Cluster :=
  (play serve (passProtocol rd name) n (reconcile name) c {}).2

def passState : Passes :=
  ⟨(passAfter rd name c n).2,Function.update (fun _ => none) name (some (passAfter rd name c n).1)⟩

theorem run_pass (guard : Passes → PoolEvent String Answer Change → Prop)
    (check : Cluster → Cmd → Bool) (hstart : guard (idle c) (.start name))
    (hguard : ∀u cmd next m,check u cmd=true →
      guard ⟨u,Function.update (fun _ => none) name (some ⟨.ask cmd next,m⟩)⟩
        (.call name cmd (serve u cmd).1))
    (hcheck : playAll serve check n (reconcile name) c=true) :
    ∃es,Run (guarded guard (Pool.Step (passes rd))) (Pool.idle c) es (passState rd name c n) := by
  let started : Passes := ⟨c,Function.update (fun _ => none) name (some ⟨reconcile name,{}⟩)⟩
  have hstarted : Pool.Step (passes rd) (Pool.idle c) (.start name) started := ⟨rfl,rfl⟩
  have hrun := run_play serve (passProtocol rd name)
    (guarded guard (Pool.Step (passes rd))) check (fun _ => none) name
    (fun u cmd next m hu => ⟨hguard u cmd next m hu,
      step_call (passes rd) _ _ _ _ _ _ _ _ (step_serve u cmd)⟩)
    n (reconcile name) c {} hcheck
  exact ⟨_,.cons _ started _ _ _ ⟨hstart,hstarted⟩ hrun⟩

theorem step_pass (cmd : Cmd) (next : Answer cmd → Prog Bool)
    (h : (passAfter rd name c n).1.prog=.ask cmd next) :
    ∃t : Passes,Pool.Step (passes rd) (passState rd name c n)
      (.call name cmd (serve (passAfter rd name c n).2 cmd).1) t ∧
      t.shared=(serve (passAfter rd name c n).2 cmd).2 := by
  have hthread : (passAfter rd name c n).1=⟨.ask cmd next,(passAfter rd name c n).1.note⟩ := by
    rw [← h]
  have hstep := step_call (passes rd) _ _ (fun _ => none) name cmd _ next
    (passAfter rd name c n).1.note (step_serve (passAfter rd name c n).2 cmd)
  rw [← hthread] at hstep
  exact ⟨_,hstep,rfl⟩

end Concrete

def writtenReplica : Resource :=
  ((newReplica "pvc-1.a" "pvc-1" "a").withSpec (some 0) (some 20000) (some true)).reported
    [⟨0,.upToDate,"A1B2C3D4E5F60718"⟩] false

def beforeLatch : Cluster where
  resources := ⟨[writtenReplica,newReplica "pvc-1.b" "pvc-1" "b"],by decide⟩
  definitions := ⟨[{name := "pvc-1"}],by decide⟩
  nodes := fun _ => none
  extraProps := none

theorem writtenReplica_holdsData : HoldsData writtenReplica := by
  refine ⟨by decide,by decide,_,List.mem_singleton.mpr rfl,rfl,by decide,?_⟩
  decide +kernel

/-- The pass over the new replica lets it skip the sync although its sibling holds data. -/
theorem skip_stamped_beside_data : ¬∀(rd : String) (c : Cluster)
    (es : List (PoolEvent String Answer Change)) (s : Passes)
    (e : PoolEvent String Answer Change) (t : Passes),
    Run (Pool.Step (passes rd)) (Pool.idle c) es s → Pool.Step (passes rd) s e t →
      StampsWell rd s.shared t.shared := by
  intro h
  let cmd : Cmd := .patchSpec "pvc-1.b" (some 1) (some 20000) (some true)
  obtain ⟨es,hrun⟩ := run_pass "pvc-1" "pvc-1.b" beforeLatch 9 (fun _ _ => True) (fun _ _ => true)
    trivial (fun _ _ _ _ _ => trivial) (by decide)
  obtain ⟨t,hstep,ht⟩ := step_pass "pvc-1" "pvc-1.b" beforeLatch 9 cmd _ rfl
  have hwell := h "pvc-1" beforeLatch es _ _ t (hrun.mono fun _ _ _ hs => hs.2) hstep
  have hbefore : ∃a∈(passAfter "pvc-1" "pvc-1.b" beforeLatch 9).2.resources.items,
      a.name="pvc-1.b" ∧ a.spec.resourceDefinitionName="pvc-1" ∧
      a.spec.skipInitialSync=none := by decide
  have hafter : ∃b∈(serve (passAfter "pvc-1" "pvc-1.b" beforeLatch 9).2 cmd).2.resources.items,
      b.name="pvc-1.b" ∧ b.spec.skipInitialSync=some true := by decide
  have hwritten : writtenReplica∈(passAfter "pvc-1" "pvc-1.b" beforeLatch 9).2.resources.items := by
    decide
  obtain ⟨a,ha,han,hard,hnone⟩ := hbefore
  obtain ⟨b,hb,hbn,htrue⟩ := hafter
  rw [ht] at hwell
  have hfresh := hwell.fresh a ha b hb (hbn.trans han.symm) hard (by simp [hnone]) htrue
  exact hfresh.2 ⟨writtenReplica,hwritten,rfl,writtenReplica_holdsData⟩

/-- Calls that are careful as long as there is no data: they read, and of replicas their own. -/
def calm (c : Cluster) (cmd : Cmd) : Bool :=
  !Seen.shows rd c.resources.items && cmd.isRead &&
    match cmd with
    | .cachedResource x => x=name
    | _ => true

theorem careful_of_calm (s : Passes) (cmd : Cmd)
    (h : calm rd name s.shared cmd=true) : CarefulCall rd s name cmd (serve s.shared cmd).1 := by
  simp only [calm,Bool.and_eq_true,Bool.not_eq_true'] at h
  obtain ⟨⟨hshows,hread⟩,hown⟩ := h
  have hno : ¬DataProven rd s.shared := fun hp => by
    rw [(shows_iff rd s.shared).mpr hp] at hshows
    cases hshows
  cases cmd with
  | getDefinition x =>
    change CarefulCall rd s name (.getDefinition x) (found (s.shared.definitions.get? x))
    cases s.shared.definitions.get? x with
    | none => trivial
    | some d => exact fun _ _ hp => absurd hp hno
  | cachedResource x =>
    obtain rfl : x=name := by simpa using hown
    change CarefulCall rd s x (.cachedResource x) (found (s.shared.resources.get? x))
    cases hget : s.shared.resources.get? x with
    | none => trivial
    | some r =>
      intro hunset
      obtain ⟨r',hr',hname,hrd,_⟩ := hunset
      rw [(s.shared.resources.get?_eq_some x r').mpr ⟨hr',hname⟩] at hget
      cases hget
      exact hrd
  | cachedResources => exact fun _ hp => absurd hp hno
  | cachedDefinition x =>
    change CarefulCall rd s name (.cachedDefinition x) (found (s.shared.definitions.get? x))
    cases hget : s.shared.definitions.get? x with
    | none => trivial
    | some d =>
      intro hx _ hinit
      obtain rfl := hx
      by_contra hlatch
      exact not_initialized_of_read d hget (by simpa using hlatch) hinit
  | patchInitialized _ => cases hread
  | updateResource _ _ => cases hread
  | _ => trivial

def newDefinition : Cluster where
  resources := ⟨[newReplica "pvc-1.a" "pvc-1" "a"],by decide⟩
  definitions := ⟨[{name := "pvc-1"}],by decide⟩
  nodes := fun _ => none
  extraProps := none

theorem new_replica_skips_sync :
    (∃es s e t,Run (guarded (Careful "pvc-1") (Pool.Step (passes "pvc-1")))
        (Pool.idle newDefinition) es s ∧ Careful "pvc-1" s e ∧ Pool.Step (passes "pvc-1") s e t ∧
      (∃a∈t.shared.resources.items,a.spec.skipInitialSync=some true) ∧
      StampsWell "pvc-1" s.shared t.shared) := by
  let cmd : Cmd := .patchSpec "pvc-1.a" (some 0) (some 20000) (some true)
  obtain ⟨es,hrun⟩ := run_pass "pvc-1" "pvc-1.a" newDefinition 9 (Careful "pvc-1")
    (calm "pvc-1" "pvc-1.a") trivial (fun u cmd _ _ h => careful_of_calm _ _ ⟨u,_⟩ cmd h) (by decide)
  obtain ⟨t,hstep,ht⟩ := step_pass "pvc-1" "pvc-1.a" newDefinition 9 cmd _ rfl
  have hstamped : ∃a∈(serve (passAfter "pvc-1" "pvc-1.a" newDefinition 9).2 cmd).2.resources.items,
      a.spec.skipInitialSync=some true := by decide
  rw [← ht] at hstamped
  have hcare (a : Answer cmd) : Careful "pvc-1" (passState "pvc-1" "pvc-1.a" newDefinition 9)
      (.call "pvc-1.a" cmd a) := trivial
  exact ⟨es,_,_,t,hrun,hcare _,hstep,hstamped,
    skip_stamped_only_when_fresh "pvc-1" newDefinition es _ hrun _ t (hcare _) hstep⟩

end Blockstor.Controller
