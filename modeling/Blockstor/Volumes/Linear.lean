import Blockstor.Volumes.Protocol

namespace Blockstor.Volumes

open Framework Shell Pool List

/-- Any number of calls on one definition. Other writers of the definition leave the list alone
and make a new version of it. -/
def workload {ι : Type} (apiReader : Bool) (calls : ι → Call) :
    Workload (Versioned VolumeList) ι Answer Err (Option Int32) Note Unit where
  prog i := (calls i).prog apiReader
  protocol i := (calls i).protocol
  env := Step
  other s _ t := t=s.push s.now
  post i := (calls i).Reported

abbrev System (ι : Type) := Pool (Versioned VolumeList) ι Answer Err (Option Int32) Note

abbrev Event (ι : Type) := PoolEvent ι Answer Unit

section

variable {ι : Type} [DecidableEq ι] {apiReader : Bool} {calls : ι → Call} {es : List (Event ι)}
  {m : Note} {call : Call}

variable (apiReader calls) in
def Without (P : Call → Prop) (s : System ι) (e : Event ι) (t : System ι) : Prop :=
  Pool.Step (workload apiReader calls) s e t ∧
    ∀i c a,e=.call i c a → P (calls i) → t.shared=s.shared

omit [DecidableEq ι] in
theorem workload_sound : Sound (workload apiReader calls) where
  follows i := (calls i).follows apiReader _
  answers _ _ _ _ _ _ := trivial

section Server

variable {s t : Versioned VolumeList} {rv : Nat} {vds : List ResourceDefinitionVolume}

theorem step_write {a : Except Err Unit} (h : Step s (.write rv vds) a t) :
    t=s ∧ (a=.ok () → rv=s.rv ∧ vds=s.now.items) ∨ rv=s.rv ∧ ∃hnodup,t=s.push ⟨vds,hnodup⟩ := by
  have hwrite : (write s rv vds).2=s ∧
      ((write s rv vds).1=.ok () → rv=s.rv ∧ vds=s.now.items) ∨
      rv=s.rv ∧ ∃hnodup,(write s rv vds).2=s.push ⟨vds,hnodup⟩ := by
    unfold write
    split
    · exact .inl ⟨rfl,nofun⟩
    · rename_i hrv
      have hrv : rv=s.rv := not_not.mp hrv
      split
      · rename_i hnodup
        split
        · rename_i hsame
          exact .inl ⟨rfl,fun _ => ⟨hrv,hsame⟩⟩
        · exact .inr ⟨hrv,hnodup,rfl⟩
      · exact .inl ⟨rfl,nofun⟩
  rcases h with ⟨rfl,rfl⟩|⟨rfl,rfl|rfl⟩
  · exact hwrite
  · exact .inl ⟨rfl,nofun⟩
  · rcases hwrite with h|h
    · exact .inl ⟨h.1,nofun⟩
    · exact .inr h

theorem step_extends {c : Cmd} {a : Answer c} (h : Step s c a t) : s.Extends t := by
  cases c with
  | get live =>
    obtain ⟨rfl,_⟩ := h
    exact .refl _
  | write rv vds =>
    rcases step_write h with ⟨rfl,_⟩|⟨_,_,rfl⟩
    · exact .refl _
    · exact .push _ _
  | minorPool =>
    obtain rfl := h
    exact .refl _

end Server

structure Committed (call : Call) (s : Versioned VolumeList) (w : Commit) : Prop where
  writes : call.Writes w.old w.new
  seen : w.rv ≤ s.rv
  before : (s.version w.rv).items=w.old
  after : w.new=w.old ∨ w.rv<s.rv ∧ (s.version (w.rv+1)).items=w.new

structure Tracks (call : Call) (s : Versioned VolumeList) (m : Note) : Prop where
  read : ∀rv vds,m.read=some (rv,vds) → rv ≤ s.rv ∧ (s.version rv).items=vds
  wrote : ∀w,m.wrote=some w → Committed call s w

theorem Tracks.mono {s t : Versioned VolumeList} (h : Tracks call s m)
    (hst : s.Extends t) : Tracks call t m where
  read rv vds hread := by
    obtain ⟨hle,hvds⟩ := h.read rv vds hread
    exact ⟨hle.trans hst.rv,by rw [hst.version rv hle,hvds]⟩
  wrote w hw := by
    have hc := h.wrote w hw
    refine ⟨hc.writes,hc.seen.trans hst.rv,by rw [hst.version _ hc.seen,hc.before],?_⟩
    refine hc.after.imp_right fun ⟨hlt,hnew⟩ => ⟨hlt.trans_le hst.rv,?_⟩
    rw [hst.version _ hlt,hnew]

def Tracking (calls : ι → Call) (s : System ι) : Prop :=
  ∀i m,s.notes i=some m → Tracks (calls i) s.shared m

variable {s t : System ι} {e : Event ι}

theorem tracks_next {s t : Versioned VolumeList} {c : Cmd} {a : Answer c}
    (h : Tracks call s m) (hmay : call.may m c) (hstep : Step s c a t) :
    Tracks call t (m.next c a) := by
  have hold := h.mono (step_extends hstep)
  cases c with
  | get live =>
    cases a with
    | error e => exact hold
    | ok r =>
      refine ⟨fun rv vds hread => ?_,hold.wrote⟩
      cases hread
      obtain ⟨rfl,ha⟩ := hstep
      obtain ⟨k,hk,_,ha⟩ := (ha.resolve_left nofun).resolve_left fun h => nomatch h.2
      cases ha
      exact ⟨hk,rfl⟩
  | write rv vds =>
    cases a with
    | error e => exact hold
    | ok u =>
      refine ⟨hold.read,fun w hw => ?_⟩
      obtain ⟨old,hread,hwrites⟩ := hmay
      change m.read.map _=_ at hw
      rw [hread] at hw
      cases hw
      obtain ⟨hle,hbefore⟩ := hold.read rv old hread
      refine ⟨hwrites,hle,hbefore,?_⟩
      rcases step_write hstep with ⟨rfl,hok⟩|⟨rfl,hnodup,rfl⟩
      · obtain ⟨rfl,rfl⟩ := hok rfl
        exact .inl hbefore
      · exact .inr ⟨Nat.lt_succ_self _,congrArg Keyed.items (s.now_push ⟨vds,hnodup⟩)⟩
  | minorPool => exact hold

theorem tracking_step (h : Tracking calls s)
    (hstep : NoteStep (workload apiReader calls) s e t) : Tracking calls t := by
  refine hstep.each (fun s i m => Tracks (calls i) s m) h (fun i => ⟨nofun,nofun⟩)
    (fun i c a m _ hi hmay henv => ?_) fun _ _ hother j n hj => ?_
  · exact ⟨tracks_next (h i m hi) hmay henv,fun j n _ hj => (h j n hj).mono (step_extends henv)⟩
  · exact (h j n hj).mono (hother ▸ .push _ _)

def Sound (apiReader : Bool) (calls : ι → Call) (s : System ι) : Prop :=
  Pool.Following (workload apiReader calls) s ∧ Tracking calls s

omit [DecidableEq ι] in
theorem sound_idle (s : Versioned VolumeList) : Sound apiReader calls (Pool.idle s) :=
  ⟨Pool.following_idle s,nofun⟩

theorem Sound.step (h : Sound apiReader calls s)
    (hstep : Pool.Step (workload apiReader calls) s e t) : Sound apiReader calls t :=
  ⟨h.1.step workload_sound e hstep,tracking_step h.2 (h.1.noteStep e hstep)⟩

theorem Sound.effect (h : Sound apiReader calls s)
    (hstep : Pool.Step (workload apiReader calls) s e t) :
    t.shared=s.shared ∨ t.shared=s.shared.push s.shared.now ∨
    ∃i c a vds hnodup,e=.call i c a ∧ (calls i).Writes s.shared.now.items vds ∧
      t.shared=s.shared.push ⟨vds,hnodup⟩ := by
  cases h.1.noteStep e hstep with
  | start i _ _ hs _ => exact .inl hs
  | stop i _ hs _ => exact .inl hs
  | other e _ he _ => exact .inr (.inl he)
  | call i c a m _ hi hmay henv _ =>
    cases c with
    | get live => exact .inl henv.1
    | minorPool => exact .inl henv
    | write rv vds =>
      rcases step_write henv with ⟨hs,_⟩|⟨rfl,hnodup,hs⟩
      · exact .inl hs
      · obtain ⟨old,hread,hwrites⟩ := hmay
        obtain ⟨_,rfl⟩ := (h.2 i m hi).read _ _ hread
        exact .inr (.inr ⟨i,_,a,vds,hnodup,rfl,hwrites,hs⟩)

/-- What the effects of the other calls preserve holds after every run in which no call of a kind
changes the list. -/
theorem Sound.run (h : Sound apiReader calls s) {P : Call → Prop}
    (I : Versioned VolumeList → Prop) (htouch : ∀s,I s → I (s.push s.now))
    (hwrite : ∀s i vds hnodup,¬P (calls i) → (calls i).Writes s.now.items vds → I s →
      I (s.push ⟨vds,hnodup⟩)) (hI : I s.shared)
    (hrun : Run (Without apiReader calls P) s es t) : Sound apiReader calls t ∧ I t.shared := by
  refine hrun.invariant (fun s => Sound apiReader calls s ∧ I s.shared) ?_ ⟨h,hI⟩
  rintro s e t ⟨h,hI⟩ ⟨hstep,hP⟩
  refine ⟨h.step hstep,?_⟩
  rcases h.effect hstep with hs|hs|⟨i,c,a,vds,hnodup,he,hwrites,hs⟩
  · exact hs ▸ hI
  · exact hs ▸ htouch _ hI
  · by_cases hp : P (calls i)
    · exact hP i c a he hp ▸ hI
    · exact hs ▸ hwrite _ i vds hnodup hp hwrites hI

theorem wrote_next {s t : Versioned VolumeList} {c : Cmd} {a : Answer c}
    (h : Tracks call s m) (hmay : call.may m c) (hstep : Step s c a t) {w : Commit}
    (hw : (m.next c a).wrote=some w) : m.wrote=some w ∨ w.new=w.old ∨ w.rv=s.rv := by
  cases c with
  | get live =>
    cases a with
    | error e => exact .inl hw
    | ok r => exact .inl hw
  | minorPool => exact .inl hw
  | write rv vds =>
    cases a with
    | error e => exact .inl hw
    | ok u =>
      right
      obtain ⟨old,hread,_⟩ := hmay
      change m.read.map _=_ at hw
      rw [hread] at hw
      cases hw
      rcases step_write hstep with ⟨_,hok⟩|⟨hrv,_⟩
      · obtain ⟨rfl,rfl⟩ := hok rfl
        exact .inl (h.read _ old hread).2
      · exact .inr hrv

def Apart (s : System ι) : Prop :=
  ∀i j m n v w,i≠j → s.notes i=some m → s.notes j=some n → m.wrote=some v → n.wrote=some w →
    v.new≠v.old → w.new≠w.old → v.rv≠w.rv

theorem apart_step (h : Apart s) (htrack : Tracking calls s)
    (hstep : NoteStep (workload apiReader calls) s e t) : Apart t := by
  intro i j m n v w hij hi hj hv hw hvnew hwnew
  cases hstep with
  | start k _ _ _ ht =>
    rw [ht] at hi hj
    rcases update_some hi with ⟨_,hx⟩|⟨_,hi⟩
    · cases hx
      cases hv
    · rcases update_some hj with ⟨_,hx⟩|⟨_,hj⟩
      · cases hx
        cases hw
      · exact h i j m n v w hij hi hj hv hw hvnew hwnew
  | stop k _ _ ht =>
    rw [ht] at hi hj
    obtain ⟨_,hi⟩ := (update_some hi).resolve_left nofun
    obtain ⟨_,hj⟩ := (update_some hj).resolve_left nofun
    exact h i j m n v w hij hi hj hv hw hvnew hwnew
  | other _ _ _ ht =>
    rw [ht] at hi hj
    exact h i j m n v w hij hi hj hv hw hvnew hwnew
  | call k c a m₀ _ hk hmay henv ht =>
    rw [ht] at hi hj
    -- the version the caller made is later than those the others made
    have hlate (l : ι) (n : Note) (w : Commit) (hl : s.notes l=some n) (hw : n.wrote=some w)
        (hne : w.new≠w.old) : w.rv<s.shared.rv :=
      (((htrack l n hl).wrote w hw).after.resolve_left hne).1
    rcases update_some hi with ⟨rfl,hx⟩|⟨_,hi'⟩
    · obtain ⟨_,hj⟩ := (update_some hj).resolve_left fun hx => hij hx.1.symm
      cases hx
      rcases wrote_next (htrack i m₀ hk) hmay henv hv with hv|hv|hv
      · exact h i j m₀ n v w hij hk hj hv hw hvnew hwnew
      · exact absurd hv hvnew
      · rw [hv]
        exact (hlate j n w hj hw hwnew).ne'
    · rcases update_some hj with ⟨rfl,hx⟩|⟨_,hj⟩
      · cases hx
        rcases wrote_next (htrack j m₀ hk) hmay henv hw with hw|hw|hw
        · exact h i j m m₀ v w hij hi' hk hv hw hvnew hwnew
        · exact absurd hw hwnew
        · rw [hw]
          exact (hlate i m v hi' hv hvnew).ne
      · exact h i j m n v w hij hi' hj hv hw hvnew hwnew

theorem apart_run (vds : VolumeList)
    (h : Run (Pool.Step (workload apiReader calls)) (Pool.idle (.start vds)) es t) : Apart t := by
  refine (h.invariant (fun s => Sound apiReader calls s ∧ Apart s) ?_ ⟨sound_idle _,nofun⟩).2
  rintro s e t ⟨hs,ha⟩ hstep
  exact ⟨hs.step hstep,apart_step ha hs.2 (hs.1.noteStep e hstep)⟩

def Recorded (es : List (Event ι)) (s : System ι) : Prop :=
  ∀i m,s.notes i=some m → ∀w,m.wrote=some w → .call i (.write w.rv w.new) (.ok ())∈es

omit [DecidableEq ι] in
theorem recorded_next {i : ι} {c : Cmd} {a : Answer c}
    (h : ∀w,m.wrote=some w → .call i (.write w.rv w.new) (.ok ())∈es) (w : Commit)
    (hw : (m.next c a).wrote=some w) :
    .call i (.write w.rv w.new) (.ok ())∈es++[PoolEvent.call i c a] := by
  cases c with
  | get live =>
    cases a with
    | error e => exact mem_append_left _ (h w hw)
    | ok r => exact mem_append_left _ (h w hw)
  | minorPool => exact mem_append_left _ (h w hw)
  | write rv vds =>
    cases a with
    | error e => exact mem_append_left _ (h w hw)
    | ok u =>
      obtain ⟨r,_,hr⟩ := Option.map_eq_some_iff.mp hw
      cases hr
      exact mem_append_right _ (mem_singleton.mpr rfl)

theorem recorded_run (vds : VolumeList)
    (h : Run (Pool.Step (workload apiReader calls)) (Pool.idle (.start vds)) es t) :
    Recorded es t := by
  refine ((following_idle (.start vds)).history workload_sound (fun _ _ => True) Recorded
    (fun es s e t hI _ hstep => ?_) [] nofun (h.mono fun _ _ _ h => ⟨trivial,h⟩)).2
  refine hstep.each (fun _ i m => ∀w,m.wrote=some w →
    .call i (.write w.rv w.new) (.ok ())∈es++[e]) ?_ (fun _ => nofun) ?_ ?_
  · exact fun i m hi w hw => mem_append_left _ (hI i m hi w hw)
  · rintro i c a m rfl hi _ _
    exact ⟨recorded_next (hI i m hi),
      fun j n _ hj w hw => mem_append_left _ (hI j n hj w hw)⟩
  · exact fun _ _ _ j n hj w hw => mem_append_left _ (hI j n hj w hw)

variable (apiReader calls) in
/-- What a run keeps. The versions of the list are the effects of single calls, one after the other;
no number is in the list twice, and no call asks for that while there are numbers left. Where no
delete takes effect, the numbers that calls have reported are distinct and in the list. An edit
that was reported has been written by one of the steps, and from there on it is seen until the next
call on its volume takes effect. A minor stays until its volume is deleted. -/
structure Linearizable (vds : VolumeList) (es : List (Event ι)) (t : System ι) : Prop where
  order : t.shared.Chain fun a b => b=a ∨ ∃i,(calls i).Writes a.items b.items
  unique : (t.shared.now.items.map fun vd => vd.volumeNumber).Nodup
  asked : ∀i rv new next m,t.threads i=some ⟨.ask (.write rv new) next,m⟩ →
    Full (t.shared.version rv).items ∨ (new.map fun vd => vd.volumeNumber).Nodup
  numbered : Run (Without apiReader calls Call.IsDelete) (Pool.idle (.start vds)) es t →
    ∀i k m,t.threads i=some ⟨.done (some k),m⟩ → hasVolume t.shared.now.items k=true ∧
      ∀j l n,j≠i → t.threads j=some ⟨.done (some l),n⟩ → l≠k
  visible : ∀i n edit a m,(calls i).edit=some (n,edit) → t.threads i=some ⟨.done a,m⟩ →
    ∃es₁ rv new u v es₂,es=es₁++.call i (.write rv new) (.ok ())::es₂ ∧
      Run (Pool.Step (workload apiReader calls)) (Pool.idle (.start vds)) es₁ u ∧
      Pool.Step (workload apiReader calls) u (.call i (.write rv new) (.ok ())) v ∧
      Run (Pool.Step (workload apiReader calls)) v es₂ t ∧
      ∃prev∈u.shared.now,∃wire,prev.volumeNumber=n ∧ edit (crdToWireVD prev)=.ok wire ∧
        ∀es' w,Run (Without apiReader calls (Call.On n)) v es' w →
          ∃vd∈w.shared.now,crdToWireVD vd=wire
  minors : ∀v∈t.shared.now,∀m,v.drbdMinor=some m →
    ∀es' w,Run (Without apiReader calls (·=.delete v.volumeNumber)) t es' w →
      ∃vd∈w.shared.now,vd.volumeNumber=v.volumeNumber ∧ vd.drbdMinor=some m

section

variable (hkeep : ∀i,(calls i).KeepsNumber) {vds : VolumeList} {es : List (Event ι)}
  {new old : List ResourceDefinitionVolume} {k n m : Int32} {i : ι}

theorem sound_run (h : Run (Pool.Step (workload apiReader calls)) (Pool.idle (.start vds)) es t) :
    Sound apiReader calls t :=
  h.invariant _ (fun _ _ _ hs hstep => hs.step hstep) (sound_idle _)

theorem chain_run (h : Run (Pool.Step (workload apiReader calls)) (Pool.idle (.start vds)) es t) :
    t.shared.Chain fun a b => b=a ∨ ∃i,(calls i).Writes a.items b.items := by
  refine ((sound_idle (.start vds)).run (P := fun _ => False) (Versioned.Chain _)
    (fun s hs => hs.push (.inl rfl)) (fun s i new hnodup _ hw hs => hs.push (.inr ⟨i,hw⟩))
    (.start _ vds) (h.mono fun _ _ _ hstep => ⟨hstep,nofun⟩)).2

omit [DecidableEq ι] in
theorem Sound.reported (hs : Sound apiReader calls s) {m : Note}
    (hi : s.threads i=some ⟨.done (some k),m⟩) : ∃w v,m.wrote=some w ∧ v.volumeNumber=k ∧
      w.new≠w.old ∧ w.rv<s.shared.rv ∧
      (s.shared.version (w.rv+1)).items=(s.shared.version w.rv).items++[v] := by
  obtain ⟨w,v,hwrote,hnew,hk⟩ := (hs.1 i _ hi).number k rfl
  have hc := (hs.2 i m (by rw [Pool.notes,hi]; rfl)).wrote w hwrote
  have hne : w.new≠w.old := by simp [hnew]
  obtain ⟨hlt,hafter⟩ := hc.after.resolve_left hne
  exact ⟨w,v,hwrote,hk,hne,hlt,by rw [hafter,hc.before,hnew]⟩

theorem Sound.committed (hs : Sound apiReader calls s) {rv : Nat}
    (hstep : Pool.Step (workload apiReader calls) s (.call i (.write rv new) (.ok ())) t) :
    (calls i).Writes s.shared.now.items new ∧ t.shared.now.items=new := by
  cases hs.1.noteStep _ hstep with
  | call _ _ _ m _ hi hmay henv _ =>
    obtain ⟨old,hread,hw⟩ := hmay
    obtain ⟨_,rfl⟩ := (hs.2 i m hi).read rv old hread
    rcases step_write henv with ⟨hsame,hok⟩|⟨rfl,hnodup,ht⟩
    · obtain ⟨rfl,rfl⟩ := hok rfl
      exact ⟨hw,by rw [hsame]⟩
    · exact ⟨hw,by rw [ht,Versioned.now_push]⟩

theorem number_ne_of_append {vds : VolumeList}
    {v : ResourceDefinitionVolume} (h : vds.items=old++[v])
    (hk : hasVolume old k=true) : v.volumeNumber≠k := by
  intro he
  obtain ⟨w,hw,rfl⟩ := (hasVolume_iff old k).mp hk
  have hnodup := vds.nodup
  rw [h,map_append,nodup_append] at hnodup
  exact hnodup.2.2 _ (mem_map.mpr ⟨w,hw,rfl⟩) _ (mem_map.mpr ⟨v,by simp,rfl⟩) he.symm

include hkeep

theorem numbers_run (h : Run (Without apiReader calls Call.IsDelete) (Pool.idle (.start vds)) es t) :
    t.shared.Chain fun a b => ∀n,hasVolume a.items n=true → hasVolume b.items n=true := by
  refine ((sound_idle (.start vds)).run (Versioned.Chain _) (fun s hs => hs.push fun _ h => h)
    (fun s i new hnodup hdelete hw hs => hs.push fun n hn => ?_) (.start _ vds) h).2
  obtain ⟨v,hv,rfl⟩ := (hasVolume_iff _ n).mp hn
  obtain ⟨w,hw,hvw⟩ := hw.continues (hkeep i) hv fun hcall => hdelete (hcall ▸ trivial)
  exact (hasVolume_iff _ _).mpr ⟨w,hw,hvw.number⟩

theorem numbered_run
    (h : Run (Without apiReader calls Call.IsDelete) (Pool.idle (.start vds)) es t) (i : ι)
    (k : Int32) (m : Note) (hi : t.threads i=some ⟨.done (some k),m⟩) :
    hasVolume t.shared.now.items k=true ∧
      ∀j l n,j≠i → t.threads j=some ⟨.done (some l),n⟩ → l≠k := by
  have hrun := h.mono fun _ _ _ hstep => hstep.1
  have hs := sound_run hrun
  -- once a number is there, it stays
  have hstay (k : Int32) {a b : Nat} (hab : a ≤ b) (hb : b ≤ t.shared.rv)
      (ha : hasVolume (t.shared.version a).items k=true) :
      hasVolume (t.shared.version b).items k=true :=
    Versioned.Chain.persists (P := fun vds => hasVolume vds.items k=true)
      (fun c hc => numbers_run hkeep h c hc k) hab hb ha
  have hadded {w : Commit} {v : ResourceDefinitionVolume} (hv : (t.shared.version (w.rv+1)).items=
      (t.shared.version w.rv).items++[v]) :
      hasVolume (t.shared.version (w.rv+1)).items v.volumeNumber=true := by
    rw [hv]
    exact (hasVolume_iff _ _).mpr ⟨v,by simp,rfl⟩
  obtain ⟨w,v,hw,rfl,hne,hlt,hv⟩ := hs.reported hi
  refine ⟨hstay _ hlt le_rfl (hadded hv),fun j l n hji hj => ?_⟩
  obtain ⟨w',v',hw',rfl,hne',hlt',hv'⟩ := hs.reported hj
  have hapart := apart_run vds hrun j i n m w' w hji (by rw [Pool.notes,hj]; rfl)
    (by rw [Pool.notes,hi]; rfl) hw' hw hne' hne
  rcases Nat.lt_or_gt_of_ne hapart with hlater|hlater
  · exact (number_ne_of_append hv (hstay _ hlater hlt.le (hadded hv'))).symm
  · exact number_ne_of_append hv' (hstay _ hlater hlt'.le (hadded hv))

theorem visible_run (hs : Sound apiReader calls s) {wire : VolumeDefinition}
    (hwire : ∃vd∈s.shared.now,crdToWireVD vd=wire)
    (h : Run (Without apiReader calls (Call.On wire.volumeNumber)) s es t) :
    ∃vd∈t.shared.now,crdToWireVD vd=wire := by
  refine (hs.run (fun s => ∃vd∈s.now,crdToWireVD vd=wire) (fun s hs => ?_)
    (fun s i new hnodup hon hw hs => ?_) hwire h).2
  · rwa [Versioned.now_push]
  · obtain ⟨v,hv,rfl⟩ := hs
    rw [Versioned.now_push]
    obtain ⟨w,hw,hvw⟩ := hw.continues (hkeep i) hv fun hcall => hon (hcall ▸ rfl)
    exact ⟨w,hw,hvw.wire hon⟩

theorem minor_run (hs : Sound apiReader calls s)
    (hvd : ∃vd∈s.shared.now,vd.volumeNumber=n ∧ vd.drbdMinor=some m)
    (h : Run (Without apiReader calls (·=.delete n)) s es t) :
    ∃vd∈t.shared.now,vd.volumeNumber=n ∧ vd.drbdMinor=some m := by
  refine (hs.run (fun s => ∃vd∈s.now,vd.volumeNumber=n ∧ vd.drbdMinor=some m) (fun s hs => ?_)
    (fun s i new hnodup hdelete hw hs => ?_) hvd h).2
  · rwa [Versioned.now_push]
  · obtain ⟨v,hv,rfl,hm⟩ := hs
    rw [Versioned.now_push]
    obtain ⟨w,hw,hvw⟩ := hw.continues (hkeep i) hv hdelete
    exact ⟨w,hw,hvw.number,hvw.minor m hm⟩

omit [DecidableEq ι] in
theorem Sound.asked (hs : Sound apiReader calls s) {rv : Nat}
    {next : Answer (.write rv new) → Prog (Option Int32)}
    {m : Note} (hi : s.threads i=some ⟨.ask (.write rv new) next,m⟩) :
    Full (s.shared.version rv).items ∨ (new.map fun vd => vd.volumeNumber).Nodup := by
  obtain ⟨⟨old,hread,hw⟩,_⟩ := hs.1 i _ hi
  obtain ⟨_,rfl⟩ := (hs.2 i m (by rw [Pool.notes,hi]; rfl)).read rv old hread
  exact or_iff_not_imp_left.mpr fun hfull => hw.nodup (hkeep i) hfull (s.shared.version rv).nodup

theorem edited_run (h : Run (Pool.Step (workload apiReader calls)) (Pool.idle (.start vds)) es t)
    {edit : VolumeDefinition → Except Err VolumeDefinition}
    (hedit : (calls i).edit=some (n,edit)) {a : Option Int32} {m : Note}
    (hi : t.threads i=some ⟨.done a,m⟩) :
    ∃es₁ rv new u v es₂,es=es₁++.call i (.write rv new) (.ok ())::es₂ ∧
      Run (Pool.Step (workload apiReader calls)) (Pool.idle (.start vds)) es₁ u ∧
      Pool.Step (workload apiReader calls) u (.call i (.write rv new) (.ok ())) v ∧
      Run (Pool.Step (workload apiReader calls)) v es₂ t ∧
      ∃prev∈u.shared.now,∃wire,prev.volumeNumber=n ∧ edit (crdToWireVD prev)=.ok wire ∧
        ∀es' w,Run (Without apiReader calls (Call.On n)) v es' w →
          ∃vd∈w.shared.now,crdToWireVD vd=wire := by
  have hs := sound_run h
  obtain ⟨w,hw⟩ : ∃w,m.wrote=some w := by
    refine ((hs.1 i _ hi).landed a rfl).resolve_left fun hstamp => ?_
    rw [hstamp] at hedit
    cases hedit
  obtain ⟨es₁,u,v,es₂,hes,h₁,hstep,h₂⟩ :=
    h.split (recorded_run vds h i m (by rw [notes,hi]; rfl) w hw)
  have hu := sound_run h₁
  obtain ⟨hwrites,hnow⟩ := hu.committed hstep
  obtain ⟨prev,hprev,wire,hn,hwire,rfl,hvd⟩ := hwrites.edited (hkeep i) hedit
  refine ⟨es₁,w.rv,w.new,u,v,es₂,hes,h₁,hstep,h₂,prev,hprev,wire,hn,hwire,fun es' x hx => ?_⟩
  exact visible_run hkeep (hu.step hstep) (by rw [← hnow] at hvd; exact hvd) hx

end

/-- When patches leave the numbers alone, every interleaving of calls on the list is linearizable. -/
theorem volumeList_linearizable (apiReader : Bool) (calls : ι → Call)
    (hkeep : ∀i,(calls i).KeepsNumber) (vds : VolumeList) (es : List (Event ι)) (t : System ι)
    (h : Run (Pool.Step (workload apiReader calls)) (Pool.idle (.start vds)) es t) :
    Linearizable apiReader calls vds es t where
  order := chain_run h
  unique := t.shared.now.nodup
  asked _ _ _ _ _ hi := (sound_run h).asked hkeep hi
  numbered hrun i k m hi := numbered_run hkeep hrun i k m hi
  visible _ _ _ _ _ hedit hi := edited_run hkeep h hedit hi
  minors v hv _ hm _ _ hrun := minor_run hkeep (sound_run h) ⟨v,hv,rfl,hm⟩ hrun

end

section Concrete

def serve (s : Versioned VolumeList) : (c : Cmd) → Option (Answer c × Versioned VolumeList)
  | .get _ => some (.ok (s.rv,s.now.items),s)
  | .write rv vds => some (write s rv vds)
  | .minorPool => some (.error .unavailable,s)

theorem step_serve (s : Versioned VolumeList) (c : Cmd) (r : Answer c × Versioned VolumeList)
    (h : serve s c=some r) : Step s c r.1 r.2 := by
  cases c with
  | get live =>
    cases h
    exact ⟨rfl,.inr (.inr ⟨s.rv,le_rfl,fun _ => rfl,rfl⟩)⟩
  | write rv vds =>
    cases h
    exact .inl ⟨rfl,rfl⟩
  | minorPool =>
    cases h
    rfl

variable {ι : Type} [DecidableEq ι] (calls : ι → Call)

def callsOn (turns : List ι) : List (Event ι) × System ι :=
  Pool.turns (workload false calls) serve (fun _ _ => none)
    (Pool.idle (.start ⟨[],nodup_nil⟩)) (turns.map .inl)

theorem run_callsOn (turns : List ι) : Run (Pool.Step (workload false calls))
    (Pool.idle (.start ⟨[],nodup_nil⟩)) (callsOn calls turns).1 (callsOn calls turns).2 :=
  (Pool.run_turns (fun _ _ => True) (fun _ _ => true) step_serve (fun _ _ _ h => by cases h)
    (fun _ _ _ _ _ _ => trivial) _ _ (Pool.turnsAll_of _ _ _ fun _ _ _ => rfl)).mono
      fun _ _ _ h => h.2

def creates (_ : Bool) : Call := .createAutoNumbered ⟨0,1024,[],[]⟩

/-- Two creates read the same list, and the one whose write comes second reads again. -/
theorem racing_creates_linearizable :
    (callsOn creates [false,true,false,true,false,true,true,true]).2.shared.now.items.map
      (fun vd => vd.volumeNumber)=[0,1] ∧
    Linearizable false creates ⟨[],nodup_nil⟩
      (callsOn creates [false,true,false,true,false,true,true,true]).1
      (callsOn creates [false,true,false,true,false,true,true,true]).2 :=
  ⟨by decide +kernel,volumeList_linearizable false creates (fun _ => trivial) _ _ _ (run_callsOn _ _)⟩

def renames : Bool → Call
  | false => .createAutoNumbered ⟨0,1024,[],[]⟩
  | true => .patch 0 fun vd => .ok {vd with volumeNumber := 5}

/-- The auto-numbered create reports 0, and nothing was deleted, but 0 is no longer in the list. -/
theorem renamed_volume_lost : ¬∀(calls : Bool → Call) (vds : VolumeList) (es : List (Event Bool))
    (t : System Bool),
    Run (Pool.Step (workload false calls)) (Pool.idle (.start vds)) es t →
      Linearizable false calls vds es t := by
  intro h
  have hrun := run_callsOn renames [false,false,false,true,true,true]
  have hspare : Run (Without false renames Call.IsDelete) _ _ _ :=
    hrun.mono fun s e t hstep => ⟨hstep,fun i c a _ hdelete => by cases i <;> cases hdelete⟩
  have hgone := ((h renames _ _ _ hrun).numbered hspare false 0 _ rfl).1
  exact absurd hgone (by decide +kernel)

end Concrete

end Blockstor.Volumes
