import Blockstor.Storage.Provider

namespace Blockstor.Storage

open Framework Shell Function

section

variable {α σ : Type} {s t : σ} {env : σ → (c : Cmd α) → Answer c → σ → Prop}

theorem exec_run_ok {c : Cmd α} {a : Answer c} : Exec env (run c) s (.ok a) t ↔ env s c a t := by
  unfold run
  rw [exec_call]
  constructor
  · intro h
    obtain ⟨b,hb,he⟩ := h
    cases he
    exact hb
  · intro h
    exact ⟨a,h,rfl⟩

theorem exec_must_ok {x : Prog α Bool} {e : Err} {u : Unit} :
    Exec env (must x e) s (.ok u) t ↔ Exec env x s (.ok true) t := by
  unfold must
  rw [exec_bind_ok]
  constructor
  · intro h
    obtain ⟨a,s',hx,hr⟩ := h
    cases a with
    | true =>
      obtain ⟨_,rfl⟩ := exec_pure.mp hr
      exact hx
    | false => cases hr
  · intro h
    exact ⟨true,t,h,exec_pure.mpr ⟨rfl,rfl⟩⟩

theorem must_cases {P : Bool → σ → Prop} {x : Prog α Bool} {e : Err} {r : Except Err Unit}
    (hx : ∀r t,Exec env x s r t → ∃answer,P answer t ∧ r=.ok answer)
    (h : Exec env (must x e) s r t) : r=.ok () ∧ P true t ∨ r=.error e ∧ P false t := by
  unfold must at h
  rcases exec_bind.mp h with ⟨e',h,_⟩|⟨answer,u,h,hrest⟩
  · obtain ⟨_,_,he⟩ := hx _ _ h
    cases he
  · obtain ⟨_,hP,he⟩ := hx _ _ h
    cases he
    cases answer with
    | true =>
      obtain ⟨rfl,rfl⟩ := exec_pure.mp hrest
      exact .inl ⟨rfl,hP⟩
    | false =>
      obtain ⟨rfl,rfl⟩ := exec_throw.mp hrest
      exact .inr ⟨rfl,hP⟩

def Ended (r : Except Err Unit) : Prop := r=.ok () ∨ ∃verb name,r=.error (.command verb name)

theorem copyAndClearSentinel_ended {srcName tgtName : String} {r : Except Err Unit}
    (h : Exec env (copyAndClearSentinel srcName tgtName) s r t) : Ended r := by
  unfold copyAndClearSentinel at h
  rcases exec_bind.mp h with ⟨e,hx,rfl⟩|⟨_,p1,_,h⟩
  · rcases must_cases (fun _ _ => exec_call.mp) hx with ⟨he,_⟩|⟨he,_⟩
    · cases he
    · cases he
      exact .inr ⟨_,_,rfl⟩
  · rcases must_cases (fun _ _ => exec_call.mp) h with ⟨rfl,_⟩|⟨rfl,_⟩
    · exact .inl rfl
    · exact .inr ⟨_,_,rfl⟩

structure KeptByProbes (env : σ → (c : Cmd α) → Answer c → σ → Prop) : Prop where
  lookup : ∀s name a t,env s (.lookup name) a t → t=s
  tagged : ∀s name a t,env s (.tagged name) a t → t=s
  status : ∀s name a t,env s (.status name) a t → t=s
  volsize : ∀s name a t,env s (.volsize name) a t → t=s
  refreservation : ∀s name a t,env s (.refreservation name) a t → t=s
  setRefreservation : ∀s name bytes a t,env s (.setRefreservation name bytes) a t → t=s

theorem step_keptByProbes (blank : α → Prop) : KeptByProbes (Step blank) where
  lookup _ _ _ _ h := h.1
  tagged _ _ _ _ h := h.1
  status _ _ _ _ h := h.1
  volsize _ _ _ _ h := h
  refreservation _ _ _ _ h := h
  setRefreservation _ _ _ _ _ h := h

theorem ensureRefreservation_ended (henv : KeptByProbes env) {thin : Bool} {dataset : String}
    {r : Except Err Unit} (h : Exec env (ensureRefreservation thin dataset) s r t) :
    t=s ∧ Ended r := by
  unfold ensureRefreservation at h
  split at h
  · obtain ⟨rfl,rfl⟩ := exec_pure.mp h
    exact ⟨rfl,.inl rfl⟩
  obtain ⟨volsize,p1,hp1,h⟩ := exec_ask.mp h
  obtain rfl := henv.volsize _ _ _ _ hp1
  cases volsize with
  | none =>
    obtain ⟨rfl,rfl⟩ := exec_throw.mp h
    exact ⟨rfl,.inr ⟨_,_,rfl⟩⟩
  | some volsize =>
    obtain ⟨refres,p2,hp2,h⟩ := exec_ask.mp h
    obtain rfl := henv.refreservation _ _ _ _ hp2
    cases refres with
    | none =>
      obtain ⟨rfl,rfl⟩ := exec_throw.mp h
      exact ⟨rfl,.inr ⟨_,_,rfl⟩⟩
    | some refres =>
      dsimp only at h
      split at h
      · obtain ⟨rfl,rfl⟩ := exec_pure.mp h
        exact ⟨rfl,.inl rfl⟩
      · rcases must_cases (fun _ _ => exec_call.mp) h with ⟨rfl,hset⟩|⟨rfl,hset⟩
        · exact ⟨henv.setRefreservation _ _ _ _ _ hset,.inl rfl⟩
        · exact ⟨henv.setRefreservation _ _ _ _ _ hset,.inr ⟨_,_,rfl⟩⟩

def ProbesSource (env : σ → (c : Cmd α) → Answer c → σ → Prop) (provider : Provider) (target : String)
    (s : σ) : Prop :=
  env s (.lookup target) false s ∨
  provider=.lvmThick ∧ env s (.lookup target) true s ∧ env s (.tagged target) true s

inductive Restored (env : σ → (c : Cmd α) → Answer c → σ → Prop) (provider : Provider)
    (tgt src : String) (s : σ) : Except Err Unit → σ → Prop
  | missed (hsrc : env s (.lookup src) false s) (htgt : ProbesSource env provider tgt s) :
    Restored env provider tgt src s (.error (.notFound src)) s
  | failed (verb name : String) (t : σ) :
    Restored env provider tgt src s (.error (.command verb name)) t
  | kept (hfound : env s (.lookup tgt) true s)
      (htag : provider=.lvmThick → env s (.tagged tgt) false s) :
    Restored env provider tgt src s (.ok ()) s
  | resumed (t : σ) (hthick : provider=.lvmThick) (hfound : env s (.lookup tgt) true s)
      (htag : env s (.tagged tgt) true s)
      (hcopy : Exec env (copyAndClearSentinel src tgt) s (.ok ()) t) :
    Restored env provider tgt src s (.ok ()) t
  | cloned (t : σ) (hmissed : env s (.lookup tgt) false s) (h : env s (.snapshot src tgt) true t) :
    Restored env provider tgt src s (.ok ()) t
  | copied (u t : σ) (usable : Int) (hmissed : env s (.lookup tgt) false s)
      (hsrc : env s (.lookup src) true s)
      (hcreate : env s (.create tgt (sizeMiBOf usable) true) true u)
      (hcopy : Exec env (copyAndClearSentinel src tgt) u (.ok ()) t) :
    Restored env provider tgt src s (.ok ()) t

theorem restore_cases (henv : KeptByProbes env) {provider : Provider} {vol : Volume}
    {src : Snapshot} {r : Except Err Unit}
    (h : Exec env (restoreVolumeFromSnapshot provider vol src) s r t) :
    Restored env provider (volumeName vol) (snapshotName provider src) s r t := by
  unfold restoreVolumeFromSnapshot at h
  cases provider with
  | zfs thin =>
    obtain ⟨found,p1,hp1,h⟩ := exec_ask.mp h
    obtain rfl := henv.lookup _ _ _ _ hp1
    cases found with
    | true =>
      obtain ⟨rfl,rfl|⟨_,_,rfl⟩⟩ := ensureRefreservation_ended henv h
      · exact .kept hp1 nofun
      · exact .failed _ _ _
    | false =>
      obtain ⟨found,p2,hp2,h⟩ := exec_ask.mp h
      obtain rfl := henv.lookup _ _ _ _ hp2
      cases found with
      | false =>
        obtain ⟨rfl,rfl⟩ := exec_throw.mp h
        exact .missed hp2 (.inl hp1)
      | true =>
        rcases exec_bind.mp h with ⟨e,hx,rfl⟩|⟨_,p3,hx,h⟩
        · rcases must_cases (fun _ _ => exec_call.mp) hx with ⟨he,_⟩|⟨he,_⟩
          · cases he
          · cases he
            exact .failed _ _ _
        · obtain ⟨rfl,rfl|⟨_,_,rfl⟩⟩ := ensureRefreservation_ended henv h
          · exact .cloned _ hp1 (exec_run_ok.mp (exec_must_ok.mp hx))
          · exact .failed _ _ _
  | lvmThin =>
    obtain ⟨found,p1,hp1,h⟩ := exec_ask.mp h
    obtain rfl := henv.lookup _ _ _ _ hp1
    cases found with
    | true =>
      obtain ⟨rfl,rfl⟩ := exec_pure.mp h
      exact .kept hp1 nofun
    | false =>
      obtain ⟨found,p2,hp2,h⟩ := exec_ask.mp h
      obtain rfl := henv.lookup _ _ _ _ hp2
      cases found with
      | false =>
        obtain ⟨rfl,rfl⟩ := exec_throw.mp h
        exact .missed hp2 (.inl hp1)
      | true =>
        rcases must_cases (fun _ _ => exec_call.mp) h with ⟨rfl,hclone⟩|⟨rfl,_⟩
        · exact .cloned _ hp1 hclone
        · exact .failed _ _ _
  | lvmThick =>
    obtain ⟨found,p1,hp1,h⟩ := exec_ask.mp h
    obtain rfl := henv.lookup _ _ _ _ hp1
    cases found with
    | true =>
      obtain ⟨tag,p2,hp2,h⟩ := exec_ask.mp h
      obtain rfl := henv.tagged _ _ _ _ hp2
      cases tag with
      | false =>
        obtain ⟨rfl,rfl⟩ := exec_pure.mp h
        exact .kept hp1 fun _ => hp2
      | true =>
        obtain ⟨found,p3,hp3,h⟩ := exec_ask.mp h
        obtain rfl := henv.lookup _ _ _ _ hp3
        cases found with
        | false =>
          obtain ⟨rfl,rfl⟩ := exec_throw.mp h
          exact .missed hp3 (.inr ⟨rfl,hp1,hp2⟩)
        | true =>
          rcases copyAndClearSentinel_ended h with rfl|⟨_,_,rfl⟩
          · exact .resumed _ rfl hp1 hp2 h
          · exact .failed _ _ _
    | false =>
      obtain ⟨found,p2,hp2,h⟩ := exec_ask.mp h
      obtain rfl := henv.lookup _ _ _ _ hp2
      cases found with
      | false =>
        obtain ⟨rfl,rfl⟩ := exec_throw.mp h
        exact .missed hp2 (.inl hp1)
      | true =>
        obtain ⟨usable,p3,hp3,h⟩ := exec_ask.mp h
        obtain rfl := henv.status _ _ _ _ hp3
        cases usable with
        | none =>
          obtain ⟨rfl,rfl⟩ := exec_throw.mp h
          exact .failed _ _ _
        | some usable =>
          rcases exec_bind.mp h with ⟨e,hx,rfl⟩|⟨_,p4,hx,h⟩
          · rcases must_cases (fun _ _ => exec_call.mp) hx with ⟨he,_⟩|⟨he,_⟩
            · cases he
            · cases he
              exact .failed _ _ _
          · rcases copyAndClearSentinel_ended h with rfl|⟨_,_,rfl⟩
            · exact .copied p4 _ usable hp1 hp2 (exec_run_ok.mp (exec_must_ok.mp hx)) h
            · exact .failed _ _ _

theorem restore_notFound_of (henv : KeptByProbes env) (provider : Provider) (vol : Volume)
    (src : Snapshot) (name : String)
    (h : Exec env (restoreVolumeFromSnapshot provider vol src) s (.error (.notFound name)) t) :
    t=s ∧ env s (.lookup (snapshotName provider src)) false s ∧
      ProbesSource env provider (volumeName vol) s := by
  cases restore_cases henv h with
  | missed hsrc htgt => exact ⟨rfl,hsrc,htgt⟩

theorem restore_notFound_runs (provider : Provider) (vol : Volume) (src : Snapshot)
    (hsrc : env s (.lookup (snapshotName provider src)) false s)
    (htgt : ProbesSource env provider (volumeName vol) s) :
    Exec env (restoreVolumeFromSnapshot provider vol src) s
      (.error (.notFound (snapshotName provider src))) s := by
  unfold restoreVolumeFromSnapshot
  rcases htgt with htgt|⟨rfl,htgt,htag⟩
  · cases provider <;>
      exact exec_ask.mpr ⟨false,s,htgt,exec_ask.mpr ⟨false,s,hsrc,.fail _ _⟩⟩
  · refine exec_ask.mpr ⟨true,s,htgt,exec_ask.mpr ⟨true,s,htag,?_⟩⟩
    exact exec_ask.mpr ⟨false,s,hsrc,.fail _ _⟩

end

section

variable {α : Type} {blank : α → Prop} {p q : Pool α}

theorem changes_true {c : Cmd α} : Changes blank p c true q ↔ Effect blank p c q := by
  simp [Changes]

theorem exec_lookup {β : Type} (name : String) (f : Bool → Prog α β) (r : Except Err β) :
    Exec (Step blank) (run (.lookup name) >>= f) p r q ↔
      Exec (Step blank) (f (p name).isSome) p r q ∨ Exec (Step blank) (f false) p r q := by
  constructor
  · intro h
    obtain ⟨found,p1,h1,h⟩ := exec_ask.mp h
    obtain ⟨rfl,rfl|rfl⟩ := h1
    · exact .inl h
    · exact .inr h
  · intro h
    rcases h with h|h
    · exact exec_ask.mpr ⟨_,p,⟨rfl,.inl rfl⟩,h⟩
    · exact exec_ask.mpr ⟨_,p,⟨rfl,.inr rfl⟩,h⟩

theorem exec_lookup_absent {β : Type} {name : String} {f : Bool → Prog α β} {r : Except Err β}
    (hp : p name=none) : Exec (Step blank) (run (.lookup name) >>= f) p r q ↔
      Exec (Step blank) (f false) p r q := by
  rw [exec_lookup,hp,Option.isSome_none,or_self]

theorem ensureRefreservation_pool (thin : Bool) {dataset : String} {r : Except Err Unit}
    (h : Exec (Step blank) (ensureRefreservation thin dataset) p r q) : q=p :=
  (ensureRefreservation_ended (step_keptByProbes blank) h).1

theorem ensureRefreservation_ok (thin : Bool) {dataset : String} :
    Exec (Step blank) (ensureRefreservation thin dataset) p (.ok ()) p := by
  unfold ensureRefreservation
  split
  · exact exec_pure.mpr ⟨rfl,rfl⟩
  refine exec_ask.mpr ⟨some 0,p,rfl,?_⟩
  refine exec_ask.mpr ⟨some 0,p,rfl,?_⟩
  exact exec_pure.mpr ⟨rfl,rfl⟩

theorem freshLVName_ne (name : String) : freshLVName name≠name := by
  intro h
  have hl := congrArg String.length h
  simp [freshLVName] at hl

theorem volumeName_ne_fresh (name : String) : name≠freshLVName name :=
  fun h => freshLVName_ne name h.symm

end

section

variable {α : Type} {blank : α → Prop} {p q : Pool α} (vol : Volume)

variable (provider : Provider)

theorem createVolume_content (habsent : p (volumeName vol)=none)
    (h : Exec (Step blank) (createVolume provider vol) p (.ok ()) q) :
    ∃o,q (volumeName vol)=some o ∧ blank o.content := by
  unfold createVolume at h
  cases provider with
  | zfs thin =>
    rw [exec_lookup_absent habsent] at h
    obtain ⟨_,p2,h2,h⟩ := exec_bind_ok.mp h
    obtain ⟨_,content,hblank,rfl⟩ := changes_true.mp
      (exec_run_ok.mp (exec_must_ok.mp h2))
    obtain rfl := ensureRefreservation_pool thin h
    exact ⟨_,update_self ..,hblank⟩
  | lvmThin =>
    rw [exec_lookup_absent habsent] at h
    obtain ⟨_,content,hblank,rfl⟩ := changes_true.mp
      (exec_run_ok.mp (exec_must_ok.mp h))
    exact ⟨_,update_self ..,hblank⟩
  | lvmThick =>
    obtain ⟨names,p1,h1,h⟩ := exec_ask.mp h
    obtain ⟨rfl,hn⟩ := h1
    cases names with
    | none => cases h
    | some names =>
      have hns : names=fun name => (p1 name).isSome := by simpa using hn
      subst hns
      simp only [habsent,Option.isSome_none,Bool.false_eq_true,if_false] at h
      obtain ⟨_,p2,_,h⟩ := exec_bind_ok.mp h
      obtain ⟨_,p3,_,h⟩ := exec_bind_ok.mp h
      obtain ⟨_,p4,h4,h⟩ := exec_bind_ok.mp h
      -- Only the last two commands matter: the wiped volume is the one renamed.
      obtain ⟨o,content,_,hblank,rfl⟩ := changes_true.mp
        (exec_run_ok.mp (exec_must_ok.mp h4))
      obtain ⟨_,o',ho,rfl⟩ := changes_true.mp
        (exec_run_ok.mp (exec_must_ok.mp h))
      rw [update_self] at ho
      cases ho
      exact ⟨_,update_self ..,hblank⟩

theorem createSnapshot_ok (snap : Snapshot)
    (h : Exec (Step blank) (createSnapshot provider snap) p (.ok ()) q) :
    (∃o,p (snapshotName provider snap)=some o ∧ q=p) ∨
    (p (snapshotName provider snap)=none ∧ ∃o,p (volumeName ⟨snap.resourceName,0,0⟩)=some o ∧
      q=update p (snapshotName provider snap) (some ⟨o.content,o.sizeMiB,false⟩)) := by
  unfold createSnapshot at h
  obtain ⟨found,p1,h1,h⟩ := exec_ask.mp h
  obtain ⟨rfl,hf⟩ := h1
  cases found with
  | true =>
    obtain ⟨_,rfl⟩ := exec_pure.mp h
    have hsome : (q (snapshotName provider snap)).isSome=true := by simpa using hf.symm
    obtain ⟨o,ho⟩ := Option.isSome_iff_exists.mp hsome
    exact .inl ⟨o,ho,rfl⟩
  | false =>
    exact .inr (changes_true.mp (exec_run_ok.mp (exec_must_ok.mp h)))

theorem copyAndClearSentinel_content (srcName tgtName : String)
    (h : Exec (Step blank) (copyAndClearSentinel srcName tgtName) p (.ok ()) q) :
    ∃o o',p srcName=some o ∧ q tgtName=some o' ∧ o'.content=o.content := by
  unfold copyAndClearSentinel at h
  obtain ⟨_,p1,h1,h⟩ := exec_bind_ok.mp h
  obtain ⟨o,u,ho,_,_,rfl⟩ := changes_true.mp
    (exec_run_ok.mp (exec_must_ok.mp h1))
  obtain ⟨u',hu,rfl⟩ := changes_true.mp (exec_run_ok.mp (exec_must_ok.mp h))
  rw [update_self] at hu
  cases hu
  exact ⟨o,_,ho,update_self ..,rfl⟩

theorem lookup_found {name : String} (h : Step blank p (.lookup name) true q) : ∃o,p name=some o := by
  rcases h.2 with h|h
  · exact Option.isSome_iff_exists.mp h.symm
  · cases h

theorem restore_content (src : Snapshot) (o : Obj α)
    (habsent : p (volumeName vol)=none) (hsrc : p (snapshotName provider src)=some o)
    (h : Exec (Step blank) (restoreVolumeFromSnapshot provider vol src) p (.ok ()) q) :
    ∃o',q (volumeName vol)=some o' ∧ o'.content=o.content := by
  have hmissed : ¬Step blank p (.lookup (volumeName vol)) true p := by
    intro h
    obtain ⟨u,hu⟩ := lookup_found h
    rw [habsent] at hu
    cases hu
  cases restore_cases (step_keptByProbes blank) h with
  | kept hfound => exact absurd hfound hmissed
  | resumed _ _ hfound => exact absurd hfound hmissed
  | cloned _ _ h =>
    obtain ⟨_,o',ho,rfl⟩ := changes_true.mp h
    rw [hsrc] at ho
    cases ho
    exact ⟨_,update_self ..,rfl⟩
  | copied u _ usable _ _ hcreate hcopy =>
    obtain ⟨_,content,_,rfl⟩ := changes_true.mp hcreate
    obtain ⟨o1,o2,h5,h6,h7⟩ := copyAndClearSentinel_content _ _ hcopy
    have hne : snapshotName provider src≠volumeName vol := by
      intro he
      rw [he,habsent] at hsrc
      cases hsrc
    rw [update_of_ne hne,hsrc] at h5
    cases h5
    exact ⟨o2,h6,h7⟩

theorem restore_notFound (src : Snapshot) (name : String)
    (h : Exec (Step blank) (restoreVolumeFromSnapshot provider vol src) p
      (.error (.notFound name)) q) : q=p :=
  (restore_notFound_of (step_keptByProbes blank) provider vol src name h).1

theorem ddRecv_content (stream : α)
    (h : Exec (Step blank) (ddRecvAndClearSentinel vol stream) p (.ok ()) q) :
    ∃o,q (volumeName vol)=some o ∧ o.content=stream := by
  unfold ddRecvAndClearSentinel at h
  obtain ⟨received,p1,h1,h⟩ := exec_ask.mp h
  cases received with
  | true =>
    obtain ⟨sizeMiB,rfl⟩ := changes_true.mp h1
    obtain ⟨o,ho,rfl⟩ := changes_true.mp (exec_run_ok.mp (exec_must_ok.mp h))
    rw [update_self] at ho
    cases ho
    exact ⟨_,update_self ..,rfl⟩
  | false =>
    obtain ⟨found,p2,_,h⟩ := exec_ask.mp h
    cases found with
    | true =>
      obtain ⟨_,p3,_,h⟩ := exec_ask.mp h
      cases h
    | false => cases h

theorem recvSnapshot_content (stream : α) (habsent : p (volumeName vol)=none)
    (h : Exec (Step blank) (recvSnapshot provider vol stream) p (.ok ()) q) :
    ∃o,q (volumeName vol)=some o ∧ o.content=stream := by
  unfold recvSnapshot at h
  cases provider with
  | zfs thin =>
    rw [exec_lookup_absent habsent] at h
    obtain ⟨received,p1,h1,h⟩ := exec_ask.mp h
    cases received with
    | true =>
      obtain ⟨sizeMiB,rfl⟩ := changes_true.mp h1
      obtain rfl := ensureRefreservation_pool thin h
      exact ⟨_,update_self ..,rfl⟩
    | false =>
      obtain ⟨_,p2,_,h⟩ := exec_ask.mp h
      cases h
  | lvmThin =>
    rw [exec_lookup_absent habsent] at h
    obtain ⟨_,p1,_,h⟩ := exec_bind_ok.mp h
    exact ddRecv_content vol stream h
  | lvmThick => cases h

end

end Blockstor.Storage
