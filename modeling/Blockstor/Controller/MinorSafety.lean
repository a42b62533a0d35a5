import Blockstor.Controller.MinorSpec
import Blockstor.Framework.Transition

namespace Blockstor.Controller

open Drbd Framework Shell List

variable (rd : ResourceDefinition) (low : Int32) (taken : List Int32)

variable (c : Cluster) (vd : VolumeDefinition)

def minorInUse : Option Int32 :=
  vd.drbdMinor.or (rd.statusDRBDMinor.map (·+vd.volumeNumber))

def minorsInUse : List Int32 := rd.volumeDefinitions.filterMap (minorInUse rd)

structure DistinctMinors (c : Cluster) : Prop where
  within : ∀rd∈c.definitions,(minorsInUse rd).Nodup
  across : ∀rd∈c.definitions,∀rd'∈c.definitions,rd.name≠rd'.name →
    ∀m∈minorsInUse rd,m∉minorsInUse rd'

instance (c : Cluster) : Decidable (DistinctMinors c) :=
  decidable_of_iff ((∀rd∈c.definitions.items,(minorsInUse rd).Nodup) ∧
    ∀rd∈c.definitions.items,∀rd'∈c.definitions.items,rd.name≠rd'.name →
      (minorsInUse rd).all (fun m => m∉minorsInUse rd')=true) <| by
    simp only [all_eq_true,decide_eq_true_eq]
    exact ⟨fun h => ⟨h.1,h.2⟩,fun h => ⟨h.within,h.across⟩⟩

/-- At least `k` values that satisfy `P`, from `low` on, are not taken. -/
def Room (low : Int32) (P : Int32 → Prop) (k : Nat) : Prop :=
  ∀used : List Int32,used.length<k → ∃w,low ≤ w ∧ P w ∧ w∉taken ∧ w∉used

/-- A minor that `k` allocations from the range never reach: it is reserved, outside the range, or
has `k` free values of the range below it. -/
def Avoided (low high : Int32) (k : Nat) (u : Int32) : Prop :=
  u∈taken ∨ ¬(low ≤ u ∧ u ≤ high) ∨ Room taken low (·<u) k

section

variable {taken : List Int32} {low high : Int32} {k : Nat}

theorem Room.next {P : Int32 → Prop} (h : Room taken low P (k+1)) (m : Int32) :
    Room (taken++[m]) low P k := by
  intro used hlen
  obtain ⟨w,hlow,hp,hfree,hused⟩ := h (m::used) (by simpa using hlen)
  obtain ⟨hne,hused⟩ := not_or.mp (mem_cons.not.mp hused)
  exact ⟨w,hlow,hp,by simp [hfree,hne],hused⟩

theorem Avoided.next {u : Int32} (h : Avoided taken low high (k+1) u) (m : Int32) :
    Avoided (taken++[m]) low high k u := by
  rcases h with h|h|h
  · exact .inl (mem_append_left _ h)
  · exact .inr (.inl h)
  · exact .inr (.inr (h.next m))

theorem picked_avoids {m : Int32} (hpick : Picked taken low high m)
    (hroom : high=Int32.maxValue → Room taken low (fun _ => True) (k+1)) :
    m∉taken ∧ ∀u,Avoided taken low high (k+1) u → m≠u := by
  rcases hpick with ⟨hlo,hhi,hfree,hbelow⟩|⟨hmax,_,_,hfull⟩
  · refine ⟨hfree,fun u hu he => ?_⟩
    subst he
    rcases hu with hu|hu|hu
    · exact hfree hu
    · exact hu ⟨hlo,hhi⟩
    · obtain ⟨w,hw,hlt,hwfree,_⟩ := hu [] (Nat.succ_pos k)
      exact hwfree (hbelow w hw hlt)
  · obtain ⟨w,hw,_,hwfree,_⟩ := hroom hmax [] (Nat.succ_pos k)
    exact absurd (hfull w hw) hwfree

end

def unstamped (vds : List VolumeDefinition) : Nat := vds.countP fun vd => vd.drbdMinor.isNone

def Stamps (v vd : VolumeDefinition) : Prop :=
  vd.volumeNumber=v.volumeNumber ∧ vd.drbdMinor.isSome=true ∧ (v.drbdMinor=none ∨ v=vd)

theorem fillMinors_forall₂ {R : VolumeDefinition → VolumeDefinition → Prop} {low high : Int32}
    (hkept : ∀v,v.drbdMinor.isSome=true → R v v)
    (hpicked : ∀v m taken,v.drbdMinor=none → Picked taken low high m → R v ⟨v.volumeNumber,some m⟩)
    {vds out : List VolumeDefinition} {taken : List Int32}
    (h : fillMinors low high taken vds=some out) : Forall₂ R vds out := by
  induction vds generalizing taken out with
  | nil =>
    cases h
    exact .nil
  | cons v vds ih =>
    rw [fillMinors] at h
    cases hv : v.drbdMinor with
    | some m =>
      rw [hv] at h
      obtain ⟨rest,hrest,rfl⟩ := Option.map_eq_some_iff.mp h
      exact .cons (hkept v (by simp [hv])) (ih hrest)
    | none =>
      rw [hv] at h
      cases hm : lowestFreeMinor taken low high with
      | none =>
        rw [hm] at h
        cases h
      | some m =>
        rw [hm] at h
        obtain ⟨rest,hrest,rfl⟩ := Option.map_eq_some_iff.mp h
        exact .cons (hpicked v m _ hv (lowestFree_picked _ _ _ _ hm)) (ih hrest)

theorem fillMinors_stamps {low high : Int32} {vds out : List VolumeDefinition} {taken : List Int32}
    (h : fillMinors low high taken vds=some out) : Forall₂ Stamps vds out :=
  fillMinors_forall₂ (fun _ hv => ⟨rfl,hv,.inr rfl⟩) (fun _ _ _ hv _ => ⟨rfl,rfl,.inl hv⟩) h

theorem fillMinors_fresh (high : Int32) (vds : List VolumeDefinition) (taken : List Int32)
    (hroom : high=Int32.maxValue → Room taken low (fun _ => True) (unstamped vds))
    (out : List VolumeDefinition) (h : fillMinors low high taken vds=some out) :
    ∃fresh,(out.filterMap VolumeDefinition.drbdMinor).Perm
      (vds.filterMap VolumeDefinition.drbdMinor++fresh) ∧ fresh.Nodup ∧ (∀m∈fresh,m∉taken) ∧
      ∀u,Avoided taken low high (unstamped vds) u → u∉fresh := by
  induction vds generalizing taken out with
  | nil =>
    cases h
    exact ⟨[],.refl _,.nil,nofun,fun _ _ => nofun⟩
  | cons v vds ih =>
    rw [fillMinors] at h
    cases hv : v.drbdMinor with
    | some m =>
      rw [hv] at h
      obtain ⟨rest,hrest,rfl⟩ := Option.map_eq_some_iff.mp h
      have hk : unstamped (v::vds)=unstamped vds := by simp [unstamped,hv]
      rw [hk] at hroom ⊢
      obtain ⟨fresh,hperm,hfresh⟩ := ih taken hroom rest hrest
      refine ⟨fresh,?_,hfresh⟩
      simpa [hv] using hperm.cons m
    | none =>
      rw [hv] at h
      have hk : unstamped (v::vds)=unstamped vds+1 := by simp [unstamped,hv]
      rw [hk] at hroom ⊢
      cases hm : lowestFreeMinor taken low high with
      | none =>
        rw [hm] at h
        cases h
      | some m =>
        rw [hm] at h
        obtain ⟨rest,hrest,rfl⟩ := Option.map_eq_some_iff.mp h
        obtain ⟨hmfree,hmavoid⟩ := picked_avoids (lowestFree_picked _ _ _ _ hm) hroom
        obtain ⟨fresh,hperm,hnodup,hfree,havoid⟩ :=
          ih (taken++[m]) (fun hmax => (hroom hmax).next m) rest hrest
        refine ⟨m::fresh,?_,?_,?_,?_⟩
        · have hswap := (hperm.cons m).trans perm_middle.symm
          simpa [hv] using hswap
        · exact nodup_cons.mpr ⟨fun hmem => hfree m hmem (by simp),hnodup⟩
        · intro x hx
          rcases mem_cons.mp hx with rfl|hx
          · exact hmfree
          · exact fun hmem => hfree x hx (mem_append_left _ hmem)
        · intro u hu hmem
          rcases mem_cons.mp hmem with rfl|hmem
          · exact hmavoid _ hu rfl
          · exact havoid u (hu.next m) hmem

theorem forall₂_mem_left {α β : Type} {R : α → β → Prop} {l : List α} {l' : List β}
    (h : Forall₂ R l l') {a : α} (ha : a∈l) : ∃b∈l',R a b := by
  induction h with
  | nil => cases ha
  | cons hab _ ih =>
    rcases mem_cons.mp ha with rfl|ha
    · exact ⟨_,mem_cons_self,hab⟩
    · obtain ⟨b,hb,h⟩ := ih ha
      exact ⟨b,mem_cons_of_mem _ hb,h⟩

theorem forall₂_mem_right {α β : Type} {R : α → β → Prop} {l : List α} {l' : List β}
    (h : Forall₂ R l l') {b : β} (hb : b∈l') : ∃a∈l,R a b :=
  forall₂_mem_left (R := flip R) h.flip hb

theorem fillMinors_complete (high : Int32) (taken : List Int32) (vds : List VolumeDefinition)
    (h : ∀vd∈vds,vd.drbdMinor.isSome=true) : fillMinors low high taken vds=some vds := by
  induction vds with
  | nil => rfl
  | cons v vds ih =>
    obtain ⟨m,hm⟩ := Option.isSome_iff_exists.mp (h v mem_cons_self)
    rw [fillMinors,hm,ih fun vd hvd => h vd (mem_cons_of_mem _ hvd)]
    rfl

/-- What happens to the volume definitions of a cluster: a run over the minors of a definition with
its outcome, a volume definition created or deleted. -/
inductive VolumeEvent
  | ensure (rdName : String) (res : Except AllocErr (Bool × Option Int32))
  | create (rdName : String) (vd : VolumeDefinition)
  | delete (rdName : String) (volumeNumber : Int32)

def ResourceDefinition.addVolume (rd : ResourceDefinition) :
    ResourceDefinition := rd.withVolumes (rd.volumeDefinitions++[vd])

def ResourceDefinition.dropVolume (n : Int32) (rd : ResourceDefinition) : ResourceDefinition :=
  rd.withVolumes (rd.volumeDefinitions.filter fun vd => vd.volumeNumber≠n)

def Cluster.redefine (rdName : String)
    (f : ResourceDefinition → ResourceDefinition) (hf : ∀rd,(f rd).name=rd.name) : Cluster :=
  {c with definitions := c.definitions.modify rdName f hf}

def VolumeTransition (e : VolumeEvent) (t : Cluster) : Prop :=
  match e with
  | .ensure rdName res => Exec Step (ensureRDVolumeMinors rdName) c res t
  | .create rdName vd =>
      (∀rd∈c.definitions,rd.name=rdName → ∀v∈rd.volumeDefinitions,v.volumeNumber≠vd.volumeNumber) ∧
      t=c.redefine rdName (.addVolume vd) fun _ => rfl
  | .delete rdName n => t=c.redefine rdName (.dropVolume n) fun _ => rfl

/-- What each step of a run has to meet, in terms of the state before it: an allocation of fresh
minors avoids those other definitions use, with room in its range, and a volume created under a
legacy base does not make it reach a minor in use. -/
def minorGuard : VolumeEvent → Prop
  | .ensure rdName _ => ∀rd∈c.definitions,rd.name=rdName →
      (rd.statusDRBDMinor=none ∨ anyVolumeMinorSet rd=true) →
      ∀low high,minorRangeIn rdName c=.ok (low,high) →
      let taken := takenMinorsCluster rdName c.definitions.items++
        rd.volumeDefinitions.filterMap VolumeDefinition.drbdMinor
      (∀rd'∈c.definitions,rd'.name≠rdName → ∀u∈minorsInUse rd',
        Avoided taken low high (unstamped rd.volumeDefinitions) u) ∧
      (high=Int32.maxValue → Room taken low (fun _ => True) (unstamped rd.volumeDefinitions))
  | .create rdName vd => ∀rd∈c.definitions,rd.name=rdName → ∀m,minorInUse rd vd=some m →
      ∀rd'∈c.definitions,m∉minorsInUse rd'
  | .delete _ _ => True

section

variable {c t : Cluster}

theorem DistinctMinors.redefine (h : DistinctMinors c) (rdName : String)
    (f : ResourceDefinition → ResourceDefinition) (hf : ∀rd,(f rd).name=rd.name)
    (hnew : ∀rd∈c.definitions,rd.name=rdName → (minorsInUse (f rd)).Nodup ∧
      ∀rd'∈c.definitions,rd'.name≠rdName → ∀m∈minorsInUse (f rd),m∉minorsInUse rd') :
    DistinctMinors (c.redefine rdName f hf) := by
  have hmem := c.definitions.mem_modify rdName f hf
  refine ⟨fun rd hrd => ?_,fun rd hrd rd' hrd' hne m hm hm' => ?_⟩
  · rcases (hmem rd).mp hrd with ⟨old,hold,hn,rfl⟩|⟨hrd,_⟩
    · exact (hnew old hold hn).1
    · exact h.within rd hrd
  · rcases (hmem rd).mp hrd with ⟨old,hold,hn,rfl⟩|⟨hrd,hn⟩ <;>
      rcases (hmem rd').mp hrd' with ⟨old',hold',hn',rfl⟩|⟨hrd',hn'⟩
    · exact hne (by rw [hf,hf,hn,hn'])
    · exact (hnew old hold hn).2 rd' hrd' hn' m hm hm'
    · exact (hnew old' hold' hn').2 rd hrd hn m hm' hm
    · exact h.across rd hrd rd' hrd' hne m hm hm'

variable (rd : ResourceDefinition)

theorem minorsInUse_stamped (h : ∀vd∈rd.volumeDefinitions,vd.drbdMinor.isSome=true) :
    minorsInUse rd=rd.volumeDefinitions.filterMap VolumeDefinition.drbdMinor := by
  refine filterMap_congr fun vd hvd => ?_
  obtain ⟨m,hm⟩ := Option.isSome_iff_exists.mp (h vd hvd)
  rw [minorInUse,hm]
  rfl

theorem stamped_sublist_inUse :
    (rd.volumeDefinitions.filterMap VolumeDefinition.drbdMinor).Sublist (minorsInUse rd) := by
  have h : rd.volumeDefinitions.filterMap VolumeDefinition.drbdMinor=
      (rd.volumeDefinitions.filter fun vd => vd.drbdMinor.isSome).filterMap (minorInUse rd) := by
    rw [filterMap_filter]
    refine filterMap_congr fun vd _ => ?_
    cases hm : vd.drbdMinor with
    | none => rfl
    | some m => simp [minorInUse,hm]
  rw [h]
  exact filter_sublist.filterMap _

theorem backfill_same (h : rd.statusDRBDMinor=none ∨ anyVolumeMinorSet rd=true) :
    (backfillRDMinorsFromStatus rd).1=rd.volumeDefinitions := by
  unfold backfillRDMinorsFromStatus
  rcases h with hbase|hset
  · rw [hbase]
  · cases rd.statusDRBDMinor with
    | none => rfl
    | some base =>
      dsimp only
      rw [if_pos hset]

theorem backfill_inUse (base : Int32)
    (hbase : rd.statusDRBDMinor=some base) (hnone : anyVolumeMinorSet rd=false) :
    (∀vd∈(backfillRDMinorsFromStatus rd).1,vd.drbdMinor.isSome=true) ∧
    (backfillRDMinorsFromStatus rd).1.filterMap VolumeDefinition.drbdMinor=minorsInUse rd := by
  have hall : ∀vd∈rd.volumeDefinitions,vd.drbdMinor=none := by
    simpa [anyVolumeMinorSet] using hnone
  simp only [backfillRDMinorsFromStatus,hbase,hnone,Bool.false_eq_true,if_false]
  refine ⟨by simp,?_⟩
  rw [filterMap_map]
  refine filterMap_congr fun vd hvd => ?_
  rw [minorInUse,hall vd hvd,hbase]
  rfl

/-- The minors of a definition after an allocation: those it used, or its stamped ones and fresh
ones that avoid the others'. -/
theorem minted_inUse (h : DistinctMinors c) (rd : ResourceDefinition) (hrd : rd∈c.definitions)
    (vds : List VolumeDefinition) (hminted : Minted c rd vds) (res : Except AllocErr (Bool × Option Int32))
    (hguard : minorGuard c (.ensure rd.name res)) :
    (minorsInUse (rd.withVolumes vds)).Nodup ∧ ∀rd'∈c.definitions,rd'.name≠rd.name →
      ∀m∈minorsInUse (rd.withVolumes vds),m∉minorsInUse rd' := by
  obtain ⟨low,high,hrange,hfill⟩ := hminted
  have hother (rd' : ResourceDefinition) (hrd' : rd'∈c.definitions) (hne : rd'.name≠rd.name)
      (m : Int32) (hm : m∈minorsInUse rd) : m∉minorsInUse rd' :=
    h.across rd hrd rd' hrd' (Ne.symm hne) m hm
  by_cases hlegacy : rd.statusDRBDMinor=none ∨ anyVolumeMinorSet rd=true
  · rw [backfill_same rd hlegacy] at hfill
    obtain ⟨havoid,hroom⟩ := hguard rd hrd rfl hlegacy low high hrange
    have hall : ∀vd∈vds,vd.drbdMinor.isSome=true := by
      intro vd hvd
      obtain ⟨v,_,hv⟩ := forall₂_mem_right (fillMinors_stamps hfill) hvd
      exact hv.2.1
    obtain ⟨fresh,hperm,hnodup,hfree,hfresh⟩ := fillMinors_fresh low high _ _ hroom vds hfill
    rw [minorsInUse_stamped (rd.withVolumes vds) hall]
    refine ⟨hperm.nodup_iff.mpr (nodup_append.mpr ⟨?_,hnodup,?_⟩),?_⟩
    · exact (h.within rd hrd).sublist (stamped_sublist_inUse rd)
    · intro x hx y hy he
      exact hfree y hy (mem_append_right _ (he ▸ hx))
    · intro rd' hrd' hne m hm hm'
      rcases mem_append.mp (hperm.mem_iff.mp hm) with hm|hm
      · exact hother rd' hrd' hne m ((stamped_sublist_inUse rd).mem hm) hm'
      · exact hfresh m (havoid rd' hrd' hne m hm') hm
  · obtain ⟨hbase,hset⟩ := not_or.mp hlegacy
    obtain ⟨base,hbase⟩ := Option.ne_none_iff_exists'.mp hbase
    obtain ⟨hall,hsame⟩ := backfill_inUse rd base hbase (by simpa using hset)
    rw [fillMinors_complete _ _ _ _ hall] at hfill
    cases hfill
    rw [(minorsInUse_stamped (rd.withVolumes _) hall).trans hsame]
    exact ⟨h.within rd hrd,hother⟩

theorem distinctMinors_step (e : VolumeEvent) (h : DistinctMinors c) (hguard : minorGuard c e)
    (hstep : VolumeTransition c e t) : DistinctMinors t := by
  cases e with
  | ensure rdName res =>
    rcases ensureRDVolumeMinors_effect rdName res hstep with rfl|⟨rd,vds,hget,hminted,rfl⟩
    · exact h
    obtain ⟨hrd,rfl⟩ := (c.definitions.get?_eq_some _ _).mp hget
    refine h.redefine rd.name (.withVolumes vds) (fun _ => rfl) fun rd' hrd' hn => ?_
    obtain rfl := c.definitions.eq_of_key hrd' hrd hn
    exact minted_inUse h rd' hrd vds hminted res hguard
  | create rdName vd =>
    obtain ⟨_,rfl⟩ := hstep
    refine h.redefine rdName (.addVolume vd) (fun _ => rfl) fun rd hrd hn => ?_
    have hadd : minorsInUse (rd.addVolume vd)=minorsInUse rd++(minorInUse rd vd).toList := by
      change filterMap (minorInUse rd) (_++[vd])=_
      rw [filterMap_append]
      cases hm : minorInUse rd vd with
      | none => simp [minorsInUse,hm]
      | some m => simp [minorsInUse,hm]
    rw [hadd]
    refine ⟨nodup_append.mpr ⟨h.within rd hrd,?_,?_⟩,?_⟩
    · cases minorInUse rd vd <;> simp
    · intro x hx y hy he
      exact hguard rd hrd hn y (by simpa using hy) rd hrd (he ▸ hx)
    · intro rd' hrd' hne m hm
      rcases mem_append.mp hm with hm|hm
      · exact h.across rd hrd rd' hrd' (fun he => hne (he.symm.trans hn)) m hm
      · exact hguard rd hrd hn m (by simpa using hm) rd' hrd'
  | delete rdName n =>
    obtain rfl := hstep
    refine h.redefine rdName (.dropVolume n) (fun _ => rfl) fun rd hrd hn => ?_
    have hsub : (minorsInUse (rd.dropVolume n)).Sublist (minorsInUse rd) :=
      filter_sublist.filterMap _
    refine ⟨(h.within rd hrd).sublist hsub,fun rd' hrd' hne m hm => ?_⟩
    exact h.across rd hrd rd' hrd' (fun he => hne (he.symm.trans hn)) m (hsub.mem hm)

variable (rdName : String) (n : Int32) (m : Int32)

/-- The volume `n` of a definition exists and is stamped with `m`. -/
def StampedWith (c : Cluster) : Prop :=
  ∃rd∈c.definitions,rd.name=rdName ∧ (∃vd∈rd.volumeDefinitions,vd.volumeNumber=n) ∧
    ∀vd∈rd.volumeDefinitions,vd.volumeNumber=n → vd.drbdMinor=some m

theorem StampedWith.redefine {rdName : String} {n m : Int32} (h : StampedWith rdName n m c)
    (other : String) (f : ResourceDefinition → ResourceDefinition) (hf : ∀rd,(f rd).name=rd.name)
    (hkeep : ∀rd∈c.definitions,rd.name=rdName → rdName=other →
      (∃vd∈rd.volumeDefinitions,vd.volumeNumber=n) →
      (∀vd∈rd.volumeDefinitions,vd.volumeNumber=n → vd.drbdMinor=some m) →
      (∃vd∈(f rd).volumeDefinitions,vd.volumeNumber=n) ∧
      ∀vd∈(f rd).volumeDefinitions,vd.volumeNumber=n → vd.drbdMinor=some m) :
    StampedWith rdName n m (c.redefine other f hf) := by
  obtain ⟨rd,hrd,hn,hex,hall⟩ := h
  have hmem := c.definitions.mem_modify other f hf
  by_cases ho : rd.name=other
  · obtain ⟨hex',hall'⟩ := hkeep rd hrd hn (hn.symm.trans ho) hex hall
    exact ⟨f rd,(hmem _).mpr (.inl ⟨rd,hrd,ho,rfl⟩),(hf rd).trans hn,hex',hall'⟩
  · exact ⟨rd,(hmem _).mpr (.inr ⟨hrd,ho⟩),hn,hex,hall⟩

theorem stampedWith_step (e : VolumeEvent)
    (h : StampedWith rdName n m c) (hdelete : e≠.delete rdName n)
    (hstep : VolumeTransition c e t) : StampedWith rdName n m t := by
  cases e with
  | ensure other res =>
    rcases ensureRDVolumeMinors_effect other res hstep with rfl|⟨rd,vds,hget,hminted,rfl⟩
    · exact h
    obtain ⟨hrd,rfl⟩ := (c.definitions.get?_eq_some _ _).mp hget
    refine h.redefine rd.name (.withVolumes vds) (fun _ => rfl) fun rd' hrd' hn ho hex hall => ?_
    obtain rfl := c.definitions.eq_of_key hrd' hrd (hn.trans ho)
    obtain ⟨low,high,_,hfill⟩ := hminted
    obtain ⟨v,hv,hvn⟩ := hex
    have hset : anyVolumeMinorSet rd'=true :=
      any_eq_true.mpr ⟨v,hv,by rw [hall v hv hvn]; rfl⟩
    rw [backfill_same rd' (.inr hset)] at hfill
    have hstamps := fillMinors_stamps hfill
    refine ⟨?_,fun vd hvd hvdn => ?_⟩
    · obtain ⟨vd,hvd,hnum,_⟩ := forall₂_mem_left hstamps hv
      exact ⟨vd,hvd,hnum.trans hvn⟩
    · obtain ⟨w,hw,hnum,_,hsame⟩ := forall₂_mem_right hstamps hvd
      have hwm := hall w hw (hnum.symm.trans hvdn)
      rcases hsame with hnone|rfl
      · rw [hnone] at hwm
        cases hwm
      · exact hwm
  | create other vd =>
    obtain ⟨hnew,rfl⟩ := hstep
    refine h.redefine other (.addVolume vd) (fun _ => rfl) fun rd hrd hn ho hex hall => ?_
    obtain ⟨v,hv,hvn⟩ := hex
    refine ⟨⟨v,mem_append_left _ hv,hvn⟩,fun w hw hwn => ?_⟩
    rcases mem_append.mp hw with hw|hw
    · exact hall w hw hwn
    · obtain rfl := mem_singleton.mp hw
      exact absurd (hvn.trans hwn.symm) (hnew rd hrd (hn.trans ho) v hv)
  | delete other k =>
    obtain rfl := hstep
    refine h.redefine other (.dropVolume k) (fun _ => rfl) fun rd hrd hn ho hex hall => ?_
    obtain ⟨v,hv,hvn⟩ := hex
    refine ⟨⟨v,mem_filter.mpr ⟨hv,?_⟩,hvn⟩,fun w hw => hall w (mem_filter.mp hw).1⟩
    rw [decide_eq_true_eq]
    intro he
    exact hdelete (by rw [ho,← hvn,he])

end

/-- Minor safety through an upgrade: in every run whose allocations and creations avoid the minors
in use, the minors of the cluster stay distinct in every state reached; and in every run at all a
stamped minor stays as long as its volume definition does. -/
theorem minor_safety_of_avoiding (c : Cluster) (hc : DistinctMinors c) (es : List VolumeEvent)
    (t : Cluster) (hrun : Run (guarded minorGuard VolumeTransition) c es t) :
    DistinctMinors t ∧ ∀rdName n m es' u,StampedWith rdName n m t →
      Run VolumeTransition t es' u → (∀e∈es',e≠.delete rdName n) → StampedWith rdName n m u := by
  refine ⟨?_,?_⟩
  · exact hrun.invariant DistinctMinors (fun _ e _ h hs => distinctMinors_step e h hs.1 hs.2) hc
  · intro rdName n m es' u hstamped hrun' hes
    exact hrun'.invariant_of (· ≠.delete rdName n) (StampedWith rdName n m) hes
      (fun _ e _ hne h hs => stampedWith_step rdName n m e h hne hs) hstamped

/-- A definition from before the upgrade with volumes 0 and `n` on the legacy base, and a new one. -/
def upgradedDefinitions (n : Int32) : Cluster where
  resources := .empty
  definitions := ⟨[⟨"pvc-1",[⟨0,none⟩,⟨n,none⟩],none,none,some 20000⟩,
      {name := "pvc-2",volumeDefinitions := [⟨0,none⟩]}],
    by change ["pvc-1","pvc-2"].Nodup; decide⟩
  nodes := fun _ => none
  extraProps := none

/-- Volume 2 uses minor 20002, but only 20000 and 20001 are reserved: the new definition gets it. -/
theorem new_definition_takes_legacy_minor : ¬∀(c : Cluster) (es : List VolumeEvent) (t : Cluster),
    DistinctMinors c → Run VolumeTransition c es t → DistinctMinors t := by
  intro h
  let t := (simulate serve (ensureRDVolumeMinors "pvc-2") (upgradedDefinitions 2)).2
  have hstep : VolumeTransition (upgradedDefinitions 2) (.ensure "pvc-2" _) t :=
    exec_simulate serve step_serve _ _
  have ht := h (upgradedDefinitions 2) _ t (by decide) (.cons _ _ _ _ _ hstep (.nil t))
  exact absurd ht (by decide)

/-- Contiguous volumes are reserved as they are used. -/
theorem new_definition_avoids_contiguous_minors : DistinctMinors (upgradedDefinitions 1) ∧
    DistinctMinors (simulate serve (ensureRDVolumeMinors "pvc-2") (upgradedDefinitions 1)).2 := by
  refine ⟨by decide,(minor_safety_of_avoiding (upgradedDefinitions 1) (by decide)
    [.ensure "pvc-2" _] _ (.cons _ _ _ _ _ ⟨?_,exec_simulate serve step_serve _ _⟩ (.nil _))).1⟩
  intro rd _ _ _ low high hrange
  have hdefault : minorRangeIn "pvc-2" (upgradedDefinitions 1)=.ok (20000,65535) := rfl
  rw [hdefault] at hrange
  cases hrange
  have hreserved : ∀rd'∈(upgradedDefinitions 1).definitions.items,rd'.name≠"pvc-2" →
      (minorsInUse rd').all (fun u => u∈takenMinorsCluster "pvc-2"
        (upgradedDefinitions 1).definitions.items)=true := by decide
  refine ⟨fun rd' hrd' hne u hu => .inl (mem_append_left _ ?_),fun hmax => ?_⟩
  · exact of_decide_eq_true (all_eq_true.mp (hreserved rd' hrd' hne) u hu)
  · exact absurd hmax (by decide)

end Blockstor.Controller
