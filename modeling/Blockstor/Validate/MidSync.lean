import Mathlib

namespace Blockstor.Validate

/-- The disk states the guard tells apart; `unreported` is the empty one. -/
inductive DiskState
  | unreported
  | upToDate
  | inconsistent
  | syncTarget
  | other
  deriving DecidableEq

inductive ReplicationState
  | syncSource
  | syncTarget
  | other
  deriving DecidableEq

/-- `deleting` is the mark of the peers' handshake, `delete` that of the deletion itself. -/
inductive Flag
  | diskless
  | tieBreaker
  | inactive
  | deleting
  | delete
  | other
  deriving DecidableEq

structure Volume where
  number : Int
  diskState : DiskState
  replicationStates : List ReplicationState
  deriving DecidableEq

structure Resource where
  nodeName : String
  flags : List Flag
  volumes : List Volume
  deriving DecidableEq

section Code

variable (res : Resource)

def resourceIsDiskful : Bool :=
  res.flags.all fun f => f≠.diskless && f≠.tieBreaker

def resourceIsUpToDate : Bool := res.volumes.any fun vol => vol.diskState=.upToDate

def resourceIsSyncSource : Bool :=
  res.volumes.any fun vol => vol.replicationStates.any fun rep => rep=.syncSource

def resourceIsConfirmedUpToDateSource : Bool :=
  resourceIsUpToDate res || resourceIsSyncSource res

def resourceHasKnownDiskState : Bool :=
  res.volumes.any fun vol => vol.diskState≠.unreported

def resourceIsPossibleUpToDateSource : Bool :=
  resourceIsConfirmedUpToDateSource res || !resourceHasKnownDiskState res

def Volume.isMidSync (vol : Volume) : Bool :=
  vol.diskState=.inconsistent || vol.diskState=.syncTarget ||
    vol.replicationStates.any fun rep => rep=.syncTarget

def resourceIsMidSync : Bool := res.volumes.any Volume.isMidSync

def countSibling (target : Resource) (counts : Nat × Nat) (sib : Resource) : Nat × Nat :=
  if sib.nodeName=target.nodeName ∨ resourceIsDiskful sib=false then counts
  else if resourceIsConfirmedUpToDateSource sib then (counts.1+1,counts.2)
  else if resourceIsMidSync sib then (counts.1,counts.2+1)
  else counts

def midSyncDeleteRefusal (target : Resource) (siblings : List Resource) : Bool :=
  if resourceIsDiskful target=false then false
  else if resourceIsPossibleUpToDateSource target=false then false
  else
    let counts := siblings.foldl (countSibling target) (0,0)
    if 0 < counts.1 then false else decide (0 < counts.2)

end Code

section Counts

variable {target : Resource}

def Counted (target sib : Resource) : Prop :=
  sib.nodeName≠target.nodeName ∧ resourceIsDiskful sib=true

theorem countSibling_cases (target : Resource) (counts : Nat × Nat) (sib : Resource) :
    Counted target sib ∧ resourceIsConfirmedUpToDateSource sib=true ∧
      countSibling target counts sib=(counts.1+1,counts.2) ∨
    Counted target sib ∧ resourceIsConfirmedUpToDateSource sib=false ∧ resourceIsMidSync sib=true ∧
      countSibling target counts sib=(counts.1,counts.2+1) ∨
    (Counted target sib → resourceIsConfirmedUpToDateSource sib=false ∧ resourceIsMidSync sib=false) ∧
      countSibling target counts sib=counts := by
  unfold countSibling
  by_cases hskip : sib.nodeName=target.nodeName ∨ resourceIsDiskful sib=false
  · rw [if_pos hskip]
    refine .inr (.inr ⟨fun hcounted => ?_,rfl⟩)
    rcases hskip with hname|hdiskless
    · exact absurd hname hcounted.1
    · rw [hcounted.2] at hdiskless
      cases hdiskless
  · have hcounted : Counted target sib :=
      ⟨fun h => hskip (.inl h),Bool.not_eq_false _ |>.mp fun h => hskip (.inr h)⟩
    rw [if_neg hskip]
    cases hconfirmed : resourceIsConfirmedUpToDateSource sib with
    | true => exact .inl ⟨hcounted,rfl,rfl⟩
    | false =>
      cases hmid : resourceIsMidSync sib with
      | true => exact .inr (.inl ⟨hcounted,rfl,rfl,rfl⟩)
      | false => exact .inr (.inr ⟨fun _ => ⟨rfl,rfl⟩,rfl⟩)

theorem counts_pos (target : Resource) (siblings : List Resource) (counts : Nat × Nat) :
    (0 < (siblings.foldl (countSibling target) counts).1 ↔ 0 < counts.1 ∨
      ∃sib∈siblings,Counted target sib ∧ resourceIsConfirmedUpToDateSource sib=true) ∧
    (0 < (siblings.foldl (countSibling target) counts).2 ↔ 0 < counts.2 ∨
      ∃sib∈siblings,Counted target sib ∧ resourceIsConfirmedUpToDateSource sib=false ∧
        resourceIsMidSync sib=true) := by
  induction siblings generalizing counts with
  | nil => simp
  | cons sib siblings ih =>
    obtain ⟨hsources,hpeers⟩ := ih (countSibling target counts sib)
    rw [List.foldl_cons,hsources,hpeers]
    simp only [List.mem_cons,exists_eq_or_imp]
    rcases countSibling_cases target counts sib with
      ⟨hc,hconf,h⟩|⟨hc,hconf,hmid,h⟩|⟨hnone,h⟩
    · rw [h]
      simp [hc,hconf]
    · rw [h]
      simp [hc,hconf,hmid]
    · rw [h]
      by_cases hc : Counted target sib
      · simp [hc,hnone hc]
      · simp [hc]

/-- The guard refuses exactly if the target may be a source, another replica is mid-sync and no other
replica is a confirmed source. -/
theorem refusal_iff (siblings : List Resource) : midSyncDeleteRefusal target siblings=true ↔
    resourceIsDiskful target=true ∧ resourceIsPossibleUpToDateSource target=true ∧
    (∀sib∈siblings,Counted target sib → resourceIsConfirmedUpToDateSource sib=false) ∧
    ∃sib∈siblings,Counted target sib ∧ resourceIsMidSync sib=true := by
  obtain ⟨hsources,hpeers⟩ := counts_pos target siblings (0,0)
  unfold midSyncDeleteRefusal
  cases resourceIsDiskful target with
  | false => simp
  | true =>
    cases resourceIsPossibleUpToDateSource target with
    | false => simp
    | true =>
      simp only [Bool.true_eq_false,if_false,true_and]
      by_cases hsource : 0 < (siblings.foldl (countSibling target) (0,0)).1
      · rw [if_pos hsource]
        obtain ⟨sib,hsib,hc,hconf⟩ := (hsources.mp hsource).resolve_left (Nat.lt_irrefl 0)
        refine iff_of_false Bool.false_ne_true fun h => ?_
        rw [h.1 sib hsib hc] at hconf
        cases hconf
      · rw [if_neg hsource,decide_eq_true_eq,hpeers]
        have hnone (sib : Resource) (hsib : sib∈siblings) (hc : Counted target sib) :
            resourceIsConfirmedUpToDateSource sib=false := by
          rw [← Bool.not_eq_true]
          exact fun hconf => hsource (hsources.mpr (.inr ⟨sib,hsib,hc,hconf⟩))
        constructor
        · intro h
          obtain ⟨sib,hsib,hc,_,hmid⟩ := h.resolve_left (Nat.lt_irrefl 0)
          exact ⟨hnone,sib,hsib,hc,hmid⟩
        · rintro ⟨_,sib,hsib,hc,hmid⟩
          exact .inr ⟨sib,hsib,hc,hnone sib hsib hc,hmid⟩

end Counts

section Guarantee

def Resource.UpToDateOn (res : Resource) (n : Int) : Prop :=
  ∃vol∈res.volumes,vol.number=n ∧ vol.diskState=.upToDate

def Resource.MidSyncOn (res : Resource) (n : Int) : Prop :=
  ∃vol∈res.volumes,vol.number=n ∧ vol.isMidSync=true

def Resource.Stays (res : Resource) : Prop :=
  resourceIsDiskful res=true ∧ .deleting∉res.flags ∧ .delete∉res.flags

variable (target : Resource) (siblings : List Resource)

def Served (peer : Resource) (siblings : List Resource) (n : Int) : Prop :=
  ∃third∈siblings,third.nodeName≠target.nodeName ∧ third.nodeName≠peer.nodeName ∧ third.Stays ∧
    third.UpToDateOn n

def Guarded : Prop :=
  midSyncDeleteRefusal target siblings=false →
    ∀n,∀peer∈siblings,peer.nodeName≠target.nodeName → peer.Stays → peer.MidSyncOn n →
      ¬target.UpToDateOn n ∨ Served target peer siblings n

def Stranded (n : Int) : Prop :=
  ∃peer∈siblings,peer.nodeName≠target.nodeName ∧ peer.Stays ∧ peer.MidSyncOn n ∧
    ¬Served target peer siblings n

/-- Whenever the target is the only source of a volume, it is flagged as diskful, and no other diskful
replica is up to date on any volume or the source of any resync. -/
def Recognised : Prop :=
  ∀n,Stranded target siblings n → target.UpToDateOn n → resourceIsDiskful target=true ∧
    ∀sib∈siblings,sib.nodeName≠target.nodeName → resourceIsDiskful sib=true →
      resourceIsConfirmedUpToDateSource sib=false

theorem possible_of_upToDateOn {target : Resource} {n : Int} (h : target.UpToDateOn n) :
    resourceIsPossibleUpToDateSource target=true := by
  obtain ⟨vol,hvol,_,hup⟩ := h
  have hany : resourceIsUpToDate target=true := List.any_eq_true.mpr ⟨vol,hvol,decide_eq_true hup⟩
  rw [resourceIsPossibleUpToDateSource,resourceIsConfirmedUpToDateSource,hany]
  rfl

/-- The guard protects exactly the sources it recognises. -/
theorem guarded_iff (target : Resource) (siblings : List Resource) :
    Guarded target siblings ↔ Recognised target siblings := by
  constructor
  · intro h n hstranded hup
    have hrefused : midSyncDeleteRefusal target siblings=true := by
      rw [← Bool.not_eq_false]
      intro hfalse
      obtain ⟨peer,hpeer,hname,hstays,hmid,hserved⟩ := hstranded
      rcases h hfalse n peer hpeer hname hstays hmid with hnot|hthird
      · exact hnot hup
      · exact hserved hthird
    obtain ⟨hdiskful,_,hnone,_⟩ := (refusal_iff siblings).mp hrefused
    exact ⟨hdiskful,fun sib hsib hname hsd => hnone sib hsib ⟨hname,hsd⟩⟩
  · intro h hfalse n peer hpeer hname hstays hmid
    refine Classical.or_iff_not_imp_left.mpr fun hup => Classical.byContradiction fun hserved => ?_
    have hup := Classical.not_not.mp hup
    obtain ⟨hdiskful,hnone⟩ := h n ⟨peer,hpeer,hname,hstays,hmid,hserved⟩ hup
    obtain ⟨vol,hvol,_,hmid⟩ := hmid
    have hrefused : midSyncDeleteRefusal target siblings=true :=
      (refusal_iff siblings).mpr ⟨hdiskful,possible_of_upToDateOn hup,
        fun sib hsib hc => hnone sib hsib hc.1 hc.2,
        peer,hpeer,⟨hname,hstays.1⟩,List.any_eq_true.mpr ⟨vol,hvol,hmid⟩⟩
    rw [hrefused] at hfalse
    cases hfalse

end Guarantee

def complete : Resource := ⟨"a",[],[⟨0,.upToDate,[]⟩,⟨1,.upToDate,[.syncSource]⟩]⟩

def halfway : Resource := ⟨"b",[],[⟨0,.upToDate,[]⟩,⟨1,.inconsistent,[.syncTarget]⟩]⟩

/-- The peer's own first volume counts as a complete copy, and the delete is let through. -/
theorem only_source_deleted : ¬Guarded complete [complete,halfway] := by
  intro h
  have hmid : halfway.MidSyncOn 1 := ⟨⟨1,.inconsistent,[.syncTarget]⟩,by decide,rfl,by decide⟩
  rcases h (by decide) 1 halfway (by decide) (by decide) ⟨by decide,by decide,by decide⟩ hmid with
    hnot|⟨third,hthird,htarget,hpeer,_⟩
  · exact hnot ⟨⟨1,.upToDate,[.syncSource]⟩,by decide,rfl,rfl⟩
  · rcases List.mem_cons.mp hthird with rfl|hthird
    · exact absurd rfl htarget
    · rw [List.mem_singleton.mp hthird] at hpeer
      exact absurd rfl hpeer

end Blockstor.Validate
