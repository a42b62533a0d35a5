import Blockstor.Volumes.Effects

namespace Blockstor.Volumes

open Framework Shell

/-- A write that was answered with success: the version it replaced, the list of that version and
the new list. -/
structure Commit where
  rv : Nat
  old : List ResourceDefinitionVolume
  new : List ResourceDefinitionVolume

structure Note where
  read : Option (Nat × List ResourceDefinitionVolume)
  wrote : Option Commit

def Note.next (m : Note) : (c : Cmd) → Answer c → Note
  | .get _,.ok r => {m with read := some r}
  | .write rv vds,.ok () => {m with wrote := m.read.map fun r => ⟨rv,r.2,vds⟩}
  | _,_ => m

/-- A call writes over the version it has read, and what its effect on the list of that version
is. -/
def Call.may (call : Call) (m : Note) : Cmd → Prop
  | .write rv vds => ∃old,m.read=some (rv,old) ∧ call.Writes old vds
  | _ => True

def Call.protocol (call : Call) : Protocol Answer Note where
  start := ⟨none,none⟩
  next := Note.next
  may := call.may
  possible _ _ := True

/-- What a call that reports success has written: a number it reports is that of the volume it
added, and only the stamping of minors may have had nothing to write. -/
structure Call.Reported (call : Call) (r : Except Err (Option Int32)) (m : Note) : Prop where
  number : ∀k,r=.ok (some k) →
    ∃w v,m.wrote=some w ∧ w.new=w.old++[v] ∧ v.volumeNumber=k
  landed : ∀a,r=.ok a → call=.stampMinors ∨ ∃w,m.wrote=some w

section

variable {call : Call} {m : Note}

theorem reported_error (e : Err) : call.Reported (.error e) m := ⟨nofun,nofun⟩

theorem reported_none {w : Commit} (h : m.wrote=some w) : call.Reported (.ok none) m :=
  ⟨nofun,fun _ _ => .inr ⟨w,h⟩⟩

theorem follows_get {α : Type} {Q : Except Err α → Note → Prop} (live : Bool)
    {f : Nat × List ResourceDefinitionVolume → Prog α} (herror : ∀e m,Q (.error e) m)
    (hf : ∀rv vds m',m'.read=some (rv,vds) → m'.wrote=m.wrote →
      (f (rv,vds)).Follows call.protocol m' Q) :
    (api (.get live) >>= f).Follows call.protocol m Q := by
  refine ⟨trivial,fun a _ => ?_⟩
  cases a with
  | error e => exact herror e m
  | ok r => exact hf r.1 r.2 _ rfl rfl

theorem follows_write (call : Call) {f : Unit → Prog (Option Int32)} {rv : Nat}
    {old new : List ResourceDefinitionVolume} (hread : m.read=some (rv,old))
    (hw : call.Writes old new) (hf : ∀m',m'.wrote=some ⟨rv,old,new⟩ →
      (f ()).Follows call.protocol m' call.Reported) :
    (api (.write rv new) >>= f).Follows call.protocol m call.Reported := by
  refine ⟨⟨old,hread,hw⟩,fun a _ => ?_⟩
  cases a with
  | error e => exact reported_error e
  | ok u =>
    refine hf _ ?_
    change m.read.map _=_
    rw [hread]
    rfl

theorem follows_retryOnError {retriable : Err → Bool} {fn : Prog (Option Int32)}
    (h : ∀m,fn.Follows call.protocol m call.Reported) (steps : Nat) (m : Note) :
    (retryOnError retriable fn steps).Follows call.protocol m call.Reported := by
  induction steps generalizing m with
  | zero => exact h m
  | succ steps ih =>
    refine (h m).attempt.bind (fun x m' hx => ?_) fun e m' _ => reported_error e
    obtain ⟨_,hy,hx⟩ := hx
    cases hy
    cases x with
    | ok a => exact hx
    | error e =>
      dsimp only
      split
      · exact ih m'
      · exact reported_error e

variable (apiReader : Bool) (vd : VolumeDefinition)

theorem create_follows (m : Note) :
    (create vd).Follows (Call.create vd).protocol m (Call.create vd).Reported := by
  refine follows_retryOnError (fun m => follows_get false (fun e _ => reported_error e)
    fun rv vds m' hread _ => ?_) _ m
  dsimp only
  split
  · exact reported_error _
  · rename_i hfree
    exact follows_write _ hread ⟨Bool.eq_false_iff.mpr hfree,rfl⟩ fun _ h => reported_none h

theorem createAutoNumbered_follows (m : Note) :
    (createAutoNumbered apiReader vd).Follows (Call.createAutoNumbered vd).protocol m
      (Call.createAutoNumbered vd).Reported := by
  refine follows_retryOnError (fun m => follows_get apiReader (fun e _ => reported_error e)
    fun rv vds m' hread _ => ?_) _ m
  refine follows_write (.createAutoNumbered vd) hread rfl fun m' hwrote => ?_
  have hdone (m : Note) (h : m.wrote=m'.wrote) : (Call.createAutoNumbered vd).Reported
      (.ok (some (smallestFreeVolumeNumber vds))) m := by
    refine ⟨fun k hk => ?_,fun _ _ => .inr ⟨_,h.trans hwrote⟩⟩
    cases hk
    exact ⟨_,_,h.trans hwrote,rfl,rfl⟩
  cases apiReader with
  | false => exact hdone m' rfl
  | true =>
    refine Follows.bind (R := fun r m => ∀u,r=.ok u → m.wrote=m'.wrote) (follows_get true nofun ?_)
      (fun _ m hm => hdone m (hm _ rfl)) fun e _ _ => reported_error e
    intro _ _ m hread hm
    dsimp only
    split
    · exact fun _ _ => hm
    · exact nofun

theorem rewrite_follows (call : Call) {number : Int32}
    {f : ResourceDefinitionVolume → Except Err ResourceDefinitionVolume}
    (hf : ∀old new,modifyVolume number f old=.ok new → call.Writes old new) {steps : Nat}
    (m : Note) : (rewrite number f steps).Follows call.protocol m call.Reported := by
  refine follows_retryOnError (fun m => follows_get false (fun e _ => reported_error e)
    fun rv vds m' hread _ => ?_) _ m
  dsimp only
  cases hnew : modifyVolume number f vds with
  | error e => exact reported_error e
  | ok new => exact follows_write _ hread (hf vds new hnew) fun _ h => reported_none h

theorem delete_follows (number : Int32) (m : Note) :
    (delete number).Follows (Call.delete number).protocol m (Call.delete number).Reported := by
  refine follows_retryOnError (fun m => follows_get false (fun e _ => reported_error e)
    fun rv vds m' hread _ => ?_) _ m
  dsimp only
  split
  · exact follows_write _ hread rfl fun _ h => reported_none h
  · exact reported_error _

theorem reported_stampMinors : Call.stampMinors.Reported (.ok none) m :=
  ⟨nofun,fun _ _ => .inl rfl⟩

theorem ensureRDVolumeMinors_follows (m : Note) :
    (ensureRDVolumeMinors apiReader).Follows Call.stampMinors.protocol m
      Call.stampMinors.Reported := by
  refine follows_ask.mpr ⟨trivial,fun a _ => ?_⟩
  rcases a with e|⟨rv,vds⟩
  · cases e with
    | notFound => exact reported_stampMinors
    | _ => exact reported_error _
  · dsimp only
    split
    · exact reported_stampMinors
    · refine Follows.bind (R := fun _ m => m.read=some (rv,vds)) ⟨trivial,fun pool _ => ?_⟩
        (fun pool m' hread => ?_) fun e _ _ => reported_error e
      · cases pool with
        | error e => rfl
        | ok pool => rfl
      · cases hnew : allocateRDVolumeMinors pool vds with
        | none => exact reported_error _
        | some r =>
          obtain ⟨stamped,mutated⟩ := r
          dsimp only
          split
          · exact reported_stampMinors
          · refine follows_ask.mpr ⟨⟨vds,hread,pool,mutated,hnew⟩,fun a _ => ?_⟩
            rcases a with e|_
            · cases e with
              | conflict =>
                refine follows_ask.mpr ⟨trivial,fun a _ => ?_⟩
                cases a with
                | error e => exact reported_error _
                | ok r => exact reported_stampMinors
              | _ => exact reported_error _
            · exact reported_stampMinors

theorem Call.follows (call : Call) (apiReader : Bool) (m : Note) :
    (call.prog apiReader).Follows call.protocol m call.Reported := by
  cases call with
  | create vd => exact create_follows vd m
  | createAutoNumbered vd => exact createAutoNumbered_follows apiReader vd m
  | update vd => exact rewrite_follows (.update vd) (fun _ _ h => h) m
  | patch number mutate => exact rewrite_follows (.patch number mutate) (fun _ _ h => h) m
  | delete number => exact delete_follows number m
  | stampMinors => exact ensureRDVolumeMinors_follows apiReader m

end

end Blockstor.Volumes
