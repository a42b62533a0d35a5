import Blockstor.Framework.Machine

namespace Blockstor.Storage

open Framework Function

/-- A logical volume, zvol or snapshot. `incomplete` is the restore sentinel tag. -/
structure Obj (α : Type) where
  content : α
  sizeMiB : Int
  incomplete : Bool
  deriving DecidableEq

abbrev Pool (α : Type) := String → Option (Obj α)

/-- The commands the providers run on a pool: `zfs list`/`lvs`, `zfs create`/`lvcreate`,
`zfs snapshot`, `zfs clone` and `lvcreate --snapshot`, `dd`, tags, removal, renaming, receiving a
stream, and the refreservation properties. -/
inductive Cmd (α : Type)
  | lookup (name : String)
  | names
  | create (name : String) (sizeMiB : Int) (tagged : Bool)
  | snapshot (origin name : String)
  | tagged (name : String)
  | status (name : String)
  | copy (source target : String)
  | untag (name : String)
  | remove (name : String)
  | rename (source target : String)
  | wipefs (name : String)
  | receive (name : String) (stream : α)
  | volsize (name : String)
  | refreservation (name : String)
  | setRefreservation (name : String) (bytes : Int)

/-- A lookup folds a failed command into "absent"; the listing of all names does not. `status`
answers the usable KiB, zero for an object it cannot find. -/
@[reducible] def Answer {α : Type} : Cmd α → Type
  | .lookup _ => Bool
  | .names => Option (String → Bool)
  | .create _ _ _ => Bool
  | .snapshot _ _ => Bool
  | .tagged _ => Bool
  | .status _ => Option Int
  | .copy _ _ => Bool
  | .untag _ => Bool
  | .remove _ => Bool
  | .rename _ _ => Bool
  | .wipefs _ => Bool
  | .receive _ _ => Bool
  | .volsize _ => Option Int
  | .refreservation _ => Option Int
  | .setRefreservation _ _ => Bool

section

variable {α : Type} (blank : α → Prop)

variable (p : Pool α) (c : Cmd α) (q : Pool α)

/-- What a changing command does when it works. `blank` are the contents a newly allocated volume
may show, before or after its signatures are wiped. -/
def Effect : Prop :=
  match c with
  | .create name sizeMiB tagged => p name=none ∧ ∃content,blank content ∧
      q=update p name (some ⟨content,sizeMiB,tagged⟩)
  | .snapshot origin name => p name=none ∧ ∃o,p origin=some o ∧
      q=update p name (some ⟨o.content,o.sizeMiB,false⟩)
  | .copy source target => ∃o u,p source=some o ∧ p target=some u ∧ o.sizeMiB ≤ u.sizeMiB ∧
      q=update p target (some {u with content := o.content})
  | .untag name => ∃o,p name=some o ∧ q=update p name (some {o with incomplete := false})
  | .remove name => q=update p name none
  | .rename source target => p target=none ∧ ∃o,p source=some o ∧
      q=update (update p source none) target (some o)
  | .wipefs name => ∃o content,p name=some o ∧ blank content ∧
      q=update p name (some {o with content := content})
  | .receive name stream => ∃sizeMiB,q=update p name
      (some ⟨stream,sizeMiB,((p name).map Obj.incomplete).getD false⟩)
  | _ => q=p

def Partial : Prop :=
  match c with
  | .copy _ target => ∃u content,p target=some u ∧
      q=update p target (some {u with content := content})
  | .receive name _ => ∃o,q=update p name (some o)
  | _ => False

/-- A changing command works, or reports a failure that may come before, in the middle of or
after its work. -/
def Changes (answer : Bool) (q : Pool α) : Prop :=
  (answer=true ∧ Effect blank p c q) ∨
  (answer=false ∧ (q=p ∨ Partial p c q ∨ Effect blank p c q))

def Step (answer : Answer c) (q : Pool α) : Prop :=
  match c,answer with
  | .lookup name,answer => q=p ∧ (answer=(p name).isSome ∨ answer=false)
  | .names,answer => q=p ∧ (answer=some (fun name => (p name).isSome) ∨ answer=none)
  | .tagged name,answer => q=p ∧ (answer=((p name).map Obj.incomplete).getD false ∨ answer=false)
  | .status name,answer => q=p ∧ (answer=some (((p name).map fun o => 1024*o.sizeMiB).getD 0) ∨
      answer=some 0 ∨ answer=none)
  | .volsize _,_ => q=p
  | .refreservation _,_ => q=p
  | .create name sizeMiB tagged,answer => Changes blank p (.create name sizeMiB tagged) answer q
  | .snapshot origin name,answer => Changes blank p (.snapshot origin name) answer q
  | .copy source target,answer => Changes blank p (.copy source target) answer q
  | .untag name,answer => Changes blank p (.untag name) answer q
  | .remove name,answer => Changes blank p (.remove name) answer q
  | .rename source target,answer => Changes blank p (.rename source target) answer q
  | .wipefs name,answer => Changes blank p (.wipefs name) answer q
  | .receive name stream,answer => Changes blank p (.receive name stream) answer q
  | .setRefreservation _ _,_ => q=p

end

end Blockstor.Storage
