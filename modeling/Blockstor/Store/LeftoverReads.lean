import Blockstor.Framework.Protocol
import Blockstor.Store.Leftover

namespace Blockstor.Store

open Framework Shell

section

variable {μ : Type} (P : Protocol Answer μ) (m : μ)

/-- The reads of a definition, its volumes and its replicas leave the note alone, and the list of
the replicas is never missing. -/
structure Calm : Prop where
  getDefinition : ∀ctx name,P.may m ⟨ctx,.getDefinition name⟩ ∧
    ∀a,P.possible ⟨ctx,.getDefinition name⟩ a → P.next m ⟨ctx,.getDefinition name⟩ a=m
  listVolumes : ∀ctx rd,P.may m ⟨ctx,.listVolumes rd⟩ ∧
    ∀a,P.possible ⟨ctx,.listVolumes rd⟩ a → P.next m ⟨ctx,.listVolumes rd⟩ a=m
  listReplicas : ∀ctx rd,P.may m ⟨ctx,.listReplicas rd⟩ ∧
    ∀a,P.possible ⟨ctx,.listReplicas rd⟩ a →
      P.next m ⟨ctx,.listReplicas rd⟩ a=m ∧ a≠.error .notFound

def Quiet {α : Type} (p : Prog α) : Prop := p.Follows P m fun r m' => m'=m ∧ r≠.error .notFound

variable {P m} {α β : Type}

theorem quiet_pure (a : α) : Quiet P m (pure a) := ⟨rfl,nofun⟩

theorem quiet_throw (e : Err) (he : e≠.notFound) : Quiet P m (throw e : Prog α) :=
  ⟨rfl,fun h => he (Except.error.inj h)⟩

theorem Quiet.bind {p : Prog α} {f : α → Prog β} (hp : Quiet P m p) (hf : ∀a,Quiet P m (f a)) :
    Quiet P m (p >>= f) := by
  refine Follows.bind hp (fun a m' hm => ?_) fun e m' hm => ⟨hm.1,fun h => hm.2 ?_⟩
  · obtain ⟨rfl,_⟩ := hm
    exact hf a
  · exact congrArg Except.error (Except.error.inj h)

theorem quiet_unlessMissing (answer : Except Err α) (missing : Prog β) (f : α → Prog β)
    (hmissing : Quiet P m missing) (hf : ∀a,Quiet P m (f a)) :
    Quiet P m (unlessMissing answer missing f) := by
  cases answer with
  | ok a => exact hf a
  | error e =>
    cases e with
    | notFound => exact hmissing
    | _ => exact quiet_throw _ nofun

variable (h : Calm P m) (ctx : Option Nat) (rd : String)

include h

theorem quiet_getDefinition : Quiet P m (ask ctx (.getDefinition rd)) :=
  ⟨(h.getDefinition ctx rd).1,fun a ha => ⟨(h.getDefinition ctx rd).2 a ha,nofun⟩⟩

theorem quiet_listVolumes : Quiet P m (ask ctx (.listVolumes rd)) :=
  ⟨(h.listVolumes ctx rd).1,fun a ha => ⟨(h.listVolumes ctx rd).2 a ha,nofun⟩⟩

theorem quiet_listReplicas (f : List Replica → Prog α) (hf : ∀list,Quiet P m (f list)) :
    Quiet P m (do let list ← lift (← ask ctx (.listReplicas rd)); f list) := by
  refine ⟨(h.listReplicas ctx rd).1,fun a ha => ?_⟩
  obtain ⟨hm,hne⟩ := (h.listReplicas ctx rd).2 a ha
  change Follows P (lift a >>= f) (P.next m _ a) _
  rw [hm]
  cases a with
  | ok list => exact hf list
  | error e => exact quiet_throw e fun he => hne (congrArg _ he)

theorem quiet_countReplicas : Quiet P m (countReplicas ctx rd) :=
  quiet_listReplicas h ctx rd _ fun _ => quiet_pure _

theorem quiet_recordedSnapshotShape : Quiet P m (recordedSnapshotShape ctx rd) :=
  (quiet_getDefinition h ctx rd).bind fun a =>
    quiet_unlessMissing a _ _ (quiet_pure _) fun _ => quiet_pure _

theorem quiet_assessLeftover (vds : List VolumeDef) (needReplica : Bool) :
    Quiet P m (assessLeftover ctx rd vds none needReplica) := by
  refine (quiet_countReplicas h ctx rd).bind fun count => ?_
  split
  · exact quiet_pure _
  · refine (quiet_recordedSnapshotShape h ctx rd).bind fun shape => ?_
    cases shape <;> exact quiet_pure _

theorem quiet_readsAsFinished (needReplica : Bool) :
    Quiet P m (readsAsFinished ctx rd needReplica) := by
  refine (quiet_getDefinition h ctx rd).bind fun a =>
    quiet_unlessMissing a _ _ (quiet_pure _) fun d => ?_
  split
  · exact quiet_pure _
  · refine (quiet_listVolumes h ctx rd).bind fun vds =>
      quiet_unlessMissing vds _ _ (quiet_pure _) fun vds => ?_
    exact (quiet_assessLeftover h ctx rd vds needReplica).bind fun _ => quiet_pure _

theorem quiet_restoreMarkerClearRefusal : Quiet P m (restoreMarkerClearRefusal ctx rd) := by
  refine (quiet_readsAsFinished h ctx rd true).bind fun finished => ?_
  split
  · exact quiet_throw _ nofun
  · refine Quiet.bind (quiet_listReplicas h ctx rd _ fun _ => quiet_pure _) fun restored => ?_
    split
    · exact quiet_throw _ nofun
    · exact quiet_pure _

end

end Blockstor.Store
