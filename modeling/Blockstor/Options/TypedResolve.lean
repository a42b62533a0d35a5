import Blockstor.Options.Resolve

namespace Blockstor.Options

open Framework Store DRBDOptions

section Merge

def override (src out : String) : String := if src≠"" then src else out

def mergeSection {α : Type} (empty : α) (merge : α → α → α) (out : Option α) : Option α → Option α
  | none => out
  | some src => some (merge src (out.getD empty))

def mergeNet : Option DRBDNetOptions → Option DRBDNetOptions → Option DRBDNetOptions :=
  mergeSection .empty fun src out => {
    protocol := override src.protocol out.protocol
    sharedSecretRef := src.sharedSecretRef.or out.sharedSecretRef
    allowTwoPrimaries := src.allowTwoPrimaries.or out.allowTwoPrimaries
    maxBuffers := src.maxBuffers.or out.maxBuffers
    afterSb0Pri := override src.afterSb0Pri out.afterSb0Pri
    afterSb1Pri := override src.afterSb1Pri out.afterSb1Pri
    afterSb2Pri := override src.afterSb2Pri out.afterSb2Pri}

def mergeDisk : Option DRBDDiskOptions → Option DRBDDiskOptions → Option DRBDDiskOptions :=
  mergeSection .empty fun src out => {
    onIOError := override src.onIOError out.onIOError
    alExtents := src.alExtents.or out.alExtents}

def mergePeerDevice :
    Option DRBDPeerDeviceOptions → Option DRBDPeerDeviceOptions → Option DRBDPeerDeviceOptions :=
  mergeSection .empty fun src out => {cMaxRate := override src.cMaxRate out.cMaxRate}

def mergeResource :
    Option DRBDResourceOptions → Option DRBDResourceOptions → Option DRBDResourceOptions :=
  mergeSection .empty fun src out => {out with
    autoPromote := src.autoPromote.or out.autoPromote
    quorum := override src.quorum out.quorum
    onNoQuorum := override src.onNoQuorum out.onNoQuorum}

def mergeHandlers (out src : Props) : Props :=
  src.items.foldl (fun out x => if x.2="" then out.erase x.1 else out.set x.1 x.2) out

def mergeScope (out : DRBDOptions) : Option DRBDOptions → DRBDOptions
  | none => out
  | some src => {
    net := mergeNet out.net src.net
    disk := mergeDisk out.disk src.disk
    peerDevice := mergePeerDevice out.peerDevice src.peerDevice
    resource := mergeResource out.resource src.resource
    handlers := mergeHandlers out.handlers src.handlers}

def resolveDRBDOptions (controller rg rd resource : Option DRBDOptions) : Option DRBDOptions :=
  let scopes := [controller,rg,rd,resource]
  if scopes.all (·.isNone) then none else some (scopes.foldl mergeScope .empty)

end Merge

section Find

theorem nonempty_override (src out : String) :
    nonempty (override src out)=(nonempty src).or (nonempty out) := by
  unfold nonempty override
  split_ifs <;> simp_all

theorem map_or {α β : Type} (g : α → β) (a b : Option α) :
    (a.or b).map g=(a.map g).or (b.map g) := by
  cases a <;> rfl

theorem bind_mergeSection {α : Type} {empty : α} {merge : α → α → α} (text : α → Option String)
    (hempty : text empty=none) (hmerge : ∀a b,text (merge a b)=(text a).or (text b))
    (out src : Option α) :
    (mergeSection empty merge out src).bind text=(src.bind text).or (out.bind text) := by
  cases src with
  | none => rfl
  | some a =>
    cases out with
    | none => exact (hmerge a empty).trans (congrArg _ hempty)
    | some b => exact hmerge a b

def closer (src out : Option String) : Option String :=
  match src with
  | none => out
  | some v => if v="" then none else some v

theorem closer_eq_or {src out : Option String} (h : src≠some "") : closer src out=src.or out := by
  cases src with
  | none => rfl
  | some v => exact if_neg fun hv => h (congrArg some hv)

theorem find_mergeHandlers {out src : Props} {n : String} :
    (mergeHandlers out src).find n=closer (src.find n) (out.find n) := by
  refine src.foldl_items _ (fun seen handlers => ∀n,handlers.find n=closer (seen n) (out.find n)) out
    (fun n => rfl) ?_ n
  intro seen handlers k v h _ n
  have hfind : Dict.find (if v="" then handlers.erase k else handlers.set k v) n=
      if n=k then (if v="" then none else some v) else handlers.find n := by
    by_cases hv : v=""
    · rw [if_pos hv,Dict.find,Keyed.get?_erase]
      split_ifs <;> rfl
    · rw [if_neg hv,Dict.find_set,if_neg hv]
  rw [hfind,h n]
  dsimp only
  split_ifs with hn hv
  · rw [hv]
    rfl
  · exact (if_neg hv).symm
  · rfl

theorem text_mergeScope (out src : DRBDOptions) {f : Field} (hf : f≠.autoTieBreaker) :
    (mergeScope out (some src)).text f=(src.text f).or (out.text f) := by
  unfold text
  cases hsec : f.sec with
  | net =>
    dsimp only [mergeScope,mergeNet]
    refine bind_mergeSection (fun a : DRBDNetOptions => a.text f) ?_ (fun a b => ?_) _ _
    · cases f <;> rfl
    · cases f <;> simp [DRBDNetOptions.text,nonempty_override,map_or]
  | disk =>
    dsimp only [mergeScope,mergeDisk]
    refine bind_mergeSection (fun a : DRBDDiskOptions => a.text f) ?_ (fun a b => ?_) _ _
    · cases f <;> rfl
    · cases f <;> simp [DRBDDiskOptions.text,nonempty_override,map_or]
  | peerDevice =>
    dsimp only [mergeScope,mergePeerDevice]
    refine bind_mergeSection (fun a : DRBDPeerDeviceOptions => a.text f) ?_ (fun a b => ?_) _ _
    · cases f <;> rfl
    · cases f <;> simp [DRBDPeerDeviceOptions.text,nonempty_override]
  | resource =>
    dsimp only [mergeScope,mergeResource]
    refine bind_mergeSection (fun a : DRBDResourceOptions => a.text f) ?_ (fun a b => ?_) _ _
    · cases f <;> rfl
    · cases f <;> simp_all [DRBDResourceOptions.text,nonempty_override,map_or]

theorem text_ne_empty (o : DRBDOptions) (f : Field) : o.text f≠some "" := by
  intro h
  have hparse := parse_text h
  revert hparse
  cases f <;> decide

theorem applied_mergeScope (out : DRBDOptions) (src : Option DRBDOptions) (k : String) :
    (mergeScope out src).applied k=closer (src.bind (·.applied k)) (out.applied k) := by
  cases src with
  | none => rfl
  | some src =>
    unfold applied
    by_cases htie : k=Field.autoTieBreaker.key
    · simp [htie,closer]
    · simp only [htie,if_false,Option.bind_some]
      cases hcut : Text.cutPrefix handlersPrefix k with
      | some n =>
        obtain rfl := Text.cutPrefix_eq_some.mp hcut
        rw [value_handler,value_handler,value_handler]
        exact find_mergeHandlers
      | none =>
        simp only [value,hcut,Option.bind_none,Option.none_or]
        cases hf : Field.ofKey? k with
        | none => rfl
        | some f =>
          have hne : f≠.autoTieBreaker := fun h => htie (h ▸ Field.ofKey?_eq_some.mp hf)
          exact (text_mergeScope out src hne).trans (closer_eq_or (text_ne_empty src f)).symm

theorem applied_plain (o : DRBDOptions) {k : String} (h : hasDRBDPrefix k=false) :
    o.applied k=none := by
  unfold applied
  split_ifs
  · rfl
  · cases hv : o.value k with
    | none => rfl
    | some v =>
      rw [hasDRBDPrefix_of_accepts (accepts_value hv)] at h
      cases h

theorem applied_empty (k : String) : empty.applied k=none := by
  have htext : ∀f : Field,empty.text f=none := by
    intro f
    cases f <;> rfl
  have hfind : empty.handlers.find=fun _ => none := rfl
  simp [applied,value,htext,hfind]

theorem closer_chain (a b c d : Option String) : closer d (closer c (closer b (closer a none)))=
      ([d,c,b,a].findSome? id).filter fun v => v≠"" := by
  cases d <;> cases c <;> cases b <;> cases a <;> simp [closer,Option.filter]

end Find

variable (controller rg rd resource : Option DRBDOptions)

theorem find_resolveDRBDOptions (k : String) :
    (typedDRBDOptionsToProps (resolveDRBDOptions controller rg rd resource)).find k=
      ([resource,rd,rg,controller].findSome? fun o => o.bind (·.applied k)).filter fun v => v≠"" := by
  have hchain := closer_chain (controller.bind (·.applied k)) (rg.bind (·.applied k))
    (rd.bind (·.applied k)) (resource.bind (·.applied k))
  rw [find_typedDRBDOptionsToProps,resolveDRBDOptions]
  split_ifs with hnone
  · simp only [List.all_cons,List.all_nil,Bool.and_true,Bool.and_eq_true,Option.isNone_iff_eq_none]
      at hnone
    obtain ⟨rfl,rfl,rfl,rfl⟩ := hnone
    rfl
  · simp only [Option.bind_some,List.foldl,applied_mergeScope,applied_empty]
    exact hchain

/-- The typed options resolve to what their properties resolve to, but for handlers that are set to
nothing: these are taken away. -/
theorem typed_resolution_agrees (k : String) :
    (typedDRBDOptionsToProps (resolveDRBDOptions controller rg rd resource)).find k=
      ((resolveOptions (typedDRBDOptionsToProps controller) (typedDRBDOptionsToProps rg)
        (typedDRBDOptionsToProps rd) (typedDRBDOptionsToProps resource)).find k).filter
          fun v => v≠"" := by
  rw [find_resolveDRBDOptions,find_resolveOptions]
  simp only [List.findSome?_cons,find_typedDRBDOptionsToProps]
  cases h : hasDRBDPrefix k with
  | true => rfl
  | false =>
    have hplain : ∀o : Option DRBDOptions,o.bind (·.applied k)=none := by
      intro o
      cases o with
      | none => rfl
      | some o => exact applied_plain o h
    simp [hplain]

def fenced : DRBDOptions := {empty with handlers := ⟨[("fence-peer","/usr/bin/fence")],by decide⟩}

def unfenced : DRBDOptions := {empty with handlers := ⟨[("fence-peer","")],by decide⟩}

theorem unfenced_differs :
    (typedDRBDOptionsToProps (resolveDRBDOptions (some fenced) none (some unfenced) none)).find
        "DrbdOptions/Handlers/fence-peer"≠
      (resolveOptions (typedDRBDOptionsToProps (some fenced)) (typedDRBDOptionsToProps none)
        (typedDRBDOptionsToProps (some unfenced)) (typedDRBDOptionsToProps none)).find
        "DrbdOptions/Handlers/fence-peer" := by
  decide

end Blockstor.Options
