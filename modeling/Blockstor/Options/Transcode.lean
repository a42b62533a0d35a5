import Blockstor.Options.Typed

namespace Blockstor.Options

open Framework Text Field DRBDOptions String Option

section Apply

variable (opts : DRBDOptions) (name val : String)

/-- The `apply` functions return the options and whether the key was recognised. A section is
allocated before its key is looked at. -/
def applyNetKey : DRBDOptions × Bool :=
  let net := opts.net.getD .empty
  let set (net : DRBDNetOptions) := {opts with net := some net}
  match name with
  | "protocol" => (set {net with protocol := val},true)
  | "max-buffers" =>
    match parseInt32 val with
    | some n => (set {net with maxBuffers := some n},true)
    | none => (set net,false)
  | "allow-two-primaries" =>
    match parseBool val with
    | some b => (set {net with allowTwoPrimaries := some b},true)
    | none => (set net,false)
  | "after-sb-0pri" => (set {net with afterSb0Pri := val},true)
  | "after-sb-1pri" => (set {net with afterSb1Pri := val},true)
  | "after-sb-2pri" => (set {net with afterSb2Pri := val},true)
  | _ => (set net,false)

def applyDiskKey : DRBDOptions × Bool :=
  let disk := opts.disk.getD .empty
  let set (disk : DRBDDiskOptions) := {opts with disk := some disk}
  match name with
  | "on-io-error" => (set {disk with onIOError := val},true)
  | "al-extents" =>
    match parseInt32 val with
    | some n => (set {disk with alExtents := some n},true)
    | none => (set disk,false)
  | _ => (set disk,false)

def applyPeerDeviceKey : DRBDOptions × Bool :=
  let peerDev := opts.peerDevice.getD .empty
  let set (peerDev : DRBDPeerDeviceOptions) := {opts with peerDevice := some peerDev}
  match name with
  | "c-max-rate" => (set {peerDev with cMaxRate := val},true)
  | _ => (set peerDev,false)

def applyResourceKey : DRBDOptions × Bool :=
  let res := opts.resource.getD .empty
  let set (res : DRBDResourceOptions) := {opts with resource := some res}
  match name with
  | "auto-promote" =>
    match parseBool val with
    | some b => (set {res with autoPromote := some b},true)
    | none => (set res,false)
  | "quorum" => (set {res with quorum := val},true)
  | "on-no-quorum" => (set {res with onNoQuorum := val},true)
  | _ => (set res,false)

def applyHandlerKey : DRBDOptions × Bool :=
  ({opts with handlers := opts.handlers.set name val},true)

def applySectionlessKey : DRBDOptions × Bool :=
  match name with
  | "AutoAddQuorumTiebreaker" =>
    match parseBool val with
    | some b =>
      ({opts with resource := some {opts.resource.getD .empty with autoTieBreaker := some b}},true)
    | none => (opts,false)
  | _ => (opts,false)

def applyTypedKey (opts : DRBDOptions) (key val : String) : DRBDOptions × Bool :=
  let rest := (cutPrefix propsKVPrefix key).getD key
  match cutPrefix "Net/" rest with
  | some name => applyNetKey opts name val
  | none =>
  match cutPrefix "Disk/" rest with
  | some name => applyDiskKey opts name val
  | none =>
  match cutPrefix "PeerDevice/" rest with
  | some name => applyPeerDeviceKey opts name val
  | none =>
  match cutPrefix "Resource/" rest with
  | some name => applyResourceKey opts name val
  | none =>
  match cutPrefix "Handlers/" rest with
  | some name => applyHandlerKey opts name val
  | none => applySectionlessKey opts rest val

end Apply

def isEmptyDRBDOptions (opts : DRBDOptions) : Bool :=
  opts.net.isNone && opts.disk.isNone && opts.peerDevice.isNone && opts.resource.isNone &&
    opts.handlers.items.isEmpty

def typeProperty (acc : DRBDOptions × Props) (x : String × String) : DRBDOptions × Props :=
  if !hasDRBDPrefix x.1 then (acc.1,acc.2.set x.1 x.2)
  else
    let (opts,recognised) := applyTypedKey acc.1 x.1 x.2
    (opts,if recognised then acc.2 else acc.2.set x.1 x.2)

def propsToTyped (props : Props) : Option DRBDOptions × Props :=
  let (opts,extras) := props.items.foldl typeProperty (.empty,.empty)
  (if isEmptyDRBDOptions opts then none else some opts,extras)

def stripDRBDProps (props : Props) : Props := props.keep fun k => !hasDRBDPrefix k

def mergeProps (residual drbd : Props) : Props := (Dict.empty.copy residual).copy drbd

structure Stored where
  typed : Option DRBDOptions
  residual : Props
  extra : Props

def splitProps (props : Props) : Stored :=
  let (typed,extra) := propsToTyped props
  ⟨typed,stripDRBDProps props,extra⟩

def Stored.props (s : Stored) : Props := mergeProps s.residual (typedToProps s.typed s.extra)

theorem Stored.find_props (s : Stored) (k : String) :
    s.props.find k=(s.typed.bind (·.value k)).or ((s.extra.find k).or (s.residual.find k)) := by
  simp [props,mergeProps,find_typedToProps,Option.or_assoc]

/-- What a field makes of a value: the text it is written as, unless the value is refused. -/
def Field.parse (f : Field) (val : String) : Option (Option String) :=
  match f.kind with
  | .text => some (nonempty val)
  | .integer => (parseInt32 val).map fun n => some (formatInt32 n)
  | .boolean => (parseBool val).map fun b => some (formatBool b)

def accepts (key val : String) : Bool :=
  match ofKey? key with
  | some f => (f.parse val).isSome
  | none => (cutPrefix handlersPrefix key).isSome

section Keys

def Field.Section.word : Section → String
  | .net => "Net/"
  | .disk => "Disk/"
  | .peerDevice => "PeerDevice/"
  | .resource => "Resource/"

def Field.name : Field → String
  | .protocol => "protocol"
  | .maxBuffers => "max-buffers"
  | .allowTwoPrimaries => "allow-two-primaries"
  | .afterSb0Pri => "after-sb-0pri"
  | .afterSb1Pri => "after-sb-1pri"
  | .afterSb2Pri => "after-sb-2pri"
  | .onIOError => "on-io-error"
  | .alExtents => "al-extents"
  | .cMaxRate => "c-max-rate"
  | .autoPromote => "auto-promote"
  | .quorum => "quorum"
  | .onNoQuorum => "on-no-quorum"
  | .autoTieBreaker => "AutoAddQuorumTiebreaker"

theorem Field.key_eq {g : Field} (h : g≠.autoTieBreaker) :
    g.key=propsKVPrefix++(g.sec.word++g.name) := by
  cases g <;> first | rfl | exact absurd rfl h

theorem Field.key_tieBreaker : autoTieBreaker.key=propsKVPrefix++autoTieBreaker.name := rfl

theorem Field.key_inj {f g : Field} : f.key=g.key ↔ f=g := by
  constructor
  · intro h
    have hg := ofKey?_key g
    rw [← h,ofKey?_key] at hg
    exact some.inj hg
  · rintro rfl
    rfl

theorem cut_append (a rest : String) : cutPrefix a (a++rest)=some rest :=
  cutPrefix_eq_some.mpr rfl

theorem cutPrefix_of_ne {c d : Char} {p q : List Char} (r : String) (h : c≠d) :
    cutPrefix (ofList (c::p)) (ofList (d::q)++r)=none := by
  simp [cutPrefix,h]

theorem cut_append_append (a p q : String) : cutPrefix (a++p) (a++q)=cutPrefix p q := by
  refine ext fun rest => ?_
  rw [cutPrefix_eq_some,cutPrefix_eq_some,append_assoc,append_right_inj]

theorem cut_word (s s' : Section) (name : String) :
    cutPrefix s'.word (s.word++name)=if s'=s then some name else none := by
  by_cases h : s'=s
  · rw [h,if_pos rfl,cut_append]
  · rw [if_neg h]
    cases s <;> cases s' <;> first | exact absurd rfl h | exact cutPrefix_of_ne name (by decide)

theorem cut_tieBreaker (s : Section) :
    cutPrefix s.word autoTieBreaker.name=none := by
  have h : cutPrefix s.word (autoTieBreaker.name++"")=none := by
    cases s <;> exact cutPrefix_of_ne "" (by decide)
  rwa [append_empty] at h

theorem cut_handlers (s : Section) (name : String) :
    cutPrefix s.word ("Handlers/"++name)=none := by
  cases s <;> exact cutPrefix_of_ne name (by decide)

end Keys

section ApplySpec

def Field.Section.apply (s : Section) (opts : DRBDOptions) (name val : String) :
    DRBDOptions × Bool :=
  match s with
  | .net => applyNetKey opts name val
  | .disk => applyDiskKey opts name val
  | .peerDevice => applyPeerDeviceKey opts name val
  | .resource => applyResourceKey opts name val

variable (o : DRBDOptions) (key val : String)

theorem applyTypedKey_eq (rest : String) : applyTypedKey o (propsKVPrefix++rest) val=
    ((cutPrefix Section.net.word rest).map (applyNetKey o · val)).getD
    (((cutPrefix Section.disk.word rest).map (applyDiskKey o · val)).getD
    (((cutPrefix Section.peerDevice.word rest).map (applyPeerDeviceKey o · val)).getD
    (((cutPrefix Section.resource.word rest).map (applyResourceKey o · val)).getD
    (((cutPrefix "Handlers/" rest).map (applyHandlerKey o · val)).getD
    (applySectionlessKey o rest val))))) := by
  unfold applyTypedKey
  rw [cut_append,getD_some]
  simp only [Section.word]
  cases cutPrefix "Net/" rest with
  | some name => rfl
  | none =>
  cases cutPrefix "Disk/" rest with
  | some name => rfl
  | none =>
  cases cutPrefix "PeerDevice/" rest with
  | some name => rfl
  | none =>
  cases cutPrefix "Resource/" rest with
  | some name => rfl
  | none => cases cutPrefix "Handlers/" rest <;> rfl

theorem applyTypedKey_section (s : Section) (name : String) :
    applyTypedKey o (propsKVPrefix++(s.word++name)) val=s.apply o name val := by
  rw [applyTypedKey_eq]
  simp only [cut_word]
  cases s <;> rfl

theorem applyTypedKey_tieBreaker : applyTypedKey o autoTieBreaker.key val=
    applySectionlessKey o autoTieBreaker.name val := by
  have hhandlers : cutPrefix "Handlers/" (autoTieBreaker.name++"")=none :=
    cutPrefix_of_ne "" (by decide)
  rw [append_empty] at hhandlers
  rw [key_tieBreaker,applyTypedKey_eq]
  simp only [cut_tieBreaker,hhandlers,map_none,getD_none]

def DRBDOptions.has (o : DRBDOptions) : Section → Bool
  | .net => o.net.isSome
  | .disk => o.disk.isSome
  | .peerDevice => o.peerDevice.isSome
  | .resource => o.resource.isSome

def DRBDOptions.sharedSecretRef (o : DRBDOptions) : Option String := o.net.bind (·.sharedSecretRef)

def opens (key val : String) (s : Section) : Bool :=
  (cutPrefix (propsKVPrefix++s.word) key).isSome ||
    (s=.resource && key=autoTieBreaker.key && (parseBool val).isSome)

structure Takes (o o' : DRBDOptions) (key val : String) : Prop where
  text : ∀f : Field,o'.text f=if f.key=key then (f.parse val).getD (o.text f) else o.text f
  handlers : ∀n,o'.handlers.find n=if handlersPrefix++n=key then some val else o.handlers.find n
  has : ∀s,o'.has s=(o.has s || opens key val s)
  secret : o'.sharedSecretRef=o.sharedSecretRef

structure Sets (o o' : DRBDOptions) (u : Field → Option (Option String)) (s : Section)
    (opened : Bool) : Prop where
  text : ∀f,o'.text f=(u f).getD (o.text f)
  handlers : o'.handlers=o.handlers
  has : ∀s',o'.has s'=(o.has s' || (opened && s'=s))
  secret : o'.sharedSecretRef=o.sharedSecretRef

section Sections

variable {o} {u : Field → Option (Option String)}

theorem sets_net {net : DRBDNetOptions} (hu : ∀f,f.sec≠.net → u f=none)
    (htext : ∀f,net.text f=(u f).getD ((o.net.getD .empty).text f))
    (hsecret : net.sharedSecretRef=(o.net.getD .empty).sharedSecretRef) :
    Sets o {o with net := some net} u .net true := by
  refine ⟨fun f => ?_,rfl,fun s => ?_,?_⟩
  · unfold text
    cases hf : f.sec with
    | net =>
      simp only [bind_some,htext]
      cases o.net
      · cases f <;> rfl
      · rfl
    | _ => rw [hu f (by simp [hf])]; rfl
  · cases s <;> simp [has]
  · rw [sharedSecretRef,bind_some,hsecret,sharedSecretRef]
    cases o.net <;> rfl

theorem sets_disk {disk : DRBDDiskOptions} (hu : ∀f,f.sec≠.disk → u f=none)
    (htext : ∀f,disk.text f=(u f).getD ((o.disk.getD .empty).text f)) :
    Sets o {o with disk := some disk} u .disk true := by
  refine ⟨fun f => ?_,rfl,fun s => ?_,rfl⟩
  · unfold text
    cases hf : f.sec with
    | disk =>
      simp only [bind_some,htext]
      cases o.disk
      · cases f <;> rfl
      · rfl
    | _ => rw [hu f (by simp [hf])]; rfl
  · cases s <;> simp [has]

theorem sets_peerDevice {peerDev : DRBDPeerDeviceOptions} (hu : ∀f,f.sec≠.peerDevice → u f=none)
    (htext : ∀f,peerDev.text f=(u f).getD ((o.peerDevice.getD .empty).text f)) :
    Sets o {o with peerDevice := some peerDev} u .peerDevice true := by
  refine ⟨fun f => ?_,rfl,fun s => ?_,rfl⟩
  · unfold text
    cases hf : f.sec with
    | peerDevice =>
      simp only [bind_some,htext]
      cases o.peerDevice
      · cases f <;> rfl
      · rfl
    | _ => rw [hu f (by simp [hf])]; rfl
  · cases s <;> simp [has]

theorem sets_resource {res : DRBDResourceOptions} (hu : ∀f,f.sec≠.resource → u f=none)
    (htext : ∀f,res.text f=(u f).getD ((o.resource.getD .empty).text f)) :
    Sets o {o with resource := some res} u .resource true := by
  refine ⟨fun f => ?_,rfl,fun s => ?_,rfl⟩
  · unfold text
    cases hf : f.sec with
    | resource =>
      simp only [bind_some,htext]
      cases o.resource
      · cases f <;> rfl
      · rfl
    | _ => rw [hu f (by simp [hf])]; rfl
  · cases s <;> simp [has]

end Sections

def Field.only (g : Field) (r : Option (Option String)) (f : Field) : Option (Option String) :=
  if f=g then r else none

theorem Field.only_of_sec {g f : Field} {s : Section} (r : Option (Option String))
    (hg : g.sec=s) (hf : f.sec≠s) : g.only r f=none := by
  rw [only,if_neg]
  rintro rfl
  exact hf hg

theorem Field.parse_integer {g : Field} (h : g.kind=.integer) :
    g.parse val=(parseInt32 val).map fun n => some (formatInt32 n) := by
  rw [parse,h]

theorem Field.parse_boolean {g : Field} (h : g.kind=.boolean) :
    g.parse val=(parseBool val).map fun b => some (formatBool b) := by
  rw [parse,h]

-- unfolding the spellings of a truth value is of no use here, and slow
seal parseBool in
theorem apply_name (g : Field) (h : g≠.autoTieBreaker) :
    (g.sec.apply o g.name val).2=(g.parse val).isSome ∧
      Sets o (g.sec.apply o g.name val).1 (g.only (g.parse val)) g.sec true := by
  have hu {s : Section} (r : Option (Option String)) (hg : g.sec=s) (f : Field)
      (hf : f.sec≠s) : g.only r f=none :=
    only_of_sec r hg hf
  cases g with
  | protocol | afterSb0Pri | afterSb1Pri | afterSb2Pri =>
    exact ⟨rfl,sets_net (hu _ rfl) (fun f => by cases f <;> rfl) rfl⟩
  | onIOError => exact ⟨rfl,sets_disk (hu _ rfl) fun f => by cases f <;> rfl⟩
  | cMaxRate => exact ⟨rfl,sets_peerDevice (hu _ rfl) fun f => by cases f <;> rfl⟩
  | quorum | onNoQuorum => exact ⟨rfl,sets_resource (hu _ rfl) fun f => by cases f <;> rfl⟩
  | maxBuffers =>
    have happly : maxBuffers.sec.apply o maxBuffers.name val=match parseInt32 val with
      | some n => ({o with net := some {o.net.getD .empty with maxBuffers := some n}},true)
      | none => ({o with net := some (o.net.getD .empty)},false) := rfl
    rw [happly,parse_integer val rfl]
    cases parseInt32 val <;> exact ⟨rfl,sets_net (hu _ rfl) (fun f => by cases f <;> rfl) rfl⟩
  | allowTwoPrimaries =>
    have happly : allowTwoPrimaries.sec.apply o allowTwoPrimaries.name val=
      match parseBool val with
      | some b => ({o with net := some {o.net.getD .empty with allowTwoPrimaries := some b}},true)
      | none => ({o with net := some (o.net.getD .empty)},false) := rfl
    rw [happly,parse_boolean val rfl]
    cases parseBool val <;> exact ⟨rfl,sets_net (hu _ rfl) (fun f => by cases f <;> rfl) rfl⟩
  | alExtents =>
    have happly : alExtents.sec.apply o alExtents.name val=match parseInt32 val with
      | some n => ({o with disk := some {o.disk.getD .empty with alExtents := some n}},true)
      | none => ({o with disk := some (o.disk.getD .empty)},false) := rfl
    rw [happly,parse_integer val rfl]
    cases parseInt32 val <;> exact ⟨rfl,sets_disk (hu _ rfl) fun f => by cases f <;> rfl⟩
  | autoPromote =>
    have happly : autoPromote.sec.apply o autoPromote.name val=match parseBool val with
      | some b => ({o with resource := some {o.resource.getD .empty with autoPromote := some b}},true)
      | none => ({o with resource := some (o.resource.getD .empty)},false) := rfl
    rw [happly,parse_boolean val rfl]
    cases parseBool val <;> exact ⟨rfl,sets_resource (hu _ rfl) fun f => by cases f <;> rfl⟩
  | autoTieBreaker => exact absurd rfl h

seal parseBool in
theorem apply_tieBreaker (g : Field) (h : g=.autoTieBreaker) :
    (applySectionlessKey o g.name val).2=(g.parse val).isSome ∧
      Sets o (applySectionlessKey o g.name val).1 (g.only (g.parse val)) g.sec
        (g.parse val).isSome := by
  have hu (r : Option (Option String)) (f : Field) (hf : f.sec≠.resource) : g.only r f=none :=
    only_of_sec r (by rw [h]; rfl) hf
  subst h
  have happly : applySectionlessKey o autoTieBreaker.name val=match parseBool val with
    | some b =>
      ({o with resource := some {o.resource.getD .empty with autoTieBreaker := some b}},true)
    | none => (o,false) := rfl
  rw [happly,parse_boolean val rfl]
  cases parseBool val with
  | some b => exact ⟨rfl,sets_resource (hu _) fun f => by cases f <;> rfl⟩
  | none =>
    refine ⟨rfl,fun f => ?_,rfl,fun s => ?_,rfl⟩
    · cases f <;> rfl
    · exact (Bool.or_false _).symm

theorem apply_other (s : Section) (name : String)
    (h : ∀g : Field,g.sec=s → g≠.autoTieBreaker → name≠g.name) :
    (s.apply o name val).2=false ∧ Sets o (s.apply o name val).1 (fun _ => none) s true := by
  cases s with
  | net =>
    have happly : applyNetKey o name val=({o with net := some (o.net.getD .empty)},false) := by
      have h1 := h .protocol rfl nofun
      have h2 := h .maxBuffers rfl nofun
      have h3 := h .allowTwoPrimaries rfl nofun
      have h4 := h .afterSb0Pri rfl nofun
      have h5 := h .afterSb1Pri rfl nofun
      have h6 := h .afterSb2Pri rfl nofun
      unfold applyNetKey
      split
      case h_7 => rfl
      all_goals contradiction
    change (applyNetKey o name val).2=_ ∧ Sets o (applyNetKey o name val).1 _ _ _
    rw [happly]
    exact ⟨rfl,sets_net (fun _ _ => rfl) (fun _ => rfl) rfl⟩
  | disk =>
    have happly : applyDiskKey o name val=({o with disk := some (o.disk.getD .empty)},false) := by
      have h1 := h .onIOError rfl nofun
      have h2 := h .alExtents rfl nofun
      unfold applyDiskKey
      split
      case h_3 => rfl
      all_goals contradiction
    change (applyDiskKey o name val).2=_ ∧ Sets o (applyDiskKey o name val).1 _ _ _
    rw [happly]
    exact ⟨rfl,sets_disk (fun _ _ => rfl) fun _ => rfl⟩
  | peerDevice =>
    have happly : applyPeerDeviceKey o name val=
        ({o with peerDevice := some (o.peerDevice.getD .empty)},false) := by
      have h1 := h .cMaxRate rfl nofun
      unfold applyPeerDeviceKey
      split
      case h_2 => rfl
      all_goals contradiction
    change (applyPeerDeviceKey o name val).2=_ ∧ Sets o (applyPeerDeviceKey o name val).1 _ _ _
    rw [happly]
    exact ⟨rfl,sets_peerDevice (fun _ _ => rfl) fun _ => rfl⟩
  | resource =>
    have happly : applyResourceKey o name val=
        ({o with resource := some (o.resource.getD .empty)},false) := by
      have h1 := h .autoPromote rfl nofun
      have h2 := h .quorum rfl nofun
      have h3 := h .onNoQuorum rfl nofun
      unfold applyResourceKey
      split
      case h_4 => rfl
      all_goals contradiction
    change (applyResourceKey o name val).2=_ ∧ Sets o (applyResourceKey o name val).1 _ _ _
    rw [happly]
    exact ⟨rfl,sets_resource (fun _ _ => rfl) fun _ => rfl⟩

theorem opens_append (rest : String) (s : Section) : opens (propsKVPrefix++rest) val s=
    ((cutPrefix s.word rest).isSome ||
      (s=.resource && rest=autoTieBreaker.name && (parseBool val).isSome)) := by
  unfold opens
  rw [cut_append_append,key_tieBreaker]
  simp only [append_right_inj]

theorem opens_key (g : Field) (s : Section) : opens g.key val s=
    ((g≠.autoTieBreaker || (g.parse val).isSome) && s=g.sec) := by
  by_cases hg : g=.autoTieBreaker
  · subst hg
    rw [key_tieBreaker,opens_append,cut_tieBreaker,parse_boolean val rfl]
    cases s <;> simp [sec]
  · have hne : g.sec.word++g.name≠autoTieBreaker.name := by
      intro h
      have hkey := key_eq hg
      rw [h,← key_tieBreaker] at hkey
      exact hg (key_inj.mp hkey)
    rw [key_eq hg,opens_append,cut_word]
    by_cases hs : s=g.sec <;> simp [hs,hne,hg]

variable {o} in
theorem Sets.takes {o' : DRBDOptions} {g : Field} (h : Sets o o' (g.only (g.parse val)) g.sec
    (g≠.autoTieBreaker || (g.parse val).isSome)) : Takes o o' g.key val := by
  refine ⟨fun f => ?_,fun n => ?_,fun s => ?_,h.secret⟩
  · rw [h.text,only]
    by_cases hf : f=g
    · rw [if_pos hf,if_pos (key_inj.mpr hf),hf]
    · rw [if_neg hf,if_neg fun hkey => hf (key_inj.mp hkey)]
      rfl
  · rw [h.handlers,if_neg]
    intro hn
    have hcut := g.not_handler
    rw [← hn,cut_append] at hcut
    cases hcut
  · rw [h.has,opens_key]

theorem applyTypedKey_field (g : Field) : (applyTypedKey o g.key val).2=(g.parse val).isSome ∧
    Takes o (applyTypedKey o g.key val).1 g.key val := by
  by_cases hg : g=.autoTieBreaker
  · obtain ⟨hrec,hsets⟩ := apply_tieBreaker o val g hg
    have hkey : applyTypedKey o g.key val=applySectionlessKey o g.name val := by
      rw [hg,applyTypedKey_tieBreaker]
    rw [hkey]
    exact ⟨hrec,Sets.takes val (by simpa [hg] using hsets)⟩
  · obtain ⟨hrec,hsets⟩ := apply_name o val g hg
    have hkey : applyTypedKey o g.key val=g.sec.apply o g.name val := by
      rw [key_eq hg,applyTypedKey_section]
    rw [hkey]
    exact ⟨hrec,Sets.takes val (by simpa [hg] using hsets)⟩

theorem applyTypedKey_other {rest : String} (hf : ofKey? (propsKVPrefix++rest)=none) :
    let key := propsKVPrefix++rest
    (applyTypedKey o key val).2=(cutPrefix handlersPrefix key).isSome ∧
      Takes o (applyTypedKey o key val).1 key val := by
  intro key
  have hne (g : Field) : g.key≠key := fun h => ofKey?_eq_none.mp hf g h.symm
  have htie : rest≠autoTieBreaker.name := by
    rintro rfl
    exact hne .autoTieBreaker key_tieBreaker
  have hcut : cutPrefix handlersPrefix key=cutPrefix "Handlers/" rest :=
    cut_append_append propsKVPrefix "Handlers/" rest
  have hopens (s : Section) : opens key val s=(cutPrefix s.word rest).isSome := by
    rw [opens_append]
    simp [htie]
  have hhandlers (h : cutPrefix "Handlers/" rest=none) (n : String) :
      handlersPrefix++n≠key := by
    intro hn
    rw [← hcut,← hn,cut_append] at h
    cases h
  rw [hcut]
  by_cases hsec : ∃s : Section,∃name,rest=s.word++name
  · -- an unknown name of a section
    obtain ⟨s,name,rfl⟩ := hsec
    have hother : ∀g : Field,g.sec=s → g≠.autoTieBreaker → name≠g.name := by
      rintro g rfl hg rfl
      exact hne g (key_eq hg)
    have hnone : cutPrefix "Handlers/" (s.word++name)=none := by
      cases s <;> exact cutPrefix_of_ne name (by decide)
    obtain ⟨hrec,hsets⟩ := apply_other o val s name hother
    rw [applyTypedKey_section,hnone]
    refine ⟨hrec,fun f => ?_,fun n => ?_,fun s' => ?_,hsets.secret⟩
    · rw [hsets.text,if_neg (hne f)]
      rfl
    · rw [hsets.handlers,if_neg (hhandlers hnone n)]
    · rw [hsets.has,hopens,cut_word]
      by_cases hs : s'=s <;> simp [hs]
  · have hword (s : Section) : cutPrefix s.word rest=none := by
      cases h : cutPrefix s.word rest with
      | none => rfl
      | some name => exact absurd ⟨s,name,cutPrefix_eq_some.mp h⟩ hsec
    have happly : applyTypedKey o key val=
        ((cutPrefix "Handlers/" rest).map (applyHandlerKey o · val)).getD (o,false) := by
      have hless : applySectionlessKey o rest val=(o,false) := by
        unfold applySectionlessKey
        split
        · exact absurd rfl htie
        · rfl
      rw [applyTypedKey_eq,hless]
      simp only [hword,map_none,getD_none]
    rw [happly]
    cases hh : cutPrefix "Handlers/" rest with
    | some name =>
      have hkey : key=handlersPrefix++name :=
        cutPrefix_eq_some.mp (hcut.trans hh)
      refine ⟨rfl,fun f => (if_neg (hne f)).symm,fun n => ?_,fun s => ?_,rfl⟩
      · rw [hkey]
        simp [applyHandlerKey,append_right_inj]
      · rw [hopens,hword]
        exact (Bool.or_false _).symm
    | none =>
      refine ⟨rfl,fun f => (if_neg (hne f)).symm,fun n => (if_neg (hhandlers hh n)).symm,
        fun s => ?_,rfl⟩
      rw [hopens,hword]
      exact (Bool.or_false _).symm

theorem applyTypedKey_spec (h : hasDRBDPrefix key=true) :
    (applyTypedKey o key val).2=accepts key val ∧ Takes o (applyTypedKey o key val).1 key val := by
  unfold accepts
  cases hf : ofKey? key with
  | some g =>
    obtain rfl := ofKey?_eq_some.mp hf
    exact applyTypedKey_field o val g
  | none =>
    obtain ⟨rest,hrest⟩ := isSome_iff_exists.mp h
    obtain rfl := cutPrefix_eq_some.mp hrest
    exact applyTypedKey_other o val hf

end ApplySpec

end Blockstor.Options
