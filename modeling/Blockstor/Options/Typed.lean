import Blockstor.Framework.Dict
import Blockstor.Store.CrdName

namespace Blockstor.Options

open Framework Store Text Dict String

/-- A property bag, `map[string]string`. -/
abbrev Props := Dict String String

structure DRBDNetOptions where
  protocol : String
  sharedSecretRef : Option String
  allowTwoPrimaries : Option Bool
  maxBuffers : Option Int32
  afterSb0Pri : String
  afterSb1Pri : String
  afterSb2Pri : String
  deriving DecidableEq

structure DRBDDiskOptions where
  onIOError : String
  alExtents : Option Int32
  deriving DecidableEq

structure DRBDPeerDeviceOptions where
  cMaxRate : String
  deriving DecidableEq

structure DRBDResourceOptions where
  autoPromote : Option Bool
  quorum : String
  onNoQuorum : String
  autoTieBreaker : Option Bool
  deriving DecidableEq

/-- The options an object stores in fields of their own. An empty text and a nil pointer are a field
that is not set. -/
structure DRBDOptions where
  net : Option DRBDNetOptions
  disk : Option DRBDDiskOptions
  peerDevice : Option DRBDPeerDeviceOptions
  resource : Option DRBDResourceOptions
  handlers : Props

def DRBDNetOptions.empty : DRBDNetOptions := ⟨"",none,none,none,"","",""⟩

def DRBDDiskOptions.empty : DRBDDiskOptions := ⟨"",none⟩

def DRBDPeerDeviceOptions.empty : DRBDPeerDeviceOptions := ⟨""⟩

def DRBDResourceOptions.empty : DRBDResourceOptions := ⟨none,"","",none⟩

def DRBDOptions.empty : DRBDOptions := ⟨none,none,none,none,.empty⟩

def propsKVPrefix : String := "DrbdOptions/"

def hasDRBDPrefix (key : String) : Bool := (cutPrefix propsKVPrefix key).isSome

section Spelling

/-- `strings.ToLower`. -/
def toLower (s : String) : String := ofList (s.toList.map K8s.lowerRune)

def parseBool (val : String) : Option Bool :=
  match toLower val with
  | "yes" => some true
  | "true" => some true
  | "1" => some true
  | "no" => some false
  | "false" => some false
  | "0" => some false
  | _ => none

def formatBool (b : Bool) : String := if b then "yes" else "no"

def parseInt32 (val : String) : Option Int32 := (Text.parseInt32 val).map Int32.ofInt

def formatInt32 (n : Int32) : String := formatInt n.toInt

theorem parseBool_formatBool (b : Bool) : parseBool (formatBool b)=some b := by
  cases b <;> decide

theorem parseInt32_formatInt32 (n : Int32) : parseInt32 (formatInt32 n)=some n := by
  rw [parseInt32,formatInt32,Text.parseInt32_formatInt ⟨n.le_toInt,n.toInt_lt⟩,Option.map_some,
    Int32.ofInt_toInt]

def nonempty (s : String) : Option String := if s="" then none else some s

end Spelling

section Emit

def emit (key : String) (val : Option String) (out : Props) : Props :=
  match val with
  | none => out
  | some v => out.set key v

variable (out : Props)

def emitNetProps : Option DRBDNetOptions → Props
  | none => out
  | some net => out
    |> emit "DrbdOptions/Net/protocol" (nonempty net.protocol)
    |> emit "DrbdOptions/Net/max-buffers" (net.maxBuffers.map formatInt32)
    |> emit "DrbdOptions/Net/allow-two-primaries" (net.allowTwoPrimaries.map formatBool)
    |> emit "DrbdOptions/Net/after-sb-0pri" (nonempty net.afterSb0Pri)
    |> emit "DrbdOptions/Net/after-sb-1pri" (nonempty net.afterSb1Pri)
    |> emit "DrbdOptions/Net/after-sb-2pri" (nonempty net.afterSb2Pri)

def emitDiskProps : Option DRBDDiskOptions → Props
  | none => out
  | some disk => out
    |> emit "DrbdOptions/Disk/on-io-error" (nonempty disk.onIOError)
    |> emit "DrbdOptions/Disk/al-extents" (disk.alExtents.map formatInt32)

def emitPeerDeviceProps : Option DRBDPeerDeviceOptions → Props
  | none => out
  | some peerDev => out
    |> emit "DrbdOptions/PeerDevice/c-max-rate" (nonempty peerDev.cMaxRate)

def emitTypedResource : Option DRBDResourceOptions → Props
  | none => out
  | some res => out
    |> emit "DrbdOptions/Resource/auto-promote" (res.autoPromote.map formatBool)
    |> emit "DrbdOptions/Resource/quorum" (nonempty res.quorum)
    |> emit "DrbdOptions/Resource/on-no-quorum" (nonempty res.onNoQuorum)

def emitResourceProps : Option DRBDResourceOptions → Props
  | none => out
  | some res => out
    |> emit "DrbdOptions/Resource/auto-promote" (res.autoPromote.map formatBool)
    |> emit "DrbdOptions/Resource/quorum" (nonempty res.quorum)
    |> emit "DrbdOptions/Resource/on-no-quorum" (nonempty res.onNoQuorum)
    -- this one is spelled without a section
    |> emit "DrbdOptions/AutoAddQuorumTiebreaker" (res.autoTieBreaker.map formatBool)

def handlersPrefix : String := "DrbdOptions/Handlers/"

def emitHandlersProps (handlers : Props) : Props :=
  out.setAll (handlers.items.map fun x => (handlersPrefix++x.1,x.2))

def typedToProps (opts : Option DRBDOptions) (extras : Props) : Props :=
  let out := empty.copy extras
  match opts with
  | none => out
  | some opts =>
    let out := emitNetProps out opts.net
    let out := emitDiskProps out opts.disk
    let out := emitPeerDeviceProps out opts.peerDevice
    let out := emitResourceProps out opts.resource
    emitHandlersProps out opts.handlers

def typedDRBDOptionsToProps (opts : Option DRBDOptions) : Props :=
  match opts with
  | none => .empty
  | some opts =>
    let out := emitNetProps .empty opts.net
    let out := emitDiskProps out opts.disk
    let out := emitPeerDeviceProps out opts.peerDevice
    let out := emitTypedResource out opts.resource
    emitHandlersProps out opts.handlers

end Emit

inductive Field
  | protocol | maxBuffers | allowTwoPrimaries | afterSb0Pri | afterSb1Pri | afterSb2Pri
  | onIOError | alExtents | cMaxRate | autoPromote | quorum | onNoQuorum | autoTieBreaker
  deriving DecidableEq

namespace Field

inductive Kind
  | text | integer | boolean
  deriving DecidableEq

def all : List Field :=
  [protocol,maxBuffers,allowTwoPrimaries,afterSb0Pri,afterSb1Pri,afterSb2Pri,onIOError,alExtents,
    cMaxRate,autoPromote,quorum,onNoQuorum,autoTieBreaker]

def key : Field → String
  | protocol => "DrbdOptions/Net/protocol"
  | maxBuffers => "DrbdOptions/Net/max-buffers"
  | allowTwoPrimaries => "DrbdOptions/Net/allow-two-primaries"
  | afterSb0Pri => "DrbdOptions/Net/after-sb-0pri"
  | afterSb1Pri => "DrbdOptions/Net/after-sb-1pri"
  | afterSb2Pri => "DrbdOptions/Net/after-sb-2pri"
  | onIOError => "DrbdOptions/Disk/on-io-error"
  | alExtents => "DrbdOptions/Disk/al-extents"
  | cMaxRate => "DrbdOptions/PeerDevice/c-max-rate"
  | autoPromote => "DrbdOptions/Resource/auto-promote"
  | quorum => "DrbdOptions/Resource/quorum"
  | onNoQuorum => "DrbdOptions/Resource/on-no-quorum"
  | autoTieBreaker => "DrbdOptions/AutoAddQuorumTiebreaker"

inductive Section
  | net | disk | peerDevice | resource
  deriving DecidableEq

def sec : Field → Section
  | protocol | maxBuffers | allowTwoPrimaries | afterSb0Pri | afterSb1Pri | afterSb2Pri => .net
  | onIOError | alExtents => .disk
  | cMaxRate => .peerDevice
  | autoPromote | quorum | onNoQuorum | autoTieBreaker => .resource

def kind : Field → Kind
  | maxBuffers | alExtents => .integer
  | allowTwoPrimaries | autoPromote | autoTieBreaker => .boolean
  | _ => .text

def ofKey? (k : String) : Option Field := all.find? fun f => f.key=k

theorem ofKey?_key (f : Field) : ofKey? f.key=some f := by
  cases f <;> simp [ofKey?,all,key]

theorem ofKey?_eq_some {k : String} {f : Field} : ofKey? k=some f ↔ k=f.key := by
  constructor
  · intro h
    have hkey : f.key=k := by simpa using List.find?_some h
    exact hkey.symm
  · rintro rfl
    exact ofKey?_key f

theorem ofKey?_eq_none {k : String} : ofKey? k=none ↔ ∀f : Field,k≠f.key := by
  constructor
  · rintro h f rfl
    rw [ofKey?_key] at h
    cases h
  · intro h
    cases hf : ofKey? k with
    | none => rfl
    | some f => exact absurd (ofKey?_eq_some.mp hf) (h f)

-- comparing the characters is much faster than deciding about the strings
theorem not_handler (f : Field) : cutPrefix handlersPrefix f.key=none := by
  rw [cutPrefix,handlersPrefix,toList_ofList]
  cases f <;> (rw [key,toList_ofList]; decide)

theorem hasDRBDPrefix_key (f : Field) : hasDRBDPrefix f.key=true := by
  rw [hasDRBDPrefix,cutPrefix,propsKVPrefix,toList_ofList]
  cases f <;> (rw [key,toList_ofList]; rfl)

theorem ne_keys {k : String} (h : ofKey? k=none) :
    (k≠"DrbdOptions/Net/protocol" ∧ k≠"DrbdOptions/Net/max-buffers" ∧
      k≠"DrbdOptions/Net/allow-two-primaries" ∧ k≠"DrbdOptions/Net/after-sb-0pri" ∧
      k≠"DrbdOptions/Net/after-sb-1pri" ∧ k≠"DrbdOptions/Net/after-sb-2pri") ∧
    (k≠"DrbdOptions/Disk/on-io-error" ∧ k≠"DrbdOptions/Disk/al-extents") ∧
    k≠"DrbdOptions/PeerDevice/c-max-rate" ∧
    (k≠"DrbdOptions/Resource/auto-promote" ∧ k≠"DrbdOptions/Resource/quorum" ∧
      k≠"DrbdOptions/Resource/on-no-quorum" ∧ k≠"DrbdOptions/AutoAddQuorumTiebreaker") := by
  have hne := ofKey?_eq_none.mp h
  exact ⟨⟨hne .protocol,hne .maxBuffers,hne .allowTwoPrimaries,hne .afterSb0Pri,hne .afterSb1Pri,
    hne .afterSb2Pri⟩,⟨hne .onIOError,hne .alExtents⟩,hne .cMaxRate,hne .autoPromote,hne .quorum,
    hne .onNoQuorum,hne .autoTieBreaker⟩

end Field

section Text

def DRBDNetOptions.text (net : DRBDNetOptions) : Field → Option String
  | .protocol => nonempty net.protocol
  | .maxBuffers => net.maxBuffers.map formatInt32
  | .allowTwoPrimaries => net.allowTwoPrimaries.map formatBool
  | .afterSb0Pri => nonempty net.afterSb0Pri
  | .afterSb1Pri => nonempty net.afterSb1Pri
  | .afterSb2Pri => nonempty net.afterSb2Pri
  | _ => none

def DRBDDiskOptions.text (disk : DRBDDiskOptions) : Field → Option String
  | .onIOError => nonempty disk.onIOError
  | .alExtents => disk.alExtents.map formatInt32
  | _ => none

def DRBDPeerDeviceOptions.text (peerDev : DRBDPeerDeviceOptions) : Field → Option String
  | .cMaxRate => nonempty peerDev.cMaxRate
  | _ => none

def DRBDResourceOptions.text (res : DRBDResourceOptions) : Field → Option String
  | .autoPromote => res.autoPromote.map formatBool
  | .quorum => nonempty res.quorum
  | .onNoQuorum => nonempty res.onNoQuorum
  | .autoTieBreaker => res.autoTieBreaker.map formatBool
  | _ => none

def DRBDOptions.text (o : DRBDOptions) (f : Field) : Option String :=
  match f.sec with
  | .net => o.net.bind (·.text f)
  | .disk => o.disk.bind (·.text f)
  | .peerDevice => o.peerDevice.bind (·.text f)
  | .resource => o.resource.bind (·.text f)

def DRBDOptions.value (o : DRBDOptions) (k : String) : Option String :=
  ((cutPrefix handlersPrefix k).bind o.handlers.find).or ((Field.ofKey? k).bind o.text)

end Text

section Find

theorem find_emit (key : String) (val : Option String) (out : Props) (k : String) :
    (emit key val out).find k=(if k=key then val else none).or (out.find k) := by
  cases val with
  | none => simp [emit]
  | some v =>
    simp only [emit,find_set]
    split <;> rfl

theorem find_of_fields {out out' : Props} {text : Field → Option String} (k : String)
    (hfield : ∀f : Field,out'.find f.key=(text f).or (out.find f.key))
    (hother : ∀k,Field.ofKey? k=none → out'.find k=out.find k) :
    out'.find k=((Field.ofKey? k).bind text).or (out.find k) := by
  cases hf : Field.ofKey? k with
  | none => simpa using hother k hf
  | some f =>
    obtain rfl := Field.ofKey?_eq_some.mp hf
    exact hfield f

variable (out : Props) (k : String)

theorem find_emitNetProps (net : Option DRBDNetOptions) : (emitNetProps out net).find k=
      ((Field.ofKey? k).bind fun f => net.bind (·.text f)).or (out.find k) := by
  cases net with
  | none => cases Field.ofKey? k <;> rfl
  | some net =>
    refine find_of_fields k (fun f => ?_) fun k hk => ?_
    · cases f <;> simp [emitNetProps,find_emit,Field.key,DRBDNetOptions.text]
    · simp [emitNetProps,find_emit,Field.ne_keys hk]

theorem find_emitDiskProps (disk : Option DRBDDiskOptions) : (emitDiskProps out disk).find k=
      ((Field.ofKey? k).bind fun f => disk.bind (·.text f)).or (out.find k) := by
  cases disk with
  | none => cases Field.ofKey? k <;> rfl
  | some disk =>
    refine find_of_fields k (fun f => ?_) fun k hk => ?_
    · cases f <;> simp [emitDiskProps,find_emit,Field.key,DRBDDiskOptions.text]
    · simp [emitDiskProps,find_emit,Field.ne_keys hk]

theorem find_emitPeerDeviceProps (peerDev : Option DRBDPeerDeviceOptions) :
    (emitPeerDeviceProps out peerDev).find k=
      ((Field.ofKey? k).bind fun f => peerDev.bind (·.text f)).or (out.find k) := by
  cases peerDev with
  | none => cases Field.ofKey? k <;> rfl
  | some peerDev =>
    refine find_of_fields k (fun f => ?_) fun k hk => ?_
    · cases f <;> simp [emitPeerDeviceProps,find_emit,Field.key,DRBDPeerDeviceOptions.text]
    · simp [emitPeerDeviceProps,find_emit,Field.ne_keys hk]

variable (res : Option DRBDResourceOptions) (opts : Option DRBDOptions)

theorem find_emitResourceProps :
    (emitResourceProps out res).find k=
      ((Field.ofKey? k).bind fun f => res.bind (·.text f)).or (out.find k) := by
  cases res with
  | none => cases Field.ofKey? k <;> rfl
  | some res =>
    refine find_of_fields k (fun f => ?_) fun k hk => ?_
    · cases f <;> simp [emitResourceProps,find_emit,Field.key,DRBDResourceOptions.text]
    · simp [emitResourceProps,find_emit,Field.ne_keys hk]

theorem find_emitTypedResource :
    (emitTypedResource out res).find k=((Field.ofKey? k).bind fun f =>
      if f=.autoTieBreaker then none else res.bind (·.text f)).or (out.find k) := by
  cases res with
  | none => cases Field.ofKey? k <;> simp [emitTypedResource]
  | some res =>
    refine find_of_fields k (fun f => ?_) fun k hk => ?_
    · cases f <;> simp [emitTypedResource,find_emit,Field.key,DRBDResourceOptions.text]
    · simp [emitTypedResource,find_emit,Field.ne_keys hk]

theorem find_emitHandlersProps (handlers : Props) : (emitHandlersProps out handlers).find k=
      ((cutPrefix handlersPrefix k).bind handlers.find).or (out.find k) := by
  have hnodup : ((handlers.items.map fun x => (handlersPrefix++x.1,x.2)).map Prod.fst).Nodup := by
    have h := handlers.nodup.map fun (a b : String) (h : handlersPrefix++a=handlersPrefix++b) =>
      (append_right_inj _).mp h
    rwa [List.map_map] at h ⊢
  unfold emitHandlersProps
  rw [find_setAll _ hnodup]
  congr 1
  refine Option.ext fun v => ?_
  rw [find_eq_some,List.mem_map,Option.bind_eq_some_iff]
  constructor
  · rintro ⟨x,hx,heq⟩
    cases heq
    exact ⟨x.1,cutPrefix_eq_some.mpr rfl,find_eq_some.mpr hx⟩
  · rintro ⟨n,hn,hv⟩
    obtain rfl := cutPrefix_eq_some.mp hn
    exact ⟨(n,v),find_eq_some.mp hv,rfl⟩

theorem find_typedToProps (extras : Props) :
    (typedToProps opts extras).find k=(opts.bind (·.value k)).or (extras.find k) := by
  unfold typedToProps
  cases opts with
  | none => simp
  | some o =>
    simp only [find_emitHandlersProps,find_emitResourceProps,find_emitPeerDeviceProps,
      find_emitDiskProps,find_emitNetProps,find_copy,find_empty,Option.or_none,
      DRBDOptions.value,Option.bind_some,Option.or_assoc]
    cases Field.ofKey? k with
    | none => simp
    | some f => cases f <;> simp [DRBDOptions.text,Field.sec,DRBDResourceOptions.text,
        DRBDPeerDeviceOptions.text,DRBDDiskOptions.text,DRBDNetOptions.text]

def DRBDOptions.applied (o : DRBDOptions) (k : String) : Option String :=
  if k=Field.autoTieBreaker.key then none else o.value k

theorem find_typedDRBDOptionsToProps :
    (typedDRBDOptionsToProps opts).find k=opts.bind (·.applied k) := by
  unfold typedDRBDOptionsToProps
  cases opts with
  | none => rfl
  | some o =>
    simp only [find_emitHandlersProps,find_emitTypedResource,find_emitPeerDeviceProps,
      find_emitDiskProps,find_emitNetProps,find_empty,Option.or_none,DRBDOptions.applied,
      DRBDOptions.value,Option.bind_some]
    cases hf : Field.ofKey? k with
    | none =>
      rw [if_neg (Field.ofKey?_eq_none.mp hf .autoTieBreaker)]
      simp
    | some f =>
      obtain rfl := Field.ofKey?_eq_some.mp hf
      rw [f.not_handler]
      cases f <;> simp [Field.key,DRBDOptions.text,Field.sec,DRBDResourceOptions.text,
        DRBDPeerDeviceOptions.text,DRBDDiskOptions.text,DRBDNetOptions.text]

end Find

end Blockstor.Options
