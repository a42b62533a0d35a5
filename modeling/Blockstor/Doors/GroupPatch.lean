import Blockstor.Framework.Text

namespace Blockstor.GroupPatch

open Framework

inductive Json
  | null
  | bool (b : Bool)
  | num (text : String)
  | str (text : String)
  | arr (items : List Json)
  | obj (members : List (String × Json))

def Json.isNull : Json → Bool
  | .null => true
  | _ => false

section Fields

/-- A `map[string]int32`. -/
abbrev Caps := List (String × Int)

inductive Kind
  | strings | caps | count | text | flag
  deriving DecidableEq

namespace Kind

@[reducible] def Value : Kind → Type
  | .strings => List String
  | .caps => Caps
  | .count => Int
  | .text => String
  | .flag => Bool

/-- A decoded field: lists and maps may be nil, the others are zero when they are not given. -/
@[reducible] def Wire : Kind → Type
  | .strings => Option (List String)
  | .caps => Option Caps
  | k => k.Value

def listed : Kind → Bool
  | .strings | .caps => true
  | _ => false

def zero : (k : Kind) → k.Wire
  | .strings => none
  | .caps => none
  | .count => (0 : Int)
  | .text => ""
  | .flag => false

def value : (k : Kind) → k.Wire → k.Value
  | .strings,v => v.getD []
  | .caps,v => v.getD []
  | .count,v => v
  | .text,v => v
  | .flag,v => v

end Kind

inductive Field
  | placeCount | additionalPlaceCount | nodeNameList | storagePool | storagePoolList
  | storagePoolDisklessList | notPlaceWithRsc | notPlaceWithRscRegex | replicasOnSame
  | replicasOnDifferent | xReplicasOnDifferentMap | layerStack | providerList | disklessOnRemaining
  | overrideVlmID
  deriving DecidableEq

namespace Field

def key : Field → String
  | placeCount => "place_count"
  | additionalPlaceCount => "additional_place_count"
  | nodeNameList => "node_name_list"
  | storagePool => "storage_pool"
  | storagePoolList => "storage_pool_list"
  | storagePoolDisklessList => "storage_pool_diskless_list"
  | notPlaceWithRsc => "not_place_with_rsc"
  | notPlaceWithRscRegex => "not_place_with_rsc_regex"
  | replicasOnSame => "replicas_on_same"
  | replicasOnDifferent => "replicas_on_different"
  | xReplicasOnDifferentMap => "x_replicas_on_different_map"
  | layerStack => "layer_stack"
  | providerList => "provider_list"
  | disklessOnRemaining => "diskless_on_remaining"
  | overrideVlmID => "override_vlm_id"

def kind : Field → Kind
  | placeCount | additionalPlaceCount => .count
  | storagePool | notPlaceWithRscRegex | overrideVlmID => .text
  | disklessOnRemaining => .flag
  | xReplicasOnDifferentMap => .caps
  | _ => .strings

end Field

abbrev AutoSelectFilter := (f : Field) → f.kind.Value

abbrev Patch := (f : Field) → f.kind.Wire

end Fields

section Decode

/-- What is taken from `encoding/json`: which members are the filter, which field a member of the
filter is, and what becomes of a list or a map, given what an earlier member left. -/
structure Decoder where
  envelope : String → Bool
  field : String → Option Field
  strings : Option (List String) → List Json → Option (List String)
  caps : Option Caps → List (String × Json) → Option Caps

variable (d : Decoder)

def laxInt32 : Json → Option Int
  | .null => some 0
  | .num text => Text.parseInt32 text
  | .str text => if text="" then some 0 else Text.parseInt32 text
  | _ => none

def Kind.decode : (k : Kind) → k.Wire → Json → Option k.Wire
  | .strings,_,.null => some none
  | .strings,old,.arr items => (d.strings old items).map some
  | .caps,_,.null => some none
  | .caps,old,.obj members => (d.caps old members).map some
  | .count,_,json => laxInt32 json
  | .text,old,.null => some old
  | .text,_,.str s => some s
  | .flag,old,.null => some old
  | .flag,_,.bool b => some b
  | _,_,_ => none

def decodeMembers : List (String × Json) → Patch → Option Patch
  | [],patch => some patch
  | (name,json)::members,patch =>
    match d.field name with
    | none => none
    | some f => (Kind.decode d f.kind (patch f) json).bind fun v =>
        decodeMembers members (Function.update patch f v)

def members : Json → List (String × Json)
  | .obj members => members
  | _ => []

def Json.isObject : Json → Bool
  | .obj _ => true
  | json => json.isNull

def envelopes (body : Json) : List Json :=
  ((members body).filter fun x => d.envelope x.1).map Prod.snd

def readRGUpdatePatch (body : Json) : Option Patch :=
  if (body::envelopes d body).all Json.isObject then
    decodeMembers d ((envelopes d body).flatMap members) fun f => f.kind.zero
  else none

def rgSelectFilterKeys (body : Json) : List String :=
  (envelopes d body).foldl (fun keys json =>
    if json.isNull then [] else keys++(members json).map Prod.fst) []

end Decode

section Merge

def Kind.mergeList : (k : Kind) → k.Value → k.Wire → k.Value
  | .strings,existing,patch => patch.getD existing
  | .caps,existing,patch => patch.getD existing
  | _,existing,_ => existing

def Kind.mergeScalar (mentioned : Bool) : (k : Kind) → k.Value → k.Wire → k.Value
  | .count,existing,patch => if mentioned then patch else existing
  | .text,existing,patch => if mentioned then patch else existing
  | .flag,existing,patch => if mentioned then patch else existing
  | _,existing,_ => existing

variable (existing : AutoSelectFilter) (patch : Patch)

def mergeRGSelectFilterLists : AutoSelectFilter :=
  fun f => f.kind.mergeList (existing f) (patch f)

def mergeRGSelectFilterScalars
    (mentioned : List String) : AutoSelectFilter :=
  fun f => f.kind.mergeScalar (mentioned.contains f.key) (existing f) (patch f)

def mergeRGSelectFilter (d : Decoder) (existing : AutoSelectFilter) (patch : Patch) (raw : Json) :
    AutoSelectFilter :=
  mergeRGSelectFilterScalars (mergeRGSelectFilterLists existing patch) patch
    (rgSelectFilterKeys d raw)

end Merge

section Exact

variable (d : Decoder) (body : Json)

def given (f : Field) : List Json :=
  (((envelopes d body).flatMap members).filter fun x => d.field x.1=some f).map Prod.snd

def Gives (f : Field) : Prop := ∃json∈given d body f,json.isNull=false

open Classical in
def FieldExact (existing merged : AutoSelectFilter) (patch : Patch) : Prop :=
  ∀f,merged f=if Gives d body f then f.kind.value (patch f) else existing f

def Told (f : Field) : Prop :=
  if f.kind.listed then Gives d body f → (given d body f).getLast?.all (·.isNull)=false
  else f.key∈rgSelectFilterKeys d body ↔ Gives d body f

end Exact

section Proofs

variable {d : Decoder} {body : Json}

def Kind.isNil : (k : Kind) → k.Wire → Bool
  | .strings,v => v.isNone
  | .caps,v => v.isNone
  | _,_ => false

theorem isNil_decode {k : Kind} {old v : k.Wire} {json : Json} (hk : k.listed=true)
    (h : Kind.decode d k old json=some v) : k.isNil v=json.isNull := by
  cases k with
  | strings =>
    cases json with
    | null =>
      cases h
      rfl
    | arr items =>
      obtain ⟨_,_,rfl⟩ := Option.map_eq_some_iff.mp h
      rfl
    | _ => cases h
  | caps =>
    cases json with
    | null =>
      cases h
      rfl
    | obj members =>
      obtain ⟨_,_,rfl⟩ := Option.map_eq_some_iff.mp h
      rfl
    | _ => cases h
  | _ => cases hk

/-- The last member of a list decides whether it is nil. -/
theorem isNil_decodeMembers {f : Field} (hf : f.kind.listed=true) {ms : List (String × Json)}
    {patch patch' : Patch} (h : decodeMembers d ms patch=some patch') :
    f.kind.isNil (patch' f)=
      ((((ms.filter fun x => d.field x.1=some f).map Prod.snd).getLast?).map Json.isNull).getD
        (f.kind.isNil (patch f)) := by
  induction ms generalizing patch with
  | nil =>
    cases h
    rfl
  | cons x ms ih =>
    rw [decodeMembers] at h
    cases hg : d.field x.1 with
    | none =>
      rw [hg] at h
      cases h
    | some g =>
      rw [hg] at h
      obtain ⟨v,hv,h⟩ := Option.bind_eq_some_iff.mp h
      rw [ih h]
      by_cases hgf : g=f
      · subst hgf
        rw [Function.update_self,isNil_decode hf hv,List.filter_cons_of_pos (by simpa using hg),
          List.map_cons,List.getLast?_cons]
        cases ((ms.filter fun x => d.field x.1=some g).map Prod.snd).getLast? <;> rfl
      · rw [Function.update_of_ne (Ne.symm hgf),List.filter_cons_of_neg (by simpa [hg] using hgf)]

theorem forall_getD_iff {α : Type} [Nontrivial α] {w : Option α} {z : α} {g : Prop} [Decidable g]
    (hg : ¬g → w=none) :
    (∀x,w.getD x=if g then w.getD z else x) ↔ (g → w.isNone=false) := by
  by_cases h : g
  · simp only [h,if_true,true_imp_iff]
    cases w with
    | none =>
      obtain ⟨x,hx⟩ := exists_ne z
      exact ⟨fun hall => absurd (hall x) hx,nofun⟩
    | some w => exact ⟨fun _ => rfl,fun _ _ => rfl⟩
  · simp [h,hg h]

theorem forall_if_iff {α : Type} [Nontrivial α] {w : α} {m : Bool} {g : Prop} [Decidable g] :
    (∀x,(if m then w else x)=if g then w else x) ↔ (m=true ↔ g) := by
  obtain ⟨x,hx⟩ := exists_ne w
  constructor
  · intro h
    have := h x
    by_cases hg : g <;> cases m <;> simp_all
  · intro h y
    by_cases hg : g <;> simp_all

theorem kind_iff {k : Kind} {w : k.Wire} {m : Bool} {g : Prop} [Decidable g]
    (hg : k.listed=true → ¬g → k.isNil w=true) :
    (∀x : k.Value,k.mergeScalar m (k.mergeList x w) w=if g then k.value w else x) ↔
      if k.listed then g → k.isNil w=false else (m=true ↔ g) := by
  have : Nontrivial (List String) := ⟨[],[""],by decide⟩
  have : Nontrivial Caps := ⟨[],[("",0)],by decide⟩
  have : Nontrivial String := ⟨"","a",by decide⟩
  have : Nontrivial Int := ⟨0,1,by decide⟩
  cases k with
  | strings => exact forall_getD_iff (α := List String) fun h => Option.isNone_iff_eq_none.mp (hg rfl h)
  | caps => exact forall_getD_iff (α := Caps) fun h => Option.isNone_iff_eq_none.mp (hg rfl h)
  | count => exact forall_if_iff (α := Int)
  | text => exact forall_if_iff (α := String)
  | flag => exact forall_if_iff (α := Bool)

theorem isNil_given {patch : Patch} (h : readRGUpdatePatch d body=some patch) {f : Field}
    (hf : f.kind.listed=true) :
    f.kind.isNil (patch f)=(given d body f).getLast?.all Json.isNull := by
  unfold readRGUpdatePatch at h
  split at h
  · have hzero : f.kind.isNil f.kind.zero=true := by
      cases f <;> first | rfl | cases hf
    rw [isNil_decodeMembers hf h,hzero]
    unfold given
    cases (((envelopes d body).flatMap members).filter fun x => d.field x.1=some f).map Prod.snd
      |>.getLast? <;> rfl
  · cases h

theorem told_iff {patch : Patch} (h : readRGUpdatePatch d body=some patch) (f : Field) :
    (∀x : f.kind.Value,f.kind.mergeScalar ((rgSelectFilterKeys d body).contains f.key)
      (f.kind.mergeList x (patch f)) (patch f)=
        open Classical in if Gives d body f then f.kind.value (patch f) else x) ↔ Told d body f := by
  classical
  rw [kind_iff,Told,List.contains_iff_mem]
  · split
    · rename_i hf
      rw [isNil_given h hf]
    · rfl
  · intro hf hno
    rw [isNil_given h hf]
    cases hlast : (given d body f).getLast? with
    | none => rfl
    | some json =>
      by_contra hnull
      exact hno ⟨json,List.mem_of_getLast? hlast,by simpa using hnull⟩

end Proofs

/-- The patch is exact for every filter just if every field of the body is told right. -/
theorem group_patch_iff (d : Decoder) (body : Json) :
    (∀existing patch,readRGUpdatePatch d body=some patch →
      FieldExact d body existing (mergeRGSelectFilter d existing patch body) patch) ↔
    ((readRGUpdatePatch d body).isSome=true → ∀f,Told d body f) := by
  constructor
  · intro h hsome f
    obtain ⟨patch,hpatch⟩ := Option.isSome_iff_exists.mp hsome
    refine (told_iff hpatch f).mp fun x => ?_
    let base : AutoSelectFilter := fun f => f.kind.value f.kind.zero
    have hf := h (Function.update base f x) patch hpatch f
    simpa [mergeRGSelectFilter,mergeRGSelectFilterScalars,mergeRGSelectFilterLists] using hf
  · intro h existing patch hpatch f
    exact (told_iff hpatch f).mpr (h (by rw [hpatch]; rfl) f) (existing f)

def plainDecoder : Decoder where
  envelope name := name="select_filter"
  field name := if name="place_count" then some .placeCount else none
  strings _ _ := none
  caps _ _ := none

def nullCount : Json := .obj [("select_filter",.obj [("place_count",.null)])]

def threeReplicas : AutoSelectFilter
  | .placeCount => (3 : Int)
  | f => f.kind.value f.kind.zero

/-- A null clears the number of replicas. -/
theorem null_clears : ¬∀existing patch,readRGUpdatePatch plainDecoder nullCount=some patch →
    FieldExact plainDecoder nullCount existing
      (mergeRGSelectFilter plainDecoder existing patch nullCount) patch := by
  intro h
  have hcount := h threeReplicas _ rfl .placeCount
  have hgives : ¬Gives plainDecoder nullCount .placeCount := by
    rintro ⟨json,hjson,hnull⟩
    obtain rfl := List.mem_singleton.mp hjson
    cases hnull
  rw [if_neg hgives] at hcount
  exact absurd (show (0 : Int)=3 from hcount) (by decide)

end Blockstor.GroupPatch
