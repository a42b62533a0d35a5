import Blockstor.Options.Transcode

namespace Blockstor.Options

open Framework Field Dict Option

section Loop

theorem Field.ofKey?_handler (n : String) : ofKey? (handlersPrefix++n)=none := by
  refine ofKey?_eq_none.mpr fun f hf => ?_
  have h := f.not_handler
  rw [← hf,cut_append] at h
  cases h

theorem hasDRBDPrefix_handler (n : String) : hasDRBDPrefix (handlersPrefix++n)=true := by
  have h : handlersPrefix++n=propsKVPrefix++("Handlers/"++n) := by
    rw [show handlersPrefix=propsKVPrefix++"Handlers/" from rfl,String.append_assoc]
  rw [hasDRBDPrefix,h,cut_append]
  rfl

theorem hasDRBDPrefix_of_accepts {key val : String} (h : accepts key val=true) :
    hasDRBDPrefix key=true := by
  unfold accepts at h
  split at h
  · rename_i f hf
    rw [ofKey?_eq_some.mp hf,f.hasDRBDPrefix_key]
  · obtain ⟨n,hn⟩ := isSome_iff_exists.mp h
    rw [Text.cutPrefix_eq_some.mp hn,hasDRBDPrefix_handler]

theorem accepts_handler (n val : String) : accepts (handlersPrefix++n) val=true := by
  rw [accepts,ofKey?_handler,cut_append]
  rfl

theorem accepts_key (f : Field) (val : String) : accepts f.key val=(f.parse val).isSome := by
  rw [accepts,ofKey?_key]

structure Splits (seen : String → Option String) (acc : DRBDOptions × Props) : Prop where
  text : ∀f : Field,acc.1.text f=(seen f.key).bind fun v => (f.parse v).join
  handlers : ∀n,acc.1.handlers.find n=seen (handlersPrefix++n)
  extras : ∀k,acc.2.find k=(seen k).filter fun v => !accepts k v
  has : ∀s,acc.1.has s=true ↔ ∃k v,seen k=some v ∧ opens k v s=true
  secret : acc.1.sharedSecretRef=none

theorem splits_start : Splits (fun _ => none) (.empty,.empty) where
  text f := by cases f <;> rfl
  handlers _ := rfl
  extras _ := rfl
  has s := by cases s <;> simp [DRBDOptions.has,DRBDOptions.empty]
  secret := rfl

theorem opens_plain {key : String} (h : hasDRBDPrefix key=false) (val : String)
    (s : Section) : opens key val s=false := by
  cases hopens : opens key val s with
  | false => rfl
  | true =>
    refine absurd ?_ (Bool.eq_false_iff.mp h)
    unfold opens at hopens
    rcases Bool.or_eq_true_iff.mp hopens with hword | htie
    · obtain ⟨rest,hrest⟩ := isSome_iff_exists.mp hword
      rw [Text.cutPrefix_eq_some.mp hrest,String.append_assoc,hasDRBDPrefix,cut_append]
      rfl
    · have hkey : key=autoTieBreaker.key := by
        simp only [Bool.and_eq_true,decide_eq_true_eq] at htie
        exact htie.1.2
      rw [hkey,hasDRBDPrefix_key]

theorem typeProperty_plain {key : String} (h : hasDRBDPrefix key=false) (acc : DRBDOptions × Props)
    (val : String) : typeProperty acc (key,val)=(acc.1,acc.2.set key val) := by
  simp only [typeProperty,h,Bool.not_false,if_true]

theorem typeProperty_drbd {key : String} (h : hasDRBDPrefix key=true) (acc : DRBDOptions × Props)
    (val : String) : typeProperty acc (key,val)=((applyTypedKey acc.1 key val).1,
      if (applyTypedKey acc.1 key val).2 then acc.2 else acc.2.set key val) := by
  simp only [typeProperty,h,Bool.not_true,Bool.false_eq_true,if_false]

theorem splits_step {seen : String → Option String} {acc : DRBDOptions × Props} {key val : String}
    (h : Splits seen acc) (hnew : seen key=none) :
    Splits (fun n => if n=key then some val else seen n) (typeProperty acc (key,val)) := by
  have hextras (b : Bool) (hb : b=accepts key val) (k : String) :
      (if b then acc.2 else acc.2.set key val).find k=
        (if k=key then some val else seen k).filter fun v => !accepts k v := by
    by_cases hk : k=key
    · subst hk
      cases b <;> simp [h.extras,hnew,← hb,Option.filter]
    · cases b <;> simp [h.extras,hk]
  have hhas {o' : DRBDOptions} (hs : ∀s,o'.has s=(acc.1.has s || opens key val s))
      (s : Section) : o'.has s=true ↔
        ∃k v,(if k=key then some val else seen k)=some v ∧ opens k v s=true := by
    rw [hs,Bool.or_eq_true_iff,h.has]
    constructor
    · rintro (⟨k,v,hk,hopen⟩|hopen)
      · refine ⟨k,v,?_,hopen⟩
        rw [if_neg,hk]
        rintro rfl
        rw [hnew] at hk
        cases hk
      · exact ⟨key,val,if_pos rfl,hopen⟩
    · rintro ⟨k,v,hk,hopen⟩
      split at hk
      · rename_i heq
        cases hk
        exact .inr (heq ▸ hopen)
      · exact .inl ⟨k,v,hk,hopen⟩
  cases hpre : hasDRBDPrefix key with
  | false =>
    rw [typeProperty_plain hpre]
    have hne (f : Field) : f.key≠key := by
      rintro rfl
      rw [f.hasDRBDPrefix_key] at hpre
      cases hpre
    have hno (n : String) : handlersPrefix++n≠key := by
      rintro rfl
      rw [hasDRBDPrefix_handler] at hpre
      cases hpre
    have hacc : false=accepts key val := by
      cases ha : accepts key val with
      | false => rfl
      | true =>
        rw [hasDRBDPrefix_of_accepts ha] at hpre
        cases hpre
    refine ⟨fun f => ?_,fun n => ?_,hextras false hacc,hhas fun s => ?_,h.secret⟩
    · simpa [hne f] using h.text f
    · simpa [hno n] using h.handlers n
    · rw [opens_plain hpre,Bool.or_false]
  | true =>
    obtain ⟨hrec,htakes⟩ := applyTypedKey_spec acc.1 key val hpre
    rw [typeProperty_drbd hpre]
    generalize applyTypedKey acc.1 key val=r at hrec htakes ⊢
    refine ⟨fun f => ?_,fun n => ?_,hextras _ hrec,hhas htakes.has,htakes.secret.trans h.secret⟩
    · rw [htakes.text]
      by_cases hf : f.key=key
      · have hold : acc.1.text f=none := by rw [h.text,hf,hnew]; rfl
        rw [if_pos hf,if_pos hf,hold,bind_some]
        cases f.parse val <;> rfl
      · rw [if_neg hf,if_neg hf,h.text]
    · rw [htakes.handlers,h.handlers]

theorem splits_loop (p : Props) : Splits p.find (p.items.foldl typeProperty (.empty,.empty)) :=
  foldl_items p typeProperty Splits _ splits_start fun _ _ _ _ => splits_step

end Loop

section Read

variable (p : Props) (k : String)

/-- The spelling of a value after it was stored. A text field takes the empty value and shows
nothing for it. -/
def canonical (k v : String) : Option String :=
  match ofKey? k with
  | some f => (f.parse v).getD (some v)
  | none => some v

theorem value_of_isEmpty {o : DRBDOptions} (h : isEmptyDRBDOptions o=true) : o.value k=none := by
  obtain ⟨net,disk,peerDev,res,handlers⟩ := o
  simp only [isEmptyDRBDOptions,Bool.and_eq_true,isNone_iff_eq_none,
    List.isEmpty_iff] at h
  obtain ⟨⟨⟨⟨rfl,rfl⟩,rfl⟩,rfl⟩,hitems⟩ := h
  have hhandlers (n : String) : handlers.find n=none :=
    find_eq_none.mpr fun v hv => by rw [hitems] at hv; cases hv
  have htext (f : Field) : DRBDOptions.text ⟨none,none,none,none,handlers⟩ f=none := by
    cases f <;> rfl
  cases hf : ofKey? k <;> cases hc : Text.cutPrefix handlersPrefix k <;>
    simp [DRBDOptions.value,hf,hc,hhandlers,htext]

theorem find_typed : (splitProps p).typed.bind (·.value k)=
    (p.find k).bind fun v => if accepts k v then canonical k v else none := by
  have h := splits_loop p
  have hvalue : (splitProps p).typed.bind (·.value k)=
      (p.items.foldl typeProperty (.empty,.empty)).1.value k := by
    simp only [splitProps,propsToTyped]
    split
    · rename_i hempty
      rw [value_of_isEmpty k hempty]
      rfl
    · rfl
  rw [hvalue,DRBDOptions.value]
  cases hf : ofKey? k with
  | some f =>
    obtain rfl := ofKey?_eq_some.mp hf
    rw [f.not_handler,bind_none,none_or,bind_some,h.text]
    refine bind_congr fun v _ => ?_
    rw [accepts_key,canonical,hf]
    cases hp : f.parse v <;> simp [hp]
  | none =>
    rw [bind_none,or_none]
    cases hc : Text.cutPrefix handlersPrefix k with
    | some n =>
      obtain rfl := Text.cutPrefix_eq_some.mp hc
      rw [bind_some,h.handlers]
      simp [accepts_handler,canonical,hf]
    | none => simp [accepts,hf,hc]

theorem find_extra : (splitProps p).extra.find k=(p.find k).filter fun v => !accepts k v :=
  (splits_loop p).extras k

theorem find_residual : (splitProps p).residual.find k=
    if hasDRBDPrefix k then none else p.find k := by
  cases h : hasDRBDPrefix k <;> simp [splitProps,stripDRBDProps,h]

theorem canonical_of_not_accepts {k v : String} (h : accepts k v=false) : canonical k v=some v := by
  unfold accepts at h
  unfold canonical
  cases hf : ofKey? k with
  | none => rfl
  | some f =>
    rw [hf] at h
    rw [isSome_eq_false_iff,isNone_iff_eq_none] at h
    simp [h]

theorem find_read : (splitProps p).props.find k=(p.find k).bind (canonical k) := by
  rw [Stored.find_props,find_typed,find_extra,find_residual]
  cases hv : p.find k with
  | none => cases hasDRBDPrefix k <;> rfl
  | some v =>
    cases ha : accepts k v with
    | false => simp [ha,canonical_of_not_accepts ha,Option.filter]
    | true => simp [ha,hasDRBDPrefix_of_accepts ha,Option.filter]

/-- The spellings of a value: an empty text is dropped, a number and a truth value are spelled in
one way, all else is as it was. -/
theorem canonical_cases (k v : String) : canonical k v=some v ∨
    canonical k v=none ∧ v="" ∧ (∃f : Field,f.kind=.text ∧ k=f.key) ∨
    (∃f : Field,∃n,f.kind=.integer ∧ k=f.key ∧ parseInt32 v=some n ∧
      canonical k v=some (formatInt32 n)) ∨
    ∃f : Field,∃b,f.kind=.boolean ∧ k=f.key ∧ parseBool v=some b ∧
      canonical k v=some (formatBool b) := by
  unfold canonical
  cases hf : ofKey? k with
  | none => exact .inl rfl
  | some f =>
    have hkey := ofKey?_eq_some.mp hf
    simp only [parse]
    cases hkind : f.kind with
    | text =>
      by_cases hv : v=""
      · exact .inr (.inl ⟨by simp [nonempty,hv],hv,f,hkind,hkey⟩)
      · exact .inl (by simp [nonempty,hv])
    | integer =>
      cases hn : parseInt32 v with
      | none => exact .inl rfl
      | some n => exact .inr (.inr (.inl ⟨f,n,hkind,hkey,rfl,rfl⟩))
    | boolean =>
      cases hb : parseBool v with
      | none => exact .inl rfl
      | some b => exact .inr (.inr (.inr ⟨f,b,hkind,hkey,rfl,rfl⟩))

theorem canonical_idem {k v w : String} (h : canonical k v=some w) : canonical k w=some w := by
  rcases canonical_cases k v with hc | ⟨hc,_⟩ | ⟨f,n,hkind,rfl,_,hc⟩ | ⟨f,b,hkind,rfl,_,hc⟩
  · rw [hc] at h
    cases h
    exact hc
  · rw [hc] at h
    cases h
  · rw [hc] at h
    cases h
    simp [canonical,ofKey?_key,parse,hkind,parseInt32_formatInt32]
  · rw [hc] at h
    cases h
    simp [canonical,ofKey?_key,parse,hkind,parseBool_formatBool]

end Read

section RoundTrip

def Stored.typedPart (s : Stored) : Props := typedToProps s.typed .empty

def Stored.remainder (s : Stored) : Props := mergeProps s.residual s.extra

def Respelled (k v w : String) : Prop :=
  w=v ∨ ∃f : Field,k=f.key ∧
    (f.kind=.integer ∧ (∃n,parseInt32 v=some n ∧ w=formatInt32 n) ∨
      f.kind=.boolean ∧ ∃b,parseBool v=some b ∧ w=formatBool b)

structure RoundTrips (p : Props) : Prop where
  keys : ∀k,((splitProps p).props.find k).isSome=(p.find k).isSome
  values : ∀k v w,p.find k=some v → (splitProps p).props.find k=some w → Respelled k v w
  again : Same (splitProps (splitProps p).props).props (splitProps p).props
  kept : ∀k,(p.find k).isSome=true → ((splitProps p).typedPart.find k).isSome=true ∨
    ((splitProps p).remainder.find k).isSome=true
  apart : ∀k,¬(((splitProps p).typedPart.find k).isSome=true ∧
    ((splitProps p).remainder.find k).isSome=true)

theorem respelled_canonical {k v w : String} (h : canonical k v=some w) : Respelled k v w := by
  rcases canonical_cases k v with hc | ⟨hc,_⟩ | ⟨f,n,hkind,hkey,hn,hc⟩ | ⟨f,b,hkind,hkey,hb,hc⟩
  all_goals rw [hc] at h; cases h
  · exact .inl rfl
  · exact .inr ⟨f,hkey,.inl ⟨hkind,n,hn,rfl⟩⟩
  · exact .inr ⟨f,hkey,.inr ⟨hkind,b,hb,rfl⟩⟩

theorem canonical_eq_none {k v : String} :
    canonical k v=none ↔ v="" ∧ ∃f : Field,f.kind=.text ∧ k=f.key := by
  constructor
  · intro h
    rcases canonical_cases k v with hc | ⟨_,hempty⟩ | ⟨_,_,_,_,_,hc⟩ | ⟨_,_,_,_,_,hc⟩
    · rw [hc] at h
      cases h
    · exact hempty
    all_goals rw [hc] at h; cases h
  · rintro ⟨rfl,f,hkind,rfl⟩
    simp [canonical,ofKey?_key,parse,hkind,nonempty]

variable (p : Props) (k : String)

theorem find_typedPart : (splitProps p).typedPart.find k=
    (p.find k).bind fun v => if accepts k v then canonical k v else none := by
  rw [Stored.typedPart,find_typedToProps,find_empty,or_none,find_typed]

theorem find_remainder : (splitProps p).remainder.find k=
    (p.find k).filter fun v => !accepts k v := by
  have h : (splitProps p).remainder.find k=
      ((splitProps p).extra.find k).or ((splitProps p).residual.find k) := by
    simp [Stored.remainder,mergeProps]
  rw [h,find_extra,find_residual]
  cases hv : p.find k with
  | none => cases hasDRBDPrefix k <;> rfl
  | some v =>
    cases ha : accepts k v with
    | false => simp [ha,Option.filter]
    | true => simp [ha,hasDRBDPrefix_of_accepts ha,Option.filter]

theorem read_again : Same (splitProps (splitProps p).props).props (splitProps p).props := by
  intro k
  rw [find_read,find_read]
  cases hv : p.find k with
  | none => rfl
  | some v =>
    cases hc : canonical k v with
    | none => simp [hc]
    | some w => simp [hc,canonical_idem hc]

/-- A key in the map is in one of the parts unless its text is empty, and never in both. -/
theorem roundTrips_iff : RoundTrips p ↔ ∀f : Field,f.kind=.text → p.find f.key≠some "" := by
  constructor
  · intro h f hkind hv
    have hkeys := h.keys f.key
    have hlost : canonical f.key ""=none := canonical_eq_none.mpr ⟨rfl,f,hkind,rfl⟩
    rw [find_read,hv,bind_some,hlost] at hkeys
    cases hkeys
  · intro h
    have hkept {k v : String} (hv : p.find k=some v) : ∃w,canonical k v=some w := by
      refine ne_none_iff_exists'.mp fun hnone => ?_
      obtain ⟨rfl,f,hkind,rfl⟩ := canonical_eq_none.mp hnone
      exact h f hkind hv
    refine ⟨fun k => ?_,fun k v w hv hw => ?_,read_again p,fun k hk => ?_,fun k hk => ?_⟩
    · rw [find_read]
      cases hv : p.find k with
      | none => rfl
      | some v =>
        obtain ⟨w,hw⟩ := hkept hv
        rw [bind_some,hw]
        rfl
    · rw [find_read,hv,bind_some] at hw
      exact respelled_canonical hw
    · obtain ⟨v,hv⟩ := isSome_iff_exists.mp hk
      obtain ⟨w,hw⟩ := hkept hv
      rw [find_typedPart,find_remainder,hv]
      cases ha : accepts k v <;> simp [ha,hw,Option.filter]
    · rw [find_typedPart,find_remainder] at hk
      cases hv : p.find k with
      | none => simp [hv] at hk
      | some v => cases ha : accepts k v <;> simp [hv,ha,Option.filter] at hk

def emptyProtocol : Props := empty.set protocol.key ""

theorem emptyProtocol_lost : ¬RoundTrips emptyProtocol := by
  intro h
  have hkeys := h.keys protocol.key
  have hlost : canonical protocol.key ""=none :=
    canonical_eq_none.mpr ⟨rfl,.protocol,rfl,rfl⟩
  rw [find_read,emptyProtocol,find_set,if_pos rfl,bind_some,hlost] at hkeys
  cases hkeys

end RoundTrip

end Blockstor.Options
