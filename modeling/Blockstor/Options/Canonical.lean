import Blockstor.Options.RoundTrip

namespace Blockstor.Options

open Framework Field DRBDOptions Option

section Determined

variable {a b : DRBDOptions}

structure DRBDOptions.Same (a b : DRBDOptions) : Prop where
  net : a.net=b.net
  disk : a.disk=b.disk
  peerDevice : a.peerDevice=b.peerDevice
  resource : a.resource=b.resource
  handlers : Dict.Same a.handlers b.handlers

theorem nonempty_inj {s t : String} (h : nonempty s=nonempty t) : s=t := by
  unfold nonempty at h
  split at h <;> split at h <;> simp_all

theorem formatInt32_inj {m n : Option Int32} (h : m.map formatInt32=n.map formatInt32) : m=n := by
  have hinj : Function.Injective formatInt32 := fun x y hxy => by
    have hx := parseInt32_formatInt32 x
    rw [hxy,parseInt32_formatInt32] at hx
    exact (some.inj hx).symm
  exact map_injective hinj h

theorem formatBool_inj {x y : Option Bool} (h : x.map formatBool=y.map formatBool) : x=y := by
  have hinj : Function.Injective formatBool := fun x y hxy => by
    have hx := parseBool_formatBool x
    rw [hxy,parseBool_formatBool] at hx
    exact (some.inj hx).symm
  exact map_injective hinj h

theorem net_eq (htext : ∀f,f.sec=.net → a.text f=b.text f) (hhas : a.has .net=b.has .net)
    (hsecret : a.sharedSecretRef=b.sharedSecretRef) : a.net=b.net := by
  obtain ⟨anet,_,_,_,_⟩ := a
  obtain ⟨bnet,_,_,_,_⟩ := b
  cases anet <;> cases bnet <;> first | rfl | cases hhas
  rename_i x y
  have h (f : Field) (hf : f.sec=.net) : x.text f=y.text f := by
    have h := htext f hf
    simpa only [text,hf,bind_some] using h
  obtain ⟨_,_,_,_,_,_,_⟩ := x
  obtain ⟨_,_,_,_,_,_,_⟩ := y
  have h1 := nonempty_inj (h .protocol rfl)
  have h2 := formatBool_inj (h .allowTwoPrimaries rfl)
  have h3 := formatInt32_inj (h .maxBuffers rfl)
  have h4 := nonempty_inj (h .afterSb0Pri rfl)
  have h5 := nonempty_inj (h .afterSb1Pri rfl)
  have h6 := nonempty_inj (h .afterSb2Pri rfl)
  simp only [sharedSecretRef,bind_some] at hsecret
  simp only at h1 h2 h3 h4 h5 h6 hsecret
  rw [h1,h2,h3,h4,h5,h6,hsecret]

theorem disk_eq (htext : ∀f,f.sec=.disk → a.text f=b.text f) (hhas : a.has .disk=b.has .disk) :
    a.disk=b.disk := by
  obtain ⟨_,adisk,_,_,_⟩ := a
  obtain ⟨_,bdisk,_,_,_⟩ := b
  cases adisk <;> cases bdisk <;> first | rfl | cases hhas
  rename_i x y
  have h (f : Field) (hf : f.sec=.disk) : x.text f=y.text f := by
    have h := htext f hf
    simpa only [text,hf,bind_some] using h
  obtain ⟨_,_⟩ := x
  obtain ⟨_,_⟩ := y
  have h1 := nonempty_inj (h .onIOError rfl)
  have h2 := formatInt32_inj (h .alExtents rfl)
  simp only at h1 h2
  rw [h1,h2]

theorem peerDevice_eq (htext : ∀f,f.sec=.peerDevice → a.text f=b.text f)
    (hhas : a.has .peerDevice=b.has .peerDevice) : a.peerDevice=b.peerDevice := by
  obtain ⟨_,_,apeer,_,_⟩ := a
  obtain ⟨_,_,bpeer,_,_⟩ := b
  cases apeer <;> cases bpeer <;> first | rfl | cases hhas
  rename_i x y
  obtain ⟨_⟩ := x
  obtain ⟨_⟩ := y
  have h1 := nonempty_inj (htext .cMaxRate rfl)
  simp only at h1
  rw [h1]

theorem resource_eq (htext : ∀f,f.sec=.resource → a.text f=b.text f)
    (hhas : a.has .resource=b.has .resource) : a.resource=b.resource := by
  obtain ⟨_,_,_,ares,_⟩ := a
  obtain ⟨_,_,_,bres,_⟩ := b
  cases ares <;> cases bres <;> first | rfl | cases hhas
  rename_i x y
  have h (f : Field) (hf : f.sec=.resource) : x.text f=y.text f := by
    have h := htext f hf
    simpa only [text,hf,bind_some] using h
  obtain ⟨_,_,_,_⟩ := x
  obtain ⟨_,_,_,_⟩ := y
  have h1 := formatBool_inj (h .autoPromote rfl)
  have h2 := nonempty_inj (h .quorum rfl)
  have h3 := nonempty_inj (h .onNoQuorum rfl)
  have h4 := formatBool_inj (h .autoTieBreaker rfl)
  simp only at h1 h2 h3 h4
  rw [h1,h2,h3,h4]

/-- The options are determined by the texts of the fields, the sections that are there, the secret
and the handlers. -/
theorem DRBDOptions.same_iff : a.Same b ↔ (∀f,a.text f=b.text f) ∧ (∀s,a.has s=b.has s) ∧
    a.sharedSecretRef=b.sharedSecretRef ∧ Dict.Same a.handlers b.handlers := by
  constructor
  · rintro ⟨hnet,hdisk,hpeer,hres,hhandlers⟩
    refine ⟨fun f => ?_,fun s => ?_,?_,hhandlers⟩
    · simp only [text,hnet,hdisk,hpeer,hres]
    · cases s <;> simp only [has,hnet,hdisk,hpeer,hres]
    · simp only [sharedSecretRef,hnet]
  · rintro ⟨htext,hhas,hsecret,hhandlers⟩
    exact ⟨net_eq (fun f _ => htext f) (hhas .net) hsecret,disk_eq (fun f _ => htext f) (hhas .disk),
      peerDevice_eq (fun f _ => htext f) (hhas .peerDevice),
      resource_eq (fun f _ => htext f) (hhas .resource),hhandlers⟩

end Determined

section Values

variable {o : DRBDOptions} {f : Field} {k v : String}

theorem parse_nonempty {s : String} (hkind : f.kind=.text) (h : nonempty s=some v) :
    f.parse v=some (some v) := by
  unfold nonempty at h
  split at h <;> cases h
  rename_i hne
  simp [parse,hkind,nonempty,hne]

theorem parse_formatInt32 {m : Option Int32} (hkind : f.kind=.integer)
    (h : m.map formatInt32=some v) : f.parse v=some (some v) := by
  obtain ⟨n,rfl,rfl⟩ := map_eq_some_iff.mp h
  simp [parse,hkind,parseInt32_formatInt32]

theorem parse_formatBool {x : Option Bool} (hkind : f.kind=.boolean)
    (h : x.map formatBool=some v) : f.parse v=some (some v) := by
  obtain ⟨b,rfl,rfl⟩ := map_eq_some_iff.mp h
  simp [parse,hkind,parseBool_formatBool]

theorem parse_text (h : o.text f=some v) : f.parse v=some (some v) := by
  obtain ⟨net,disk,peerDev,res,_⟩ := o
  cases f with
  | protocol | afterSb0Pri | afterSb1Pri | afterSb2Pri =>
    obtain ⟨_,_,h⟩ := bind_eq_some_iff.mp h
    exact parse_nonempty rfl h
  | onIOError | cMaxRate | quorum | onNoQuorum =>
    obtain ⟨_,_,h⟩ := bind_eq_some_iff.mp h
    exact parse_nonempty rfl h
  | maxBuffers | alExtents =>
    obtain ⟨_,_,h⟩ := bind_eq_some_iff.mp h
    exact parse_formatInt32 rfl h
  | allowTwoPrimaries | autoPromote | autoTieBreaker =>
    obtain ⟨_,_,h⟩ := bind_eq_some_iff.mp h
    exact parse_formatBool rfl h

theorem value_key (o : DRBDOptions) (f : Field) : o.value f.key=o.text f := by
  rw [value,f.not_handler,ofKey?_key]
  rfl

theorem value_handler (o : DRBDOptions) (n : String) :
    o.value (handlersPrefix++n)=o.handlers.find n := by
  rw [value,cut_append,ofKey?_handler]
  simp

theorem value_cases (h : o.value k=some v) : (∃f : Field,k=f.key ∧ o.text f=some v) ∨
    ∃n,k=handlersPrefix++n ∧ o.handlers.find n=some v := by
  cases hf : ofKey? k with
  | some f =>
    obtain rfl := ofKey?_eq_some.mp hf
    exact .inl ⟨f,rfl,value_key o f ▸ h⟩
  | none =>
    cases hc : Text.cutPrefix handlersPrefix k with
    | some n =>
      obtain rfl := Text.cutPrefix_eq_some.mp hc
      exact .inr ⟨n,rfl,value_handler o n ▸ h⟩
    | none =>
      rw [value,hf,hc] at h
      cases h

theorem accepts_value (h : o.value k=some v) : accepts k v=true := by
  rcases value_cases h with ⟨f,rfl,htext⟩ | ⟨n,rfl,_⟩
  · rw [accepts_key,parse_text htext]
    rfl
  · exact accepts_handler n v

theorem opens_handler (n v : String) (s : Section) : opens (handlersPrefix++n) v s=false := by
  have hkey : handlersPrefix++n=propsKVPrefix++("Handlers/"++n) := by
    rw [show handlersPrefix=propsKVPrefix++"Handlers/" from rfl,String.append_assoc]
  have htie : "Handlers/"++n≠autoTieBreaker.name := by
    intro h
    have hkey' := hkey.trans (congrArg (propsKVPrefix++·) h)
    exact ofKey?_eq_none.mp (ofKey?_handler n) .autoTieBreaker
      (hkey'.trans key_tieBreaker.symm)
  rw [hkey,opens_append,cut_handlers]
  simp [htie]

end Values

section Rebuild

def Stored.options (s : Stored) : DRBDOptions := s.typed.getD .empty

structure Stored.Same (a b : Stored) : Prop where
  typed : Rel DRBDOptions.Same a.typed b.typed
  residual : Dict.Same a.residual b.residual
  extra : Dict.Same a.extra b.extra

structure Stored.Canonical (s : Stored) : Prop where
  residual : ∀k,hasDRBDPrefix k=true → s.residual.find k=none
  /-- What lies beside the options they would not take, and do not set. -/
  extra : ∀k v,hasDRBDPrefix k=true → s.extra.find k=some v →
    accepts k v=false ∧ s.options.value k=none
  /-- A section is there for a field or for a name in it that is not known. -/
  sections : ∀sec,s.options.has sec=true ↔ (∃f : Field,f.sec=sec ∧ s.options.text f≠none) ∨
    ∃k v,s.extra.find k=some v ∧ (Text.cutPrefix (propsKVPrefix++sec.word) k).isSome=true
  secret : s.options.sharedSecretRef=none
  nonempty : ∀o,s.typed=some o → isEmptyDRBDOptions o=false

variable {s : Stored} {w : Props} {k v : String}

theorem Stored.find_props_options (s : Stored) (k : String) :
    s.props.find k=(s.options.value k).or ((s.extra.find k).or (s.residual.find k)) := by
  rw [find_props]
  cases h : s.typed with
  | some o => simp [options,h]
  | none =>
    have hempty : empty.value k=none := value_of_isEmpty k rfl
    simp [options,h,hempty]

theorem isEmptyDRBDOptions_iff {o : DRBDOptions} : isEmptyDRBDOptions o=true ↔ o.Same .empty := by
  obtain ⟨net,disk,peerDev,res,handlers⟩ := o
  simp only [isEmptyDRBDOptions,Bool.and_eq_true,isNone_iff_eq_none,List.isEmpty_iff]
  constructor
  · rintro ⟨⟨⟨⟨rfl,rfl⟩,rfl⟩,rfl⟩,hitems⟩
    refine ⟨rfl,rfl,rfl,rfl,fun n => Dict.find_eq_none.mpr fun v hv => ?_⟩
    rw [hitems] at hv
    cases hv
  · rintro ⟨rfl,rfl,rfl,rfl,hsame⟩
    refine ⟨⟨⟨⟨rfl,rfl⟩,rfl⟩,rfl⟩,List.eq_nil_iff_forall_not_mem.mpr fun x hx => ?_⟩
    exact Dict.find_eq_none.mp (hsame x.1) x.2 hx

theorem DRBDOptions.Same.symm {a b : DRBDOptions} (h : a.Same b) : b.Same a :=
  ⟨h.net.symm,h.disk.symm,h.peerDevice.symm,h.resource.symm,fun n => (h.handlers n).symm⟩

theorem DRBDOptions.Same.trans {a b c : DRBDOptions} (h : a.Same b) (h' : b.Same c) : a.Same c :=
  ⟨h.net.trans h'.net,h.disk.trans h'.disk,h.peerDevice.trans h'.peerDevice,
    h.resource.trans h'.resource,fun n => (h.handlers n).trans (h'.handlers n)⟩

theorem rel_typed_iff {o : DRBDOptions} {t : Option DRBDOptions} :
    Rel Same (if isEmptyDRBDOptions o then none else some o) t ↔
      o.Same (t.getD .empty) ∧ ∀x,t=some x → isEmptyDRBDOptions x=false := by
  have hempty {x : DRBDOptions} (h : o.Same x) (hx : isEmptyDRBDOptions x=true) :
      isEmptyDRBDOptions o=true :=
    isEmptyDRBDOptions_iff.mpr (h.trans (isEmptyDRBDOptions_iff.mp hx))
  cases t with
  | none =>
    simp only [getD_none,reduceCtorEq,false_implies,implies_true,and_true]
    rw [← isEmptyDRBDOptions_iff]
    split
    · simp [*]
    · rename_i h
      refine iff_of_false ?_ h
      rintro ⟨⟩
  | some x =>
    simp only [getD_some,some.injEq,forall_eq']
    split
    · rename_i h
      refine iff_of_false nofun fun hx => ?_
      have hsame := isEmptyDRBDOptions_iff.mpr (hx.1.symm.trans (isEmptyDRBDOptions_iff.mp h))
      rw [hsame] at hx
      cases hx.2
    · rename_i h
      rw [rel_some_some]
      refine ⟨fun hx => ⟨hx,?_⟩,And.left⟩
      exact Bool.eq_false_iff.mpr fun hx' => h (hempty hx hx')

section Same

variable (hw : ∀k,hasDRBDPrefix k=true → w.find k=s.props.find k)
  (hres : ∀k,hasDRBDPrefix k=true → s.residual.find k=none)
  (hextra : ∀k v,hasDRBDPrefix k=true → s.extra.find k=some v →
    accepts k v=false ∧ s.options.value k=none)

include hw hres

theorem find_drbd (hk : hasDRBDPrefix k=true) :
    w.find k=(s.options.value k).or (s.extra.find k) := by
  rw [hw k hk,s.find_props_options,hres k hk,or_none]

theorem find_field (f : Field) : w.find f.key=(s.options.text f).or (s.extra.find f.key) := by
  rw [find_drbd hw hres f.hasDRBDPrefix_key,value_key]

theorem find_handler (n : String) : w.find (handlersPrefix++n)=
    (s.options.handlers.find n).or (s.extra.find (handlersPrefix++n)) := by
  rw [find_drbd hw hres (hasDRBDPrefix_handler n),value_handler]

include hextra

theorem opened_iff (sec : Section) : (∃k v,w.find k=some v ∧ opens k v sec=true) ↔
    (∃f : Field,f.sec=sec ∧ s.options.text f≠none) ∨
    ∃k v,s.extra.find k=some v ∧ (Text.cutPrefix (propsKVPrefix++sec.word) k).isSome=true := by
  constructor
  · rintro ⟨k,v,hv,hopen⟩
    have hk : hasDRBDPrefix k=true := by
      by_contra h
      rw [opens_plain (Bool.eq_false_iff.mpr h)] at hopen
      cases hopen
    rw [find_drbd hw hres hk] at hv
    cases hval : s.options.value k with
    | some u =>
      rcases value_cases hval with ⟨f,rfl,htext⟩ | ⟨n,rfl,_⟩
      · refine .inl ⟨f,?_,by rw [htext]; nofun⟩
        rw [opens_key,Bool.and_eq_true,decide_eq_true_eq] at hopen
        exact hopen.2.symm
      · rw [opens_handler] at hopen
        cases hopen
    | none =>
      rw [hval,none_or] at hv
      refine .inr ⟨k,v,hv,?_⟩
      unfold opens at hopen
      rcases Bool.or_eq_true_iff.mp hopen with hword | htie
      · exact hword
      · -- a tie breaker with a truth value would have been taken
        simp only [Bool.and_eq_true,decide_eq_true_eq] at htie
        obtain ⟨⟨_,rfl⟩,hparse⟩ := htie
        have hno := (hextra _ v hk hv).1
        rw [accepts_key,parse_boolean v rfl,isSome_map,hparse] at hno
        cases hno
  · rintro (⟨f,rfl,htext⟩|⟨k,v,hv,hword⟩)
    · obtain ⟨v,hv⟩ := ne_none_iff_exists'.mp htext
      refine ⟨f.key,v,by rw [find_field hw hres,hv]; rfl,?_⟩
      rw [opens_key,parse_text hv]
      simp
    · have hopen : opens k v sec=true := by
        unfold opens
        rw [hword,Bool.true_or]
      have hk : hasDRBDPrefix k=true := by
        by_contra h
        rw [opens_plain (Bool.eq_false_iff.mpr h)] at hopen
        cases hopen
      refine ⟨k,v,?_,hopen⟩
      rw [find_drbd hw hres hk,(hextra k v hk hv).2,hv]
      rfl

end Same

/-- Properties that agree with the stored ones on the DRBD keys are split into the same content again
just when the content is canonical and the two maps hold the other keys alike. -/
theorem same_split_iff (hw : ∀k,hasDRBDPrefix k=true → w.find k=s.props.find k) :
    (splitProps w).Same s ↔ s.Canonical ∧ ∀k,hasDRBDPrefix k=false →
      s.residual.find k=w.find k ∧ s.extra.find k=w.find k := by
  have hloop := splits_loop w
  have htyped : (splitProps w).typed=
      if isEmptyDRBDOptions (w.items.foldl typeProperty (.empty,.empty)).1 then none
      else some (w.items.foldl typeProperty (.empty,.empty)).1 := rfl
  generalize w.items.foldl typeProperty (.empty,.empty)=acc at hloop htyped
  constructor
  · rintro ⟨hrel,hresidual,hextras⟩
    rw [htyped,rel_typed_iff] at hrel
    obtain ⟨hsame,hne⟩ := hrel
    obtain ⟨htext,hhas,hsecret,hhandlers⟩ := same_iff.mp hsame
    have hres (k : String) (hk : hasDRBDPrefix k=true) : s.residual.find k=none := by
      rw [← hresidual,find_residual,hk]
      rfl
    have hextra (k v : String) (hk : hasDRBDPrefix k=true) (hv : s.extra.find k=some v) :
        accepts k v=false ∧ s.options.value k=none := by
      rw [← hextras,find_extra,filter_eq_some_iff,Bool.not_eq_true'] at hv
      refine ⟨hv.2,?_⟩
      cases hval : s.options.value k with
      | none => rfl
      | some u =>
        rw [find_drbd hw hres hk,hval] at hv
        cases hv.1
        rw [accepts_value hval] at hv
        cases hv.2
    refine ⟨⟨hres,hextra,fun sec => ?_,?_,hne⟩,fun k hk => ⟨?_,?_⟩⟩
    · rw [← opened_iff hw hres hextra,← hloop.has,hhas]
      rfl
    · exact hsecret.symm.trans hloop.secret
    · rw [← hresidual,find_residual,hk]
      rfl
    · have hno (v : String) : accepts k v=false := by
        refine Bool.eq_false_iff.mpr fun h => ?_
        rw [hasDRBDPrefix_of_accepts h] at hk
        cases hk
      rw [← hextras,find_extra]
      cases w.find k <;> simp [hno,Option.filter]
  · rintro ⟨hcan,hplain⟩
    have hno {k : String} (hk : hasDRBDPrefix k=false) (v : String) : accepts k v=false := by
      refine Bool.eq_false_iff.mpr fun h => ?_
      rw [hasDRBDPrefix_of_accepts h] at hk
      cases hk
    refine ⟨?_,fun k => ?_,fun k => ?_⟩
    · rw [htyped,rel_typed_iff]
      refine ⟨DRBDOptions.same_iff.mpr ⟨fun f => ?_,fun sec => ?_,?_,fun n => ?_⟩,hcan.nonempty⟩
      · rw [hloop.text,find_field hw hcan.residual]
        change _=s.options.text f
        cases htext : s.options.text f with
        | some v => simp [parse_text htext]
        | none =>
          cases hx : s.extra.find f.key with
          | none => rfl
          | some v =>
            have hrefused := (hcan.extra _ v f.hasDRBDPrefix_key hx).1
            rw [accepts_key,isSome_eq_false_iff,isNone_iff_eq_none] at hrefused
            simp [hrefused]
      · rw [Bool.eq_iff_iff,hloop.has,opened_iff hw hcan.residual hcan.extra]
        exact (hcan.sections sec).symm
      · exact hloop.secret.trans hcan.secret.symm
      · rw [hloop.handlers,find_handler hw hcan.residual]
        change _=s.options.handlers.find n
        cases hx : s.extra.find (handlersPrefix++n) with
        | none => rw [or_none]
        | some v =>
          have hrefused := (hcan.extra _ v (hasDRBDPrefix_handler n) hx).1
          rw [accepts_handler] at hrefused
          cases hrefused
    · rw [find_residual]
      cases hk : hasDRBDPrefix k with
      | true => exact (hcan.residual k hk).symm
      | false => exact (hplain k hk).1.symm
    · rw [find_extra]
      cases hk : hasDRBDPrefix k with
      | true =>
        rw [find_drbd hw hcan.residual hk]
        cases hval : s.options.value k with
        | some u =>
          cases hx : s.extra.find k with
          | none => simp [Option.filter,accepts_value hval]
          | some v =>
            rw [(hcan.extra k v hk hx).2] at hval
            cases hval
        | none =>
          cases hx : s.extra.find k with
          | none => rfl
          | some v => simp [Option.filter,(hcan.extra k v hk hx).1]
      | false =>
        rw [(hplain k hk).2]
        cases w.find k <;> simp [hno hk,Option.filter]

end Rebuild

end Blockstor.Options
