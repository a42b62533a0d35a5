import Blockstor.Store.CrdName

namespace Blockstor.Naming

open Framework Store K8s String List

section Rule

inductive NameError
  | required (kind : String)
  | exceeds (kind name : String)
  | shorter (kind name : String)
  | notAnIdentifier (kind name : String)

def asciiLetter (c : Char) : Bool := decide ('A' ≤ c ∧ c ≤ 'Z' ∨ 'a' ≤ c ∧ c ≤ 'z')

def asciiDigit (c : Char) : Bool := decide ('0' ≤ c ∧ c ≤ '9')

/-- `^[A-Za-z][A-Za-z0-9_-]{1,47}$` -/
def linstorName (name : String) : Bool :=
  match name.toList with
  | [] => false
  | c::rest => asciiLetter c && (1 ≤ rest.length && rest.length ≤ 47) &&
      rest.all fun c => asciiLetter c || asciiDigit c || c= '_' || c= '-'

def maxLinstorName : Nat := 48

def minLinstorName : Nat := 2

def validateLinstorName (kind name : String) : Except NameError Unit :=
  if name="" then .error (.required kind)
  else if name.utf8ByteSize > maxLinstorName then .error (.exceeds kind name)
  else if name.utf8ByteSize < minLinstorName then .error (.shorter kind name)
  else if !linstorName name then .error (.notAnIdentifier kind name)
  else .ok ()

structure LinstorName where
  text : String
  valid : ∀kind,validateLinstorName kind text=.ok ()

end Rule

section Names

variable (rd node snap : String)

def K8s.resourceCRDName : String := name (rd++"."++node)

def K8s.snapshotCRDName : String := name (rd++"."++snap)

def K8s.crdName (pool : String) : String := name (pool++"."++node)

def Controller.resourceCRDName : String := rd++"."++node

def Controller.autoSnapshotName : String := name rd++"."++snap

def Satellite.observedName : String := name (rd++"."++node)

def Satellite.stampedName : String := rd++"."++node

def Satellite.fetchedSnapshotName : String := name (rd++"."++snap)

def Migrate.objectMeta (original : String) : String := name original

def Migrate.replicaName : String := Migrate.objectMeta (rd++"."++node)

def Migrate.snapshotName : String := Migrate.objectMeta (rd++"."++snap)

def lowerText (s : String) : String := ofList (s.toList.map lowerRune)

def Migrate.poolName (pool node : String) : String :=
  Migrate.objectMeta (lowerText pool++"."++lowerText node)

/-- `lowerAscii` of the validation rules. -/
def lowerAscii (s : String) : List Char := s.toList.map Char.toLower

def NamedAfter (first second name : String) : Prop := lowerAscii name=lowerAscii (first++"."++second)

instance (first second name : String) : Decidable (NamedAfter first second name) :=
  inferInstanceAs (Decidable (_=_))

structure NamesAgree (rd node snap pool : String) : Prop where
  resources : ∀n∈[K8s.resourceCRDName rd node,Controller.resourceCRDName rd node,
    Satellite.observedName rd node,Satellite.stampedName rd node,Migrate.replicaName rd node],
    n=K8s.resourceCRDName rd node ∧ NamedAfter rd node n
  snapshots : ∀n∈[K8s.snapshotCRDName rd snap,Controller.autoSnapshotName rd snap,
    Satellite.fetchedSnapshotName rd snap,Migrate.snapshotName rd snap],
    n=K8s.snapshotCRDName rd snap ∧ NamedAfter rd snap n
  pools : ∀n∈[K8s.crdName node pool,Migrate.poolName pool node],
    n=K8s.crdName node pool ∧ NamedAfter pool node n

end Names

section Accepted

def nameChar (c : Char) : Bool := asciiLetter c || asciiDigit c || c= '_' || c= '-'

theorem LinstorName.spelled (n : LinstorName) : ∃c rest,n.text.toList=c::rest ∧
    asciiLetter c=true ∧ rest.length ≤ 47 ∧ ∀d∈rest,nameChar d=true := by
  have h := n.valid ""
  unfold validateLinstorName at h
  split at h
  · cases h
  split at h
  · cases h
  split at h
  · cases h
  split at h
  · cases h
  rename_i hname
  simp only [Bool.not_eq_true,Bool.not_eq_false'] at hname
  unfold linstorName at hname
  split at hname
  · cases hname
  · rename_i c rest hlist
    simp only [Bool.and_eq_true,decide_eq_true_eq,all_eq_true] at hname
    exact ⟨c,rest,hlist,hname.1.1,hname.1.2.2,hname.2⟩

theorem asciiLetter_range {c : Char} (h : asciiLetter c=true) :
    65 ≤ c.toNat ∧ c.toNat ≤ 90 ∨ 97 ≤ c.toNat ∧ c.toNat ≤ 122 :=
  of_decide_eq_true h

theorem LinstorName.nameChar_mem (n : LinstorName) {c : Char} (hc : c∈n.text.toList) :
    nameChar c=true := by
  obtain ⟨d,rest,hlist,hd,_,hrest⟩ := n.spelled
  rw [hlist] at hc
  rcases mem_cons.mp hc with rfl|hc
  · simp [nameChar,hd]
  · exact hrest c hc

theorem LinstorName.length_le (n : LinstorName) : n.text.toList.length ≤ 48 := by
  obtain ⟨d,rest,hlist,_,hlen,_⟩ := n.spelled
  rw [hlist,length_cons]
  omega

theorem nameChar_toNat {c : Char} (h : nameChar c=true) : c.toNat ≤ 122 ∧ c.toNat≠46 := by
  simp only [nameChar,Bool.or_eq_true,decide_eq_true_eq] at h
  rcases h with ((h|h)|rfl)|rfl
  · have := asciiLetter_range h
    omega
  · have : 48 ≤ c.toNat ∧ c.toNat ≤ 57 := of_decide_eq_true h
    omega
  · decide
  · decide

theorem lowerRune_eq {c : Char} (h : nameChar c=true) : lowerRune c=c.toLower := by
  have := nameChar_toNat h
  unfold lowerRune
  rw [if_neg (by omega),if_neg (by omega)]

theorem toLower_eq_dot {c : Char} (h : c.toLower= '.') : c= '.' := by
  unfold Char.toLower at h
  split at h
  · rename_i hupper
    have h₁ : 65 ≤ c.val.toNat := hupper.1
    have h₂ : c.val.toNat ≤ 90 := hupper.2
    have hval : (c.val+('a'.val - 'A'.val)).toNat=46 := congrArg Char.toNat h
    have h32 : ('a'.val - 'A'.val).toNat=32 := by decide
    rw [UInt32.toNat_add,h32] at hval
    omega
  · exact h

theorem toLower_alphanumeric {c : Char} (h : alphanumeric c=true) : c.toLower=c := by
  have hchar : nameChar c=true := by
    rcases of_decide_eq_true h with hc|hc
    · simp [nameChar,asciiLetter,hc]
    · simp [nameChar,asciiDigit,hc]
  rw [← lowerRune_eq hchar,lowerRune_alphanumeric h]

end Accepted

section Pairs

def folded (s : String) : List Char := s.toList.map lowerRune

theorem label_mem {cs : List Char} (h : label cs=true) {c : Char} (hc : c∈cs) :
    alphanumeric c=true ∨ c= '-' := by
  have hall := ((Bool.and_eq_true _ _).mp h).2
  simpa using all_eq_true.mp hall c hc

theorem folded_of_label {s : String} (h : label s.toList=true) : folded s=s.toList := by
  refine (map_congr_left fun c hc => ?_).trans (map_id _)
  rcases label_mem h hc with hc|rfl
  · exact lowerRune_alphanumeric hc
  · rfl

variable (a b : LinstorName)

theorem dot_notMem : '.'∉a.text.toList := by
  intro h
  exact (nameChar_toNat (a.nameChar_mem h)).2 rfl

theorem dot_notMem_folded : '.'∉folded a.text := by
  intro h
  obtain ⟨c,hc,hdot⟩ := mem_map.mp h
  rw [lowerRune_eq (a.nameChar_mem hc)] at hdot
  obtain rfl := toLower_eq_dot hdot
  exact dot_notMem a hc

theorem folded_pair (s t : String) : folded (s++"."++t)=folded s++ '.'::folded t := by
  simp [folded,lowerRune]

theorem rfc1123_pair : rfc1123 (folded a.text++ '.'::folded b.text)=
    (label (folded a.text) && label (folded b.text)) := by
  rw [rfc1123,Text.splitList_append _ (dot_notMem_folded a),
    Text.splitList_of_notMem (dot_notMem_folded b)]
  simp

theorem name_pair : (label (folded a.text)=true ∧ label (folded b.text)=true ∧
      name (a.text++"."++b.text)=ofList (folded a.text++ '.'::folded b.text)) ∨
    ¬(label (folded a.text)=true ∧ label (folded b.text)=true) ∧
      '.'∉(name (a.text++"."++b.text)).toList := by
  have hlen : (folded a.text++ '.'::folded b.text).length ≤ maxK8sName := by
    have ha := a.length_le
    have hb := b.length_le
    simp only [folded,List.length_append,List.length_cons,List.length_map,maxK8sName] at *
    omega
  have hvalid : ((a.text++"."++b.text).toList.map lowerRune≠[] ∧
      ((a.text++"."++b.text).toList.map lowerRune).length ≤ maxK8sName ∧
      rfc1123 ((a.text++"."++b.text).toList.map lowerRune)=true) ↔
      label (folded a.text)=true ∧ label (folded b.text)=true := by
    change folded (a.text++"."++b.text)≠[] ∧ (folded (a.text++"."++b.text)).length ≤ _ ∧
      rfc1123 (folded (a.text++"."++b.text))=true ↔ _
    rw [folded_pair,rfc1123_pair,Bool.and_eq_true]
    exact ⟨fun h => h.2.2,fun h => ⟨by simp,hlen,h⟩⟩
  rcases name_cases (a.text++"."++b.text) with ⟨h,hname⟩|⟨h,hdot⟩
  · obtain ⟨ha,hb⟩ := hvalid.mp h
    exact .inl ⟨ha,hb,hname.trans (congrArg _ (folded_pair _ _))⟩
  · exact .inr ⟨fun hlabels => h (hvalid.mpr hlabels),hdot⟩

theorem namedAfter_name_iff : NamedAfter a.text b.text (name (a.text++"."++b.text)) ↔
    label (folded a.text)=true ∧ label (folded b.text)=true := by
  have hlower (n : LinstorName) : n.text.toList.map Char.toLower=folded n.text :=
    List.map_congr_left fun c hc => (lowerRune_eq (n.nameChar_mem hc)).symm
  have hpair : lowerAscii (a.text++"."++b.text)=folded a.text++ '.'::folded b.text := by
    have hdot : (".").toList.map Char.toLower=['.'] := rfl
    simp only [lowerAscii,toList_append,List.map_append,hlower,hdot,List.append_assoc,
      List.singleton_append]
  unfold NamedAfter
  rw [hpair]
  rcases name_pair a b with ⟨ha,hb,hname⟩|⟨hno,hdot⟩
  · refine iff_of_true ?_ ⟨ha,hb⟩
    have hfix {cs : List Char} (h : label cs=true) : cs.map Char.toLower=cs := by
      refine (map_congr_left fun c hc => ?_).trans (map_id _)
      rcases label_mem h hc with hc|rfl
      · exact toLower_alphanumeric hc
      · rfl
    rw [hname,lowerAscii,toList_ofList,map_append,map_cons,hfix ha,hfix hb]
    rfl
  · refine iff_of_false (fun h => hdot ?_) hno
    have hmem : '.'∈lowerAscii (name (a.text++"."++b.text)) := by
      rw [h]
      simp
    obtain ⟨c,hc,hlow⟩ := mem_map.mp hmem
    exact toLower_eq_dot hlow ▸ hc

theorem raw_eq_name_iff : a.text++"."++b.text=name (a.text++"."++b.text) ↔
    label a.text.toList=true ∧ label b.text.toList=true := by
  have hraw : (a.text++"."++b.text).toList=a.text.toList++ '.'::b.text.toList := by simp
  constructor
  · intro h
    rcases name_pair a b with ⟨ha,hb,hname⟩|⟨_,hdot⟩
    · have heq : a.text.toList++ '.'::b.text.toList=folded a.text++ '.'::folded b.text := by
        rw [← hraw,h,hname,toList_ofList]
      obtain ⟨hfa,hfb⟩ := append_inj heq (by simp [folded])
      rw [hfa,(cons.inj hfb).2]
      exact ⟨ha,hb⟩
    · rw [← h,hraw] at hdot
      simp at hdot
  · rintro ⟨ha,hb⟩
    have hfa := folded_of_label ha
    have hfb := folded_of_label hb
    rcases name_pair a b with ⟨_,_,hname⟩|⟨hno,_⟩
    · rw [hname,hfa,hfb,← hraw,ofList_toList]
    · rw [hfa,hfb] at hno
      exact absurd ⟨ha,hb⟩ hno

theorem name_of_label {a : LinstorName} (h : label a.text.toList=true) :
    name a.text=a.text := by
  have hfix := folded_of_label h
  have hlen := a.length_le
  obtain ⟨c,rest,hlist,_⟩ := a.spelled
  rcases name_cases a.text with ⟨_,hname⟩|⟨hno,_⟩
  · rw [hname]
    change ofList (folded a.text)=_
    rw [hfix,ofList_toList]
  · refine absurd ?_ hno
    change folded a.text≠[] ∧ (folded a.text).length ≤ maxK8sName ∧
      rfc1123 (folded a.text)=true
    rw [hfix]
    refine ⟨by rw [hlist]; simp,Nat.le_trans hlen (by decide),?_⟩
    rw [rfc1123,Text.splitList_of_notMem (dot_notMem a)]
    simpa using h

theorem folded_lowerText {s : String} (h : label (folded s)=true) :
    folded (lowerText s)=folded s := by
  have hlist : (lowerText s).toList=folded s := toList_ofList
  rw [← hlist] at h
  rw [folded_of_label h,hlist]

theorem poolName_eq (ha : label (folded a.text)=true) (hb : label (folded b.text)=true) :
    Migrate.poolName a.text b.text=name (a.text++"."++b.text) := by
  have hfold : folded (lowerText a.text++"."++lowerText b.text)=folded (a.text++"."++b.text) := by
    rw [folded_pair,folded_pair,folded_lowerText ha,folded_lowerText hb]
  have hdot : '.'∈(name (a.text++"."++b.text)).toList := by
    rcases name_pair a b with ⟨_,_,hname⟩|⟨hno,_⟩
    · simp [hname]
    · exact absurd ⟨ha,hb⟩ hno
  rcases name_cases (a.text++"."++b.text) with ⟨hvalid,hname⟩|⟨_,hno⟩
  · rcases name_cases (lowerText a.text++"."++lowerText b.text) with ⟨_,hname'⟩|⟨hno,_⟩
    · exact hname'.trans ((congrArg ofList hfold).trans hname.symm)
    · refine absurd ?_ hno
      change folded (lowerText a.text++"."++lowerText b.text)≠[] ∧
        (folded (lowerText a.text++"."++lowerText b.text)).length ≤ maxK8sName ∧
        rfc1123 (folded (lowerText a.text++"."++lowerText b.text))=true
      rw [hfold]
      exact hvalid
  · exact absurd hdot hno

end Pairs

section Agreement

variable (rd node snap pool : LinstorName)

theorem named_of_eq {first second name : String} {names : List String} (hall : ∀n∈names,n=name)
    (hrule : NamedAfter first second name) : ∀n∈names,n=name ∧ NamedAfter first second n := by
  intro n hn
  obtain rfl := hall n hn
  exact ⟨rfl,hrule⟩

theorem resources_agree_iff : (∀n∈[K8s.resourceCRDName rd.text node.text,
    Controller.resourceCRDName rd.text node.text,Satellite.observedName rd.text node.text,
    Satellite.stampedName rd.text node.text,Migrate.replicaName rd.text node.text],
    n=K8s.resourceCRDName rd.text node.text ∧ NamedAfter rd.text node.text n) ↔
    label rd.text.toList=true ∧ label node.text.toList=true := by
  constructor
  · intro h
    exact (raw_eq_name_iff rd node).mp (h (Controller.resourceCRDName rd.text node.text)
      (.tail _ (.head _))).1
  · intro h
    have hraw : rd.text++"."++node.text=K8s.resourceCRDName rd.text node.text :=
      (raw_eq_name_iff rd node).mpr h
    have hrule : NamedAfter rd.text node.text (K8s.resourceCRDName rd.text node.text) := by
      rw [← hraw]
      rfl
    refine named_of_eq ?_ hrule
    simp only [forall_mem_cons]
    exact ⟨trivial,hraw,rfl,hraw,rfl,forall_mem_nil _⟩

theorem snapshots_agree_iff (hrd : label rd.text.toList=true) :
    (∀n∈[K8s.snapshotCRDName rd.text snap.text,Controller.autoSnapshotName rd.text snap.text,
      Satellite.fetchedSnapshotName rd.text snap.text,Migrate.snapshotName rd.text snap.text],
      n=K8s.snapshotCRDName rd.text snap.text ∧ NamedAfter rd.text snap.text n) ↔
    label snap.text.toList=true := by
  have hauto : Controller.autoSnapshotName rd.text snap.text=rd.text++"."++snap.text := by
    rw [Controller.autoSnapshotName,name_of_label hrd]
  constructor
  · intro h
    have heq := (h (Controller.autoSnapshotName rd.text snap.text) (.tail _ (.head _))).1
    rw [hauto] at heq
    exact ((raw_eq_name_iff rd snap).mp heq).2
  · intro h
    have hraw : rd.text++"."++snap.text=K8s.snapshotCRDName rd.text snap.text :=
      (raw_eq_name_iff rd snap).mpr ⟨hrd,h⟩
    have hrule : NamedAfter rd.text snap.text (K8s.snapshotCRDName rd.text snap.text) := by
      rw [← hraw]
      rfl
    refine named_of_eq ?_ hrule
    simp only [forall_mem_cons]
    exact ⟨trivial,hauto.trans hraw,rfl,rfl,forall_mem_nil _⟩

theorem pools_agree_iff : (∀n∈[K8s.crdName node.text pool.text,Migrate.poolName pool.text node.text],
    n=K8s.crdName node.text pool.text ∧ NamedAfter pool.text node.text n) ↔
    label (folded pool.text)=true ∧ label (folded node.text)=true := by
  constructor
  · intro h
    exact (namedAfter_name_iff pool node).mp (h (K8s.crdName node.text pool.text) (.head _)).2
  · intro h
    have hrule : NamedAfter pool.text node.text (K8s.crdName node.text pool.text) :=
      (namedAfter_name_iff pool node).mpr h
    have hpool : Migrate.poolName pool.text node.text=K8s.crdName node.text pool.text :=
      poolName_eq pool node h.1 h.2
    refine named_of_eq ?_ hrule
    simp only [forall_mem_cons]
    exact ⟨trivial,hpool,forall_mem_nil _⟩

/-- The names agree just for definitions, nodes and snapshots that are labels in lower case, and pools
that are labels up to case. -/
theorem names_agree_iff : NamesAgree rd.text node.text snap.text pool.text ↔
    K8s.label rd.text.toList=true ∧ K8s.label node.text.toList=true ∧
      K8s.label snap.text.toList=true ∧ K8s.label (folded pool.text)=true := by
  constructor
  · rintro ⟨hres,hsnap,hpool⟩
    obtain ⟨hrd,hnode⟩ := (resources_agree_iff rd node).mp hres
    exact ⟨hrd,hnode,(snapshots_agree_iff rd snap hrd).mp hsnap,
      ((pools_agree_iff node pool).mp hpool).1⟩
  · rintro ⟨hrd,hnode,hsnap,hpool⟩
    have hfold : label (folded node.text)=true := by
      rw [folded_of_label hnode]
      exact hnode
    exact ⟨(resources_agree_iff rd node).mpr ⟨hrd,hnode⟩,(snapshots_agree_iff rd snap hrd).mpr hsnap,
      (pools_agree_iff node pool).mpr ⟨hpool,hfold⟩⟩

def LinstorName.ofText (s : String) (h : linstorName s=true) (hmin : 2 ≤ s.utf8ByteSize)
    (hmax : s.utf8ByteSize ≤ 48) : LinstorName where
  text := s
  valid kind := by
    have hne : s≠"" := by
      rintro rfl
      exact absurd hmin (by decide)
    have hle : ¬s.utf8ByteSize > maxLinstorName := Nat.not_lt.mpr hmax
    have hge : ¬s.utf8ByteSize < minLinstorName := Nat.not_lt.mpr hmin
    rw [validateLinstorName,if_neg hne,if_neg hle,if_neg hge,h]
    rfl

def mixedName : LinstorName := .ofText "My_Vol" (by decide) (by decide) (by decide)

def plainName : LinstorName := .ofText "n1" (by decide) (by decide) (by decide)

theorem mixed_names_differ : ¬NamesAgree mixedName.text plainName.text plainName.text plainName.text := by
  intro h
  obtain ⟨hrd,_⟩ := (resources_agree_iff mixedName plainName).mp h.resources
  exact absurd hrd (by decide)

end Agreement

end Blockstor.Naming
