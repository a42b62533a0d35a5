import Blockstor.Framework.Text
import Blockstor.Storage.Provider

namespace Blockstor.Storage

open Framework Shell Text String

/-- The wire rule for names: `^[A-Za-z][A-Za-z0-9_-]{1,47}$`. -/
def linstorName (s : String) : Bool :=
  match s.toList with
  | [] => false
  | c::cs => c.isAlpha && decide (1 ≤ cs.length ∧ cs.length ≤ 47) &&
      cs.all fun c => c.isAlphanum || c= '_' || c= '-'

structure VolumeRef where
  resourceName : String
  volumeNumber : Int
  deriving DecidableEq

def VolumeRef.lvName (ref : VolumeRef) : String := volumeName ⟨ref.resourceName,ref.volumeNumber,0⟩

def lvNumberDigits : Nat := 5

def parseLVName (name : String) : Option VolumeRef :=
  match cutLast '_' name with
  | none => none
  | some (resource,suffix) =>
    if suffix.length≠lvNumberDigits then none
    else (parseInt64 suffix).map fun n => ⟨resource,n⟩

/-- One row of `lvs -o lv_name,lv_attr`, with the first character of the attributes. -/
structure LVRow where
  name : String
  volType : Char
  deriving DecidableEq

def listLVMVolumes (rows : List LVRow) : List VolumeRef :=
  rows.filterMap fun row =>
    if row.volType≠ '-' ∧ row.volType≠ 'V' then none else parseLVName row.name

inductive Object
  | volume (ref : VolumeRef)
  | snapshot (snap : Snapshot)
  deriving DecidableEq

def snapshotLVName (snap : Snapshot) : String :=
  snap.resourceName++"_"++snap.snapshotName++"_00000"

def Object.lvName : Object → String
  | .volume ref => ref.lvName
  | .snapshot snap => snapshotLVName snap

/-- The volume an object's name reads as: a snapshot reads as volume 0 of a resource whose name
joins the two of the snapshot. -/
def Object.alias : Object → VolumeRef
  | .volume ref => ref
  | .snapshot snap => ⟨snap.resourceName++"_"++snap.snapshotName,0⟩

def Object.accepted : Object → Bool
  | .volume ref => linstorName ref.resourceName && decide (0 ≤ ref.volumeNumber) &&
      decide (ref.volumeNumber ≤ 99999)
  | .snapshot snap => linstorName snap.resourceName && linstorName snap.snapshotName

section Digits

variable {n : Int}

theorem toDigits_length_le {n : Nat} (h : n ≤ 99999) : (Nat.toDigits 10 n).length ≤ 5 :=
  (Nat.length_toDigits_le_iff (by decide) (by decide)).mpr (by omega)

theorem toList_leftPad (width n : Nat) : (leftPad width (toString n)).toList=
    List.replicate (width-(Nat.toDigits 10 n).length) '0' ++Nat.toDigits 10 n := by
  rw [leftPad,toList_ofList,Nat.toString_eq_ofList_toDigits,toList_ofList,
    length_ofList]

theorem isDigit_of_mem_leftPad {width n : Nat} {c : Char}
    (hc : c∈(leftPad width (toString n)).toList) : c.isDigit=true := by
  rw [toList_leftPad] at hc
  rcases List.mem_append.mp hc with hc|hc
  · obtain rfl := List.eq_of_mem_replicate hc
    decide
  · exact Nat.isDigit_of_mem_toDigits (by decide) (by decide) hc

theorem leftPad_inj {width m n : Nat}
    (h : leftPad width (toString m)=leftPad width (toString n)) : m=n := by
  have hvalue (k : Nat) : Nat.ofDigitChars 10 (leftPad width (toString k)).toList 0=k := by
    rw [toList_leftPad,ofDigitChars_zeros,Nat.ofDigitChars_toDigits (by decide) (by decide)]
  rw [← hvalue m,h,hvalue n]

theorem minus_leftPad_ne {width width' m n : Nat} :
    "-"++leftPad width (toString m)≠leftPad width' (toString n) := by
  intro h
  have hmem : '-' ∈(leftPad width' (toString n)).toList := by
    rw [← h]
    simp
  exact absurd (isDigit_of_mem_leftPad hmem) (by decide)

theorem fiveDigits_inj {m n : Int} (h : fiveDigits m=fiveDigits n) : m=n := by
  unfold fiveDigits at h
  split_ifs at h with hm hn hn
  · have := leftPad_inj h
    omega
  · exact absurd h.symm minus_leftPad_ne
  · exact absurd h minus_leftPad_ne
  · have := leftPad_inj (append_right_inj "-" |>.mp h)
    omega

theorem not_mem_fiveDigits (n : Int) {c : Char} (hdigit : c.isDigit=false) (hsign : c≠ '-') :
    c∉(fiveDigits n).toList := by
  have hpad (width n : Nat) : c∉(leftPad width (toString n)).toList := by
    intro h
    rw [isDigit_of_mem_leftPad h] at hdigit
    cases hdigit
  unfold fiveDigits
  split
  · exact hpad _ _
  · simpa [hsign] using hpad _ _

theorem fiveDigits_toList (h0 : 0 ≤ n) :
    (fiveDigits n).toList=List.replicate (5-(Nat.toDigits 10 n.toNat).length) '0'++
      Nat.toDigits 10 n.toNat := by
  rw [fiveDigits,if_pos h0,toList_leftPad]

theorem fiveDigits_isDigit (h0 : 0 ≤ n) : ∀c∈(fiveDigits n).toList,c.isDigit=true := by
  rw [fiveDigits,if_pos h0]
  exact fun c hc => isDigit_of_mem_leftPad hc

theorem fiveDigits_length (h0 : 0 ≤ n) (h1 : n ≤ 99999) : (fiveDigits n).length=5 := by
  have hle := toDigits_length_le (n := n.toNat) (by omega)
  rw [← length_toList,fiveDigits_toList h0,List.length_append,List.length_replicate]
  omega

theorem parseInt64_fiveDigits (h0 : 0 ≤ n) (h1 : n ≤ 99999) :
    parseInt64 (fiveDigits n)=some n := by
  have hlen := fiveDigits_length h0 h1
  have hne : (fiveDigits n).toList≠[] := by
    intro he
    rw [← length_toList,he] at hlen
    cases hlen
  have hvalue : Nat.ofDigitChars 10 (fiveDigits n).toList 0=n.toNat := by
    rw [fiveDigits_toList h0,ofDigitChars_zeros,
      Nat.ofDigitChars_toDigits (by decide) (by decide)]
  rw [parseInt64,parseSigned_of_isDigit hne (fiveDigits_isDigit h0),hvalue,
    show Int.ofNat n.toNat=n from Int.toNat_of_nonneg h0,Option.filter_some,if_pos (by simp; omega)]

theorem not_mem_of_isDigit {c : Char} (h0 : 0 ≤ n) (hc : c.isDigit=false) :
    c∉(fiveDigits n).toList := by
  intro hmem
  rw [fiveDigits_isDigit h0 c hmem] at hc
  cases hc

theorem volumeName_ne {rd : String} {m n size size' : Int} (h : m≠n) :
    volumeName ⟨rd,m,size⟩≠volumeName ⟨rd,n,size'⟩ ∧
      volumeName ⟨rd,m,size⟩≠freshLVName (volumeName ⟨rd,n,size'⟩) := by
  unfold volumeName freshLVName
  constructor
  · intro heq
    exact h (fiveDigits_inj (append_right_inj _ |>.mp heq))
  · intro heq
    have hassoc : rd++"_"++fiveDigits n++".bsnew"=rd++"_"++(fiveDigits n++".bsnew") :=
      append_assoc
    have hdigits := append_right_inj _ |>.mp (heq.trans hassoc)
    refine not_mem_fiveDigits m (c := '.') (by decide) (by decide) ?_
    rw [hdigits]
    simp

end Digits

section Names

variable {ref : VolumeRef}

theorem VolumeRef.lvName_eq : ref.lvName=
    ref.resourceName++singleton '_'++fiveDigits ref.volumeNumber := rfl

theorem parseLVName_lvName (h0 : 0 ≤ ref.volumeNumber) (h1 : ref.volumeNumber ≤ 99999) :
    parseLVName ref.lvName=some ref := by
  have hcut : cutLast '_' ref.lvName=some (ref.resourceName,fiveDigits ref.volumeNumber) := by
    rw [ref.lvName_eq]
    exact cutLast_append _ (not_mem_of_isDigit h0 (by decide))
  have hlen : ¬(fiveDigits ref.volumeNumber).length≠lvNumberDigits :=
    not_not.mpr (fiveDigits_length h0 h1)
  unfold parseLVName
  simp only [hcut,if_neg hlen,parseInt64_fiveDigits h0 h1,Option.map_some]

theorem parseLVName_freshLVName (h0 : 0 ≤ ref.volumeNumber) (h1 : ref.volumeNumber ≤ 99999) :
    parseLVName (freshLVName ref.lvName)=none := by
  have hname : freshLVName ref.lvName=ref.resourceName++singleton '_'++
      (fiveDigits ref.volumeNumber++".bsnew") := by
    rw [freshLVName,ref.lvName_eq,append_assoc]
  have hcut : cutLast '_' (freshLVName ref.lvName)=
      some (ref.resourceName,fiveDigits ref.volumeNumber++".bsnew") := by
    rw [hname]
    apply cutLast_append
    have hdigits := not_mem_of_isDigit (c := '_') h0 (by decide)
    simpa using hdigits
  have hlen : (fiveDigits ref.volumeNumber++".bsnew").length≠lvNumberDigits := by
    rw [length_append,fiveDigits_length h0 h1]
    decide
  unfold parseLVName
  simp only [hcut,if_pos hlen]

theorem VolumeRef.lvName_inj {ref' : VolumeRef} (h0 : 0 ≤ ref.volumeNumber)
    (h1 : ref.volumeNumber ≤ 99999) (h0' : 0 ≤ ref'.volumeNumber)
    (h1' : ref'.volumeNumber ≤ 99999) (h : ref.lvName=ref'.lvName) : ref=ref' := by
  have hparse := parseLVName_lvName h0 h1
  rw [h,parseLVName_lvName h0' h1'] at hparse
  exact (Option.some.inj hparse).symm

theorem linstorName_not_mem {s : String} (h : linstorName s=true) {c : Char}
    (halpha : c.isAlpha=false) (hrest : (c.isAlphanum || c= '_' || c= '-')=false) :
    c∉s.toList := by
  intro hc
  unfold linstorName at h
  split at h
  · cases h
  · rename_i d cs hs
    rw [hs] at hc
    rw [Bool.and_eq_true,Bool.and_eq_true,List.all_eq_true] at h
    rcases List.mem_cons.mp hc with rfl|hc
    · exact absurd h.1.1 (by rw [halpha]; exact Bool.false_ne_true)
    · exact absurd (h.2 _ hc) (by rw [hrest]; exact Bool.false_ne_true)

theorem VolumeRef.lvName_ne_fresh (hname : linstorName ref.resourceName=true)
    (h0 : 0 ≤ ref.volumeNumber) (final : String) : ref.lvName≠freshLVName final := by
  intro h
  have hdot : '.'∈ref.lvName.toList := by
    rw [h,freshLVName]
    simp
  rw [ref.lvName_eq] at hdot
  have hdigits := not_mem_of_isDigit (c := '.') h0 (by decide)
  simp [linstorName_not_mem hname (c := '.') (by decide) (by decide),hdigits] at hdot

theorem freshLVName_inj {final final' : String} (h : freshLVName final=freshLVName final') :
    final=final' := by
  simpa [freshLVName] using h

end Names

section Objects

variable {o o' : Object}

theorem Object.lvName_alias (o : Object) : o.lvName=o.alias.lvName := by
  cases o with
  | volume ref => rfl
  | snapshot snap =>
    change snapshotLVName snap=volumeName ⟨snap.resourceName++"_"++snap.snapshotName,0,0⟩
    rw [volumeName,show fiveDigits 0="00000" from rfl,append_assoc]
    rfl

theorem Object.alias_range (h : o.accepted=true) :
    0 ≤ o.alias.volumeNumber ∧ o.alias.volumeNumber ≤ 99999 := by
  cases o with
  | volume ref =>
    simp only [Object.accepted,Bool.and_eq_true,decide_eq_true_eq] at h
    exact ⟨h.1.2,h.2⟩
  | snapshot snap =>
    change (0 : Int) ≤ 0 ∧ (0 : Int) ≤ 99999
    decide

theorem Object.lvName_eq_iff (h : o.accepted=true) (h' : o'.accepted=true) :
    o.lvName=o'.lvName ↔ o.alias=o'.alias := by
  rw [o.lvName_alias,o'.lvName_alias]
  constructor
  · intro heq
    obtain ⟨h0,h1⟩ := Object.alias_range h
    obtain ⟨h0',h1'⟩ := Object.alias_range h'
    exact VolumeRef.lvName_inj h0 h1 h0' h1' heq
  · exact congrArg _

/-- Volumes are told apart by their names, a snapshot is not told apart from a volume. -/
example : (Object.snapshot ⟨"pvc","s1"⟩).lvName=(Object.volume ⟨"pvc_s1",0⟩).lvName := by decide

end Objects

end Blockstor.Storage
