import Blockstor.Drbd.DumpMd

namespace Blockstor.Drbd.DumpMd

open Framework Text List

section Statements

variable {digits s : String} {c d : Char}

variable (r : Row) (u : Uuid) (b : Blank)

theorem Blank.isSpace (hc : c∈b.text.toList) : isSpace c=true := by
  rcases b.blank c hc with rfl|rfl
  · decide
  · decide

theorem mem_hexChars_of_isHex (h : isHex digits=true) (hc : c∈digits.toList) : c∈hexChars := by
  rw [isHex,Bool.and_eq_true,all_eq_true] at h
  exact Drbd.mem_hexChars (h.2 c hc)

theorem Uuid.mem_hexChars (hc : c∈u.digits.toList) : c∈hexChars :=
  mem_hexChars_of_isHex u.hex hc

theorem Uuid.isGenerationUUID : Drbd.isGenerationUUID u.digits=!u.isZero := by
  have hany : (u.digits.toList.any fun c => c≠ '0')=!u.isZero := by
    rw [Uuid.isZero,all_eq_not_any_not,Bool.not_not]
    simp
  rw [Drbd.isGenerationUUID,u.hex,hany]
  simp [u.length]

theorem trimSpace_indent {cs ds : List Char}
    (hhead : s.toList=c::cs) (hlast : s.toList=ds++[d]) (hc : isSpace c=false)
    (hd : isSpace d=false) : trimSpace (b.text++s)=s := by
  have hdrop : (b.text++s).toList.dropWhile isSpace=s.toList := by
    rw [String.toList_append,dropWhile_append_of_pos fun c hc => b.isSpace hc,hhead,
      dropWhile_cons_of_neg (by simp [hc])]
  have hsame := trimSpace_of_ends hhead hlast hc hd
  unfold trimSpace at hsame ⊢
  rw [hdrop]
  have hleft : s.toList.dropWhile isSpace=s.toList := by
    rw [hhead,dropWhile_cons_of_neg (by simp [hc])]
  rw [hleft] at hsame
  exact hsame

theorem Uuid.exists_last : ∃ds e,u.digits.toList=ds++[e] ∧ isSpace e=false := by
  have hne : u.digits.toList≠[] := by
    intro h
    have hlen := u.length
    rw [← String.length_toList,h] at hlen
    cases hlen
  exact ⟨_,_,(dropLast_append_getLast hne).symm,
    not_isSpace_of_mem_hexChars (u.mem_hexChars (getLast_mem hne))⟩

theorem trimSpace_uuid (u : Uuid) : trimSpace (b.text++("0x"++u.digits))="0x"++u.digits := by
  obtain ⟨ds,e,hde,he⟩ := u.exists_last
  have hhead : ("0x"++u.digits).toList= '0' :: 'x' ::u.digits.toList := by simp
  have hlast : ("0x"++u.digits).toList=( '0' :: 'x' ::ds)++[e] := by
    rw [hhead,hde]
    rfl
  exact trimSpace_indent b hhead hlast (by decide) he

theorem uuidStatement_of_trim (h : trimSpace s="0x"++u.digits) :
    uuidStatement s=if u.isZero then none else some (toUpper u.digits) := by
  rw [uuidStatement,h,cutPrefix_eq_some.mpr rfl]
  simp only [u.isGenerationUUID]
  cases u.isZero with
  | true => rfl
  | false => rfl

theorem semicolon_not_mem (h : s=b.text++("0x"++u.digits)) : ';' ∉s.toList := by
  rw [h,String.toList_append,String.toList_append,mem_append,mem_append]
  rintro (hc|hc|hc)
  · exact absurd (b.isSpace hc) (by decide)
  · exact absurd hc (by decide)
  · exact absurd (u.mem_hexChars hc) (by decide)

def noBlank : Blank := ⟨"",nofun⟩

def Row.cells : List (Blank × Uuid) := (noBlank,r.first)::r.more

theorem Row.body_eq : r.body=
    String.join ((r.cells.map fun x => x.1.text++("0x"++x.2.digits)).map fun l => l++";") := by
  unfold Row.body Row.cells noBlank
  simp only [map_cons,String.empty_append,String.append_assoc]

theorem Row.split_body :
    split ';' r.body=(r.cells.map fun x => x.1.text++("0x"++x.2.digits))++[""] := by
  rw [r.body_eq]
  refine split_join rfl fun l hl => ?_
  obtain ⟨x,_,rfl⟩ := mem_map.mp hl
  exact semicolon_not_mem x.2 x.1 rfl

theorem uuidStatement_empty : uuidStatement ""=none := by decide

theorem filterMap_cells (cells : List (Blank × Uuid)) :
    (cells.map fun x => x.1.text++("0x"++x.2.digits)).filterMap uuidStatement=
      nonZero (cells.map Prod.snd) := by
  unfold nonZero
  induction cells with
  | nil => rfl
  | cons x cells ih =>
    rw [map_cons,filterMap_cons,uuidStatement_of_trim x.2 (trimSpace_uuid x.1 x.2),ih,
      map_cons]
    cases hzero : x.2.isZero with
    | true => rw [if_pos rfl,filter_cons_of_neg (by simp [hzero])]
    | false =>
      rw [if_neg Bool.false_ne_true,filter_cons_of_pos (by simp [hzero]),map_cons]

theorem Row.append_body (out : List String) :
    appendUUIDStatements out r.body=out++nonZero r.uuids := by
  rw [appendUUIDStatements,r.split_body,filterMap_append,filterMap_cells]
  simp [uuidStatement_empty,Row.cells,Row.uuids]

theorem Row.firstStatement_body : firstStatement r.body=some ("0x"++r.first.digits) := by
  have htrim := trimSpace_uuid noBlank r.first
  rw [firstStatement,r.split_body,Row.cells,map_cons,cons_append,map_cons,htrim,
    find?_cons_of_pos (by simp)]

theorem nonZero_append (us vs : List Uuid) : nonZero (us++vs)=nonZero us++nonZero vs := by
  rw [nonZero,filter_append,map_append]
  rfl

end Statements

section Lines

variable {d : UuidDump} {sep c : Char} {key stop s : String}

theorem cutAt_append (rest : String)
    (hstop : stop.toList=[sep]) (h : sep∉key.toList) : cutAt sep (key++stop++rest)=(key,rest,true) := by
  have hlist : (key++stop++rest).toList=key.toList++sep::rest.toList := by
    rw [String.toList_append,String.toList_append,hstop,append_assoc,singleton_append]
  rw [cutAt,cut,hlist,cutList_append _ h]
  simp

theorem cutAt_of_not_mem (h : sep∉s.toList) : cutAt sep s=(s,"",false) := by
  have hnone : cutList sep s.toList=none := by
    generalize s.toList=cs at h
    induction cs with
    | nil => rfl
    | cons c cs ih =>
      obtain ⟨hne,hrest⟩ := not_or.mp (mem_cons.not.mp h)
      rw [cutList,if_neg fun hc => hne hc.symm,ih hrest]
      rfl
  rw [cutAt,cut,hnone]
  rfl

theorem Row.mem_body (r : Row) (hc : c∈r.body.toList) :
    c= ' ' ∨ c= '\t' ∨ c= 'x' ∨ c= ';' ∨ c∈hexChars := by
  rw [r.body_eq,String.toList_join,mem_flatMap] at hc
  obtain ⟨l,hl,hc⟩ := hc
  obtain ⟨m,hm,rfl⟩ := mem_map.mp hl
  obtain ⟨x,_,rfl⟩ := mem_map.mp hm
  rw [String.toList_append,String.toList_append,String.toList_append,mem_append,mem_append,
    mem_append] at hc
  rcases hc with (hc|hc|hc)|hc
  · rcases x.1.blank c hc with h|h
    · exact .inl h
    · exact .inr (.inl h)
  · have hzero : ("0x" : String).toList=['0','x'] := rfl
    rw [hzero] at hc
    rcases mem_cons.mp hc with rfl|hc
    · exact .inr (.inr (.inr (.inr (by decide))))
    · exact .inr (.inr (.inl (mem_singleton.mp hc)))
  · exact .inr (.inr (.inr (.inr (x.2.mem_hexChars hc))))
  · exact .inr (.inr (.inr (.inl (mem_singleton.mp hc))))

theorem Row.not_mem_body (r : Row) (h : c∉[' ','\t','x',';'])
    (hhex : c∉hexChars) : c∉r.body.toList := by
  intro hc
  rcases r.mem_body hc with hc|hc|hc|hc|hc
  · exact h (by simp [hc])
  · exact h (by simp [hc])
  · exact h (by simp [hc])
  · exact h (by simp [hc])
  · exact hhex hc

theorem Row.trimSpace_text (r : Row) : trimSpace r.text=r.body := by
  have hhead : ∃cs,r.body.toList= '0' ::cs := by
    rw [r.body_eq,String.toList_join,Row.cells,map_cons,map_cons,flatMap_cons]
    exact ⟨_,by simp [noBlank]; rfl⟩
  have hlast (l : String) (ls : List String) :
      ∃ds,(String.join ((l::ls).map fun l => l++";")).toList=ds++[';'] := by
    rw [String.toList_join]
    induction ls generalizing l with
    | nil => exact ⟨l.toList,by simp⟩
    | cons m ls ih =>
      obtain ⟨ds,hds⟩ := ih m
      refine ⟨(l++";").toList++ds,?_⟩
      rw [map_cons,flatMap_cons,hds,append_assoc]
  obtain ⟨cs,hcs⟩ := hhead
  obtain ⟨ds,hds⟩ := hlast _ _
  exact trimSpace_indent r.indent hcs hds (by decide) (by decide)

theorem line_other (hblock : d.block=false) (l : Other) : d.line (trimSpace l.text)=d := by
  have hplain := l.plain
  simp only [keywords,mem_cons,not_mem_nil,or_false,not_or] at hplain
  unfold UuidDump.line
  rw [hblock,if_neg Bool.false_ne_true]
  simp only [hplain,or_false,if_false]

theorem length_nonZero (u : Uuid) (out : List String) :
    decide (out.length < (out++nonZero [u]).length)=!u.isZero := by
  unfold nonZero
  cases hzero : u.isZero with
  | true => simp [hzero]
  | false => simp [hzero]

theorem line_statement (hblock : d.block=false) (b : Blank) (u : Uuid)
    {cs : List Char} (hkey : key.toList=c::cs) (hspace : ∀c∈key.toList,isSpace c=false)
    (hknown : key=dumpKeyCurrent ∨ key="bitmap-uuid") :
    d.line (trimSpace (b.text++(key++" "++("0x"++u.digits++";"))))=
      ⟨d.out++nonZero [u],false,d.current || (key=dumpKeyCurrent && !u.isZero),d.v08Lead⟩ := by
  have hhead : (key++" "++("0x"++u.digits++";")).toList=
      c::(cs++(" "++("0x"++u.digits++";")).toList) := by
    rw [String.append_assoc,String.toList_append,hkey,cons_append]
  have hlast : (key++" "++("0x"++u.digits++";")).toList=
      (key++" "++("0x"++u.digits)).toList++[';'] := by
    rw [← String.append_assoc,String.toList_append]
    rfl
  have htrim := trimSpace_indent b hhead hlast (hspace c (by rw [hkey]; exact .head _)) (by decide)
  have hcut := cutAt_append ("0x"++u.digits++";") (show (" " : String).toList=[' '] from rfl)
    fun h => absurd (hspace _ h) (by decide)
  have hout : appendUUIDStatements d.out ("0x"++u.digits++";")=d.out++nonZero [u] := by
    have hrow := Row.append_body ⟨noBlank,u,[]⟩ d.out
    simpa [Row.body,Row.uuids,String.join] using hrow
  rw [htrim,UuidDump.line,hblock,if_neg Bool.false_ne_true,hcut]
  simp only [hknown,if_true,hout,length_nonZero]

theorem line_bitmap (hblock : d.block=false) (b : Blank) (u : Uuid) :
    d.line (trimSpace (Line.bitmap b u).text)={d with out := d.out++nonZero [u]} := by
  have hspace : ∀c∈("bitmap-uuid" : String).toList,isSpace c=false := by
    have hall : ("bitmap-uuid" : String).toList.all (fun c => !isSpace c)=true := by decide
    intro c hc
    simpa using all_eq_true.mp hall c hc
  have htext : (Line.bitmap b u).text=b.text++("bitmap-uuid"++" "++("0x"++u.digits++";")) := by
    rw [Line.text,show ("bitmap-uuid 0x" : String)="bitmap-uuid"++" "++"0x" from rfl]
    simp only [String.append_assoc]
  rw [htext,line_statement hblock b u rfl hspace (.inr rfl)]
  ext1
  · rfl
  · exact hblock.symm
  · simp [dumpKeyCurrent]
  · rfl

theorem line_current (hblock : d.block=false) (u : Uuid) :
    d.line (trimSpace ("current-uuid 0x"++u.digits++";"))=
      {d with out := d.out++nonZero [u],current := d.current || !u.isZero} := by
  have hspace : ∀c∈dumpKeyCurrent.toList,isSpace c=false := by
    have hall : dumpKeyCurrent.toList.all (fun c => !isSpace c)=true := by decide
    intro c hc
    simpa using all_eq_true.mp hall c hc
  have htext : "current-uuid 0x"++u.digits++";"=
      noBlank.text++(dumpKeyCurrent++" "++("0x"++u.digits++";")) := by
    rw [show ("current-uuid 0x" : String)=dumpKeyCurrent++" "++"0x" from rfl]
    simp only [String.append_assoc,noBlank,String.empty_append]
  rw [htext,line_statement hblock noBlank u rfl hspace (.inl rfl)]
  ext1
  · rfl
  · exact hblock.symm
  · simp
  · rfl

theorem appendUUIDStatements_empty (out : List String) : appendUUIDStatements out ""=out := by
  have hnone : (split ';' "").filterMap uuidStatement=[] := by decide
  rw [appendUUIDStatements,hnone,append_nil]

theorem blockText_empty (closed : Bool) :
    d.blockText "" closed=⟨d.out,!closed,d.current,d.v08Lead && !closed⟩ := by
  have hlead : d.lead ""=d := by
    have hnone : firstStatement ""=none := by decide
    rw [UuidDump.lead,hnone]
  rw [UuidDump.blockText,hlead,appendUUIDStatements_empty]

theorem cutAt_brace : cutAt '\x7d' ""=("","",false) := by decide

theorem line_history (hblock : d.block=false) :
    d.line (trimSpace "history-uuids \x7b")=⟨d.out,true,d.current,false⟩ := by
  have hcut : cutAt ' ' (trimSpace "history-uuids \x7b")=("history-uuids","\x7b",true) := by
    decide
  have hopen : cutPrefix "\x7b" (trimSpace "\x7b")=some "" := by decide
  rw [UuidDump.line,hblock,if_neg Bool.false_ne_true,hcut]
  simp only [hopen,cutAt_brace]
  rw [if_neg (by decide),if_pos (by decide),blockText_empty]
  rfl

theorem line_v08 (hblock : d.block=false) :
    d.line (trimSpace "uuid \x7b")=⟨d.out,true,d.current,true⟩ := by
  have hcut : cutAt ' ' (trimSpace "uuid \x7b")=("uuid","\x7b",true) := by decide
  have hopen : cutPrefix "\x7b" (trimSpace "\x7b")=some "" := by decide
  rw [UuidDump.line,hblock,if_neg Bool.false_ne_true,hcut]
  simp only [hopen,cutAt_brace]
  rw [if_neg (by decide),if_pos (by decide),blockText_empty]
  rfl

theorem line_row (hblock : d.block=true) (r : Row) :
    d.line (trimSpace r.text)=⟨d.out++nonZero r.uuids,true,
      d.current || (d.v08Lead && !r.first.isZero),false⟩ := by
  have hbrace := cutAt_of_not_mem (r.not_mem_body (c := '\x7d') (by decide) (by decide))
  have hsome : (uuidStatement ("0x"++r.first.digits)).isSome=!r.first.isZero := by
    have htrim : trimSpace ("0x"++r.first.digits)="0x"++r.first.digits := by
      simpa [noBlank] using trimSpace_uuid noBlank r.first
    rw [uuidStatement_of_trim r.first htrim]
    cases r.first.isZero <;> rfl
  rw [UuidDump.line,hblock,if_pos rfl,r.trimSpace_text,hbrace,UuidDump.blockText,r.append_body,
    UuidDump.lead,r.firstStatement_body]
  cases hlead : d.v08Lead with
  | true => simp [hsome]
  | false => simp [hlead]

theorem Flags.not_uuid (f : Flags) : uuidStatement ("flags 0x"++f.digits)=none := by
  have hne : f.digits.toList≠[] := by
    intro h
    have hhex := f.hex
    rw [String.toList_eq_nil_iff.mp h] at hhex
    cases hhex
  have hhead : ("flags 0x"++f.digits).toList= 'f' ::("lags 0x"++f.digits).toList := by simp
  have hlast : ("flags 0x"++f.digits).toList=
      ("flags 0x".toList++f.digits.toList.dropLast)++[f.digits.toList.getLast hne] := by
    rw [append_assoc,dropLast_append_getLast,String.toList_append]
  have htrim := trimSpace_of_ends hhead hlast (by decide)
    (not_isSpace_of_mem_hexChars (mem_hexChars_of_isHex f.hex (getLast_mem hne)))
  have hcut : cutPrefix "0x" ("flags 0x"++f.digits)=none := by
    rw [cutPrefix,hhead]
    rfl
  rw [uuidStatement,htrim,hcut]

theorem line_flags (hblock : d.block=true) (hlead : d.v08Lead=false) (f : Flags) :
    d.line (trimSpace f.text)=d := by
  have hplain {c : Char} (hc : c∉("flags 0x" : String).toList) (hhex : c∉hexChars) :
      c∉("flags 0x"++f.digits).toList := by
    rw [String.toList_append,mem_append]
    exact fun h => h.elim hc fun h => hhex (mem_hexChars_of_isHex f.hex h)
  have htext : f.text=f.indent.text++("flags 0x"++f.digits++";") := by
    rw [Flags.text]
    simp only [String.append_assoc]
  have hhead : ("flags 0x"++f.digits++";").toList= 'f' ::("lags 0x"++f.digits++";").toList := by
    simp
  have htrim := trimSpace_indent f.indent hhead (String.toList_append ..) (by decide) (by decide)
  have hbrace : '\x7d' ∉("flags 0x"++f.digits++";").toList := by
    rw [String.toList_append,mem_append]
    exact fun h => h.elim (hplain (by decide) (by decide)) (by decide)
  have hsplit : split ';' ("flags 0x"++f.digits++";")=["flags 0x"++f.digits,""] := by
    have hparts : split ';' (String.join (["flags 0x"++f.digits].map fun l => l++";"))=
        ["flags 0x"++f.digits]++[""] :=
      split_join rfl (by simpa using hplain (c := ';') (by decide) (by decide))
    simpa [String.join] using hparts
  have hout : appendUUIDStatements d.out ("flags 0x"++f.digits++";")=d.out := by
    rw [appendUUIDStatements,hsplit]
    simp [f.not_uuid,uuidStatement_empty]
  have hsame : d.lead ("flags 0x"++f.digits++";")=d := by
    unfold UuidDump.lead
    rw [hlead]
    split <;> rfl
  rw [htext,htrim,UuidDump.line,hblock,if_pos rfl,cutAt_of_not_mem hbrace,UuidDump.blockText,hsame,
    hout]
  ext1
  · rfl
  · exact hblock.symm
  · rfl
  · exact Bool.and_true _

theorem line_close (hblock : d.block=true) (hlead : d.v08Lead=false) :
    d.line (trimSpace "\x7d")={d with block := false} := by
  have hcut : cutAt '\x7d' (trimSpace "\x7d")=("","",true) := by decide
  rw [UuidDump.line,hblock,if_pos rfl,hcut,blockText_empty,hlead]
  rfl

theorem line_empty : d.line ""=d := by
  cases hblock : d.block with
  | true =>
    rw [UuidDump.line,hblock,if_pos rfl,cutAt_brace,blockText_empty]
    ext1
    · rfl
    · exact hblock.symm
    · rfl
    · exact Bool.and_true _
  | false =>
    have hcut : cutAt ' ' ""=("","",false) := by decide
    rw [UuidDump.line,hblock,if_neg Bool.false_ne_true,hcut]
    rfl

end Lines

section Valid

theorem uuidStatement_valid {s uuid : String} (h : uuidStatement s=some uuid) :
    Drbd.isGenerationUUID uuid=true := by
  unfold uuidStatement at h
  split at h
  · cases h
  split at h
  · rename_i huuid
    cases h
    exact isGenerationUUID_toUpper huuid
  · cases h

variable {d : UuidDump} (h : ∀a∈d.out,Drbd.isGenerationUUID a=true)

include h

theorem append_valid (text : String) :
    ∀a∈appendUUIDStatements d.out text,Drbd.isGenerationUUID a=true := by
  intro a ha
  rcases mem_append.mp ha with ha|ha
  · exact h a ha
  · obtain ⟨statement,_,hstatement⟩ := mem_filterMap.mp ha
    exact uuidStatement_valid hstatement

theorem blockText_valid (text : String) (closed : Bool) :
    ∀a∈(d.blockText text closed).out,Drbd.isGenerationUUID a=true := by
  have hlead : (d.lead text).out=d.out := by
    unfold UuidDump.lead
    split
    · rfl
    · split <;> rfl
  rw [UuidDump.blockText,hlead]
  exact append_valid h text

theorem line_valid (text : String) : ∀a∈(d.line text).out,Drbd.isGenerationUUID a=true := by
  have hlead (b : Bool) : ∀a∈({d with v08Lead := b} : UuidDump).out,Drbd.isGenerationUUID a=true := h
  unfold UuidDump.line
  generalize cutAt ' ' text=cut
  split
  · exact blockText_valid h _ _
  dsimp only
  split
  · exact append_valid h _
  split
  · generalize cutPrefix "\x7b" (trimSpace cut.2.1)=opened
    cases opened with
    | none => exact blockText_valid (hlead _) _ _
    | some body => exact blockText_valid (hlead _) _ _
  · exact h

theorem scanLines_valid {lines : List String} {e : UuidDump} (hscan : scanLines d lines=some e) :
    ∀a∈e.out,Drbd.isGenerationUUID a=true := by
  induction lines generalizing d with
  | nil =>
    cases hscan
    exact h
  | cons l lines ih =>
    rw [scanLines] at hscan
    split at hscan
    · cases hscan
    · exact ih (line_valid h _) hscan

omit h

theorem parse_valid {dump : String} {uuids : List String} (h : parseMetadataUUIDs dump=.ok uuids) :
    ∀a∈uuids,Drbd.isGenerationUUID a=true := by
  unfold parseMetadataUUIDs at h
  split at h
  · cases h
  · rename_i parsed hscan
    split at h
    · cases h
    · cases h
      exact scanLines_valid (fun _ ha => absurd ha not_mem_nil) hscan

end Valid

section Dumps

variable (d : UuidDump)

def feed (lines : List String) : UuidDump :=
  lines.foldl (fun d l => d.line (trimSpace l)) d

theorem feed_append (front back : List String) :
    feed d (front++back)=feed (feed d front) back := foldl_append

theorem scanLines_eq (lines : List String) (h : ∀l∈lines,byteLength l < dumpLineMax) :
    scanLines d (lines++[""])=some (feed d lines) := by
  induction lines generalizing d with
  | nil =>
    have hshort : ¬dumpLineMax ≤ byteLength "" := by decide
    rw [nil_append,scanLines,if_neg hshort]
    exact congrArg some line_empty
  | cons l lines ih =>
    rw [cons_append,scanLines,if_neg (Nat.not_le_of_lt (h l (.head _))),
      ih _ fun m hm => h m (.tail _ hm)]
    rfl

variable {out : List String} {current lead : Bool}

theorem feed_others (ls : List Other) :
    feed ⟨out,false,current,lead⟩ (ls.map Other.text)=⟨out,false,current,lead⟩ := by
  induction ls with
  | nil => rfl
  | cons l ls ih =>
    rw [map_cons,feed,foldl_cons,line_other rfl]
    exact ih

theorem feed_lines (ls : List Line) : feed ⟨out,false,current,lead⟩ (ls.map Line.text)=
    ⟨out++nonZero (ls.flatMap Line.uuids),false,current,lead⟩ := by
  induction ls generalizing out with
  | nil => simp [feed,nonZero]
  | cons l ls ih =>
    rw [map_cons,feed,foldl_cons]
    cases l with
    | other l =>
      rw [Line.text,line_other rfl]
      exact ih
    | bitmap b u =>
      rw [line_bitmap rfl,flatMap_cons,nonZero_append,← append_assoc]
      exact ih

theorem feed_rows (rows : List Row) : feed ⟨out,true,current,false⟩ (rows.map Row.text)=
    ⟨out++nonZero (rows.flatMap Row.uuids),true,current,false⟩ := by
  induction rows generalizing out with
  | nil => simp [feed,nonZero]
  | cons r rows ih =>
    rw [map_cons,feed,foldl_cons,line_row rfl,flatMap_cons,nonZero_append,
      ← append_assoc,Bool.false_and,Bool.or_false]
    exact ih

theorem feed_one (l : String) : feed d [l]=d.line (trimSpace l) := rfl

theorem feed_dump (dump : Dump) : feed ⟨[],false,false,false⟩ dump.lines=
    ⟨nonZero dump.uuids,false,!dump.current.isZero,false⟩ := by
  cases dump with
  | v09 head current peers history tail =>
    unfold Dump.lines Dump.uuids Dump.current
    simp only [feed_append,feed_one]
    rw [feed_lines,line_current rfl,feed_lines,line_history rfl,feed_rows,line_close rfl rfl,
      feed_lines]
    simp only [nonZero_append,nil_append,Bool.false_or]
  | v08 head lead more flags tail =>
    have hsplit : (lead::more).map Row.text=[lead.text]++more.map Row.text := rfl
    have hclose : [flags.text,"\x7d"]=[flags.text]++["\x7d"] := rfl
    simp only [Dump.lines,Dump.uuids,Dump.current,hsplit,hclose,feed_append,feed_one]
    rw [feed_others,line_v08 rfl,line_row rfl,feed_rows,line_flags rfl rfl,line_close rfl rfl,
      feed_others,flatMap_cons,nonZero_append]
    simp only [nil_append,Bool.false_or,Bool.true_and]

theorem Blank.newline_not_mem (b : Blank) : '\n' ∉b.text.toList := by
  intro hc
  rcases b.blank _ hc with h|h
  · exact absurd h (by decide)
  · exact absurd h (by decide)

theorem newline_not_mem_hex {digits : String} (h : isHex digits=true) : '\n' ∉digits.toList :=
  fun hc => absurd (mem_hexChars_of_isHex h hc) (by decide)

theorem newline_not_mem_append {s t : String} (hs : '\n' ∉s.toList) (ht : '\n' ∉t.toList) :
    '\n' ∉(s++t).toList := by
  rw [String.toList_append,mem_append]
  exact fun h => h.elim hs ht

theorem Row.newline_not_mem (r : Row) : '\n' ∉r.text.toList :=
  newline_not_mem_append r.indent.newline_not_mem (r.not_mem_body (by decide) (by decide))

theorem Line.newline_not_mem (l : Line) : '\n' ∉l.text.toList := by
  cases l with
  | other l => exact l.oneLine
  | bitmap b u =>
    exact newline_not_mem_append (newline_not_mem_append (newline_not_mem_append b.newline_not_mem
      (by decide)) (newline_not_mem_hex u.hex)) (by decide)

theorem Flags.newline_not_mem (f : Flags) : '\n' ∉f.text.toList :=
  newline_not_mem_append (newline_not_mem_append (newline_not_mem_append f.indent.newline_not_mem
    (by decide)) (newline_not_mem_hex f.hex)) (by decide)

theorem newline_not_mem_lines (dump : Dump) : ∀l∈dump.lines,'\n' ∉l.toList := by
  intro l hl
  cases dump with
  | v09 head current peers history tail =>
    simp only [Dump.lines,mem_append,mem_map,mem_singleton] at hl
    rcases hl with (((((⟨x,_,rfl⟩|rfl)|⟨x,_,rfl⟩)|rfl)|⟨x,_,rfl⟩)|rfl)|⟨x,_,rfl⟩
    · exact x.newline_not_mem
    · exact newline_not_mem_append (newline_not_mem_append (by decide)
        (newline_not_mem_hex current.hex)) (by decide)
    · exact x.newline_not_mem
    · decide
    · exact x.newline_not_mem
    · decide
    · exact x.newline_not_mem
  | v08 head lead more flags tail =>
    simp only [Dump.lines,mem_append,mem_map,mem_cons,not_mem_nil,or_false] at hl
    rcases hl with (((⟨x,_,rfl⟩|rfl)|⟨x,_,rfl⟩)|rfl|rfl)|⟨x,_,rfl⟩
    · exact x.oneLine
    · decide
    · exact x.newline_not_mem
    · exact flags.newline_not_mem
    · decide
    · exact x.oneLine

theorem parse_text (w : WellFormed) : parseMetadataUUIDs w.text=
    if w.dump.current.isZero then .error .unreadable else .ok (nonZero w.dump.uuids) := by
  have hcurrent : w.dump.current∈w.dump.uuids := by
    cases w.dump with
    | v09 head current peers history tail => simp [Dump.current,Dump.uuids]
    | v08 head lead more flags tail => simp [Dump.current,Dump.uuids,Row.uuids]
  rw [parseMetadataUUIDs,WellFormed.text,split_join rfl (newline_not_mem_lines w.dump),
    scanLines_eq _ _ w.fits,feed_dump]
  cases hzero : w.dump.current.isZero with
  | true => rfl
  | false =>
    have hne : (nonZero w.dump.uuids).isEmpty=false := by
      rw [isEmpty_eq_false_iff]
      exact ne_nil_of_mem
        (mem_map.mpr ⟨_,mem_filter.mpr ⟨hcurrent,by simp [hzero]⟩,rfl⟩)
    simp only [hne]
    rfl

end Dumps

end Blockstor.Drbd.DumpMd
