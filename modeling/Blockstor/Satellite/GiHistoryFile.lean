import Blockstor.Satellite.GiHistory

namespace Blockstor.GiHistory

open Drbd Framework Text String

section Lines

theorem length_formatInt_le (vol : Int32) : (formatInt vol.toInt).length ≤ 11 := by
  have hlow := vol.le_toInt
  have hhigh := vol.toInt_lt
  have hdigits (n : Nat) (hn : n < 10^10) : (toString n).length ≤ 10 := by
    rw [← length_toList,Nat.toString_eq_ofList_toDigits,toList_ofList]
    exact Nat.toDigits_length 10 n 10 (by decide) hn
  generalize vol.toInt=n at hlow hhigh
  cases n with
  | ofNat n =>
    have h := hdigits n (by simp at hhigh; omega)
    exact h.trans (by decide)
  | negSucc n =>
    have h := hdigits (n+1) (by omega)
    change ("-"++toString (n+1)).length ≤ 11
    rw [length_append]
    exact Nat.add_le_add_left h 1

variable {x : Int32 × String}

theorem renderRecord_toList (x : Int32 × String) :
    (renderRecord x).toList=(formatInt x.1.toInt).toList++ ' ' ::x.2.toList := by
  simp [renderRecord]

theorem not_isSpace_formatInt {n : Int} {c : Char} (hc : c∈(formatInt n).toList) :
    isSpace c=false := by
  rcases mem_formatInt hc with hdigit|rfl
  · exact not_isSpace_of_isDigit hdigit
  · decide

theorem newline_not_mem (hx : isGenerationUUID x.2=true) : '\n' ∉(renderRecord x).toList := by
  rw [renderRecord_toList,List.mem_append,List.mem_cons]
  rintro (h|h|h)
  · exact absurd (not_isSpace_formatInt h) (by decide)
  · exact absurd h (by decide)
  · exact absurd (not_isSpace_of_mem_hexChars (mem_hexChars_of_uuid hx h)) (by decide)

theorem trimSpace_renderRecord (hx : isGenerationUUID x.2=true) :
    trimSpace (renderRecord x)=renderRecord x := by
  obtain ⟨hlen,_,d,hd,_⟩ := isGenerationUUID_iff.mp hx
  have hvol : (formatInt x.1.toInt).toList≠[] := by
    intro h
    exact formatInt_ne_empty _ (toList_inj.mp h)
  obtain ⟨c,cs,hcs⟩ := List.exists_cons_of_ne_nil hvol
  obtain ⟨ds,e,hde⟩ := List.eq_nil_or_concat x.2.toList |>.resolve_left (List.ne_nil_of_mem hd)
  have hhead : (renderRecord x).toList=c::(cs++ ' ' ::x.2.toList) := by
    rw [renderRecord_toList,hcs,List.cons_append]
  have hlast : (renderRecord x).toList=(formatInt x.1.toInt).toList++ ' ' ::ds++[e] := by
    rw [renderRecord_toList,hde]
    simp
  refine trimSpace_of_ends hhead hlast ?_ ?_
  · exact not_isSpace_formatInt (by rw [hcs]; exact .head _)
  · exact not_isSpace_of_mem_hexChars (mem_hexChars_of_uuid hx (by rw [hde]; simp))

theorem parseRecord_renderRecord (hx : isGenerationUUID x.2=true) :
    parseRecord (renderRecord x)=some x := by
  have hspace : ' ' ∉(formatInt x.1.toInt).toList :=
    fun h => absurd (not_isSpace_formatInt h) (by decide)
  have hcut : cut ' ' (renderRecord x)=some (formatInt x.1.toInt,x.2) := by
    rw [cut,renderRecord_toList,cutList_append _ hspace]
    simp
  have hvol : parseInt32 (formatInt x.1.toInt)=some x.1.toInt :=
    parseInt32_formatInt ⟨x.1.le_toInt,x.1.toInt_lt⟩
  simp only [parseRecord,hcut,hvol,if_pos hx,Int32.ofInt_toInt]

theorem byteLength_renderRecord (hx : isGenerationUUID x.2=true) :
    ¬maxScanTokenSize ≤ byteLength (renderRecord x) := by
  have hbytes := byteLength_le (renderRecord x)
  have hlen : (renderRecord x).length=(formatInt x.1.toInt).length+1+x.2.length := by
    rw [renderRecord,length_append,length_append]
    rfl
  have hvol := length_formatInt_le x.1
  have huuid : x.2.length=16 := (isGenerationUUID_iff.mp hx).1
  unfold maxScanTokenSize
  omega

theorem split_renderRecord {xs : List (Int32 × String)} (h : ∀x∈xs,isGenerationUUID x.2=true) :
    split '\n' (join (xs.map fun x => renderRecord x++"\n"))=
      xs.map renderRecord++[""] := by
  have hlines : xs.map (fun x => renderRecord x++"\n")=
      (xs.map renderRecord).map fun l => l++"\n" := by
    rw [List.map_map]
    rfl
  rw [hlines]
  refine split_join rfl fun l hl => ?_
  obtain ⟨x,hx,rfl⟩ := List.mem_map.mp hl
  exact newline_not_mem (h x hx)

theorem readLines_records (xs : List (Int32 × String)) (h : ∀x∈xs,isGenerationUUID x.2=true)
    (out : History) :
    readLines out (xs.map renderRecord++[""])=.ok (xs.foldl addRecord out) := by
  induction xs generalizing out with
  | nil => rfl
  | cons x xs ih =>
    have hx := h x List.mem_cons_self
    have hne : renderRecord x≠"" := by
      intro heq
      have hparse := parseRecord_renderRecord hx
      rw [heq] at hparse
      cases hparse
    rw [List.map_cons,List.cons_append,readLines,if_neg (byteLength_renderRecord hx),
      trimSpace_renderRecord hx,if_neg hne,parseRecord_renderRecord hx]
    exact ih (fun y hy => h y (List.mem_cons_of_mem _ hy)) _

end Lines

section Histories

variable {history : History}

theorem listed_addRecord (out : History) (x : Int32 × String) (v : Int32) :
    listed (addRecord out x) v=if v=x.1 then listed out v++[x.2] else listed out v := by
  unfold addRecord
  rw [listed,Dict.find_set]
  split
  · rename_i hv
    rw [hv]
    rfl
  · rfl

theorem listed_foldl (xs : List (Int32 × String)) (out : History) (v : Int32) :
    listed (xs.foldl addRecord out) v=
      listed out v++(xs.filter fun x => x.1=v).map Prod.snd := by
  induction xs generalizing out with
  | nil => simp
  | cons x xs ih =>
    rw [List.foldl_cons,ih,listed_addRecord]
    by_cases hv : v=x.1
    · simp [hv]
    · rw [if_neg hv,List.filter_cons_of_neg (by simpa using Ne.symm hv)]

theorem listed_of_not_mem {v : Int32} (h : v∉sortedVolumes history) : listed history v=[] := by
  have hnone : history.find v=none := by
    refine Dict.find_eq_none.mpr fun gs hgs => h ?_
    exact (List.mergeSort_perm _ _).mem_iff.mpr (List.mem_map.mpr ⟨(v,gs),hgs,rfl⟩)
  rw [listed,hnone]
  rfl

theorem nodup_sortedVolumes : (sortedVolumes history).Nodup :=
  (List.mergeSort_perm _ _).nodup_iff.mpr history.nodup

theorem records_filter (v : Int32) :
    ((records history).filter fun x => x.1=v).map Prod.snd=listed history v := by
  have hrow (vols : List Int32) (hvols : vols.Nodup) (hv : v∉vols → listed history v=[]) :
      ((vols.flatMap fun u => (listed history u).map fun gi => (u,gi)).filter fun x =>
        x.1=v).map Prod.snd=listed history v := by
    induction vols with
    | nil => exact (hv List.not_mem_nil).symm
    | cons u vols ih =>
      obtain ⟨hu,hvols⟩ := List.nodup_cons.mp hvols
      rw [List.flatMap_cons,List.filter_append,List.map_append]
      by_cases huv : u=v
      · rw [huv] at hu
        have hrest : (vols.flatMap fun u => (listed history u).map fun gi => (u,gi)).filter
            (fun x => x.1=v)=[] := by
          refine List.filter_eq_nil_iff.mpr fun x hx => ?_
          obtain ⟨w,hw,hx⟩ := List.mem_flatMap.mp hx
          obtain ⟨gi,_,rfl⟩ := List.mem_map.mp hx
          simpa using fun hwv : w=v => hu (hwv ▸ hw)
        rw [hrest,huv,List.map_nil,List.append_nil]
        simp [List.filter_map,Function.comp_def]
      · have hfirst : ((listed history u).map fun gi => (u,gi)).filter (fun x => x.1=v)=[] := by
          refine List.filter_eq_nil_iff.mpr fun x hx => ?_
          obtain ⟨gi,_,rfl⟩ := List.mem_map.mp hx
          simpa using huv
        rw [hfirst]
        exact ih hvols fun hmem => hv fun h => (List.mem_cons.mp h).elim (fun h => huv h.symm) hmem
  exact hrow _ nodup_sortedVolumes listed_of_not_mem

def reread (history : History) : History := (records history).foldl addRecord .empty

theorem listed_reread (v : Int32) : listed (reread history) v=listed history v := by
  rw [reread,listed_foldl,records_filter]
  rfl

theorem read_render (h : ∀v,∀g∈listed history v,isGenerationUUID g=true) :
    readGIHistory (some (renderHistory history))=.ok (reread history) := by
  have hrecords (x : Int32 × String) (hx : x∈records history) : isGenerationUUID x.2=true := by
    obtain ⟨v,_,hgi⟩ := List.mem_flatMap.mp hx
    obtain ⟨gi,hmem,rfl⟩ := List.mem_map.mp hgi
    exact h v gi hmem
  rw [readGIHistory,renderHistory,split_renderRecord hrecords,readLines_records _ hrecords]
  rfl

theorem parseRecord_valid {line : String} {x : Int32 × String} (h : parseRecord line=some x) :
    isGenerationUUID x.2=true := by
  unfold parseRecord at h
  split at h
  · cases h
  split at h
  · cases h
  split at h
  · rename_i huuid
    cases h
    exact huuid
  · cases h

theorem readLines_valid {lines : List String} {out history : History}
    (h : readLines out lines=.ok history)
    (hout : ∀v,∀g∈listed out v,isGenerationUUID g=true) :
    ∀v,∀g∈listed history v,isGenerationUUID g=true := by
  induction lines generalizing out with
  | nil =>
    cases h
    exact hout
  | cons raw rest ih =>
    rw [readLines] at h
    split at h
    · cases h
    split at h
    · exact ih h hout
    cases hparse : parseRecord (trimSpace raw) with
    | none =>
      rw [hparse] at h
      cases h
    | some x =>
      rw [hparse] at h
      refine ih h fun v g hg => ?_
      rw [listed_addRecord] at hg
      split at hg
      · rcases List.mem_append.mp hg with hg|hg
        · exact hout v g hg
        · rw [List.mem_singleton.mp hg]
          exact parseRecord_valid hparse
      · exact hout v g hg

theorem read_valid {file : Option String} (h : readGIHistory file=.ok history) :
    ∀v,∀g∈listed history v,isGenerationUUID g=true := by
  cases file with
  | none =>
    cases h
    nofun
  | some data => exact readLines_valid h nofun

end Histories

end Blockstor.GiHistory
