import Blockstor.Dispatch.ConfFile
import Blockstor.Options.Typed

namespace Blockstor.Dispatch

open Framework Dict

def SectionFor (linstorKey : String) : Section :=
  match (Text.cutPrefix "DrbdOptions/" linstorKey).bind (Text.cut '/') with
  | none => .options
  | some (name,_) =>
    match Options.toLower name with
    | "net" => .net
    | "disk" => .disk
    | "peerdevice" | "peer-device" => .peerDevice
    | "handlers" => .handlers
    | _ => .options

/-- Where a property goes: its section and the rest of its key. Others are not for DRBD. -/
def placeOf (key : String) : Option (Section × String) :=
  ((Text.cutPrefix "DrbdOptions/" key).bind (Text.cut '/')).map fun cut => (SectionFor key,cut.2)

variable (opts : Props) (keys : List String) (sec : Section)

def splitDRBDOptions : Section → Props :=
  opts.items.foldl (fun out x => match placeOf x.1 with
    | none => out
    | some (sec,rawKey) => Function.update out sec ((out sec).set rawKey x.2)) fun _ => .empty

def mergeAutoDiskOptions (dst auto : Props) : Props :=
  auto.items.foldl (fun dst x => if (dst.find x.1).isSome then dst else dst.set x.1 x.2) dst

section

variable (dr : DesiredResource) (localAddr : String) (devices : Int32 → String) (autoDisk : Props)

def confOf : Conf :=
  let sections := splitDRBDOptions dr.drbdOptions
  {name := dr.name
   net := ⟨true,"",sections .net⟩
   hosts := hostsOf dr localAddr
   volumes := buildResVolumes dr devices (atoi (dr.drbdOptions.get "minor"))
   options := sections .options
   disk := mergeAutoDiskOptions (sections .disk) autoDisk
   handlers := sections .handlers
   peerDevice := sections .peerDevice
   connections := dr.connections}

/-- The whole file, of which `buildResFile` is what names hosts. -/
def renderResFile : Except BuildErr ConfFile := Build (confOf dr localAddr devices autoDisk)

end

/-- The entries that a loop over the options writes to a section, in its order. -/
def entriesOf (opts : List (String × String)) : List (String × String) :=
  opts.filterMap fun x => (placeOf x.1).bind fun place =>
    if place.1=sec then some (place.2,x.2) else none

theorem splitDRBDOptions_eq :
    splitDRBDOptions opts sec=empty.setAll (entriesOf sec opts.items) := by
  have hloop (l : List (String × String)) (out : Section → Props) :
      l.foldl (fun out x => match placeOf x.1 with
        | none => out
        | some (sec,rawKey) => Function.update out sec ((out sec).set rawKey x.2)) out sec=
      (out sec).setAll (entriesOf sec l) := by
    induction l generalizing out with
    | nil => rfl
    | cons x l ih =>
      rw [List.foldl_cons,ih]
      cases hplace : placeOf x.1 with
      | none => simp [entriesOf,hplace]
      | some place =>
        by_cases hsec : place.1=sec
        · simp [entriesOf,hplace,hsec,setAll]
        · simp [entriesOf,hplace,hsec,Function.update_of_ne (Ne.symm hsec)]
  exact hloop opts.items _

theorem mem_entriesOf {sec : Section} {opts : List (String × String)} {raw v : String} :
    (raw,v)∈entriesOf sec opts ↔ ∃k,(k,v)∈opts ∧ placeOf k=some (sec,raw) := by
  simp only [entriesOf,List.mem_filterMap,Option.bind_eq_some_iff]
  constructor
  · rintro ⟨⟨k,w⟩,hmem,⟨sec',raw'⟩,hplace,h⟩
    split at h
    · rename_i hsec
      cases hsec
      cases h
      exact ⟨k,hmem,hplace⟩
    · cases h
  · rintro ⟨k,hmem,hplace⟩
    exact ⟨(k,v),hmem,_,hplace,if_pos rfl⟩

theorem find_written {l : List (String × String)} {k : String} :
    (∀v,(empty.setAll l).find k=some v → (k,v)∈l) ∧
    ((∀v w,(k,v)∈l → (k,w)∈l → v=w) → ∀v,(k,v)∈l → (empty.setAll l).find k=some v) := by
  induction l using List.reverseRecOn with
  | nil => simp [setAll]
  | append_singleton l x ih =>
    have hlast : (empty.setAll (l++[x])).find k=
        if k=x.1 then some x.2 else (empty.setAll l).find k := by
      simp [setAll]
    simp only [hlast,List.mem_append,List.mem_singleton]
    split
    · rename_i hk
      subst hk
      refine ⟨fun v hv => .inr ?_,fun huniq v hv => ?_⟩
      · cases hv
        rfl
      · rw [huniq v x.2 hv (.inr rfl)]
    · rename_i hk
      have hne (v : String) : (k,v)≠x := fun h => hk (h ▸ rfl)
      simpa [hne] using ih

/-- Different keys go to different places. -/
def Apart : Prop :=
  ∀k∈keys,∀k'∈keys,placeOf k=placeOf k' → placeOf k=none ∨ k=k'

theorem find_splitDRBDOptions {opts : Props} (h : Apart (opts.items.map Prod.fst)) {sec : Section}
    {raw v : String} : (splitDRBDOptions opts sec).find raw=some v ↔
      ∃k,(k,v)∈opts.items ∧ placeOf k=some (sec,raw) := by
  rw [splitDRBDOptions_eq,← mem_entriesOf]
  refine ⟨find_written.1 v,find_written.2 (fun v w hv hw => ?_) v⟩
  obtain ⟨k,hk,hplace⟩ := mem_entriesOf.mp hv
  obtain ⟨k',hk',hplace'⟩ := mem_entriesOf.mp hw
  have hmem := List.mem_map_of_mem (f := Prod.fst) hk
  rcases h k hmem k' (List.mem_map_of_mem (f := Prod.fst) hk') (hplace.trans hplace'.symm) with hn|rfl
  · rw [hn] at hplace
    cases hplace
  · have hfind := find_eq_some.mpr hk
    rw [find_eq_some.mpr hk'] at hfind
    exact (Option.some.inj hfind).symm

theorem statements_congr {m n : Props} (h : m.Same n) : statements m=statements n := by
  have hkeys : sortedKeys m=sortedKeys n := by
    have hperm : (m.items.map Prod.fst).Perm (n.items.map Prod.fst) := by
      refine (List.perm_ext_iff_of_nodup m.nodup n.nodup).mpr fun k => ?_
      have hmem (m : Props) : k∈m.items.map Prod.fst ↔ ∃v,m.find k=some v := by
        simp [find_eq_some]
      rw [hmem,hmem,h k]
    have hsorted (m : Props) : (sortedKeys m).Pairwise (· ≤ ·) := by
      have h : (sortedKeys m).Pairwise fun a b => decide (a ≤ b)=true :=
        List.pairwise_mergeSort (fun a b c => by simpa using String.le_trans)
          (fun a b => by simpa using String.le_total a b) _
      simpa using h
    refine List.Perm.eq_of_pairwise (fun a b _ _ => String.le_antisymm) (hsorted m) (hsorted n) ?_
    exact (sortedKeys_perm m).trans (hperm.trans (sortedKeys_perm n).symm)
  simp only [statements,hkeys,Props.get,h _]

theorem mergeAutoDiskOptions_congr {m n : Props} (auto : Props) (h : m.Same n) :
    (mergeAutoDiskOptions m auto).Same (mergeAutoDiskOptions n auto) := by
  unfold mergeAutoDiskOptions
  induction auto.items generalizing m n with
  | nil => exact h
  | cons x l ih =>
    refine ih ?_
    dsimp only
    rw [h x.1]
    split
    · exact h
    · intro k
      simp [h k]

def ConfFile.block (f : ConfFile) : Section → List Statement
  | .net => f.net
  | .options => f.options
  | .disk => f.disk
  | .handlers => f.handlers
  | .peerDevice => f.connections.flatMap Prod.snd

/-- No order in which the options are visited changes the file. -/
def Settled : Prop :=
  ∀(dr : DesiredResource) (localAddr : String) (devices : Int32 → String) (autoDisk order : Props),
    (∀k,(dr.drbdOptions.find k).isSome ↔ k∈keys) → order.Same dr.drbdOptions →
    renderResFile {dr with drbdOptions := order} localAddr devices autoDisk=
      renderResFile dr localAddr devices autoDisk

theorem Apart.settled {keys : List String} (h : Apart keys) : Settled keys := by
  intro dr localAddr devices autoDisk order hkeys hsame
  have hget : order.get=dr.drbdOptions.get := by
    funext k
    rw [Props.get,hsame k]
    rfl
  have hapart (opts : Props) (hopts : opts.Same dr.drbdOptions) :
      Apart (opts.items.map Prod.fst) := by
    have hmem (k : String) (hk : k∈opts.items.map Prod.fst) : k∈keys := by
      obtain ⟨x,hx,rfl⟩ := List.mem_map.mp hk
      rw [← hkeys,← hopts,find_eq_some.mpr hx]
      rfl
    exact fun k hk k' hk' => h k (hmem k hk) k' (hmem k' hk')
  have hsplit (sec : Section) :
      (splitDRBDOptions order sec).Same (splitDRBDOptions dr.drbdOptions sec) := by
    intro raw
    refine Option.ext fun v => ?_
    rw [find_splitDRBDOptions (hapart _ hsame),find_splitDRBDOptions (hapart _ fun _ => rfl)]
    simp only [← find_eq_some,hsame _]
  have hblock (sec : Section) := statements_congr (hsplit sec)
  have hdisk := statements_congr (mergeAutoDiskOptions_congr autoDisk (hsplit .disk))
  have hhosts : hostsOf {dr with drbdOptions := order} localAddr=hostsOf dr localAddr := by
    simp only [hostsOf,localHost,peerHost,hget]
  have hprotocol : (splitDRBDOptions order .net).get "protocol"=
      (splitDRBDOptions dr.drbdOptions .net).get "protocol" := by
    rw [Props.get,hsplit .net]
    rfl
  have hwritten : written (confOf {dr with drbdOptions := order} localAddr devices autoDisk)=
      written (confOf dr localAddr devices autoDisk) := by
    simp only [written,confOf,writeNet,hblock,hdisk,hhosts,hprotocol,hget]
    rfl
  have hchecked : checkValues (confOf {dr with drbdOptions := order} localAddr devices autoDisk)=
      checkValues (confOf dr localAddr devices autoDisk) := by
    simp only [checkValues,Conf.blocks,confOf,List.findSome?_cons,hblock,hdisk]
  unfold renderResFile Build
  rw [hwritten,hchecked]
  rfl

/-- A resource with a peer, that carries some options. -/
def carrying : DesiredResource :=
  ⟨"pvc-1","n1",[],.empty,[],[⟨"n2",none⟩],opts,[],[],false,none,List.nodup_nil⟩

theorem block_carrying :
    (written (confOf (carrying opts) "" (fun _ => "") .empty)).block sec=
      statements (splitDRBDOptions opts sec) := by
  cases sec with
  | peerDevice => exact List.append_nil _
  | _ => rfl

theorem render_carrying (h : ∀x∈opts.items,x.2="0" ∨ x.2="1") :
    renderResFile (carrying opts) "" (fun _ => "") .empty=
      .ok (written (confOf (carrying opts) "" (fun _ => "") .empty)) := by
  refine build_ok.mpr ⟨show "pvc-1"≠"" by decide,checkValues_eq_none.mpr ⟨?_,?_⟩,rfl⟩
  · exact fun c hc => nomatch hc
  · have hspell (sec : Section) (s : Statement)
        (hs : (splitDRBDOptions opts sec).find s.1=some s.2) : Spellable s.2 := by
      rw [splitDRBDOptions_eq] at hs
      obtain ⟨k,hk,_⟩ := mem_entriesOf.mp (find_written.1 _ hs)
      rcases h _ hk with hv|hv <;> rw [hv] <;> exact fun c hc => List.mem_singleton.mp hc ▸ rfl
    intro b hb
    have hsec : ∃sec,b.2=splitDRBDOptions opts sec := by
      simp only [Conf.blocks,List.mem_cons,List.not_mem_nil,or_false] at hb
      rcases hb with rfl|rfl|rfl|rfl|rfl <;> exact ⟨_,rfl⟩
    obtain ⟨sec,hsec⟩ := hsec
    rw [hsec]
    exact hspell sec

theorem exists_visited_last {base : Props} {b v : String} (h : base.find b=some v) :
    ∃opts : Props,opts.Same base ∧ ∀sec raw,placeOf b=some (sec,raw) →
      (splitDRBDOptions opts sec).find raw=some v := by
  refine ⟨⟨(base.set b v).items.reverse,?_⟩,fun x => ?_,fun sec raw hplace => ?_⟩
  · rw [List.map_reverse]
    exact List.nodup_reverse.mpr (base.set b v).nodup
  · refine Eq.trans (b := (base.set b v).find x) (find_ext fun w => List.mem_reverse) ?_
    rw [find_set]
    split
    · rename_i hx
      rw [hx,h]
    · rfl
  · rw [splitDRBDOptions_eq]
    change (setAll _ (entriesOf sec ((b,v)::_).reverse)).find raw=_
    rw [List.reverse_cons]
    simp [entriesOf,hplace,setAll]

theorem Settled.apart {keys : List String} (h : Settled keys) : Apart keys := by
  intro k hk k' hk' hplace
  by_contra hne
  obtain ⟨hsome,hkk'⟩ := not_or.mp hne
  obtain ⟨⟨sec,raw⟩,hk₀⟩ := Option.ne_none_iff_exists'.mp hsome
  let v (x : String) : String := if x=k then "0" else "1"
  let base : Props := empty.setAll (keys.map fun x => (x,v x))
  have hbase (x w : String) : base.find x=some w ↔ x∈keys ∧ v x=w := by
    have hmem (w : String) : (x,w)∈keys.map (fun x => (x,v x)) ↔ x∈keys ∧ v x=w := by
      simp
    rw [← hmem]
    refine ⟨find_written.1 w,find_written.2 (fun w u hw hu => ?_) w⟩
    exact ((hmem w).mp hw).2.symm.trans ((hmem u).mp hu).2
  have hrender (opts : Props) (hopts : opts.Same base) := render_carrying opts fun x hx => by
    rw [← ((hbase x.1 x.2).mp ((hopts _).symm.trans (find_eq_some.mpr hx))).2]
    exact ite_eq_or_eq _ _ _
  obtain ⟨opts,hopts,hlast⟩ := exists_visited_last ((hbase k _).mpr ⟨hk,rfl⟩)
  obtain ⟨opts',hopts',hlast'⟩ := exists_visited_last ((hbase k' _).mpr ⟨hk',rfl⟩)
  have hkeys (x : String) : (opts.find x).isSome ↔ x∈keys := by
    rw [hopts,Option.isSome_iff_exists]
    simp [hbase]
  have hfile := h (carrying opts) "" (fun _ => "") .empty opts' hkeys fun x =>
    (hopts' x).trans (hopts x).symm
  have hblock := congrArg (·.block sec)
    (Except.ok.inj ((hrender opts' hopts').symm.trans (hfile.trans (hrender opts hopts))))
  simp only [block_carrying] at hblock
  have hmem := (mem_statements (s := (raw,v k'))).mpr (hlast' sec raw (hplace ▸ hk₀))
  rw [hblock,mem_statements,hlast sec raw hk₀] at hmem
  simp [v,Ne.symm hkk'] at hmem

/-- The file depends on the order of the options unless no two of them go to the same place. -/
theorem settled_iff : Settled keys ↔ Apart keys :=
  ⟨Settled.apart,Apart.settled⟩

theorem net_twice_not_settled :
    ¬Settled ["DrbdOptions/Net/max-buffers","DrbdOptions/net/max-buffers"] := by
  intro h
  have hplace : placeOf "DrbdOptions/Net/max-buffers"=placeOf "DrbdOptions/net/max-buffers" := by
    decide +kernel
  rcases h.apart _ (.head _) _ (.tail _ (.head _)) hplace with hn|hn
  · exact absurd hn (by decide +kernel)
  · exact absurd hn (by decide)

end Blockstor.Dispatch
