import Blockstor.Placer.Objects
import Blockstor.Framework.SliceStable

namespace Blockstor.Placer

open Framework List

variable {nodes : String → Props} {candidates : List StoragePool} {keys : List String}
  {pool p : StoragePool}

def nodesByName (nodes : List Node) (name : String) : Props :=
  ((nodes.find? fun n => n.name=name).map (·.props)).getD []

def auxKey (key : String) : String :=
  if "Aux/".toList.isPrefixOf key.toList then key else "Aux/"++key

/-- Split an entry of `replicas_on_different` at its first equals sign. -/
def parseDiffSpec (spec : String) : String × Option String :=
  match Text.cut '=' spec with
  | none => (spec,none)
  | some (k,v) => (k,some v)

def parseSameSpec (spec : String) : String × Option String := parseDiffSpec spec

variable (nodeProps : Props)

def auxValue (key : String) : String := nodeProps.get (auxKey key)

def lookupKeys (keys : List String) : Props :=
  keys.foldl (fun out spec =>
    match parseSameSpec spec with
    | (key,some value) => out.set (auxKey key) value
    | (key,none) => out.set (auxKey key) (auxValue nodeProps key)) []

def topologyTuple (existing : List Resource) (nodes : String → Props) (keys : List String) :
    Option Props :=
  if keys=[] then none else existing.head?.map fun r => lookupKeys (nodes r.nodeName) keys

def seenKey (key : String) (nodeProps : Props) : String := key++"="++auxValue nodeProps key

def bareKeys (keys : List String) : List String :=
  keys.filter fun spec => (parseDiffSpec spec).2.isNone

def topologySeen (existing : List Resource) (nodes : String → Props) (keys : List String) :
    List String :=
  (bareKeys keys).flatMap fun k => existing.map fun r => seenKey k (nodes r.nodeName)

def matchesTuple (keys : List String) (want : Option Props) : Bool :=
  match want with
  | none => true
  | some want => keys.all fun spec =>
    auxValue nodeProps (parseSameSpec spec).1=want.get (auxKey (parseSameSpec spec).1)

def collidesWithDiff (keys seen : List String) : Bool :=
  (bareKeys keys).any fun k => seen.contains (seenKey k nodeProps)

/-- The node carries a pair that `replicas_on_different` names. -/
def matchesAnyExcludedPair (keys : List String) : Bool :=
  keys.any fun spec =>
    match parseDiffSpec spec with
    | (k,some v) => auxValue nodeProps k=v
    | (_,none) => false

def partitionByExclusion (candidates : List StoragePool) (nodes : String → Props)
    (keys : List String) : List StoragePool × List StoragePool :=
  if keys.any fun spec => (parseDiffSpec spec).2.isSome then
    (candidates.filter fun p => !matchesAnyExcludedPair (nodes p.nodeName) keys,
      candidates.filter fun p => matchesAnyExcludedPair (nodes p.nodeName) keys)
  else (candidates,[])

def matchesAllSamePins (keys : List String) : Bool :=
  keys.all fun spec =>
    match parseSameSpec spec with
    | (key,some value) => auxValue nodeProps key=value
    | (_,none) => true

def filterSamePinned (candidates : List StoragePool) (nodes : String → Props)
    (keys : List String) : List StoragePool :=
  if keys.any fun spec => (parseSameSpec spec).2.isSome then
    candidates.filter fun p => matchesAllSamePins (nodes p.nodeName) keys
  else candidates

def tupleKey (tuple : Props) : String :=
  "\x1f".intercalate
    ((sortBy id tuple).map fun x => x.1++"="++x.2)

/-- The pools whose nodes agree on the keys that `replicas_on_same` names. -/
structure Group where
  tuple : Props
  key : String
  pools : List StoragePool

namespace Group

def seen (g : Group) : List String := (g.pools.map (·.nodeName)).dedup

def free (g : Group) : Int := (g.pools.map (·.freeCapacity)).sum

end Group

def addToGroup (nodes : String → Props) (keys : List String) (pool : StoragePool) :
    List Group → List Group
  | [] =>
    let tuple := lookupKeys (nodes pool.nodeName) keys
    [⟨tuple,tupleKey tuple,[pool]⟩]
  | g::gs =>
    if g.key=tupleKey (lookupKeys (nodes pool.nodeName) keys) then
      {g with pools := g.pools++[pool]}::gs
    else g::addToGroup nodes keys pool gs

def groupsOf (nodes : String → Props) (keys : List String) (candidates : List StoragePool) :
    List Group :=
  candidates.foldl (fun gs pool => addToGroup nodes keys pool gs) []

/-- The group of nodes that can hold all replicas and has the most room. Without one the
candidates stay as they are. -/
def pickSameGroup (candidates : List StoragePool) (nodes : String → Props) (keys : List String)
    (want : Int) : List StoragePool × Option Props :=
  let groups := (groupsOf nodes keys candidates).filter fun g => want ≤ g.seen.length
  match groups.insertionSort fun a b =>
      b.free<a.free ∨ a.free=b.free ∧ ¬b.key<a.key with
  | [] => (candidates,none)
  | winner::_ => (winner.pools,some winner.tuple)

theorem mem_addToGroup
    {gs : List Group} {g : Group} (hg : g∈addToGroup nodes keys pool gs) (hp : p∈g.pools) :
    p=pool ∨ ∃g'∈gs,p∈g'.pools := by
  induction gs with
  | nil =>
    obtain rfl : g=_ := mem_singleton.mp hg
    exact .inl (mem_singleton.mp hp)
  | cons g₀ gs ih =>
    unfold addToGroup at hg
    split at hg
    · rcases mem_cons.mp hg with rfl|hg
      · rcases mem_append.mp hp with hp|hp
        · exact .inr ⟨g₀,.head _,hp⟩
        · exact .inl (mem_singleton.mp hp)
      · exact .inr ⟨g,.tail _ hg,hp⟩
    · rcases mem_cons.mp hg with rfl|hg
      · exact .inr ⟨g,.head _,hp⟩
      · rcases ih hg with h|⟨g',hg',hp'⟩
        · exact .inl h
        · exact .inr ⟨g',.tail _ hg',hp'⟩

theorem mem_groupsOf
    {g : Group} (hg : g∈groupsOf nodes keys candidates) (hp : p∈g.pools) : p∈candidates := by
  have h : ∀(cs : List StoragePool) (gs : List Group),
      g∈cs.foldl (fun gs pool => addToGroup nodes keys pool gs) gs → p∈cs ∨ ∃g'∈gs,p∈g'.pools := by
    intro cs
    induction cs with
    | nil => exact fun gs hg => .inr ⟨g,hg,hp⟩
    | cons c cs ih =>
      intro gs hg
      rcases ih _ hg with h|⟨g',hg',hp'⟩
      · exact .inl (.tail _ h)
      · rcases mem_addToGroup hg' hp' with rfl|h
        · exact .inl (.head _)
        · exact .inr h
  rcases h candidates [] hg with h|⟨_,h,_⟩
  · exact h
  · cases h

theorem mem_pickSameGroup {want : Int}
    (hp : p∈(pickSameGroup candidates nodes keys want).1) : p∈candidates := by
  unfold pickSameGroup at hp
  dsimp only at hp
  split at hp
  · exact hp
  · rename_i winner rest hsort
    have hmem : winner∈winner::rest := .head _
    rw [← hsort,mem_insertionSort,mem_filter] at hmem
    exact mem_groupsOf hmem.1 hp

theorem mem_filterSamePinned (hp : p∈filterSamePinned candidates nodes keys) :
    p∈candidates ∧ matchesAllSamePins (nodes p.nodeName) keys=true := by
  unfold filterSamePinned at hp
  split at hp
  · exact mem_filter.mp hp
  · rename_i hpins
    refine ⟨hp,all_eq_true.mpr fun spec hspec => ?_⟩
    have hbare : (parseSameSpec spec).2=none := by
      simp only [any_eq_true,not_exists,not_and,Bool.not_eq_true,Option.isSome_eq_false_iff,
        Option.isNone_iff_eq_none] at hpins
      exact hpins spec hspec
    split
    · rename_i heq
      rw [heq] at hbare
      cases hbare
    · rfl

theorem mem_partition (hp : p∈(partitionByExclusion candidates nodes keys).1 ∨
      p∈(partitionByExclusion candidates nodes keys).2) : p∈candidates := by
  unfold partitionByExclusion at hp
  split at hp
  · rcases hp with hp|hp
    · exact (mem_filter.mp hp).1
    · exact (mem_filter.mp hp).1
  · rcases hp with hp|hp
    · exact hp
    · cases hp

theorem mem_preferred (hp : p∈(partitionByExclusion candidates nodes keys).1) :
    matchesAnyExcludedPair (nodes p.nodeName) keys=false := by
  unfold partitionByExclusion at hp
  split at hp
  · simpa using (mem_filter.mp hp).2
  · rename_i hvalues
    refine any_eq_false.mpr fun spec hspec => ?_
    have hbare : (parseDiffSpec spec).2=none := by
      simp only [any_eq_true,not_exists,not_and,Bool.not_eq_true,Option.isSome_eq_false_iff,
        Option.isNone_iff_eq_none] at hvalues
      exact hvalues spec hspec
    split
    · rename_i heq
      rw [heq] at hbare
      cases hbare
    · exact Bool.false_ne_true

theorem mem_lastResort (hp : p∈(partitionByExclusion candidates nodes keys).2) :
    matchesAnyExcludedPair (nodes p.nodeName) keys=true := by
  unfold partitionByExclusion at hp
  split at hp
  · exact (mem_filter.mp hp).2
  · cases hp

example : auxKey "zone"="Aux/zone" ∧ auxKey "Aux/zone"="Aux/zone" ∧
    parseDiffSpec "zone=a=b"=("zone",some "a=b") := by decide

end Blockstor.Placer
