import Mathlib

namespace Blockstor.Framework.SliceStable

variable {α : Type}

/-- The comparison of `sort.SliceStable` is handed two positions and sees the slice as it is at
that moment. -/
abbrev Less (α : Type) := Array α → Nat → Nat → Bool

/-- Move the item at `j` down to its place above `a`. -/
def sink (less : Less α) (a : Nat) : Nat → Array α → Array α
  | 0,xs => xs
  | j+1,xs =>
    if j+1>a ∧ less xs (j+1) j=true then sink less a j (xs.swapIfInBounds (j+1) j) else xs

variable (less : Less α) (a : Nat) (b : Nat) (xs : Array α)

def insertionSort : Array α :=
  (List.range' (a+1) (b-(a+1))).foldl (fun xs i => sink less a i xs) xs

def swapRange (n : Nat) (xs : Array α) : Array α :=
  (List.range n).foldl (fun xs i => xs.swapIfInBounds (a+i) (b+i)) xs

/-- Exchange the blocks of length `i` and `j` that meet at `m`. -/
def rotate (m : Nat) : Nat → Nat → Nat → Array α → Array α
  | 0,_,_,xs => xs
  | fuel+1,i,j,xs =>
    if i=j then swapRange (m-i) m i xs
    else if i>j then rotate m fuel (i-j) j (swapRange (m-i) m j xs)
    else rotate m fuel i (j-i) (swapRange (m-i) (m+j-i) i xs)

/-- The first position in `[i,j)` where `up` is false. -/
def search (up : Nat → Bool) : Nat → Nat → Nat → Nat
  | 0,i,_ => i
  | fuel+1,i,j =>
    if i<j then
      let h := (i+j)/2
      if up h then search up fuel (h+1) j else search up fuel i h
    else i

/-- Merge the sorted blocks `[a,m)` and `[m,b)`. -/
def symMerge (less : Less α) : Nat → Nat → Nat → Nat → Array α → Array α
  | 0,_,_,_,xs => xs
  | fuel+1,a,m,b,xs =>
    if m-a=1 then
      let i := search (fun h => less xs h a) (b-m+1) m b
      (List.range' a (i-1-a)).foldl (fun xs k => xs.swapIfInBounds k (k+1)) xs
    else if b-m=1 then
      let i := search (fun h => !less xs m h) (m-a+1) a m
      (List.range' (i+1) (m-i)).foldr (fun k xs => xs.swapIfInBounds k (k-1)) xs
    else
      let mid := (a+b)/2
      let n := mid+m
      let lo := if m>mid then n-b else a
      let hi := if m>mid then mid else m
      let start := search (fun c => !less xs (n-1-c) c) (hi-lo+1) lo hi
      let stop := n-start
      let xs := if start < m ∧ m<stop then
        rotate m (stop-start) (m-start) (stop-m) xs else xs
      let xs := if a<start ∧ start < mid then symMerge less fuel a start mid xs else xs
      if mid<stop ∧ stop<b then symMerge less fuel mid stop b xs else xs

def mergeBlocks (less : Less α) (size : Nat) : Nat → Nat → Array α → Array α
  | 0,_,xs => xs
  | fuel+1,a,xs =>
    if a+2*size ≤ xs.size then
      mergeBlocks less size fuel (a+2*size)
        (symMerge less (2*size) a (a+size) (a+2*size) xs)
    else if a+size<xs.size then symMerge less (2*size) a (a+size) xs.size xs
    else xs

def mergeRounds (less : Less α) : Nat → Nat → Array α → Array α
  | 0,_,xs => xs
  | fuel+1,size,xs =>
    if size<xs.size then
      mergeRounds less fuel (2*size) (mergeBlocks less size xs.size 0 xs)
    else xs

def sortBlocks (less : Less α) (size : Nat) : Nat → Nat → Array α → Array α
  | 0,_,xs => xs
  | fuel+1,a,xs =>
    if a+size ≤ xs.size then sortBlocks less size fuel (a+size) (insertionSort less a (a+size) xs)
    else insertionSort less a xs.size xs

/-- `sort.SliceStable`: blocks of 20 are sorted by insertion and then merged in place. -/
def sliceStable : Array α :=
  mergeRounds less xs.size 20 (sortBlocks less 20 (xs.size+1) 0 xs)

section Perm

variable {less : Less α}

variable (size fuel a j : Nat) (xs : Array α)

theorem swap_perm (i j : Nat) : (xs.swapIfInBounds i j).toList.Perm xs.toList := by
  unfold Array.swapIfInBounds
  split
  · split
    · exact Array.perm_iff_toList_perm.mp (Array.swap_perm _ _)
    · exact .rfl
  · exact .rfl

theorem foldl_perm {β : Type} {f : Array α → β → Array α}
    (hf : ∀xs b,(f xs b).toList.Perm xs.toList) (bs : List β) (xs : Array α) :
    (bs.foldl f xs).toList.Perm xs.toList := by
  induction bs generalizing xs with
  | nil => exact .rfl
  | cons b bs ih => exact (ih (f xs b)).trans (hf xs b)

theorem foldr_perm {β : Type} {f : β → Array α → Array α}
    (hf : ∀xs b,(f b xs).toList.Perm xs.toList) (bs : List β) (xs : Array α) :
    (bs.foldr f xs).toList.Perm xs.toList := by
  induction bs with
  | nil => exact .rfl
  | cons b bs ih => exact (hf _ b).trans ih

theorem sink_perm : (sink less a j xs).toList.Perm xs.toList := by
  induction j generalizing xs with
  | zero => exact .rfl
  | succ j ih =>
    unfold sink
    split
    · exact (ih _).trans (swap_perm xs _ _)
    · exact .rfl

theorem insertionSort_perm {a b : Nat} (xs : Array α) :
    (insertionSort less a b xs).toList.Perm xs.toList :=
  foldl_perm (fun xs i => sink_perm a i xs) _ xs

theorem swapRange_perm {a b n : Nat} (xs : Array α) : (swapRange a b n xs).toList.Perm xs.toList :=
  foldl_perm (fun xs _ => swap_perm xs _ _) _ xs

theorem rotate_perm (m fuel i j : Nat) (xs : Array α) :
    (rotate m fuel i j xs).toList.Perm xs.toList := by
  induction fuel generalizing i j xs with
  | zero => exact .rfl
  | succ fuel ih =>
    unfold rotate
    split
    · exact swapRange_perm xs
    · split
      · exact (ih _ _ _).trans (swapRange_perm xs)
      · exact (ih _ _ _).trans (swapRange_perm xs)

theorem symMerge_perm (m b : Nat) (xs : Array α) :
    (symMerge less fuel a m b xs).toList.Perm xs.toList := by
  induction fuel generalizing a m b xs with
  | zero => exact .rfl
  | succ fuel ih =>
    unfold symMerge
    split
    · exact foldl_perm (fun xs _ => swap_perm xs _ _) _ xs
    · split
      · exact foldr_perm (fun xs _ => swap_perm xs _ _) _ xs
      · have hite : ∀(c : Prop) [Decidable c] (ys zs : Array α),zs.toList.Perm ys.toList →
            (if c then zs else ys).toList.Perm ys.toList := by
          intro c _ ys zs h
          split
          · exact h
          · exact .rfl
        dsimp only
        exact (hite _ _ _ (ih _ _ _ _)).trans
          ((hite _ _ _ (ih _ _ _ _)).trans (hite _ _ _ (rotate_perm _ _ _ _ _)))

theorem mergeBlocks_perm : (mergeBlocks less size fuel a xs).toList.Perm xs.toList := by
  induction fuel generalizing a xs with
  | zero => exact .rfl
  | succ fuel ih =>
    unfold mergeBlocks
    split
    · exact (ih _ _).trans (symMerge_perm _ _ _ _ xs)
    · split
      · exact symMerge_perm _ _ _ _ xs
      · exact .rfl

theorem mergeRounds_perm (size : Nat) (xs : Array α) :
    (mergeRounds less fuel size xs).toList.Perm xs.toList := by
  induction fuel generalizing size xs with
  | zero => exact .rfl
  | succ fuel ih =>
    unfold mergeRounds
    split
    · exact (ih _ _).trans (mergeBlocks_perm _ _ _ xs)
    · exact .rfl

theorem sortBlocks_perm : (sortBlocks less size fuel a xs).toList.Perm xs.toList := by
  induction fuel generalizing a xs with
  | zero => exact .rfl
  | succ fuel ih =>
    unfold sortBlocks
    split
    · exact (ih _ _).trans (insertionSort_perm xs)
    · exact insertionSort_perm xs

/-- Whatever the comparison says, nothing is lost and nothing is added. -/
theorem sliceStable_perm : (sliceStable less xs).toList.Perm xs.toList :=
  (mergeRounds_perm _ _ _).trans (sortBlocks_perm _ _ _ xs)

end Perm

example : (sliceStable (fun xs i j => decide ((xs.getD i 0)<xs.getD j 0)) #[3,1,2]).toList=[1,2,3] := by
  decide

end Blockstor.Framework.SliceStable
