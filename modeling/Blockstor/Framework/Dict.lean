import Blockstor.Framework.Keyed

namespace Blockstor.Framework

open List

abbrev Dict (κ β : Type) := Keyed (Prod.fst : κ × β → κ)

namespace Dict

variable {κ β : Type}

def empty : Dict κ β := ⟨[],nodup_nil⟩

def keep (p : κ → Bool) (d : Dict κ β) : Dict κ β where
  items := d.items.filter fun x => p x.1
  nodup := d.nodup.sublist (filter_sublist.map _)

def mapVal {γ : Type} (f : β → γ) (d : Dict κ β) : Dict κ γ where
  items := d.items.map fun x => (x.1,f x.2)
  nodup := by
    rw [map_map]
    exact d.nodup

variable [DecidableEq κ]

def find (d : Dict κ β) (k : κ) : Option β := (d.get? k).map Prod.snd

def set (d : Dict κ β) (k : κ) (v : β) : Dict κ β where
  items := (k,v)::d.items.filter fun x => x.1≠k
  nodup := by
    rw [map_cons,nodup_cons]
    refine ⟨fun h => ?_,d.nodup.sublist (filter_sublist.map _)⟩
    obtain ⟨x,hx,hk⟩ := mem_map.mp h
    simp [hk] at hx

def setAll (d : Dict κ β) (l : List (κ × β)) : Dict κ β := l.foldl (fun d x => d.set x.1 x.2) d

def copy (dst src : Dict κ β) : Dict κ β := dst.setAll src.items

def Same (d e : Dict κ β) : Prop := ∀k,d.find k=e.find k

theorem find_eq_some {d : Dict κ β} {k : κ} {v : β} : d.find k=some v ↔ (k,v)∈d.items := by
  unfold find
  rw [Option.map_eq_some_iff]
  constructor
  · intro h
    obtain ⟨x,hx,rfl⟩ := h
    obtain ⟨hmem,rfl⟩ := (d.get?_eq_some _ _).mp hx
    exact hmem
  · intro h
    exact ⟨(k,v),(d.get?_eq_some _ _).mpr ⟨h,rfl⟩,rfl⟩

theorem find_eq_none {d : Dict κ β} {k : κ} : d.find k=none ↔ ∀v,(k,v)∉d.items := by
  constructor
  · intro h v hv
    rw [find_eq_some.mpr hv] at h
    cases h
  · intro h
    cases hk : d.find k with
    | none => rfl
    | some v => exact absurd (find_eq_some.mp hk) (h v)

@[simp] theorem find_empty (k : κ) : (empty : Dict κ β).find k=none := rfl

theorem find_ext {d e : Dict κ β} {k : κ} (h : ∀v,(k,v)∈d.items ↔ (k,v)∈e.items) :
    d.find k=e.find k :=
  Option.ext fun v => find_eq_some.trans ((h v).trans find_eq_some.symm)

@[simp] theorem find_set (d : Dict κ β) (k n : κ) (v : β) :
    (d.set k v).find n=if n=k then some v else d.find n := by
  split
  · rename_i hn
    exact find_eq_some.mpr (hn ▸ .head _)
  · rename_i hn
    refine find_ext fun w => ?_
    change (n,w)∈(k,v)::d.items.filter _ ↔ _
    simp [hn]

@[simp] theorem find_keep (p : κ → Bool) (d : Dict κ β) (k : κ) :
    (d.keep p).find k=if p k then d.find k else none := by
  split
  · rename_i hk
    refine find_ext fun w => ?_
    change (k,w)∈d.items.filter _ ↔ _
    simp [hk]
  · rename_i hk
    refine find_eq_none.mpr fun w hw => hk ?_
    change (k,w)∈d.items.filter _ at hw
    simpa using (mem_filter.mp hw).2

@[simp] theorem find_mapVal {γ : Type} (f : β → γ) (d : Dict κ β) (k : κ) :
    (d.mapVal f).find k=(d.find k).map f := by
  refine Option.ext fun w => ?_
  rw [find_eq_some,Option.map_eq_some_iff]
  constructor
  · intro h
    obtain ⟨x,hx,heq⟩ := mem_map.mp h
    cases heq
    exact ⟨x.2,find_eq_some.mpr hx,rfl⟩
  · rintro ⟨v,hv,rfl⟩
    exact mem_map.mpr ⟨(k,v),find_eq_some.mp hv,rfl⟩

/-- What a loop over entries with different keys writes. -/
theorem find_setAll (l : List (κ × β)) (hl : (l.map Prod.fst).Nodup) (d : Dict κ β) (k : κ) :
    (d.setAll l).find k=(find ⟨l,hl⟩ k).or (d.find k) := by
  induction l generalizing d with
  | nil => rfl
  | cons x l ih =>
    obtain ⟨hx,hnodup⟩ := nodup_cons.mp hl
    refine (ih hnodup (d.set x.1 x.2)).trans ?_
    rw [find_set]
    by_cases hk : k=x.1
    · have hnone : find ⟨l,hnodup⟩ k=none :=
        find_eq_none.mpr fun v hv => hx (mem_map.mpr ⟨(k,v),hv,hk⟩)
      have hsome : find ⟨x::l,hl⟩ k=some x.2 := find_eq_some.mpr (hk ▸ .head _)
      rw [hnone,hsome,if_pos hk]
      rfl
    · have hrest : find ⟨x::l,hl⟩ k=find ⟨l,hnodup⟩ k := by
        refine find_ext fun v => ?_
        change (k,v)∈x::l ↔ (k,v)∈l
        rw [mem_cons]
        constructor
        · rintro (rfl|h)
          · exact absurd rfl hk
          · exact h
        · exact .inr
      rw [hrest,if_neg hk]

theorem find_setAll_of_ne {l : List (κ × β)} {k : κ} (h : ∀x∈l,x.1≠k) (d : Dict κ β) :
    (d.setAll l).find k=d.find k := by
  induction l generalizing d with
  | nil => rfl
  | cons x l ih =>
    refine (ih (fun y hy => h y (.tail _ hy)) (d.set x.1 x.2)).trans ?_
    rw [find_set,if_neg (h x (.head _)).symm]

/-- When all entries of a key agree, it does not matter which is written last. -/
theorem find_setAll_of_eq {l : List (κ × β)} {k : κ} {v : β} (hmem : (k,v)∈l)
    (h : ∀x∈l,x.1=k → x.2=v) (d : Dict κ β) : (d.setAll l).find k=some v := by
  induction l generalizing d with
  | nil => cases hmem
  | cons x l ih =>
    have hrest : ∀y∈l,y.1=k → y.2=v := fun y hy => h y (.tail _ hy)
    by_cases hl : (k,v)∈l
    · exact ih hl hrest _
    · have hx : (k,v)=x := (mem_cons.mp hmem).resolve_right hl
      have hne : ∀y∈l,y.1≠k := fun y hy hk => hl (by rwa [← hk,← hrest y hy hk])
      subst hx
      exact (find_setAll_of_ne hne (d.set k v)).trans (by rw [find_set,if_pos rfl])

@[simp] theorem find_copy (dst src : Dict κ β) (k : κ) :
    (dst.copy src).find k=(src.find k).or (dst.find k) :=
  find_setAll src.items src.nodup dst k

theorem Same.refl (d : Dict κ β) : Same d d := fun _ => rfl

/-- A loop over the entries that handles each key on its own: `P` says what the loop has made of the
entries it has seen. -/
theorem foldl_items {σ : Type} (d : Dict κ β) (step : σ → κ × β → σ)
    (P : (κ → Option β) → σ → Prop) (s : σ) (hstart : P (fun _ => none) s)
    (hstep : ∀seen s k v,P seen s → seen k=none →
      P (fun n => if n=k then some v else seen n) (step s (k,v))) :
    P d.find (d.items.foldl step s) := by
  have h : ∀(l : List (κ × β)) (_ : (l.map Prod.fst).Nodup) (e : Dict κ β) (s : σ),P e.find s →
      (∀x∈l,e.find x.1=none) → P (e.setAll l).find (l.foldl step s) := by
    intro l
    induction l with
    | nil => exact fun _ e s hs _ => hs
    | cons x l ih =>
      intro hl e s hs hfree
      obtain ⟨hx,hnodup⟩ := nodup_cons.mp hl
      have hset : P (e.set x.1 x.2).find (step s x) := by
        rw [funext (e.find_set x.1 · x.2)]
        exact hstep e.find s x.1 x.2 hs (hfree x (.head _))
      refine ih hnodup _ _ hset fun y hy => ?_
      rw [find_set,if_neg fun heq => hx (mem_map.mpr ⟨y,hy,heq⟩)]
      exact hfree y (.tail _ hy)
  have hall : (empty.setAll d.items).find=d.find := by
    funext k
    rw [find_setAll d.items d.nodup,find_empty,Option.or_none]
  rw [← hall]
  exact h d.items d.nodup empty s hstart fun _ _ => rfl

end Dict

end Blockstor.Framework
