import Mathlib.Data.List.Sort

/-!
# Proofs: stable order

A ranking compares any two things and may tie them. Sorting by a ranking keeps tied things in the
order in which they come, so it does not matter whether some of them are left out before or after;
and where nothing is tied, it does not matter how they come.
-/

namespace Promotions.StableOrder

variable {α : Type} {le : α → α → Bool}

/-- Any two things can be compared, and comparisons can be chained. -/
structure IsRanking (le : α → α → Bool) : Prop where
  trans : ∀ a b c, le a b = true → le b c = true → le a c = true
  total : ∀ a b, (le a b || le b a) = true

/-- The ranking by a key, and by another ranking where the key is the same. -/
def byKey (key : α → Nat) (le : α → α → Bool) (a b : α) : Bool :=
  decide (key a < key b) || (key a == key b && le a b)

theorem byKey_iff {key : α → Nat} {a b : α} :
    byKey key le a b = true ↔ key a < key b ∨ key a = key b ∧ le a b = true := by
  simp [byKey]

/-- What is chosen of a list is one of its elements, where each step keeps the choice or replaces it
by the element it looks at. -/
theorem mem_of_foldl {choose : Option α → α → Option α}
    (hchoose : ∀ best a, choose best a = best ∨ choose best a = some a) {l : List α}
    {best : Option α} {a : α} (h : l.foldl choose best = some a) : a ∈ l ∨ best = some a := by
  induction l generalizing best with
  | nil => exact .inr h
  | cons b l ih =>
    rcases ih h with ha | hbest
    · exact .inl (List.mem_cons_of_mem _ ha)
    · rcases hchoose best b with hsame | hnew
      · exact .inr (hsame.symm.trans hbest)
      · obtain rfl := Option.some.inj (hnew.symm.trans hbest)
        exact .inl List.mem_cons_self

namespace IsRanking

theorem byKey (h : IsRanking le) (key : α → Nat) : IsRanking (byKey key le) := by
  refine ⟨fun a b c hab hbc => ?_, fun a b => ?_⟩
  · rw [byKey_iff] at hab hbc ⊢
    rcases hab with hab | ⟨hab, hle⟩
    · exact Or.inl (by omega)
    · rcases hbc with hbc | ⟨hbc, hle'⟩
      · exact Or.inl (by omega)
      · exact Or.inr ⟨by omega, h.trans a b c hle hle'⟩
  · rw [Bool.or_eq_true, byKey_iff, byKey_iff]
    rcases Nat.lt_trichotomy (key a) (key b) with hlt | heq | hgt
    · exact Or.inl (Or.inl hlt)
    · have htotal := h.total a b
      rw [Bool.or_eq_true] at htotal
      rcases htotal with hab | hba
      · exact Or.inl (Or.inr ⟨heq, hab⟩)
      · exact Or.inr (Or.inr ⟨heq.symm, hba⟩)
    · exact Or.inr (Or.inl hgt)

theorem pairwise_mergeSort (h : IsRanking le) (l : List α) :
    (l.mergeSort le).Pairwise fun a b => le a b = true :=
  List.pairwise_mergeSort h.trans h.total l

/-- The first of some things is put in front of the first of the others that it may precede. -/
theorem mergeSort_cons (h : IsRanking le) (a : α) (l : List α) :
    (a :: l).mergeSort le = (l.mergeSort le).orderedInsert (fun a b => le a b = true) a := by
  obtain ⟨before, after, hcons, hrest, hbefore⟩ := List.mergeSort_cons h.trans h.total a l
  have hsorted := h.pairwise_mergeSort (a :: l)
  rw [hcons] at hsorted ⊢
  have hafter := (List.pairwise_cons.1 (List.pairwise_append.1 hsorted).2.1).1
  have hpos : ∀ b ∈ before, decide ¬le a b = true := fun b hb => by simpa using hbefore b hb
  rw [hrest, List.orderedInsert_eq_take_drop, List.takeWhile_append_of_pos hpos,
    List.dropWhile_append_of_pos hpos]
  cases after with
  | nil => simp
  | cons b after => simp [hafter b List.mem_cons_self]

/-- What is put into a sorted list may as well be put into what is kept of it. -/
theorem filter_orderedInsert (h : IsRanking le) (p : α → Bool) (a : α) {l : List α}
    (hl : l.Pairwise fun a b => le a b = true) :
    (l.orderedInsert (fun a b => le a b = true) a).filter p =
      if p a then (l.filter p).orderedInsert (fun a b => le a b = true) a else l.filter p := by
  induction l with
  | nil => by_cases hp : p a = true <;> simp [hp]
  | cons b l ih =>
    obtain ⟨hb, hl⟩ := List.pairwise_cons.1 hl
    by_cases hab : le a b = true
    · -- `a` comes first of all, so it also comes first of those that are kept
      have hfirst : ∀ c ∈ (b :: l).filter p, le a c = true := by
        intro c hc
        rcases List.mem_cons.1 (List.mem_filter.1 hc).1 with rfl | hc
        · exact hab
        · exact h.trans a b c hab (hb c hc)
      rw [List.orderedInsert_cons, if_pos hab, List.filter_cons]
      cases hkept : (b :: l).filter p with
      | nil => simp
      | cons c cs =>
        have hac := hfirst c (by rw [hkept]; exact List.mem_cons_self)
        simp [hac]
    · rw [List.orderedInsert_cons, if_neg hab, List.filter_cons, ih hl]
      by_cases hp : p a = true
      · by_cases hpb : p b = true
        · simp [hp, hpb, hab]
        · simp [hp, hpb]
      · simp [hp, List.filter_cons]

/-- Leaving things out before sorting and after sorting comes to the same. -/
theorem filter_mergeSort (h : IsRanking le) (p : α → Bool) (l : List α) :
    (l.mergeSort le).filter p = (l.filter p).mergeSort le := by
  induction l with
  | nil => simp
  | cons a l ih =>
    rw [h.mergeSort_cons, h.filter_orderedInsert p a (h.pairwise_mergeSort l), ih, List.filter_cons]
    split
    · rw [h.mergeSort_cons]
    · rfl

theorem comap {β : Type} (h : IsRanking le) (f : β → α) : IsRanking fun a b => le (f a) (f b) :=
  ⟨fun a b c => h.trans (f a) (f b) (f c), fun a b => h.total (f a) (f b)⟩

/-- Sorting before and sorting after things are replaced by others that rank the same, or are left
out, comes to the same. -/
theorem filterMap_mergeSort {β : Type} (h : IsRanking le) {le' : β → β → Bool} {f : α → Option β}
    (hf : ∀ a a' b b', f a = some b → f a' = some b' → le a a' = le' b b') (l : List α) :
    (l.mergeSort le).filterMap f = (l.filterMap f).mergeSort le' := by
  rcases isEmpty_or_nonempty β with hempty | ⟨⟨b₀⟩⟩
  · have hnone : ∀ l : List α, l.filterMap f = [] := fun l =>
      List.eq_nil_iff_forall_not_mem.2 fun b _ => hempty.elim b
    rw [hnone, hnone, List.mergeSort_nil]
  · let g (a : α) : β := (f a).getD b₀
    have hmap : ∀ l : List α, l.filterMap f = (l.filter fun a => (f a).isSome).map g := by
      intro l
      induction l with
      | nil => rfl
      | cons a l ih => cases ha : f a <;> simp [ha, ih, g]
    have hrank : ∀ a ∈ l.filter (fun a => (f a).isSome), ∀ b ∈ l.filter (fun a => (f a).isSome),
        le a b = le' (g a) (g b) := by
      intro a ha b hb
      obtain ⟨a', ha'⟩ := Option.isSome_iff_exists.1 (List.mem_filter.1 ha).2
      obtain ⟨b', hb'⟩ := Option.isSome_iff_exists.1 (List.mem_filter.1 hb).2
      simp only [g, ha', hb', Option.getD_some]
      exact hf a b a' b' ha' hb'
    calc (l.mergeSort le).filterMap f
        = ((l.mergeSort le).filter fun a => (f a).isSome).map g := hmap _
      _ = ((l.filter fun a => (f a).isSome).mergeSort le).map g := by rw [h.filter_mergeSort]
      _ = ((l.filter fun a => (f a).isSome).map g).mergeSort le' := List.map_mergeSort hrank
      _ = (l.filterMap f).mergeSort le' := by rw [hmap]

/-- Things of which no two are tied are sorted the same in whatever order they come. -/
theorem mergeSort_eq_of_perm (h : IsRanking le) {l l' : List α} (hperm : l.Perm l')
    (hties : ∀ a ∈ l, ∀ b ∈ l, le a b = true → le b a = true → a = b) :
    l.mergeSort le = l'.mergeSort le := by
  have hsorts : (l.mergeSort le).Perm (l'.mergeSort le) :=
    ((List.mergeSort_perm l le).trans hperm).trans (List.mergeSort_perm l' le).symm
  refine hsorts.eq_of_pairwise (fun a b ha hb => ?_) (h.pairwise_mergeSort l)
    (h.pairwise_mergeSort l')
  exact hties a (List.mem_mergeSort.1 ha) b (hperm.mem_iff.2 (List.mem_mergeSort.1 hb))

end IsRanking

end Promotions.StableOrder
