import Mathlib.Data.List.Sort
import Promotions.Sorted.Map
import Promotions.Sorted.Set

/-!
# Proofs: sorted sets and maps

A set is determined by its members, so it does not matter how a list of them is ordered or how
often one is repeated. A map answers for each key on its own: what is put in or taken out for one
key leaves the others as they are.
-/

namespace Promotions

/-! ## Sets -/

namespace SortedSet

variable {α : Type} [Ordered α]

/-- Two sets with the same members are the same. -/
theorem ext_mem {s t : SortedSet α} (h : ∀ a, a ∈ s ↔ a ∈ t) : s = t := by
  have hantisymm : Std.Antisymm fun a b : α => Ordered.before a b = true :=
    ⟨fun a b hab hba => by rw [Ordered.asymm hab] at hba; cases hba⟩
  have hirrefl : Std.Irrefl fun a b : α => Ordered.before a b = true :=
    ⟨fun a ha => by rw [Ordered.irrefl] at ha; cases ha⟩
  exact ext (s.sorted.eq_of_mem_iff t.sorted h)

@[simp] theorem ofList_toList (s : SortedSet α) : ofList s.toList = s :=
  ext_mem fun _ => mem_ofList

theorem nodup_toList (s : SortedSet α) : s.toList.Nodup :=
  s.sorted.imp fun h => Ordered.ne_of_before h

theorem toList_ofList_perm {l : List α} (h : l.Nodup) : (ofList l).toList.Perm l :=
  (List.perm_ext_iff_of_nodup (nodup_toList _) h).2 fun _ => mem_ofList

/-- Lists with the same members have the same set. -/
theorem ofList_congr {l l' : List α} (h : ∀ a, a ∈ l ↔ a ∈ l') : ofList l = ofList l' :=
  ext_mem fun a => by rw [mem_ofList, mem_ofList, h]

/-- What is picked from two sets is the same if its members are. -/
theorem filter_toList_congr {s t : SortedSet α} {P Q : α → Bool}
    (h : ∀ a, (a ∈ s ∧ P a = true) ↔ (a ∈ t ∧ Q a = true)) :
    s.toList.filter P = t.toList.filter Q := by
  refine congrArg toList (ext_mem (s := ⟨_, s.sorted.filter P⟩) (t := ⟨_, t.sorted.filter Q⟩) ?_)
  intro a
  exact List.mem_filter.trans ((h a).trans List.mem_filter.symm)

end SortedSet

/-! ## Lists of things with a key each -/

namespace Keyed

variable {α κ : Type} [DecidableEq κ] {key : α → κ} {l l' : List α} {k : κ}

theorem find?_eq_some_iff (h : (l.map key).Nodup) {a : α} :
    (l.find? fun a => key a = k) = some a ↔ a ∈ l ∧ key a = k := by
  constructor
  · intro hfind
    have hkey := List.find?_some hfind
    exact ⟨List.mem_of_find?_eq_some hfind, of_decide_eq_true hkey⟩
  · rintro ⟨ha, hkey⟩
    have hsome : (l.find? fun a => key a = k).isSome := by
      rw [List.find?_isSome]
      exact ⟨a, ha, decide_eq_true hkey⟩
    obtain ⟨b, hfind⟩ := Option.isSome_iff_exists.1 hsome
    have hmem := List.mem_of_find?_eq_some hfind
    have hb := List.find?_some hfind
    rw [hfind, List.inj_on_of_nodup_map h hmem ha ((of_decide_eq_true hb).trans hkey.symm)]

/-- What is found by a key does not depend on the order, if keys do not repeat. -/
theorem find?_perm (hperm : l.Perm l') (h : (l.map key).Nodup) :
    (l.find? fun a => key a = k) = l'.find? fun a => key a = k := by
  have h' : (l'.map key).Nodup := (hperm.map key).nodup_iff.1 h
  ext a
  rw [find?_eq_some_iff h, find?_eq_some_iff h', hperm.mem_iff]

end Keyed

/-! ## Maps -/

namespace SortedMap

theorem nodup_entries {κ ν : Type} [Ordered κ] (m : SortedMap κ ν) : m.entries.Nodup :=
  m.sorted.imp fun h e => Ordered.ne_of_before h (congrArg Prod.fst e)

variable {κ ν α : Type} [Ordered κ] [DecidableEq κ]

theorem find?_erase (m : SortedMap κ ν) (k k' : κ) :
    (m.erase k).find? k' = if k' = k then none else m.find? k' := by
  simp only [find?, erase]
  induction m.entries with
  | nil => simp
  | cons e entries ih =>
    by_cases hk : e.1 = k
    · by_cases hk' : k' = k
      · simp_all
      · have hne : e.1 ≠ k' := fun h => hk' (h.symm.trans hk)
        simp_all
    · by_cases hk' : e.1 = k' <;> simp_all

theorem find?_foldl_erase (m : SortedMap κ ν) (ks : List κ) (k : κ) :
    (ks.foldl erase m).find? k = if k ∈ ks then none else m.find? k := by
  induction ks generalizing m with
  | nil => simp
  | cons k' ks ih =>
    rw [List.foldl_cons, ih, find?_erase]
    by_cases hk : k = k' <;> simp [hk]

section Fold

variable (key : α → κ) (value : α → ν) (m : SortedMap κ ν) {l : List α}

theorem find?_foldl_insert_of_not_mem {k : κ} (hk : k ∉ l.map key) :
    (l.foldl (fun m a => m.insert (key a) (value a)) m).find? k = m.find? k := by
  induction l generalizing m with
  | nil => rfl
  | cons a l ih =>
    rw [List.map_cons, List.mem_cons, not_or] at hk
    rw [List.foldl_cons, ih _ hk.2, find?_insert, if_neg hk.1]

/-- Of things that are put in for a key each, every one is found. -/
theorem find?_foldl_insert_of_mem (hkeys : (l.map key).Nodup) {a : α} (ha : a ∈ l) :
    (l.foldl (fun m a => m.insert (key a) (value a)) m).find? (key a) = some (value a) := by
  induction l generalizing m with
  | nil => cases ha
  | cons b l ih =>
    rw [List.map_cons, List.nodup_cons] at hkeys
    rw [List.foldl_cons]
    rcases List.mem_cons.1 ha with rfl | ha
    · rw [find?_foldl_insert_of_not_mem key value _ hkeys.1, find?_insert, if_pos rfl]
    · exact ih _ hkeys.2 ha

end Fold

/-- The entries are those that are found by their keys. -/
theorem mem_entries_iff {m : SortedMap κ ν} {e : κ × ν} :
    e ∈ m.entries ↔ m.find? e.1 = some e.2 := by
  have hkeys : (m.entries.map (·.1)).Nodup :=
    List.pairwise_map.2 (m.sorted.imp fun h => Ordered.ne_of_before h)
  rw [find?, Option.map_eq_some_iff]
  constructor
  · intro he
    exact ⟨e, (Keyed.find?_eq_some_iff hkeys).2 ⟨he, rfl⟩, rfl⟩
  · rintro ⟨e', he', hvalue⟩
    obtain ⟨hmem, hkey⟩ := (Keyed.find?_eq_some_iff hkeys).1 he'
    rwa [← Prod.ext (hkey : e'.1 = e.1) hvalue]

/-- A map is determined by what is found in it. -/
theorem ext_find? {m n : SortedMap κ ν} (h : ∀ k, m.find? k = n.find? k) : m = n := by
  have hantisymm : Std.Antisymm fun a b : κ × ν => Ordered.before a.1 b.1 = true :=
    ⟨fun a b hab hba => by rw [Ordered.asymm hab] at hba; cases hba⟩
  have hirrefl : Std.Irrefl fun a b : κ × ν => Ordered.before a.1 b.1 = true :=
    ⟨fun a ha => by rw [Ordered.irrefl] at ha; cases ha⟩
  refine ext (m.sorted.eq_of_mem_iff n.sorted fun e => ?_)
  rw [mem_entries_iff, mem_entries_iff, h]

theorem values_insert_perm (m : SortedMap κ ν) (k : κ) (v : ν) :
    (m.insert k v).values.Perm (v :: (m.erase k).values) := by
  have hnew : (k, v) ∉ (m.erase k).entries := by
    rw [mem_entries_iff, find?_erase, if_pos rfl]
    simp
  refine List.Perm.map (·.2) ((List.perm_ext_iff_of_nodup (nodup_entries _)
    (List.nodup_cons.2 ⟨hnew, nodup_entries _⟩)).2 fun e => ?_)
  rw [List.mem_cons, mem_entries_iff, mem_entries_iff, find?_insert, find?_erase]
  by_cases hk : e.1 = k
  · rw [if_pos hk, if_pos hk]
    simp [Prod.ext_iff, hk, eq_comm]
  · rw [if_neg hk, if_neg hk]
    simp [Prod.ext_iff, hk]

theorem values_perm_of_find? {m : SortedMap κ ν} {k : κ} {v : ν} (h : m.find? k = some v) :
    m.values.Perm (v :: (m.erase k).values) := by
  have hsame : m.insert k v = m := by
    refine ext_find? fun k' => ?_
    rw [find?_insert]
    split
    · next hk => rw [hk, h]
    · rfl
  have hperm := values_insert_perm m k v
  rwa [hsame] at hperm

theorem erase_of_find?_eq_none {m : SortedMap κ ν} {k : κ} (h : m.find? k = none) :
    m.erase k = m := by
  refine ext_find? fun k' => ?_
  rw [find?_erase]
  split
  · next hk => rw [hk, h]
  · rfl

/-- The set of keys. -/
def keySet (m : SortedMap κ ν) : SortedSet κ :=
  ⟨m.keys, List.pairwise_map.2 m.sorted⟩

/-- The keys are those at which there is a value. -/
theorem mem_keys_iff {m : SortedMap κ ν} {k : κ} : k ∈ m.keys ↔ (m.find? k).isSome := by
  simp [keys, find?]

end SortedMap

end Promotions
