import Promotions.Sorted.Order

/-!
# Sorted maps

A map is the list of its entries in ascending order of their keys, one entry a key.
-/

namespace Promotions

/-- A finite map, as the list of its entries in ascending order of their keys. -/
structure SortedMap (κ ν : Type) [Ordered κ] where
  /-- The entries, in ascending order of their keys. -/
  entries : List (κ × ν)
  /-- No key is repeated or out of order. -/
  sorted : entries.Pairwise fun a b => Ordered.before a.1 b.1 = true

namespace SortedMap

variable {κ ν : Type} [Ordered κ]

theorem ext {m n : SortedMap κ ν} (h : m.entries = n.entries) : m = n := by
  cases m; cases n; simp_all

instance [DecidableEq κ] [DecidableEq ν] : DecidableEq (SortedMap κ ν) := fun m n =>
  decidable_of_iff (m.entries = n.entries) ⟨ext, fun h => h ▸ rfl⟩

/-- The map without entries. -/
def empty : SortedMap κ ν := ⟨[], .nil⟩

instance : Inhabited (SortedMap κ ν) := ⟨empty⟩

/-- The entry for `k` put in its place in an ascending list, instead of an earlier one for `k`. -/
def insertInto (k : κ) (v : ν) : List (κ × ν) → List (κ × ν)
  | [] => [(k, v)]
  | e :: rest =>
    if Ordered.before k e.1 then (k, v) :: e :: rest
    else if Ordered.before e.1 k then e :: insertInto k v rest
    else (k, v) :: rest

theorem mem_keys_insertInto {k c : κ} {v : ν} {l : List (κ × ν)} :
    c ∈ (insertInto k v l).map (·.1) ↔ c = k ∨ c ∈ l.map (·.1) := by
  induction l with
  | nil => simp [insertInto]
  | cons e rest ih =>
    simp only [insertInto]
    split
    · simp
    · split
      · simp only [List.map_cons, List.mem_cons, ih]
        constructor <;> rintro (h | h | h) <;> simp [h]
      · have : k = e.1 := Ordered.eq_of_not_before (by simp_all) (by simp_all)
        subst this
        simp

theorem pairwise_insertInto {k : κ} {v : ν} {l : List (κ × ν)}
    (h : l.Pairwise fun a b => Ordered.before a.1 b.1 = true) :
    (insertInto k v l).Pairwise fun a b => Ordered.before a.1 b.1 = true := by
  induction l with
  | nil => simp [insertInto]
  | cons e rest ih =>
    obtain ⟨he, hrest⟩ := List.pairwise_cons.1 h
    simp only [insertInto]
    split
    · rename_i hk
      refine List.pairwise_cons.2 ⟨fun c hc => ?_, h⟩
      rcases List.mem_cons.1 hc with rfl | hc
      · exact hk
      · exact Ordered.trans hk (he c hc)
    · split
      · rename_i hk
        refine List.pairwise_cons.2 ⟨fun c hc => ?_, ih hrest⟩
        rcases mem_keys_insertInto.1 (List.mem_map_of_mem hc) with hc | hc
        · rw [hc]; exact hk
        · obtain ⟨d, hd, hdc⟩ := List.mem_map.1 hc
          rw [← hdc]; exact he d hd
      · rename_i hk hk'
        have : k = e.1 := Ordered.eq_of_not_before (by simp_all) (by simp_all)
        subst this
        exact List.pairwise_cons.2 ⟨he, hrest⟩

/-- The map with the entry for `k` set to `v`. -/
def insert (m : SortedMap κ ν) (k : κ) (v : ν) : SortedMap κ ν :=
  ⟨insertInto k v m.entries, pairwise_insertInto m.sorted⟩

/-- The map of a list of entries, of which a later one replaces an earlier one for its key. -/
def ofList (entries : List (κ × ν)) : SortedMap κ ν :=
  entries.foldl (fun m e => m.insert e.1 e.2) empty

/-- The value at `k`. -/
def find? [DecidableEq κ] (m : SortedMap κ ν) (k : κ) : Option ν :=
  (m.entries.find? fun e => e.1 = k).map (·.2)

/-- The map without the entry for `k`. -/
def erase [DecidableEq κ] (m : SortedMap κ ν) (k : κ) : SortedMap κ ν :=
  ⟨m.entries.filter fun e => e.1 ≠ k, m.sorted.filter _⟩

/-- The keys, in ascending order. -/
def keys (m : SortedMap κ ν) : List κ := m.entries.map (·.1)

/-- The values, in ascending order of their keys. -/
def values (m : SortedMap κ ν) : List ν := m.entries.map (·.2)

/-- The number of entries. -/
def size (m : SortedMap κ ν) : Nat := m.entries.length

/-- The map has no entries. -/
def isEmpty (m : SortedMap κ ν) : Bool := m.entries.isEmpty

theorem find?_insertInto [DecidableEq κ] (k k' : κ) (v : ν) (l : List (κ × ν)) :
    (insertInto k v l).find? (fun e => e.1 = k') =
      if k' = k then some (k, v) else l.find? fun e => e.1 = k' := by
  induction l with
  | nil => by_cases h : k' = k <;> simp [insertInto, h, eq_comm]
  | cons e rest ih =>
    simp only [insertInto]
    split
    · by_cases h : k' = k <;> simp [h, eq_comm]
    · split
      · rename_i hbefore
        rw [List.find?_cons, List.find?_cons, ih]
        by_cases h : k' = k
        · have hne : e.1 ≠ k := Ordered.ne_of_before hbefore
          simp [h, hne]
        · simp [h]
      · have hk : k = e.1 := Ordered.eq_of_not_before (by simp_all) (by simp_all)
        subst hk
        by_cases h : k' = e.1 <;> simp [h, eq_comm]

theorem find?_insert [DecidableEq κ] (m : SortedMap κ ν) (k k' : κ) (v : ν) :
    (m.insert k v).find? k' = if k' = k then some v else m.find? k' := by
  simp only [find?, insert, find?_insertInto]
  split <;> rfl

theorem find?_foldl_insert [DecidableEq κ] (m : SortedMap κ ν) (entries : List (κ × ν)) (k : κ) :
    (entries.foldl (fun m e => m.insert e.1 e.2) m).find? k =
      ((entries.reverse.find? fun e => e.1 = k).map (·.2)).or (m.find? k) := by
  induction entries generalizing m with
  | nil => simp
  | cons e entries ih =>
    rw [List.foldl_cons, ih, find?_insert, List.reverse_cons, List.find?_append]
    cases entries.reverse.find? fun e => e.1 = k with
    | some found => rfl
    | none => by_cases h : k = e.1 <;> simp [h, eq_comm]

/-- Of several entries for a key the last one counts. -/
theorem find?_ofList [DecidableEq κ] (entries : List (κ × ν)) (k : κ) :
    (ofList entries).find? k = (entries.reverse.find? fun e => e.1 = k).map (·.2) := by
  rw [ofList, find?_foldl_insert]
  simp [find?, empty]

end SortedMap

end Promotions
