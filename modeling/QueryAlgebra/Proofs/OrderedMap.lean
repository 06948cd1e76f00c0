/-
**Entries put one after the other.**

A list of entries that is put into a map adds at most one key for each entry. It adds exactly as many
as there are entries when no key is there before or comes twice (`nodup_of_size_putAll`), and then
the entries stand behind those of the map in their order (`entries_putAll`). So a map is the map of
its own entries (`ofList_entries`). Two maps find the same under every key as soon as one has the
entries of the other and no more keys (`find?_eq_of_included`).

Of a history of entries, a map has the keys in the order of their first entries (`keys_putAll_sorted`)
and under each key the value of its last entry (`find?_putAll`).
-/
import Mathlib.Data.List.Induction
import Mathlib.Data.List.Perm.Subperm
import QueryAlgebra.OrderedMap

namespace QueryAlgebra.OrderedMap

variable {α β : Type} [DecidableEq α] {key : α} {value : β}

/-! ### One entry -/

/-- An entry after a key was put is the new one or was there before. -/
theorem eq_or_mem_of_mem_putEntry {entries : List (α × β)} {entry : α × β}
    (member : entry ∈ putEntry key value entries) : entry = (key, value) ∨ entry ∈ entries := by
  induction entries with
  | nil => exact .inl (List.mem_singleton.mp member)
  | cons first rest inRest =>
    unfold putEntry at member
    split at member
    · exact (List.mem_cons.mp member).imp_right (.tail _)
    · rcases List.mem_cons.mp member with rfl | member
      · exact .inr List.mem_cons_self
      · exact (inRest member).imp_right (.tail _)

/-- A new key stands at the end. -/
theorem putEntry_of_not_mem {entries : List (α × β)} (absent : key ∉ entries.map Prod.fst) :
    putEntry key value entries = entries ++ [(key, value)] := by
  induction entries with
  | nil => rfl
  | cons first rest inRest =>
    rw [List.map_cons, List.mem_cons, not_or] at absent
    rw [putEntry, if_neg (Ne.symm absent.1), inRest absent.2, List.cons_append]

variable {map : OrderedMap α β}

omit [DecidableEq α] in
theorem nodup_keys (map : OrderedMap α β) : map.keys.Nodup := map.distinct

omit [DecidableEq α] in
theorem length_keys (map : OrderedMap α β) : map.keys.length = map.size := List.length_map _

/-- What is found at a key is its entry. -/
theorem mem_of_find? (found : map.find? key = some value) : (key, value) ∈ map.entries := by
  obtain ⟨entry, isEntry, rfl⟩ := Option.map_eq_some_iff.mp found
  have same : entry.1 = key := by simpa using List.find?_some isEntry
  rw [← same]
  exact List.mem_of_find?_eq_some isEntry

/-- The entry of a key is found at it. -/
theorem find?_of_mem (member : (key, value) ∈ map.entries) : map.find? key = some value := by
  obtain ⟨entries, distinct⟩ := map
  unfold find?
  simp only at member ⊢
  induction entries with
  | nil => cases member
  | cons entry rest inRest =>
    obtain ⟨fresh, distinct⟩ := List.nodup_cons.mp distinct
    rcases List.mem_cons.mp member with rfl | member
    · simp
    · have away : entry.1 ≠ key := fun same => fresh (same ▸ List.mem_map_of_mem member)
      simpa [away] using inRest distinct member

/-! ### Entries in order -/

/-- The map with entries put one after the other. -/
def putAll (map : OrderedMap α β) (entries : List (α × β)) : OrderedMap α β :=
  entries.foldl (fun map entry => map.put entry.1 entry.2) map

theorem putAll_cons (entry : α × β) (rest : List (α × β)) :
    map.putAll (entry :: rest) = (map.put entry.1 entry.2).putAll rest := rfl

/-- New keys stand behind the keys of the map. -/
theorem entries_putAll {entries : List (α × β)}
    (distinct : (map.keys ++ entries.map Prod.fst).Nodup) :
    (map.putAll entries).entries = map.entries ++ entries := by
  induction entries generalizing map with
  | nil => exact (List.append_nil _).symm
  | cons entry rest inRest =>
    rw [List.map_cons, List.append_cons] at distinct
    have fresh : entry.1 ∉ map.keys := fun member =>
      (List.nodup_append.mp (List.nodup_append.mp distinct).1).2.2 _ member _
        (List.mem_singleton_self _) rfl
    have keys : (map.put entry.1 entry.2).keys = map.keys ++ [entry.1] := by
      rw [keys_put, if_neg fresh]
    have entries : (map.put entry.1 entry.2).entries = map.entries ++ [entry] :=
      putEntry_of_not_mem fresh
    rw [putAll_cons, inRest (keys ▸ distinct), entries, List.append_assoc, List.singleton_append]

omit [DecidableEq α] in
theorem eq_of_entries {other : OrderedMap α β} (same : map.entries = other.entries) :
    map = other := by
  cases map
  cases other
  cases same
  rfl

/-- A map is the map of its entries. -/
theorem ofList_entries (map : OrderedMap α β) : ofList map.entries = map :=
  eq_of_entries (@entries_putAll α β _ empty map.entries map.distinct)

theorem size_put : (map.put key value).size = if key ∈ map.keys then map.size else map.size + 1 := by
  rw [← length_keys, keys_put, ← length_keys]
  split
  · rfl
  · exact List.length_append

/-- Each entry adds one key at most. -/
theorem size_putAll_le (entries : List (α × β)) :
    (map.putAll entries).size ≤ map.size + entries.length := by
  induction entries generalizing map with
  | nil => exact Nat.le_refl _
  | cons entry rest inRest =>
    have whole := @inRest (map.put entry.1 entry.2)
    rw [size_put] at whole
    rw [putAll_cons, List.length_cons]
    split at whole <;> omega

/-- **Where each entry adds a key**, no key was there before and none comes twice. -/
theorem nodup_of_size_putAll {entries : List (α × β)}
    (full : (map.putAll entries).size = map.size + entries.length) :
    (map.keys ++ entries.map Prod.fst).Nodup := by
  induction entries generalizing map with
  | nil =>
    rw [List.map_nil, List.append_nil]
    exact map.distinct
  | cons entry rest inRest =>
    rw [putAll_cons, List.length_cons] at full
    have atMost := @size_putAll_le α β _ (map.put entry.1 entry.2) rest
    -- an entry whose key is there adds nothing, and the others cannot make up for it
    have fresh : entry.1 ∉ map.keys := by
      intro member
      rw [full, size_put, if_pos member] at atMost
      omega
    have distinct := @inRest (map.put entry.1 entry.2) (by
      rw [full, size_put, if_neg fresh]
      omega)
    rwa [keys_put, if_neg fresh, List.append_assoc] at distinct

/-! ### Histories of entries -/

theorem putAll_concat (entries : List (α × β)) (entry : α × β) :
    map.putAll (entries ++ [entry]) = (map.putAll entries).put entry.1 entry.2 :=
  List.foldl_append

/-- The keys are those that were there and those of the entries. -/
theorem mem_keys_putAll {entries : List (α × β)} :
    key ∈ (map.putAll entries).keys ↔ key ∈ map.keys ∨ key ∈ entries.map Prod.fst := by
  induction entries using List.reverseRecOn with
  | nil => exact (or_iff_left List.not_mem_nil).symm
  | append_singleton front entry inFront =>
    have added : key ∈ ((map.putAll front).put entry.1 entry.2).keys ↔
        key ∈ (map.putAll front).keys ∨ key = entry.1 := by
      rw [keys_put]
      by_cases listed : entry.1 ∈ (map.putAll front).keys
      · rw [if_pos listed]
        exact (or_iff_left_of_imp fun same => same ▸ listed).symm
      · rw [if_neg listed, List.mem_append, List.mem_singleton]
    rw [putAll_concat, added, inFront, List.map_append, List.mem_append, or_assoc, List.map_singleton,
      List.mem_singleton]

/-- **The last entry of a key is found**, and without one what was there before. -/
theorem find?_putAll (entries : List (α × β)) (key : α) :
    (map.putAll entries).find? key = (entries.reverse.lookup key).or (map.find? key) := by
  induction entries using List.reverseRecOn with
  | nil => rfl
  | append_singleton front entry inFront =>
    rw [putAll_concat, find?_put, inFront, List.reverse_append, List.reverse_singleton,
      List.singleton_append, List.lookup_cons]
    by_cases same : key = entry.1
    · rw [if_pos same, beq_iff_eq.mpr same]
      rfl
    · rw [if_neg same, beq_eq_false_iff_ne.mpr same]

/-- **The keys stand in the order of their first entries**, each once. -/
theorem keys_putAll_sorted (entries : List (α × β)) :
    (empty.putAll entries).keys.Pairwise fun first second =>
      (entries.map Prod.fst).idxOf first < (entries.map Prod.fst).idxOf second := by
  induction entries using List.reverseRecOn with
  | nil => exact List.Pairwise.nil
  | append_singleton front entry inFront =>
    have known : ∀ key ∈ (empty.putAll front).keys, key ∈ front.map Prod.fst := by
      intro key listed
      exact (mem_keys_putAll.mp listed).resolve_left List.not_mem_nil
    -- a later entry does not change where a key comes first
    have kept : ∀ key ∈ (empty.putAll front).keys,
        ((front ++ [entry]).map Prod.fst).idxOf key = (front.map Prod.fst).idxOf key := by
      intro key listed
      rw [List.map_append, List.idxOf_append, if_pos (known key listed)]
    have sorted : (empty.putAll front).keys.Pairwise fun first second =>
        ((front ++ [entry]).map Prod.fst).idxOf first <
          ((front ++ [entry]).map Prod.fst).idxOf second := by
      refine inFront.imp_of_mem fun inFirst inSecond before => ?_
      rw [kept _ inFirst, kept _ inSecond]
      exact before
    rw [putAll_concat, keys_put]
    by_cases listed : entry.1 ∈ (empty.putAll front).keys
    · rw [if_pos listed]
      exact sorted
    · rw [if_neg listed, List.pairwise_append]
      refine ⟨sorted, List.pairwise_singleton _ _, fun key member last isLast => ?_⟩
      have fresh : entry.1 ∉ front.map Prod.fst :=
        fun member => listed (mem_keys_putAll.mpr (.inr member))
      rw [List.mem_singleton.mp isLast, kept key member, List.map_append, List.idxOf_append,
        if_neg fresh]
      have := List.idxOf_lt_length_iff.mpr (known key member)
      omega

/-! ### The same entries in another order -/

theorem mem_keys_iff : key ∈ map.keys ↔ ∃ value, map.find? key = some value := by
  constructor
  · intro listed
    obtain ⟨entry, member, rfl⟩ := List.mem_map.mp listed
    exact ⟨entry.2, find?_of_mem member⟩
  · rintro ⟨value, found⟩
    exact List.mem_map.mpr ⟨(key, value), mem_of_find? found, rfl⟩

/-- **A map with the entries of another and no more keys** finds the same under every key. -/
theorem find?_eq_of_included {other : OrderedMap α β} (count : other.size ≤ map.size)
    (included : ∀ entry ∈ map.entries, other.find? entry.1 = some entry.2) (key : α) :
    map.find? key = other.find? key := by
  have subset : map.keys ⊆ other.keys := by
    intro listed member
    obtain ⟨entry, isEntry, rfl⟩ := List.mem_map.mp member
    exact mem_keys_iff.mpr ⟨entry.2, included entry isEntry⟩
  have same : map.keys.Perm other.keys := by
    refine (List.subperm_of_subset map.nodup_keys subset).perm_of_length_le ?_
    rw [length_keys, length_keys]
    exact count
  by_cases listed : key ∈ map.keys
  · obtain ⟨value, found⟩ := mem_keys_iff.mp listed
    rw [found, included (key, value) (mem_of_find? found)]
  · have absent : key ∉ other.keys := fun member => listed (same.mem_iff.mpr member)
    rw [mem_keys_iff, not_exists, ← Option.eq_none_iff_forall_ne_some] at listed absent
    rw [listed, absent]

/-- Maps that find the same under every key have as many keys. -/
theorem size_eq_of_find?_eq {other : OrderedMap α β}
    (same : ∀ key, map.find? key = other.find? key) : map.size = other.size := by
  have keys : map.keys.Perm other.keys := by
    rw [List.perm_ext_iff_of_nodup map.nodup_keys other.nodup_keys]
    intro key
    rw [mem_keys_iff, mem_keys_iff, same]
  rw [← length_keys, ← length_keys, keys.length_eq]

end QueryAlgebra.OrderedMap
