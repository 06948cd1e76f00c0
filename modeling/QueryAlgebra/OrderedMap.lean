/-
**Maps that keep the order of insertion.**

A map is a list of keys with values in which no key occurs twice; the keys stand in the order in
which they were first put. Putting a key again keeps its place and changes its value. Main
statements: what `find?` gives after `put` and `erase`, and which keys there are.
-/
namespace QueryAlgebra

/-- A map from keys to values in order of insertion. -/
structure OrderedMap (α β : Type) where
  entries : List (α × β)
  distinct : (entries.map Prod.fst).Nodup
  deriving DecidableEq, Repr

namespace OrderedMap

variable {α β : Type} [DecidableEq α]

/-- The entries with the value of a key changed or, if the key is new, with the key at the end. -/
def putEntry (key : α) (value : β) : List (α × β) → List (α × β)
  | [] => [(key, value)]
  | entry :: rest =>
    if entry.1 = key then (key, value) :: rest else entry :: putEntry key value rest

/-- The keys after an entry is put: a new key stands at the end. -/
theorem keys_putEntry (key : α) (value : β) (entries : List (α × β)) :
    (putEntry key value entries).map Prod.fst =
      if key ∈ entries.map Prod.fst then entries.map Prod.fst
      else entries.map Prod.fst ++ [key] := by
  induction entries with
  | nil => simp [putEntry]
  | cons entry rest inRest =>
    unfold putEntry
    by_cases same : entry.1 = key
    · simp [same]
    · have differ : ¬key = entry.1 := fun equal => same equal.symm
      simp only [same, if_false, List.map_cons, inRest, List.mem_cons, differ, false_or]
      split <;> simp

/-- No key occurs twice after an entry is put. -/
theorem nodup_putEntry {key : α} {value : β} {entries : List (α × β)}
    (distinct : (entries.map Prod.fst).Nodup) :
    ((putEntry key value entries).map Prod.fst).Nodup := by
  rw [keys_putEntry]
  split
  · exact distinct
  · rename_i absent
    rw [List.nodup_append]
    refine ⟨distinct, by simp, fun first member second last => ?_⟩
    rw [List.mem_singleton] at last
    exact fun equal => absent (last ▸ equal ▸ member)

/-- The map without keys. -/
def empty : OrderedMap α β := ⟨[], List.nodup_nil⟩

instance : Inhabited (OrderedMap α β) := ⟨empty⟩

/-- The map with a key put. -/
def put (map : OrderedMap α β) (key : α) (value : β) : OrderedMap α β :=
  ⟨putEntry key value map.entries, nodup_putEntry map.distinct⟩

/-- The map without a key. -/
def erase (map : OrderedMap α β) (key : α) : OrderedMap α β :=
  ⟨map.entries.filter fun entry => entry.1 ≠ key,
    List.Pairwise.sublist (List.filter_sublist.map Prod.fst) map.distinct⟩

/-- The map of a list of entries, put in order. -/
def ofList (entries : List (α × β)) : OrderedMap α β :=
  entries.foldl (fun map entry => map.put entry.1 entry.2) empty

/-- The value of a key. -/
def find? (map : OrderedMap α β) (key : α) : Option β :=
  (map.entries.find? fun entry => entry.1 = key).map Prod.snd

/-- The keys in order of insertion. -/
def keys (map : OrderedMap α β) : List α := map.entries.map Prod.fst

/-- Whether a key is there. -/
def contains (map : OrderedMap α β) (key : α) : Bool := (map.find? key).isSome

/-- The number of keys. -/
def size (map : OrderedMap α β) : Nat := map.entries.length

/-- Whether there is no key. -/
def isEmpty (map : OrderedMap α β) : Bool := map.entries.isEmpty

/-- The keys after a key is put. -/
theorem keys_put (map : OrderedMap α β) (key : α) (value : β) :
    (map.put key value).keys = if key ∈ map.keys then map.keys else map.keys ++ [key] :=
  keys_putEntry key value map.entries

/-- A key that was put has its value, and every other key the value it had. -/
theorem find?_put (map : OrderedMap α β) (key other : α) (value : β) :
    (map.put key value).find? other = if other = key then some value else map.find? other := by
  obtain ⟨entries, distinct⟩ := map
  unfold find? put
  simp only
  clear distinct
  induction entries with
  | nil =>
    by_cases same : other = key
    · simp [putEntry, same]
    · simp [putEntry, same, Ne.symm same]
  | cons entry rest inRest =>
    simp only [putEntry]
    by_cases here : entry.1 = key
    · by_cases same : other = key
      · simp [here, same]
      · have away : ¬entry.1 = other := fun equal => same (equal ▸ here)
        simp [here, same, Ne.symm same]
    · by_cases found : entry.1 = other
      · have away : ¬other = key := fun equal => here (found.trans equal)
        simp [found, away]
      · simp only [here, if_false, List.find?_cons, found, decide_false]
        exact inRest

/-- A key that was erased has no value, and every other key the value it had. -/
theorem find?_erase (map : OrderedMap α β) (key other : α) :
    (map.erase key).find? other = if other = key then none else map.find? other := by
  obtain ⟨entries, distinct⟩ := map
  unfold find? erase
  simp only
  clear distinct
  induction entries with
  | nil => simp
  | cons entry rest inRest =>
    by_cases here : entry.1 = key
    · by_cases same : other = key
      · simp [same]
      · have away : ¬entry.1 = other := fun equal => same (equal.symm.trans here)
        simp only [same, if_false] at inRest ⊢
        simpa [here, away, Ne.symm same] using inRest
    · by_cases found : entry.1 = other
      · have away : ¬other = key := fun equal => here (found.trans equal)
        simp [found, away]
      · simpa [here, found, List.find?_cons] using inRest

end OrderedMap

end QueryAlgebra
