/-!
# Ordered tables

A table maps keys to values and keeps the order in which its keys first came. A key that is entered
again keeps its place and its first form and takes the new value, so no two keys are the same. Keys
need not be equal to be the same: the tables of settings take a truth value for the number it counts
as. All that is asked of sameness is that it is an equivalence.
-/

namespace GoBindings

universe u v w

section Entries

variable {κ : Type u} [BEq κ] {α : Type v}

/-- The value of the first entry with a key. -/
def findEntry (key : κ) : List (κ × α) → Option α
  | [] => none
  | (k, value) :: rest => if k == key then some value else findEntry key rest

/-- Entries with the value of a key replaced in place, or with the key entered at the end. -/
def putEntry (key : κ) (value : α) : List (κ × α) → List (κ × α)
  | [] => [(key, value)]
  | (k, old) :: rest =>
    if k == key then (k, value) :: rest else (k, old) :: putEntry key value rest

/-- Entering a key adds it at the end unless it is there. -/
theorem keys_putEntry (key : κ) (value : α) (entries : List (κ × α)) :
    (putEntry key value entries).map Prod.fst =
      if (entries.map Prod.fst).any (· == key) then entries.map Prod.fst
      else entries.map Prod.fst ++ [key] := by
  induction entries with
  | nil => simp [putEntry]
  | cons entry rest ih =>
    obtain ⟨k, old⟩ := entry
    by_cases same : k == key
    · simp [putEntry, same]
    · simp only [putEntry, same, Bool.false_eq_true, ↓reduceIte, List.map_cons, ih,
        List.any_cons, Bool.false_or]
      split <;> simp

/-- An entry that was just put is found under its key, and all others as before. -/
theorem findEntry_putEntry [EquivBEq κ] (key other : κ) (value : α) (entries : List (κ × α)) :
    findEntry other (putEntry key value entries) =
      if key == other then some value else findEntry other entries := by
  induction entries with
  | nil => simp [putEntry, findEntry]
  | cons entry rest ih =>
    obtain ⟨k, old⟩ := entry
    by_cases same : k == key
    · have agree : (k == other) = (key == other) := BEq.congr_left same
      simp only [putEntry, same, ↓reduceIte, findEntry, agree]
      split <;> rfl
    · simp only [putEntry, same, Bool.false_eq_true, ↓reduceIte, findEntry, ih]
      by_cases found : k == other
      · have apart : (key == other) = false := Bool.eq_false_iff.mpr fun agree =>
          same (BEq.trans found (BEq.symm agree))
        simp [found, apart]
      · simp [found]

end Entries

/-- A finite map that keeps the order of first entry. -/
structure Table (κ : Type u) [BEq κ] (α : Type v) where
  /-- The entries in order of first entry. -/
  entries : List (κ × α)
  /-- No two keys are the same. -/
  distinct_keys : (entries.map Prod.fst).Pairwise fun a b => (a == b) = false

namespace Table

variable {κ : Type u} [BEq κ] {α : Type v} {β : Type w}

/-- The table without entries. -/
def empty : Table κ α := ⟨[], by simp⟩

instance : EmptyCollection (Table κ α) := ⟨empty⟩

instance : Inhabited (Table κ α) := ⟨empty⟩

/-- The keys in order. -/
def keys (table : Table κ α) : List κ := table.entries.map Prod.fst

/-- The values in order. -/
def values (table : Table κ α) : List α := table.entries.map Prod.snd

/-- The value of a key. -/
def find? (table : Table κ α) (key : κ) : Option α := findEntry key table.entries

/-- Whether a key has a value. -/
def contains (table : Table κ α) (key : κ) : Bool := (table.find? key).isSome

/-- The number of entries. -/
def size (table : Table κ α) : Nat := table.entries.length

/-- The table with a key set to a value; a key that is there keeps its place and its form. -/
def insert (table : Table κ α) (key : κ) (value : α) : Table κ α :=
  ⟨putEntry key value table.entries, by
    rw [keys_putEntry]
    split
    · exact table.distinct_keys
    · rename_i absent
      refine List.pairwise_append.mpr ⟨table.distinct_keys, by simp, fun a there b last => ?_⟩
      simp only [List.any_eq_true, not_exists, not_and, Bool.not_eq_true] at absent
      simp only [List.mem_singleton] at last
      exact last ▸ absent a there⟩

/-- The table with several keys set in order. -/
def insertMany (table : Table κ α) (pairs : List (κ × α)) : Table κ α :=
  pairs.foldl (fun t pair => t.insert pair.1 pair.2) table

/-- The table of a list of pairs; a repeated key keeps its first place and its last value. -/
def ofList (pairs : List (κ × α)) : Table κ α := empty.insertMany pairs

/-- The table with every entry of another set in it. -/
def update (table other : Table κ α) : Table κ α := table.insertMany other.entries

/-- The table with every value mapped. -/
def map (f : α → β) (table : Table κ α) : Table κ β :=
  ⟨table.entries.map fun (key, value) => (key, f value), by
    have keysKept : (Prod.fst ∘ fun entry : κ × α => (entry.1, f entry.2)) = Prod.fst := rfl
    rw [List.map_map, keysKept]
    exact table.distinct_keys⟩

/-- A key that was just set has the new value, and every other key the value it had. -/
theorem find?_insert [EquivBEq κ] (table : Table κ α) (key other : κ) (value : α) :
    (table.insert key value).find? other =
      if key == other then some value else table.find? other :=
  findEntry_putEntry key other value table.entries

/-- The table without entries has no value for any key. -/
@[simp] theorem find?_empty (key : κ) : (empty : Table κ α).find? key = none := rfl

/-- Where only equal keys are the same, no key occurs twice. -/
theorem nodup_keys [LawfulBEq κ] (table : Table κ α) : table.keys.Nodup :=
  table.distinct_keys.imp (by simp_all)

end Table

end GoBindings
