/-!
# Maps that keep the order of insertion

An ordered map holds each key once, at the place where it was first inserted.
Inserting under a key that is present replaces the value and leaves the place
as it is.
-/

namespace ViewAccessors

/-- The entries with `value` under `key`, in its old place or at the end. -/
def insertEntry
    {Value : Type}
    (key : String)
    (value : Value) :
    List (String × Value) → List (String × Value)
  | [] => [(key, value)]
  | (first, old) :: rest =>
    if first = key then
      (key, value) :: rest
    else
      (first, old) :: insertEntry key value rest

/-- Inserting adds its key at the end, unless the key is present. -/
theorem map_fst_insertEntry
    {Value : Type}
    (key : String)
    (value : Value)
    (entries : List (String × Value)) :
    (insertEntry key value entries).map Prod.fst =
      if key ∈ entries.map Prod.fst then
        entries.map Prod.fst
      else
        entries.map Prod.fst ++ [key] := by
  induction entries with
  | nil => simp [insertEntry]
  | cons entry rest hypothesis =>
    obtain ⟨first, old⟩ := entry
    by_cases same : first = key
    · simp [insertEntry, same]
    · by_cases present : key ∈ rest.map Prod.fst <;>
        simp_all [insertEntry, Ne.symm same]

/-- The value under a key comes from the first entry of that key. -/
theorem lookup_cons_eq_ite
    {Value : Type}
    (key first : String)
    (value : Value)
    (rest : List (String × Value)) :
    ((first, value) :: rest).lookup key =
      if key = first then some value else rest.lookup key := by
  by_cases same : key = first
  · simp [same]
  · simp [List.lookup_cons, same, beq_false_of_ne same]

/-- Nothing is found under a key exactly if no entry has the key. -/
theorem lookup_eq_none_iff_notMem
    {Value : Type}
    (key : String)
    (entries : List (String × Value)) :
    entries.lookup key = none ↔ key ∉ entries.map Prod.fst := by
  rw [List.lookup_eq_none_iff]
  constructor
  · intro differs member
    obtain ⟨entry, present, rfl⟩ := List.mem_map.mp member
    simpa using differs entry present
  · intro absent entry present
    rw [bne_iff_ne]
    rintro rfl
    exact absent (List.mem_map_of_mem present)

/-- An entry under an absent key is added at the end. -/
theorem insertEntry_of_notMem
    {Value : Type}
    {key : String}
    {entries : List (String × Value)}
    (absent : key ∉ entries.map Prod.fst)
    (value : Value) :
    insertEntry key value entries = entries ++ [(key, value)] := by
  induction entries with
  | nil => rfl
  | cons entry rest hypothesis =>
    obtain ⟨first, old⟩ := entry
    simp only [List.map_cons, List.mem_cons, not_or] at absent
    rw [insertEntry, if_neg (Ne.symm absent.1), hypothesis absent.2, List.cons_append]

/-- A map from texts to values that keeps its keys in the order of insertion. -/
structure OrderedMap (Value : Type) where
  entries : List (String × Value)
  nodup : (entries.map Prod.fst).Nodup
  deriving DecidableEq, Repr

namespace OrderedMap

variable {Value : Type}

/-- The map without entries. -/
def empty : OrderedMap Value :=
  ⟨[], .nil⟩

instance : Inhabited (OrderedMap Value) :=
  ⟨empty⟩

/-- The value under `key`. -/
def get?
    (map : OrderedMap Value)
    (key : String) :
    Option Value :=
  map.entries.lookup key

/-- The map with `value` under `key`. -/
def insert
    (map : OrderedMap Value)
    (key : String)
    (value : Value) :
    OrderedMap Value where
  entries := insertEntry key value map.entries
  nodup := by
    rw [map_fst_insertEntry]
    split
    · exact map.nodup
    · rename_i absent
      exact List.nodup_append.2 ⟨map.nodup, by simp, by
        intro one member other single
        rw [List.mem_singleton] at single
        exact fun same => absent (single ▸ same ▸ member)⟩

/-- The number of keys. -/
def size (map : OrderedMap Value) : Nat :=
  map.entries.length

/-- The map that arises by inserting the entries one after the other. -/
def ofList (entries : List (String × Value)) : OrderedMap Value :=
  entries.foldl (fun map (key, value) => map.insert key value) empty

/-- The value under the inserted key is the inserted one, other keys are untouched. -/
theorem get?_insert
    (map : OrderedMap Value)
    (key : String)
    (value : Value)
    (other : String) :
    (map.insert key value).get? other =
      if other = key then some value else map.get? other := by
  simp only [get?, insert]
  generalize map.entries = entries
  induction entries with
  | nil => simp [insertEntry, lookup_cons_eq_ite]
  | cons entry rest hypothesis =>
    obtain ⟨first, old⟩ := entry
    by_cases same : first = key
    · by_cases found : other = key <;>
        simp [insertEntry, same, lookup_cons_eq_ite, found]
    · by_cases found : other = first
      · simp [insertEntry, same, found]
      · simp [insertEntry, same, lookup_cons_eq_ite, found, hypothesis]

@[ext]
theorem ext
    {first second : OrderedMap Value}
    (same : first.entries = second.entries) :
    first = second := by
  cases first
  cases second
  cases same
  rfl

theorem get?_eq_none_iff
    (map : OrderedMap Value)
    (key : String) :
    map.get? key = none ↔ key ∉ map.entries.map Prod.fst :=
  lookup_eq_none_iff_notMem key map.entries

/-- A new key is inserted behind the others. -/
theorem entries_insert_of_get?_eq_none
    {map : OrderedMap Value}
    {key : String}
    (absent : map.get? key = none)
    (value : Value) :
    (map.insert key value).entries = map.entries ++ [(key, value)] :=
  insertEntry_of_notMem ((map.get?_eq_none_iff key).mp absent) value

end OrderedMap

end ViewAccessors
