import ViewAccessors.Json.Reader

/-!
# Reading back lists and maps

What is written as a list or as an object is read back from the front of any
tokens, as long as the same holds of what the list or the object is made of.
A map keeps the order of its entries on the way.
-/

namespace ViewAccessors

/-! ## Maps from their entries -/

namespace OrderedMap

variable {Value : Type}

/-- Entries under new and distinct keys are inserted behind those of the map. -/
theorem entries_foldl_insert
    {entries : List (String × Value)}
    (distinct : (entries.map Prod.fst).Nodup)
    {map : OrderedMap Value}
    (untaken : ∀ entry ∈ entries, map.get? entry.1 = none) :
    (entries.foldl (fun map (key, value) => map.insert key value) map).entries =
      map.entries ++ entries := by
  induction entries generalizing map with
  | nil => exact (List.append_nil _).symm
  | cons entry others hypothesis =>
      rcases entry with ⟨key, value⟩
      rw [List.map_cons, List.nodup_cons] at distinct
      have absent : map.get? key = none := untaken _ List.mem_cons_self
      rw [List.foldl_cons, hypothesis distinct.2, entries_insert_of_get?_eq_none absent,
        List.append_assoc]
      · rfl
      · intro other member
        have another : other.1 ≠ key := fun same =>
          distinct.1 (List.mem_map.mpr ⟨other, member, same⟩)
        rw [get?_insert, if_neg another]
        exact untaken other (List.mem_cons_of_mem _ member)

/-- A map is the map of its entries. -/
theorem ofList_entries (map : OrderedMap Value) :
    ofList map.entries = map :=
  OrderedMap.ext (entries_foldl_insert map.nodup fun _ _ => rfl)

end OrderedMap

namespace Json

variable {Value : Type}

/-- The reader takes `value` off the front of `source` and leaves `rest`. -/
def Reads
    (reader : Reader Value)
    (source : List Token)
    (value : Value)
    (rest : List Token) :
    Prop :=
  (reader source).map (fun reading => (reading.value, reading.rest)) = some (value, rest)

theorem Reads.exists_eq
    {reader : Reader Value}
    {source rest : List Token}
    {value : Value}
    (reads : Reads reader source value rest) :
    ∃ shorter, reader source = some ⟨value, rest, shorter⟩ := by
  rcases Option.map_eq_some_iff.mp reads with ⟨⟨found, later, shorter⟩, read, same⟩
  cases same
  exact ⟨shorter, read⟩

theorem reads_text
    (content : String)
    (rest : List Token) :
    Reads readText? (.text content :: rest) content rest :=
  rfl

/-- Several items with commas between them, and what follows. -/
theorem separated_append
    (write : Value → List Token)
    (first second : Value)
    (others : List Value)
    (rest : List Token) :
    separated ((first :: second :: others).map write) ++ rest =
      write first ++ .comma :: (separated ((second :: others).map write) ++ rest) :=
  List.append_assoc _ _ _

/-- Items with commas between them begin with what the first item begins with. -/
theorem exists_separated_eq_cons
    {write : Value → List Token}
    {first : Value}
    {token : Token}
    {tokens : List Token}
    (begins : write first = token :: tokens)
    (others : List Value) :
    ∃ later, separated ((first :: others).map write) = token :: later := by
  cases others with
  | nil => exact ⟨tokens, begins⟩
  | cons second others =>
      refine ⟨tokens ++ .comma :: separated ((second :: others).map write), ?_⟩
      rw [List.map_cons, begins]
      rfl

/-- The tokens of one entry of an object. -/
def writeEntry
    (write : Value → List Token)
    (entry : String × Value) :
    List Token :=
  .text entry.1 :: .colon :: write entry.2

/-! ## Tokens that are written -/

/-- A token between and in items is a comma or one of an item. -/
theorem eq_comma_or_exists_of_mem_separated
    {token : Token}
    {items : List (List Token)}
    (member : token ∈ separated items) :
    token = .comma ∨ ∃ item ∈ items, token ∈ item := by
  induction items with
  | nil => cases member
  | cons first others hypothesis =>
      cases others with
      | nil => exact .inr ⟨first, List.mem_cons_self, member⟩
      | cons second others =>
          have parts : token ∈ first ++ .comma :: separated (second :: others) := member
          rw [List.mem_append, List.mem_cons] at parts
          rcases parts with inFirst | isComma | later
          · exact .inr ⟨first, List.mem_cons_self, inFirst⟩
          · exact .inl isComma
          · rcases hypothesis later with isComma | ⟨item, listed, inItem⟩
            · exact .inl isComma
            · exact .inr ⟨item, List.mem_cons_of_mem _ listed, inItem⟩

theorem other_notMem_separated
    {items : List (List Token)}
    (areTokens : ∀ item ∈ items, .other ∉ item) :
    .other ∉ separated items := by
  intro member
  rcases eq_comma_or_exists_of_mem_separated member with isComma | ⟨item, listed, inItem⟩
  · cases isComma
  · exact areTokens item listed inItem

theorem other_notMem_writeList
    {write : Value → List Token}
    (areTokens : ∀ value, .other ∉ write value)
    (values : List Value) :
    .other ∉ writeList write values := by
  have within : .other ∉ separated (values.map write) := by
    apply other_notMem_separated
    intro item listed
    rcases List.mem_map.mp listed with ⟨value, _, rfl⟩
    exact areTokens value
  simp [writeList, within]

theorem other_notMem_writeEntries
    {write : Value → List Token}
    (areTokens : ∀ value, .other ∉ write value)
    (entries : List (String × Value)) :
    .other ∉ writeEntries write entries := by
  have within : .other ∉ separated (entries.map (writeEntry write)) := by
    apply other_notMem_separated
    intro item listed
    rcases List.mem_map.mp listed with ⟨entry, _, rfl⟩
    simp [writeEntry, areTokens entry.2]
  show .other ∉ .openBrace :: separated (entries.map (writeEntry write)) ++ [.closeBrace]
  simp [within]

/-! ## Lists -/

section

variable
    {item : Reader Value}
    {write : Value → List Token}
    (reads : ∀ value rest, Reads item (write value ++ rest) value rest)

include reads

theorem reads_items
    (first : Value)
    (others : List Value)
    (rest : List Token) :
    Reads (readItems? item)
      (separated ((first :: others).map write) ++ .closeBracket :: rest)
      (first :: others) rest := by
  induction others generalizing first with
  | nil =>
      rcases (reads first (.closeBracket :: rest)).exists_eq with ⟨shorter, read⟩
      rw [Reads, List.map_cons, List.map_nil, separated, readItems?, read]
      rfl
  | cons second others hypothesis =>
      rcases (hypothesis second).exists_eq with ⟨shorterOthers, readOthers⟩
      rcases (reads first _).exists_eq with ⟨shorter, read⟩
      rw [Reads, separated_append, readItems?, read]
      simp only [readOthers, Option.map_some]

/-- A list is read back, if no item begins with the bracket that closes the list. -/
theorem reads_list
    (opens : ∀ value, ∃ token others, write value = token :: others ∧ token ≠ .closeBracket)
    (values : List Value)
    (rest : List Token) :
    Reads (readList? item) (writeList write values ++ rest) values rest := by
  cases values with
  | nil => rfl
  | cons first others =>
      have readsItems := reads_items reads first others rest
      rcases opens first with ⟨token, tokens, begins, noBracket⟩
      rcases exists_separated_eq_cons begins others with ⟨later, whole⟩
      rw [whole, List.cons_append] at readsItems
      rcases readsItems.exists_eq with ⟨shorter, read⟩
      rw [Reads, writeList, List.append_assoc, List.cons_append, List.singleton_append, whole,
        List.cons_append, readList?]
      · simp only [read, Option.map_some]
      · intro others same
        exact noBracket (List.cons.inj same).1

/-! ## Maps -/

theorem reads_entry
    (entry : String × Value)
    (rest : List Token) :
    Reads (readPair? item) (writeEntry write entry ++ rest) entry rest := by
  rcases (reads entry.2 rest).exists_eq with ⟨shorter, read⟩
  rw [Reads, writeEntry, List.cons_append, List.cons_append, readPair?]
  simp only [read, Option.map_some]

theorem reads_entries
    (first : String × Value)
    (others : List (String × Value))
    (rest : List Token) :
    Reads (readEntries? item)
      (separated ((first :: others).map (writeEntry write)) ++ .closeBrace :: rest)
      (first :: others) rest := by
  induction others generalizing first with
  | nil =>
      rcases (reads_entry reads first (.closeBrace :: rest)).exists_eq with ⟨shorter, read⟩
      rw [Reads, List.map_cons, List.map_nil, separated, readEntries?, read]
      rfl
  | cons second others hypothesis =>
      rcases (hypothesis second).exists_eq with ⟨shorterOthers, readOthers⟩
      rcases (reads_entry reads first _).exists_eq with ⟨shorter, read⟩
      rw [Reads, separated_append, readEntries?, read]
      simp only [readOthers, Option.map_some]

/-- A map is read back with its entries in their order. -/
theorem reads_map
    (map : OrderedMap Value)
    (rest : List Token) :
    Reads (readMap? item) (writeMap write map ++ rest) map rest := by
  have written : writeMap write map ++ rest =
      .openBrace :: (separated (map.entries.map (writeEntry write)) ++ .closeBrace :: rest) :=
    List.append_assoc _ _ _
  rw [Reads, written]
  cases listed : map.entries with
  | nil =>
      have isEmpty : map = .empty := OrderedMap.ext listed
      rw [isEmpty]
      rfl
  | cons first others =>
      have begins : writeEntry write first = .text first.1 :: .colon :: write first.2 := rfl
      have readsEntries := reads_entries reads first others rest
      rcases exists_separated_eq_cons begins others with ⟨later, whole⟩
      rw [whole, List.cons_append] at readsEntries ⊢
      rcases readsEntries.exists_eq with ⟨shorter, read⟩
      rw [readMap?]
      · simp only [read, Option.map_some, ← listed, OrderedMap.ofList_entries]
      · intro others same
        cases (List.cons.inj same).1

end

end Json

end ViewAccessors
