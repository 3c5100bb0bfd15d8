import Mathlib.Data.Finset.Card
import ViewAccessors.Proofs.Latest
import ViewAccessors.Proofs.TypeNamespaces

/-!
# Histories of namespace maps

A namespace map is built by edits: a default is inserted for a URI, or a single
type is placed.  What the map answers can be read off the list of its edits
without the map.  The last edit for a type counts, and so does the last one
for a URI; the URIs are listed in the order of the first edit for each.  Edits
of the two kinds do not disturb each other.
-/

namespace ViewAccessors.NamespaceMap

/-! ## Edits -/

/-- One change of a namespace map. -/
inductive Edit where
  /-- Gives a URI its default. -/
  | insert (uri namespaceName : String)
  /-- Places a single type. -/
  | place (uri localName namespaceName : String)
  deriving DecidableEq, Repr

/-- The URI that an edit gives a default, if it is such an edit. -/
def Edit.insertedUri? : Edit → Option String
  | insert uri _ => some uri
  | place _ _ _ => none

/-- The map after one edit. -/
def edit (map : NamespaceMap) : Edit → NamespaceMap
  | .insert uri namespaceName => map.insert uri namespaceName
  | .place uri localName namespaceName => map.place uri localName namespaceName

/-- The map after edits that are made one after the other. -/
def editAll (map : NamespaceMap) (history : List Edit) : NamespaceMap :=
  history.foldl edit map

/-- The URIs that are given a default, as often as they are and in the order of the edits. -/
def insertedUris (history : List Edit) : List String :=
  history.filterMap Edit.insertedUri?

/--
Of the edits that `write` makes from namespaces, the last one in the history is
the one with the given namespace.
-/
def LastWrites
    (write : String → Edit)
    (history : List Edit)
    (namespaceName : String) :
    Prop :=
  Latest (fun change name => change = write name) history namespaceName

section

variable
    {write : String → Edit}
    {history : List Edit}
    {namespaceName : String}

theorem lastWrites_concat_iff (change : Edit) :
    LastWrites write (history ++ [change]) namespaceName ↔
      change = write namespaceName ∨
        (∀ other, change ≠ write other) ∧ LastWrites write history namespaceName :=
  latest_concat_iff

theorem LastWrites.mem (last : LastWrites write history namespaceName) :
    write namespaceName ∈ history := by
  rcases last.exists_mem with ⟨_, member, rfl⟩
  exact member

end

/-! ## What a history leaves in the map -/

/-- The map holds what the last edits wrote, and its URIs stand in the order of the first ones. -/
structure Reflects
    (map : NamespaceMap)
    (history : List Edit) :
    Prop where
  placement : ∀ uri localName namespaceName,
    map.placement? uri localName = some namespaceName ↔
      LastWrites (.place uri localName) history namespaceName
  default : ∀ uri namespaceName,
    map.defaults.get? uri = some namespaceName ↔
      LastWrites (.insert uri) history namespaceName
  order : map.toList.map Prod.fst = (insertedUris history).eraseDups

theorem reflects_empty : empty.Reflects [] := by
  constructor
  · intro uri localName namespaceName
    exact ⟨nofun, fun last => absurd last.mem List.not_mem_nil⟩
  · intro uri namespaceName
    exact ⟨nofun, fun last => absurd last.mem List.not_mem_nil⟩
  · rfl

section

variable
    {map : NamespaceMap}
    {history : List Edit}

theorem Reflects.insert
    (reflects : map.Reflects history)
    (uri namespaceName : String) :
    (map.insert uri namespaceName).Reflects (history ++ [.insert uri namespaceName]) where
  placement other localName otherName := by
    rw [placement?_insert, reflects.placement, lastWrites_concat_iff]
    simp
  default other otherName := by
    rw [NamespaceMap.insert, OrderedMap.get?_insert, lastWrites_concat_iff]
    by_cases same : other = uri
    · simp [same]
    · simp [same, Ne.symm same, reflects.default]
  order := by
    have inserted : insertedUris (history ++ [.insert uri namespaceName]) =
        insertedUris history ++ [uri] :=
      List.filterMap_append
    have listed : uri ∈ map.toList.map Prod.fst ↔ uri ∈ insertedUris history := by
      rw [reflects.order, List.mem_eraseDups]
    have keys : (map.insert uri namespaceName).toList.map Prod.fst =
        if uri ∈ map.toList.map Prod.fst then
          map.toList.map Prod.fst
        else
          map.toList.map Prod.fst ++ [uri] :=
      map_fst_insertEntry uri namespaceName map.toList
    rw [inserted, List.eraseDups_append, ← reflects.order, keys]
    by_cases present : uri ∈ insertedUris history
    · rw [if_pos (listed.mpr present)]
      simp [List.removeAll, present]
    · rw [if_neg (mt listed.mp present)]
      simp [List.removeAll, present, List.eraseDups_cons]

theorem Reflects.place
    (reflects : map.Reflects history)
    (uri localName namespaceName : String) :
    (map.place uri localName namespaceName).Reflects
      (history ++ [.place uri localName namespaceName]) where
  placement other otherLocal otherName := by
    rw [placement?_place, lastWrites_concat_iff]
    by_cases same : other = uri ∧ otherLocal = localName
    · simp [same]
    · have another : ∀ latest,
          Edit.place uri localName namespaceName ≠ .place other otherLocal latest := by
        rintro latest edited
        cases edited
        exact same ⟨rfl, rfl⟩
      simp [same, another, reflects.placement]
  default other otherName := by
    rw [defaults_place, reflects.default, lastWrites_concat_iff]
    simp
  order := by
    have inserted : insertedUris (history ++ [.place uri localName namespaceName]) =
        insertedUris history := by
      simp [insertedUris, Edit.insertedUri?]
    rw [inserted, toList, defaults_place]
    exact reflects.order

theorem Reflects.edit
    (reflects : map.Reflects history)
    (change : Edit) :
    (map.edit change).Reflects (history ++ [change]) := by
  cases change with
  | insert uri namespaceName => exact reflects.insert uri namespaceName
  | place uri localName namespaceName => exact reflects.place uri localName namespaceName

/-- Edits are reflected behind those that are reflected already. -/
theorem Reflects.editAll
    (reflects : map.Reflects history)
    (later : List Edit) :
    (map.editAll later).Reflects (history ++ later) := by
  induction later generalizing map history with
  | nil =>
      rw [List.append_nil]
      exact reflects
  | cons change others hypothesis =>
      have next := hypothesis (reflects.edit change)
      rwa [List.append_assoc, List.singleton_append] at next

end

/-! ## What the map answers -/

/-- What a map answers is told by the edits that it comes from. -/
structure Answers
    (map : NamespaceMap)
    (history : List Edit) :
    Prop where
  /-- A type lives where it was placed last. -/
  placed : ∀ uri localName namespaceName,
    LastWrites (.place uri localName) history namespaceName →
      map.typeNamespace? uri localName = some namespaceName
  /-- A type that was never placed lives where its URI says. -/
  unplaced : ∀ uri localName,
    (∀ namespaceName, .place uri localName namespaceName ∉ history) →
      map.typeNamespace? uri localName = map.namespace? uri
  /-- A URI that names its namespace needs no edit. -/
  direct : ∀ uri namespaceName,
    NamesDirectly uri namespaceName →
      map.namespace? uri = some namespaceName
  /-- Any other URI has the default that was inserted last. -/
  inserted : ∀ uri namespaceName,
    (∀ other, ¬ NamesDirectly uri other) →
      LastWrites (.insert uri) history namespaceName →
        map.namespace? uri = some namespaceName
  /-- Without a default nothing is known of such a URI. -/
  unknown : ∀ uri,
    (∀ other, ¬ NamesDirectly uri other) →
      (∀ namespaceName, .insert uri namespaceName ∉ history) →
        map.namespace? uri = none
  /-- The URIs with a default are listed once, in the order in which they were inserted first. -/
  order : map.toList.map Prod.fst = (insertedUris history).eraseDups
  /-- Each of them is listed with the default that was inserted last. -/
  entries : ∀ uri namespaceName,
    (uri, namespaceName) ∈ map.toList ↔ LastWrites (.insert uri) history namespaceName
  /-- They are counted without repetitions. -/
  size : map.size = (insertedUris history).toFinset.card

theorem namespace?_of_namesDirectly
    {uri namespaceName : String}
    (named : NamesDirectly uri namespaceName)
    (map : NamespaceMap) :
    map.namespace? uri = some namespaceName := by
  rcases Option.map_eq_some_iff.mp (directNamespace?_eq_some_iff.mpr named) with
    ⟨name, found, rfl⟩
  rw [namespace?, found]

theorem namespace?_of_not_namesDirectly
    {uri : String}
    (unnamed : ∀ other, ¬ NamesDirectly uri other)
    (map : NamespaceMap) :
    map.namespace? uri = map.defaults.get? uri := by
  have absent : directNamespace? uri.toList = none := by
    rw [← Option.map_eq_none_iff (f := String.ofList), Option.eq_none_iff_forall_ne_some]
    exact fun other found => unnamed other (directNamespace?_eq_some_iff.mp found)
  rw [namespace?, absent]

section

variable
    {map : NamespaceMap}
    {history : List Edit}

theorem Reflects.placement?_eq_none
    (reflects : map.Reflects history)
    {uri localName : String}
    (unplaced : ∀ namespaceName, .place uri localName namespaceName ∉ history) :
    map.placement? uri localName = none := by
  rw [Option.eq_none_iff_forall_ne_some]
  exact fun namespaceName found =>
    unplaced namespaceName ((reflects.placement _ _ _).mp found).mem

theorem Reflects.size_eq_card (reflects : map.Reflects history) :
    map.size = (insertedUris history).toFinset.card := by
  have listed : (map.toList.map Prod.fst).Nodup := map.defaults.nodup
  calc
    map.size
    _ = (map.toList.map Prod.fst).length := (List.length_map _).symm
    _ = (map.toList.map Prod.fst).toFinset.card := (List.toFinset_card_of_nodup listed).symm
    _ = (insertedUris history).toFinset.card := by
        congr 1
        ext uri
        rw [List.mem_toFinset, List.mem_toFinset, reflects.order, List.mem_eraseDups]

theorem Reflects.answers (reflects : map.Reflects history) :
    map.Answers history where
  placed uri localName namespaceName last := by
    rw [typeNamespace?, (reflects.placement _ _ _).mpr last, Option.some_or]
  unplaced uri localName unplaced := by
    rw [typeNamespace?, reflects.placement?_eq_none unplaced, Option.none_or]
  direct uri namespaceName named := namespace?_of_namesDirectly named map
  inserted uri namespaceName unnamed last := by
    rw [namespace?_of_not_namesDirectly unnamed, reflects.default]
    exact last
  unknown uri unnamed absent := by
    rw [namespace?_of_not_namesDirectly unnamed, Option.eq_none_iff_forall_ne_some]
    exact fun namespaceName found =>
      absent namespaceName ((reflects.default _ _).mp found).mem
  order := reflects.order
  entries uri namespaceName := by
    rw [← reflects.default, OrderedMap.get?, lookup_eq_some_iff_mem map.defaults.nodup]
    rfl
  size := reflects.size_eq_card

/-- A default leaves the types where they are that have been placed. -/
theorem Reflects.typeNamespace?_insert
    (reflects : map.Reflects history)
    {uri localName namespaceName : String}
    (placed : .place uri localName namespaceName ∈ history)
    (other otherName : String) :
    (map.insert other otherName).typeNamespace? uri localName =
      map.typeNamespace? uri localName := by
  have written : ∃ latest, LastWrites (.place uri localName) history latest :=
    exists_latest_of_mem placed rfl
  rcases written with ⟨latest, last⟩
  have found := (reflects.placement _ _ _).mpr last
  rw [typeNamespace?, typeNamespace?, placement?_insert, found, Option.some_or, Option.some_or]

end

/-! ## Where histories begin -/

/-- The maps to which edits are made. -/
inductive Origin where
  | empty
  | wellKnown
  deriving DecidableEq, Repr

namespace Origin

/-- The map before all edits. -/
def map : Origin → NamespaceMap
  | empty => .empty
  | wellKnown => .wellKnown

/-- The edits of which the map consists: the well-known defaults, and then the well-known places. -/
def history : Origin → List Edit
  | empty => []
  | wellKnown =>
    wellKnownDefaults.map (fun (uri, namespaceName) => .insert uri namespaceName) ++
      wellKnownPlacements.flatMap fun (uri, placements) =>
        (listed placements).map fun (localName, namespaceName) =>
          .place uri localName namespaceName

/-- The well-known map is made by its edits like every other map. -/
theorem map_eq_editAll (origin : Origin) :
    origin.map = NamespaceMap.empty.editAll origin.history := by
  cases origin with
  | empty => rfl
  | wellKnown =>
      have placedBy : ∀ (map : NamespaceMap) (uri : String) placements,
          map.placeAll uri placements =
            map.editAll ((listed placements).map fun (localName, namespaceName) =>
              .place uri localName namespaceName) := by
        intro map uri placements
        rw [placeAll_eq_foldl_listed, editAll, List.foldl_map]
        rfl
      rw [map, NamespaceMap.wellKnown, placedBy, placedBy, history, wellKnownPlacements,
        wellKnownDefaults]
      simp only [editAll, List.flatMap_cons, List.flatMap_nil, List.append_nil,
        List.foldl_append]
      rfl

theorem reflects (origin : Origin) :
    origin.map.Reflects origin.history := by
  rw [map_eq_editAll]
  exact reflects_empty.editAll origin.history

end Origin

/--
Whatever edits are made to the empty map or to the well-known one, which counts
as the edits of which it consists, the map answers as the edits tell.  One more
placed type changes no answer about URIs, neither their namespaces nor the
list nor its length, and one more default changes no answer about a type that
has been placed.
-/
theorem answers_after_edits
    (origin : Origin)
    (later : List Edit) :
    let map := origin.map.editAll later
    map.Answers (origin.history ++ later) ∧
      (∀ uri localName namespaceName,
        let placed := map.place uri localName namespaceName
        (∀ other, placed.namespace? other = map.namespace? other) ∧
          placed.toList = map.toList ∧ placed.size = map.size) ∧
      ∀ uri localName namespaceName,
        .place uri localName namespaceName ∈ origin.history ++ later →
          ∀ other otherName,
            (map.insert other otherName).typeNamespace? uri localName =
              map.typeNamespace? uri localName := by
  intro map
  have reflects : map.Reflects (origin.history ++ later) := origin.reflects.editAll later
  refine ⟨reflects.answers, ?_, ?_⟩
  · intro uri localName namespaceName placed
    exact ⟨fun _ => rfl, rfl, rfl⟩
  · intro uri localName namespaceName placed
    exact reflects.typeNamespace?_insert placed

example :
    let map := Origin.wellKnown.map.editAll
      [.insert "urn:b" "First", .place "urn:b" "Box" "Shapes", .insert "urn:b" "Last"]
    map.typeNamespace? "urn:b" "Box" = some "Shapes" ∧
      map.typeNamespace? "urn:b" "Button" = some "Last" := by
  decide +kernel

end ViewAccessors.NamespaceMap
