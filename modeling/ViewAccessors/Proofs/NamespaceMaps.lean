import ViewAccessors.Options.Basic

/-!
# What namespace maps answer

A namespace map is built by inserting defaults and placing types.  These facts
say what the map answers afterwards, so that nobody has to look inside it: the
last insertion for a key counts, and insertions under other keys change
nothing.  For the map of options this comes down to the mappings of the URI
that is asked for.
-/

namespace ViewAccessors

/-! ## Lists of entries -/

theorem lookup_append_eq_or
    {Value : Type}
    (key : String)
    (first second : List (String × Value)) :
    (first ++ second).lookup key = (first.lookup key).or (second.lookup key) := by
  induction first with
  | nil => rfl
  | cons entry others hypothesis =>
      rcases entry with ⟨other, value⟩
      rw [List.cons_append, lookup_cons_eq_ite, lookup_cons_eq_ite, hypothesis]
      split <;> rfl

/-- In entries with distinct keys it does not matter from which end a key is looked up. -/
theorem lookup_reverse_of_nodup
    {Value : Type}
    {entries : List (String × Value)}
    (distinct : (entries.map Prod.fst).Nodup)
    (key : String) :
    entries.reverse.lookup key = entries.lookup key := by
  induction entries with
  | nil => rfl
  | cons entry others hypothesis =>
      rcases entry with ⟨first, value⟩
      rw [List.map_cons, List.nodup_cons] at distinct
      rw [List.reverse_cons, lookup_append_eq_or, hypothesis distinct.2, lookup_cons_eq_ite,
        lookup_cons_eq_ite]
      by_cases same : key = first
      · have absent : others.lookup key = none :=
          (lookup_eq_none_iff_notMem key others).mpr (same ▸ distinct.1)
        rw [absent, if_pos same, if_pos same, Option.none_or]
      · rw [if_neg same, if_neg same]
        exact Option.or_none

/-- In entries with distinct keys the value under a key is that of the entry with the key. -/
theorem lookup_eq_some_iff_mem
    {Value : Type}
    {entries : List (String × Value)}
    (distinct : (entries.map Prod.fst).Nodup)
    {key : String}
    {value : Value} :
    entries.lookup key = some value ↔ (key, value) ∈ entries := by
  induction entries with
  | nil => simp
  | cons entry others hypothesis =>
      rcases entry with ⟨first, given⟩
      rw [List.map_cons, List.nodup_cons] at distinct
      rw [lookup_cons_eq_ite, List.mem_cons, Prod.mk.injEq]
      by_cases same : key = first
      · subst same
        have absent : (key, value) ∉ others := fun member =>
          distinct.1 (List.mem_map.mpr ⟨_, member, rfl⟩)
        simp [absent, eq_comm]
      · simp [same, hypothesis distinct.2]

/-- Entries inserted one after the other: the last one of a key counts. -/
theorem OrderedMap.get?_foldl_insert
    {Value : Type}
    (entries : List (String × Value))
    (map : OrderedMap Value)
    (key : String) :
    (entries.foldl (fun map (other, value) => map.insert other value) map).get? key =
      (entries.reverse.lookup key).or (map.get? key) := by
  induction entries generalizing map with
  | nil => rfl
  | cons entry others hypothesis =>
      rcases entry with ⟨first, value⟩
      rw [List.foldl_cons, hypothesis, get?_insert, List.reverse_cons, lookup_append_eq_or,
        Option.or_assoc, lookup_cons_eq_ite]
      congr 1
      split <;> rfl

namespace NamespaceMap

variable (map : NamespaceMap)

/-! ## Single insertions -/

@[simp]
theorem defaults_place (uri localName namespaceName : String) :
    (map.place uri localName namespaceName).defaults = map.defaults :=
  rfl

@[simp]
theorem placement?_insert (uri namespaceName other localName : String) :
    (map.insert uri namespaceName).placement? other localName =
      map.placement? other localName :=
  rfl

theorem placement?_place (uri localName namespaceName other otherLocal : String) :
    (map.place uri localName namespaceName).placement? other otherLocal =
      if other = uri ∧ otherLocal = localName then
        some namespaceName
      else
        map.placement? other otherLocal := by
  rw [placement?, place, OrderedMap.get?_insert]
  by_cases same : other = uri
  · subst same
    rw [if_pos rfl, Option.bind_some, OrderedMap.get?_insert, placement?]
    cases map.placements.get? other with
    | none => simp [OrderedMap.empty, OrderedMap.get?]
    | some types => simp
  · rw [if_neg same, if_neg fun both => same both.1]
    rfl

/-! ## Tables of insertions -/

/-- A table of defaults leaves single types where they are. -/
theorem placement?_foldl_insert
    (entries : List (String × String))
    (uri localName : String) :
    (entries.foldl (fun map (other, namespaceName) => map.insert other namespaceName)
        map).placement? uri localName =
      map.placement? uri localName := by
  induction entries generalizing map with
  | nil => rfl
  | cons entry others hypothesis => rw [List.foldl_cons, hypothesis, placement?_insert]

theorem defaults_foldl_insert (entries : List (String × String)) :
    (entries.foldl (fun map (other, namespaceName) => map.insert other namespaceName)
        map).defaults =
      entries.foldl (fun defaults (other, namespaceName) => defaults.insert other namespaceName)
        map.defaults := by
  induction entries generalizing map with
  | nil => rfl
  | cons entry others hypothesis =>
      rw [List.foldl_cons, hypothesis]
      rfl

/-- The types of one URI are placed one after the other. -/
theorem placement?_foldl_place
    (uri : String)
    (types : List (String × String))
    (other localName : String) :
    (types.foldl (fun map (placed, namespaceName) => map.place uri placed namespaceName)
        map).placement? other localName =
      if other = uri then
        (types.reverse.lookup localName).or (map.placement? other localName)
      else
        map.placement? other localName := by
  induction types generalizing map with
  | nil => exact (ite_self _).symm
  | cons entry others hypothesis =>
      rcases entry with ⟨placed, namespaceName⟩
      rw [List.foldl_cons, hypothesis, placement?_place]
      by_cases same : other = uri
      · rw [if_pos same, if_pos same, List.reverse_cons, lookup_append_eq_or, Option.or_assoc,
          lookup_cons_eq_ite]
        by_cases found : localName = placed
        · rw [if_pos ⟨same, found⟩, if_pos found, Option.some_or]
        · rw [if_neg fun both => found both.2, if_neg found]
          rfl
      · rw [if_neg same, if_neg same, if_neg fun both => same both.1]

theorem defaults_foldl_place
    (uri : String)
    (types : List (String × String)) :
    (types.foldl (fun map (placed, namespaceName) => map.place uri placed namespaceName)
        map).defaults =
      map.defaults := by
  induction types generalizing map with
  | nil => rfl
  | cons entry others hypothesis => rw [List.foldl_cons, hypothesis, defaults_place]

/-- A table of types for distinct URIs: a type of the table is placed as the table says. -/
theorem placement?_foldl_tables
    {tables : List (String × OrderedMap String)}
    (distinct : (tables.map Prod.fst).Nodup)
    (uri localName : String) :
    (tables.foldl
        (fun map (other, types) => types.entries.foldl
          (fun map (placed, namespaceName) => map.place other placed namespaceName) map)
        map).placement? uri localName =
      ((tables.lookup uri).bind (·.get? localName)).or (map.placement? uri localName) := by
  induction tables generalizing map with
  | nil => rfl
  | cons table others hypothesis =>
      rcases table with ⟨first, types⟩
      rw [List.map_cons, List.nodup_cons] at distinct
      rw [List.foldl_cons, hypothesis _ distinct.2, placement?_foldl_place,
        lookup_cons_eq_ite, lookup_reverse_of_nodup types.nodup]
      by_cases same : uri = first
      · have absent : others.lookup uri = none :=
          (lookup_eq_none_iff_notMem uri others).mpr (same ▸ distinct.1)
        rw [absent, if_pos same, if_pos same]
        rfl
      · rw [if_neg same, if_neg same]

theorem defaults_foldl_tables (tables : List (String × OrderedMap String)) :
    (tables.foldl
        (fun map (other, types) => types.entries.foldl
          (fun map (placed, namespaceName) => map.place other placed namespaceName) map)
        map).defaults =
      map.defaults := by
  induction tables generalizing map with
  | nil => rfl
  | cons table others hypothesis => rw [List.foldl_cons, hypothesis, defaults_foldl_place]

end NamespaceMap

/-! ## The map of options -/

namespace Options

variable (options : Options)

/-- The options place a type, or else it is placed as it is well known. -/
theorem placement?_namespaces (uri localName : String) :
    options.namespaces.placement? uri localName =
      ((options.typeMappings.get? uri).bind (·.get? localName)).or
        (NamespaceMap.wellKnown.placement? uri localName) := by
  rw [namespaces, NamespaceMap.placement?_foldl_tables _ options.typeMappings.nodup,
    NamespaceMap.placement?_foldl_insert]
  rfl

/-- The options give a URI its default, or else it has the well-known one. -/
theorem defaults_namespaces (uri : String) :
    options.namespaces.defaults.get? uri =
      (options.namespaceMappings.get? uri).or (NamespaceMap.wellKnown.defaults.get? uri) := by
  rw [namespaces, NamespaceMap.defaults_foldl_tables, NamespaceMap.defaults_foldl_insert,
    OrderedMap.get?_foldl_insert, lookup_reverse_of_nodup options.namespaceMappings.nodup]
  rfl

end Options

end ViewAccessors
