import Mathlib.Data.List.Basic
import ViewAccessors.Proofs.Markup.Scanning
import ViewAccessors.Proofs.NamespaceMaps

/-!
# The namespaces of types

Five rules say in which namespace the type of a URI and a local name lives.
The options can place a single type or give a URI its default; so can what is
well known; and a URI can name its namespace itself.  What is said of a single
type precedes what is said of a URI, and the options precede what is well
known.  The namespace of a type is the one that the first rule gives which
says anything at all.
-/

namespace ViewAccessors

open Text

/-! ## What is well known -/

namespace NamespaceMap

/-- The types of a table with their namespaces, in the order in which they are placed. -/
def listed (placements : List (String × List String)) : List (String × String) :=
  placements.flatMap fun (namespaceName, names) => names.map fun name => (name, namespaceName)

theorem mem_listed_iff
    {placements : List (String × List String)}
    {localName namespaceName : String} :
    (localName, namespaceName) ∈ listed placements ↔
      ∃ names, (namespaceName, names) ∈ placements ∧ localName ∈ names := by
  simp [listed]

/-- A table is placed type by type. -/
theorem placeAll_eq_foldl_listed
    (map : NamespaceMap)
    (uri : String)
    (placements : List (String × List String)) :
    map.placeAll uri placements =
      (listed placements).foldl
        (fun map (placed, namespaceName) => map.place uri placed namespaceName) map := by
  rw [placeAll, listed, List.foldl_flatMap]
  simp only [List.foldl_map]

theorem defaults_placeAll
    (map : NamespaceMap)
    (uri : String)
    (placements : List (String × List String)) :
    (map.placeAll uri placements).defaults = map.defaults := by
  rw [placeAll_eq_foldl_listed, defaults_foldl_place]

/-- A table that lists no type twice places the types of its URI as it says. -/
theorem placement?_placeAll
    {placements : List (String × List String)}
    (distinct : ((listed placements).map Prod.fst).Nodup)
    (map : NamespaceMap)
    (uri other localName : String) :
    (map.placeAll uri placements).placement? other localName =
      if other = uri then
        ((listed placements).lookup localName).or (map.placement? other localName)
      else
        map.placement? other localName := by
  rw [placeAll_eq_foldl_listed, placement?_foldl_place, lookup_reverse_of_nodup distinct]

theorem nodup_listed_avaloniaPlacements :
    ((listed avaloniaPlacements).map Prod.fst).Nodup := by
  decide +kernel

theorem nodup_listed_presentationPlacements :
    ((listed presentationPlacements).map Prod.fst).Nodup := by
  decide +kernel

/-- The tables of the types that are well known to live outside the default of their URI. -/
def wellKnownPlacements : List (String × List (String × List String)) :=
  [(avaloniaNamespace, avaloniaPlacements), (presentationNamespace, presentationPlacements)]

/-- The well-known defaults. -/
def wellKnownDefaults : List (String × String) :=
  [(avaloniaNamespace, "Avalonia.Controls"), (presentationNamespace, "System.Windows.Controls")]

/-- A table for the URI lists the type under the namespace. -/
def IsWellKnownPlace (uri localName namespaceName : String) : Prop :=
  ∃ placements names, (uri, placements) ∈ wellKnownPlacements ∧
    (namespaceName, names) ∈ placements ∧ localName ∈ names

theorem isWellKnownPlace_iff
    {uri localName namespaceName : String} :
    IsWellKnownPlace uri localName namespaceName ↔
      uri = avaloniaNamespace ∧ (localName, namespaceName) ∈ listed avaloniaPlacements ∨
        uri = presentationNamespace ∧
          (localName, namespaceName) ∈ listed presentationPlacements := by
  simp only [IsWellKnownPlace, wellKnownPlacements, mem_listed_iff, List.mem_pair, Prod.mk.injEq]
  constructor
  · rintro ⟨placements, names, ⟨rfl, rfl⟩ | ⟨rfl, rfl⟩, row, listed⟩
    · exact .inl ⟨rfl, names, row, listed⟩
    · exact .inr ⟨rfl, names, row, listed⟩
  · rintro (⟨rfl, names, row, listed⟩ | ⟨rfl, names, row, listed⟩)
    · exact ⟨_, names, .inl ⟨rfl, rfl⟩, row, listed⟩
    · exact ⟨_, names, .inr ⟨rfl, rfl⟩, row, listed⟩

theorem placement?_wellKnown_eq_some_iff
    {uri localName namespaceName : String} :
    wellKnown.placement? uri localName = some namespaceName ↔
      IsWellKnownPlace uri localName namespaceName := by
  have another : avaloniaNamespace ≠ presentationNamespace := by decide
  have unplaced : ((empty.insert avaloniaNamespace "Avalonia.Controls").insert
      presentationNamespace "System.Windows.Controls").placement? uri localName = none := rfl
  rw [isWellKnownPlace_iff, wellKnown, placement?_placeAll nodup_listed_presentationPlacements,
    placement?_placeAll nodup_listed_avaloniaPlacements, unplaced, Option.or_none]
  by_cases avalonia : uri = avaloniaNamespace
  · rw [avalonia, if_neg another, if_pos rfl,
      lookup_eq_some_iff_mem nodup_listed_avaloniaPlacements]
    simp [another]
  · rw [if_neg avalonia, Option.or_none]
    by_cases presentation : uri = presentationNamespace
    · rw [if_pos presentation, lookup_eq_some_iff_mem nodup_listed_presentationPlacements]
      simp [presentation, another.symm]
    · simp [avalonia, presentation]

theorem get?_defaults_wellKnown_eq_some_iff
    {uri namespaceName : String} :
    wellKnown.defaults.get? uri = some namespaceName ↔
      (uri, namespaceName) ∈ wellKnownDefaults := by
  have distinct : (wellKnownDefaults.map Prod.fst).Nodup := by decide
  have entries : wellKnown.defaults.entries = wellKnownDefaults := by
    rw [wellKnown, defaults_placeAll, defaults_placeAll]
    rfl
  rw [OrderedMap.get?, entries, lookup_eq_some_iff_mem distinct]

/-! ## URIs that name their namespace -/

/--
A URI names a namespace directly: behind `using:`, or between
`clr-namespace:` and the first semicolon, if there is one.
-/
inductive NamesDirectly : String → String → Prop where
  | plain (name : String) :
      NamesDirectly ("using:" ++ name) (trimmed name)
  | qualified
      (name rest : String)
      (whole : ';' ∉ name.toList)
      (ends : rest = "" ∨ ∃ others, rest = ";" ++ others) :
      NamesDirectly ("clr-namespace:" ++ name ++ rest) (trimmed name)

/-- A text is the part before its first semicolon, and the rest of it is empty or begins there. -/
theorem exists_before_semicolon (text : List Char) :
    ∃ name rest, String.ofList text = name ++ rest ∧
      name = String.ofList (text.takeWhile (· != ';')) ∧ ';' ∉ name.toList ∧
        (rest = "" ∨ ∃ others, rest = ";" ++ others) := by
  refine ⟨_, String.ofList (text.dropWhile (· != ';')), ?_, rfl, ?_, ?_⟩
  · rw [← String.ofList_append, List.takeWhile_append_dropWhile]
  · intro member
    rw [String.toList_ofList] at member
    have other := List.all_eq_true.mp List.all_takeWhile ';' member
    exact absurd other (by decide)
  · cases after : text.dropWhile (· != ';') with
    | nil => exact .inl rfl
    | cons character others =>
        have stops := stops_dropWhile (· != ';') text character (by rw [after]; rfl)
        have semicolon : character = ';' := by simpa using stops
        refine .inr ⟨String.ofList others, ?_⟩
        show String.ofList ([character] ++ others) = _
        rw [String.ofList_append, semicolon]

theorem directNamespace?_plain (name : String) :
    (directNamespace? ("using:" ++ name).toList).map String.ofList = some (trimmed name) := by
  have opened : dropStart? "using:".toList ("using:" ++ name).toList = some name.toList :=
    dropStart?_eq_some_iff.mpr String.toList_append
  simp only [directNamespace?, opened, Option.map_some, trimmed]

theorem directNamespace?_qualified
    {name rest : String}
    (whole : ';' ∉ name.toList)
    (ends : rest = "" ∨ ∃ others, rest = ";" ++ others) :
    (directNamespace? ("clr-namespace:" ++ name ++ rest).toList).map String.ofList =
      some (trimmed name) := by
  have unopened : dropStart? "using:".toList
      ("clr-namespace:" ++ name ++ rest).toList = none := by
    rw [String.append_assoc, String.toList_append]
    rfl
  have opened : dropStart? "clr-namespace:".toList
      ("clr-namespace:" ++ name ++ rest).toList = some (name.toList ++ rest.toList) := by
    rw [dropStart?_eq_some_iff]
    simp
  have members : name.toList.all (· != ';') = true := by
    rw [List.all_eq_true]
    intro character member
    simpa using ne_of_mem_of_not_mem member whole
  have stops : Stops (· != ';') rest.toList := by
    rcases ends with rfl | ⟨others, rfl⟩
    · exact stops_nil _
    · rw [String.toList_append]
      exact stops_cons (by decide) others.toList
  have cut := (takeWhile_append_of_stops members stops).1
  simp only [directNamespace?, unopened, opened, Option.map_some, cut, trimmed]

theorem namesDirectly_of_directNamespace?
    {uri namespaceName : String}
    (named : (directNamespace? uri.toList).map String.ofList = some namespaceName) :
    NamesDirectly uri namespaceName := by
  rw [directNamespace?] at named
  split at named
  · rename_i name opened
    have whole : uri = "using:" ++ String.ofList name :=
      String.toList_inj.mp (by simpa using dropStart?_eq_some_iff.mp opened)
    have trims : trimmed (String.ofList name) = namespaceName := by
      simpa [trimmed] using named
    rw [whole, ← trims]
    exact .plain (String.ofList name)
  · simp only [Option.map_map, Option.map_eq_some_iff] at named
    rcases named with ⟨text, opened, named⟩
    have whole : uri = "clr-namespace:" ++ String.ofList text :=
      String.toList_inj.mp (by simpa using dropStart?_eq_some_iff.mp opened)
    rcases exists_before_semicolon text with ⟨name, rest, parts, isName, unbroken, ends⟩
    have trims : trimmed name = namespaceName := by
      simpa [trimmed, isName] using named
    rw [whole, parts, ← String.append_assoc, ← trims]
    exact .qualified name rest unbroken ends

theorem directNamespace?_eq_some_iff
    {uri namespaceName : String} :
    (directNamespace? uri.toList).map String.ofList = some namespaceName ↔
      NamesDirectly uri namespaceName := by
  refine ⟨namesDirectly_of_directNamespace?, ?_⟩
  rintro (⟨name⟩ | ⟨name, rest, whole, ends⟩)
  · exact directNamespace?_plain name
  · exact directNamespace?_qualified whole ends

end NamespaceMap

/-! ## The rules and their precedence -/

/-- What the namespace of a type is taken from. -/
inductive PlacementRule where
  /-- The options place the type. -/
  | mappedType
  /-- The type is well known to live outside the default of its URI. -/
  | knownType
  /-- The URI names its namespace. -/
  | directUri
  /-- The options give the URI its default. -/
  | mappedUri
  /-- The default of the URI is well known. -/
  | knownUri
  deriving DecidableEq, Repr

namespace PlacementRule

/-- The rules, from the first that counts to the last. -/
def byPrecedence : List PlacementRule :=
  [mappedType, knownType, directUri, mappedUri, knownUri]

/-- The rules that precede the defaults which the options give to URIs. -/
def beforeMappedUri : List PlacementRule :=
  [mappedType, knownType, directUri]

theorem mem_byPrecedence (rule : PlacementRule) :
    rule ∈ byPrecedence := by
  cases rule <;> decide

end PlacementRule

namespace Options

open NamespaceMap

/-- A rule says that the type of a URI and a local name lives in a namespace. -/
def Places
    (options : Options)
    (uri localName : String) :
    PlacementRule → (namespaceName : String) → Prop
  | .mappedType, namespaceName =>
    ∃ types, options.typeMappings.get? uri = some types ∧ types.get? localName = some namespaceName
  | .knownType, namespaceName => IsWellKnownPlace uri localName namespaceName
  | .directUri, namespaceName => NamesDirectly uri namespaceName
  | .mappedUri, namespaceName => options.namespaceMappings.get? uri = some namespaceName
  | .knownUri, namespaceName => (uri, namespaceName) ∈ wellKnownDefaults

/-- A rule says where the type lives, and no rule that precedes it says anything. -/
def PlacesFirst
    (options : Options)
    (uri localName : String)
    (rule : PlacementRule)
    (namespaceName : String) :
    Prop :=
  options.Places uri localName rule namespaceName ∧
    ∃ before after, PlacementRule.byPrecedence = before ++ rule :: after ∧
      ∀ earlier ∈ before, ∀ other, ¬ options.Places uri localName earlier other

/-- What a rule says, computed. -/
def place?
    (options : Options)
    (uri localName : String) :
    PlacementRule → Option String
  | .mappedType => (options.typeMappings.get? uri).bind (·.get? localName)
  | .knownType => wellKnown.placement? uri localName
  | .directUri => (directNamespace? uri.toList).map String.ofList
  | .mappedUri => options.namespaceMappings.get? uri
  | .knownUri => wellKnown.defaults.get? uri

variable
    {options : Options}
    {uri localName namespaceName : String}
    {rule : PlacementRule}

theorem place?_eq_some_iff :
    options.place? uri localName rule = some namespaceName ↔
      options.Places uri localName rule namespaceName := by
  cases rule with
  | mappedType => exact Option.bind_eq_some_iff
  | knownType => exact placement?_wellKnown_eq_some_iff
  | directUri => exact directNamespace?_eq_some_iff
  | mappedUri => exact Iff.rfl
  | knownUri => exact get?_defaults_wellKnown_eq_some_iff

theorem place?_eq_none_iff :
    options.place? uri localName rule = none ↔
      ∀ namespaceName, ¬ options.Places uri localName rule namespaceName := by
  rw [Option.eq_none_iff_forall_ne_some]
  exact forall_congr' fun namespaceName => not_congr place?_eq_some_iff

/-- A URI that names no namespace directly has a default, by the options or as it is well known. -/
theorem namespace?_namespaces
    (options : Options)
    (uri localName : String) :
    options.namespaces.namespace? uri =
      (options.place? uri localName .directUri).or
        ((options.place? uri localName .mappedUri).or
          (options.place? uri localName .knownUri)) := by
  simp only [namespace?, place?, defaults_namespaces]
  cases directNamespace? uri.toList <;> rfl

/-- The rules are asked one after the other. -/
theorem typeNamespace?_eq_findSome?
    (options : Options)
    (uri localName : String) :
    options.namespaces.typeNamespace? uri localName =
      PlacementRule.byPrecedence.findSome? (options.place? uri localName) := by
  have asked : ∀ (rule : PlacementRule) (rules : List PlacementRule),
      (rule :: rules).findSome? (options.place? uri localName) =
        (options.place? uri localName rule).or
          (rules.findSome? (options.place? uri localName)) := by
    intro rule rules
    rw [List.findSome?_cons]
    cases options.place? uri localName rule <;> rfl
  calc
    options.namespaces.typeNamespace? uri localName
    _ = ((options.place? uri localName .mappedType).or
          (options.place? uri localName .knownType)).or (options.namespaces.namespace? uri) := by
        rw [typeNamespace?, placement?_namespaces]
        rfl
    _ = PlacementRule.byPrecedence.findSome? (options.place? uri localName) := by
        rw [namespace?_namespaces options uri localName, PlacementRule.byPrecedence, asked, asked,
          asked, asked, asked, List.findSome?_nil, Option.or_none, Option.or_assoc]

/-- The type lives where the first rule puts it that says anything. -/
theorem typeNamespace?_eq_some_iff :
    options.namespaces.typeNamespace? uri localName = some namespaceName ↔
      ∃ rule, options.PlacesFirst uri localName rule namespaceName := by
  simp only [typeNamespace?_eq_findSome?, List.findSome?_eq_some_iff, place?_eq_some_iff,
    place?_eq_none_iff]
  constructor
  · rintro ⟨before, rule, after, split, places, silent⟩
    exact ⟨rule, places, before, after, split, silent⟩
  · rintro ⟨rule, places, before, after, split, silent⟩
    exact ⟨before, rule, after, split, places, silent⟩

/-- It is unknown where the type lives if no rule says anything. -/
theorem typeNamespace?_eq_none_iff :
    options.namespaces.typeNamespace? uri localName = none ↔
      ∀ rule namespaceName, ¬ options.Places uri localName rule namespaceName := by
  simp only [typeNamespace?_eq_findSome?, List.findSome?_eq_none_iff, place?_eq_none_iff,
    PlacementRule.mem_byPrecedence, true_imp_iff]

/-- The options with other defaults for URIs. -/
def withNamespaceMappings
    (options : Options)
    (mappings : OrderedMap String) :
    Options :=
  { options with namespaceMappings := mappings }

/-- Defaults that the options give to URIs matter only if no rule before them says anything. -/
theorem typeNamespace?_withNamespaceMappings
    (precedes : rule ∈ PlacementRule.beforeMappedUri)
    (places : options.Places uri localName rule namespaceName)
    (mappings : OrderedMap String) :
    (options.withNamespaceMappings mappings).namespaces.typeNamespace? uri localName =
      options.namespaces.typeNamespace? uri localName := by
  have early : PlacementRule.beforeMappedUri.findSome? (options.place? uri localName) ≠ none := by
    intro silent
    have said := place?_eq_some_iff.mpr places
    rw [List.findSome?_eq_none_iff.mp silent rule precedes] at said
    cases said
  have same : PlacementRule.beforeMappedUri.findSome?
      ((options.withNamespaceMappings mappings).place? uri localName) =
      PlacementRule.beforeMappedUri.findSome? (options.place? uri localName) := rfl
  have parted : PlacementRule.byPrecedence =
      PlacementRule.beforeMappedUri ++ [.mappedUri, .knownUri] := rfl
  rcases Option.ne_none_iff_exists'.mp early with ⟨answer, found⟩
  rw [typeNamespace?_eq_findSome?, typeNamespace?_eq_findSome?, parted, List.findSome?_append,
    List.findSome?_append, same, found, Option.some_or, Option.some_or]

/--
The type of a URI and a local name lives where the first rule puts it that says
anything, and nowhere if none does.  So a default that the options give to a
URI displaces no type that is placed by itself, and has no influence on a URI
that names its namespace.
-/
theorem typeNamespace?_by_precedence
    (options : Options)
    (uri localName : String) :
    (∀ namespaceName,
      options.namespaces.typeNamespace? uri localName = some namespaceName ↔
        ∃ rule, options.PlacesFirst uri localName rule namespaceName) ∧
    (options.namespaces.typeNamespace? uri localName = none ↔
      ∀ rule namespaceName, ¬ options.Places uri localName rule namespaceName) ∧
    ∀ rule namespaceName,
      rule ∈ PlacementRule.beforeMappedUri →
        options.Places uri localName rule namespaceName →
          ∀ mappings,
            (options.withNamespaceMappings mappings).namespaces.typeNamespace? uri localName =
              options.namespaces.typeNamespace? uri localName := by
  refine ⟨fun namespaceName => typeNamespace?_eq_some_iff, typeNamespace?_eq_none_iff, ?_⟩
  intro rule namespaceName precedes places mappings
  exact typeNamespace?_withNamespaceMappings precedes places mappings

/-- A default for the Avalonia controls leaves toggle buttons where they are. -/
theorem typeNamespace?_by_precedence_toggleButton :
    let mappings := OrderedMap.empty.insert avaloniaNamespace "Other.Controls"
    .knownType ∈ PlacementRule.beforeMappedUri ∧
      standard.Places avaloniaNamespace "ToggleButton" .knownType
        "Avalonia.Controls.Primitives" ∧
      (standard.withNamespaceMappings mappings).namespaces.typeNamespace?
          avaloniaNamespace "ToggleButton" =
        standard.namespaces.typeNamespace? avaloniaNamespace "ToggleButton" := by
  intro mappings
  have precedes : .knownType ∈ PlacementRule.beforeMappedUri := by
    decide
  have places : standard.Places avaloniaNamespace "ToggleButton" .knownType
      "Avalonia.Controls.Primitives" :=
    ⟨avaloniaPlacements, _, .head _, .head _, by decide⟩
  exact ⟨precedes, places,
    (typeNamespace?_by_precedence standard avaloniaNamespace "ToggleButton").2.2 _ _ precedes
      places mappings⟩

end Options

end ViewAccessors
