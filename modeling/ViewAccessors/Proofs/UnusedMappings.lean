import ViewAccessors.Proofs.Accessors
import ViewAccessors.Proofs.NamespaceMaps
import ViewAccessors.Proofs.StandardFilters

/-!
# Mappings that no document uses

Whatever a run asks a namespace map, it asks about a URI that the document in
hand declares, or about the one that `xml` stands for.  So two runs agree if
their maps answer alike for these URIs, and a mapping for any other URI can
be added, changed or taken away unnoticed.
-/

namespace ViewAccessors

open Markup

/-! ## Declared URIs -/

namespace Markup

mutual

/-- The elements around an element of a node are elements of the node or stand around it. -/
theorem Node.exists_lineage_of_mem_around
    (around : List Tag) :
    ∀ node : Node, ∀ lineage ∈ node.lineages around, ∀ tag ∈ lineage.2,
      tag ∈ around ∨ ∃ outer, (tag, outer) ∈ node.lineages around
  | .text _ => by
      intro lineage member
      cases member
  | .element top children => by
      intro lineage member tag isAround
      rw [lineages] at member ⊢
      rcases List.mem_cons.mp member with rfl | inside
      · exact .inl isAround
      · rcases exists_lineage_of_mem_around_all (top :: around) children lineage inside tag
          isAround with known | ⟨outer, listed⟩
        · rcases List.mem_cons.mp known with rfl | outside
          · exact .inr ⟨around, List.mem_cons_self⟩
          · exact .inl outside
        · exact .inr ⟨outer, List.mem_cons_of_mem _ listed⟩

theorem Node.exists_lineage_of_mem_around_all
    (around : List Tag) :
    ∀ nodes : List Node, ∀ lineage ∈ Node.lineagesOfAll around nodes, ∀ tag ∈ lineage.2,
      tag ∈ around ∨ ∃ outer, (tag, outer) ∈ Node.lineagesOfAll around nodes
  | [] => by
      intro lineage member
      cases member
  | node :: others => by
      intro lineage member tag isAround
      simp only [lineagesOfAll, List.mem_append] at member ⊢
      rcases member with early | late
      · rcases exists_lineage_of_mem_around around node lineage early tag isAround with
          known | ⟨outer, listed⟩
        · exact .inl known
        · exact .inr ⟨outer, .inl listed⟩
      · rcases exists_lineage_of_mem_around_all around others lineage late tag isAround with
          known | ⟨outer, listed⟩
        · exact .inl known
        · exact .inr ⟨outer, .inr listed⟩

end

/-- The URIs that the elements of a document declare, in the order of the text. -/
def Element.declaredUris (root : Element) : List String :=
  root.lineages.flatMap fun (tag, _) => tag.namespaceDeclarations.map Prod.snd

theorem Element.mem_declaredUris
    {root : Element}
    {lineage : Tag × List Tag}
    (listed : lineage ∈ root.lineages)
    {qualifier uri : String}
    (declared : (qualifier, uri) ∈ lineage.1.namespaceDeclarations) :
    uri ∈ root.declaredUris :=
  List.mem_flatMap.mpr ⟨lineage, listed, List.mem_map_of_mem declared⟩

end Markup

namespace Scope

/-- A qualifier stands for what `xml` stands for, or for a URI that is declared around it. -/
theorem eq_or_exists_of_uri?_inside
    {tags : List Tag}
    {qualifier uri : String}
    (found : (inside tags).uri? qualifier = some uri) :
    uri = xmlNamespace ∨ ∃ tag ∈ tags, (qualifier, uri) ∈ tag.namespaceDeclarations := by
  rw [uri?] at found
  split at found
  · exact .inl (Option.some.inj found).symm
  · rcases List.exists_of_findSome?_eq_some found with ⟨frame, isFrame, here⟩
    rcases List.mem_map.mp isFrame with ⟨tag, member, rfl⟩
    rcases List.lookup_eq_some_iff.mp here with ⟨before, after, reversed, -⟩
    refine .inr ⟨tag, member, ?_⟩
    rw [← List.mem_reverse, reversed]
    exact List.mem_append_right _ List.mem_cons_self

/-- A qualifier in a document stands for what `xml` stands for, or for a declared URI. -/
theorem eq_or_mem_declaredUris
    {root : Element}
    {tag : Tag}
    {around : List Tag}
    (listed : (tag, around) ∈ root.lineages)
    {qualifier uri : String}
    (found : (inside (tag :: around)).uri? qualifier = some uri) :
    uri = xmlNamespace ∨ uri ∈ root.declaredUris := by
  rcases eq_or_exists_of_uri?_inside found with fixed | ⟨declaring, member, declared⟩
  · exact .inl fixed
  · rcases List.mem_cons.mp member with rfl | outside
    · exact .inr (Element.mem_declaredUris listed declared)
    · rcases Node.exists_lineage_of_mem_around [] root.toNode _ listed declaring outside with
        none | ⟨outer, listedOuter⟩
      · cases none
      · exact .inr (Element.mem_declaredUris listedOuter declared)

end Scope

/-! ## Maps that answer alike -/

/-- Two namespace maps answer alike about every URI of a kind. -/
def NamespaceMap.AgreeOn
    (isUsed : String → Prop)
    (first second : NamespaceMap) :
    Prop :=
  ∀ uri, isUsed uri → ∀ localName,
    first.typeNamespace? uri localName = second.typeNamespace? uri localName

namespace Resolver

variable {first second : NamespaceMap} {scope : Scope}

/-- Names have the same types if the maps agree on all URIs for which qualifiers stand. -/
theorem typeNamed_congr
    (agree : first.AgreeOn (fun uri => ∃ qualifier, scope.uri? qualifier = some uri) second) :
    typeNamed ⟨first, scope⟩ = typeNamed ⟨second, scope⟩ := by
  funext span name
  rw [typeNamed, typeNamed]
  cases found : scope.uri? (name.qualifier.getD "") with
  | none => rfl
  | some uri => simp only [agree uri ⟨_, found⟩]

/-- The type of an element depends on the map only through the types of names. -/
theorem elementType_congr
    (sameNames : typeNamed ⟨first, scope⟩ = typeNamed ⟨second, scope⟩)
    (tag : Tag) :
    elementType ⟨first, scope⟩ tag = elementType ⟨second, scope⟩ tag := by
  rw [elementType, elementType, sameNames, typeArguments_congr sameNames]

end Resolver

section

variable
    {first second : NamespaceMap}
    {root : Element}
    (agree : first.AgreeOn (fun uri => uri = xmlNamespace ∨ uri ∈ root.declaredUris) second)

include agree

/-- Every element of a document has the same type under maps that agree on its URIs. -/
theorem Resolver.elementType_eq_of_lineage
    {tag : Tag}
    {around : List Tag}
    (listed : (tag, around) ∈ root.lineages) :
    elementType ⟨first, .inside (tag :: around)⟩ tag =
      elementType ⟨second, .inside (tag :: around)⟩ tag := by
  apply elementType_congr
  apply typeNamed_congr
  rintro uri ⟨qualifier, found⟩
  exact agree uri (Scope.eq_or_mem_declaredUris listed found)

/-- A document has the same accessors, or the same error, under such maps. -/
theorem AccessorSettings.accessors_congr
    (language : Language)
    (visibility : Visibility) :
    accessors ⟨first, language, visibility⟩ root =
      accessors ⟨second, language, visibility⟩ root := by
  have sameRecord : ∀ element ∈ root.namedElements, ∀ found,
      record ⟨first, language, visibility⟩ found element =
        record ⟨second, language, visibility⟩ found element := by
    intro element member found
    rcases List.mem_filterMap.mp member with ⟨⟨tag, around⟩, listed, named⟩
    rcases (NamedElement.ofLineage?_eq_some_iff tag around element).mp named with
      ⟨-, sameTag, sameScope, -⟩
    rw [record, record, accessor, accessor, sameTag, sameScope,
      Resolver.elementType_eq_of_lineage agree listed]
  rw [accessors_eq_foldlM, accessors_eq_foldlM, foldlM_congr_of_mem sameRecord]

/-- A document is the same view under such maps. -/
theorem View.ofDocument?_congr :
    ofDocument? first root = ofDocument? second root := by
  have listed : (root.toTag, []) ∈ root.lineages := List.mem_cons_self
  have sameType := Resolver.elementType_eq_of_lineage agree listed
  rw [← Scope.enter_inside, Scope.inside_nil] at sameType
  rw [ofDocument?, ofDocument?, typeOfRoot, typeOfRoot, sameType]

end

/-! ## Runs -/

namespace Options

/-- The options without what they say about the types of URIs. -/
def withoutMappings (options : Options) : Options :=
  { options with
    namespaceMappings := .empty
    typeMappings := .empty }

/-- The options differ at most in what they say about the types of URIs that are not of a kind. -/
structure AgreeOn
    (isUsed : String → Prop)
    (first second : Options) :
    Prop where
  others : first.withoutMappings = second.withoutMappings
  namespaces : first.namespaces.AgreeOn isUsed second.namespaces

end Options

/-- A document of the list declares the URI, or `xml` stands for it. -/
def UsesUri
    (documents : List Document)
    (uri : String) :
    Prop :=
  uri = xmlNamespace ∨
    ∃ document ∈ documents, ∃ root, parse document.text = .ok root ∧ uri ∈ root.declaredUris

namespace Pipeline

/-- The pipeline with other options behind its filters. -/
def withOptions
    (pipeline : Pipeline)
    (options : Options) :
    Pipeline :=
  { pipeline with options }

section

variable
    {pipeline : Pipeline}
    {options : Options}
    {documents : List Document}
    (agree : pipeline.options.AgreeOn (UsesUri documents) options)

include agree

/-- A document of the list has the same file, or the same error. -/
theorem fileFor_withOptions
    {document : Document}
    (member : document ∈ documents)
    {view : View}
    (parsed : parse document.text = .ok view.document) :
    (pipeline.withOptions options).fileFor view = pipeline.fileFor view := by
  have agreeHere : pipeline.options.namespaces.AgreeOn
      (fun uri => uri = xmlNamespace ∨ uri ∈ view.document.declaredUris) options.namespaces := by
    rintro uri (fixed | declared)
    · exact agree.namespaces uri (.inl fixed)
    · exact agree.namespaces uri (.inr ⟨document, member, _, parsed, declared⟩)
  have sameLanguage : pipeline.options.language = options.language :=
    (congrArg Options.language agree.others :)
  have sameVisibility : pipeline.options.visibility = options.visibility :=
    (congrArg Options.visibility agree.others :)
  have sameAccessors : pipeline.options.accessorSettings.accessors view.document =
      options.accessorSettings.accessors view.document := by
    rw [Options.accessorSettings, sameLanguage, sameVisibility]
    exact AccessorSettings.accessors_congr agreeHere _ _
  have sameSources : pipeline.options.sourceSettings = options.sourceSettings :=
    (congrArg Options.sourceSettings agree.others :)
  have sameNaming : pipeline.options.fileNaming = options.fileNaming :=
    (congrArg Options.fileNaming agree.others :)
  rw [fileFor, fileFor, withOptions, sameAccessors, sameSources, sameLanguage, sameNaming]

theorem process_withOptions
    {document : Document}
    (member : document ∈ documents) :
    (pipeline.withOptions options).process document = pipeline.process document := by
  rw [process_eq, process_eq]
  cases parsed : parse document.text with
  | error error => rfl
  | ok root =>
      have sameView : View.ofDocument? options.namespaces root =
          View.ofDocument? pipeline.options.namespaces root := by
        refine (View.ofDocument?_congr ?_).symm
        rintro uri (fixed | declared)
        · exact agree.namespaces uri (.inl fixed)
        · exact agree.namespaces uri (.inr ⟨document, member, root, parsed, declared⟩)
      have sameOptions : (pipeline.withOptions options).options = options := rfl
      have sameFilter :
          (pipeline.withOptions options).namespaceFilter = pipeline.namespaceFilter := rfl
      simp only [sameOptions, sameFilter, sameView]
      cases found : View.ofDocument? pipeline.options.namespaces root with
      | none => rfl
      | some view =>
          have isRoot : view.document = root := by
            rcases Option.map_eq_some_iff.mp found with ⟨names, -, rfl⟩
            rfl
          simp only [fileFor_withOptions agree member (isRoot ▸ parsed)]

/-- Nothing else is reported on the documents of the list. -/
theorem generateEach_withOptions :
    (pipeline.withOptions options).generateEach documents = pipeline.generateEach documents := by
  have sameAccepts : (pipeline.withOptions options).accepts = pipeline.accepts := rfl
  rw [generateEach, generateEach, sameAccepts]
  apply List.filterMap_congr
  intro document counts
  rw [report?, report?, process_withOptions agree (List.mem_of_mem_filter counts)]

theorem generate_withOptions :
    (pipeline.withOptions options).generate documents = pipeline.generate documents := by
  rw [generate_eq_collected, generate_eq_collected, generateEach_withOptions agree]

end

/-- Options with the same patterns make pipelines with the same filters, or the same error. -/
theorem ofOptions_eq_map_withOptions
    {first second : Options}
    (others : first.withoutMappings = second.withoutMappings) :
    ofOptions second = (ofOptions first).map (·.withOptions second) := by
  have samePaths : first.pathPatterns = second.pathPatterns :=
    (congrArg Options.pathPatterns others :)
  have sameNamespaces : first.namespacePatterns = second.namespacePatterns :=
    (congrArg Options.namespacePatterns others :)
  rw [ofOptions, ofOptions, samePaths, sameNamespaces]
  cases Glob.Group.ofPatterns second.pathPatterns with
  | error error => rfl
  | ok pathFilter => cases Glob.Group.ofPatterns second.namespacePatterns <;> rfl

end Pipeline

/-! ## Single mappings -/

namespace Options

/--
The second options say the same as the first except about the types of one
URI: for it mappings may have been added, changed or taken away.
-/
structure DiffersOnlyAt
    (uri : String)
    (first second : Options) :
    Prop where
  others : first.withoutMappings = second.withoutMappings
  namespaceMappings : ∀ other, other ≠ uri →
    first.namespaceMappings.get? other = second.namespaceMappings.get? other
  typeMappings : ∀ other, other ≠ uri →
    first.typeMappings.get? other = second.typeMappings.get? other

/-- Mappings for one URI do not matter where other URIs are used. -/
theorem DiffersOnlyAt.agreeOn
    {uri : String}
    {first second : Options}
    (differs : first.DiffersOnlyAt uri second)
    {isUsed : String → Prop}
    (unused : ¬ isUsed uri) :
    first.AgreeOn isUsed second where
  others := differs.others
  namespaces := by
    intro other used localName
    have another : other ≠ uri := by
      rintro rfl
      exact unused used
    have samePlacement : first.namespaces.placement? other localName =
        second.namespaces.placement? other localName := by
      rw [placement?_namespaces, placement?_namespaces, differs.typeMappings other another]
    have sameDefault : first.namespaces.defaults.get? other =
        second.namespaces.defaults.get? other := by
      rw [defaults_namespaces, defaults_namespaces, differs.namespaceMappings other another]
    rw [NamespaceMap.typeNamespace?, NamespaceMap.typeNamespace?, NamespaceMap.namespace?,
      NamespaceMap.namespace?, samePlacement, sameDefault]

end Options

/--
Mappings for a URI that no readable document of a run declares, and for which
`xml` does not stand, make no difference to the run: it generates the same
files or fails with the same error, and reports the same on every document.
-/
theorem generate_eq_of_mappings_unused
    {uri : String}
    {options changed : Options}
    (differs : options.DiffersOnlyAt uri changed)
    {documents : List Document}
    (unused : ¬ UsesUri documents uri) :
    generate changed documents = generate options documents ∧
      (Pipeline.ofOptions changed).map (·.generateEach documents) =
        (Pipeline.ofOptions options).map (·.generateEach documents) := by
  have agree := differs.agreeOn unused
  rw [generate, generate, Pipeline.ofOptions_eq_map_withOptions differs.others]
  cases configured : Pipeline.ofOptions options with
  | error error => exact ⟨rfl, rfl⟩
  | ok pipeline =>
      rw [← Pipeline.options_of_ofOptions configured] at agree
      exact ⟨Pipeline.generate_withOptions agree,
        congrArg Except.ok (Pipeline.generateEach_withOptions agree)⟩

/--
A view whose types come from a namespace of its own does not depend on where
the Avalonia controls live, and neither does a faulty document.
-/
theorem generate_eq_of_mappings_unused_gauges :
    let options : Options := .standard
    let changed : Options := { options with
      namespaceMappings := OrderedMap.empty.insert avaloniaNamespace "Other.Controls"
      typeMappings := OrderedMap.empty.insert avaloniaNamespace
        (OrderedMap.empty.insert "Button" "Other.Buttons") }
    let documents : List Document := [
      ⟨"Gauge.xaml",
        "<g:Dial xmlns:g=\"using:Gauges\" "
          ++ "xmlns:x=\"http://schemas.microsoft.com/winfx/2006/xaml\" x:Class=\"App.Gauge\">"
          ++ "<Button xmlns=\"using:Gauges\" Name=\"reset\"/></g:Dial>"⟩,
      ⟨"Faulty.xaml", "<Button xmlns=\"https://github.com/avaloniaui\">"⟩]
    options.DiffersOnlyAt avaloniaNamespace changed ∧
      ¬ UsesUri documents avaloniaNamespace ∧
        generate changed documents = generate options documents ∧
          (Pipeline.ofOptions changed).map (·.generateEach documents) =
            (Pipeline.ofOptions options).map (·.generateEach documents) := by
  intro options changed documents
  have differs : options.DiffersOnlyAt avaloniaNamespace changed := by
    refine ⟨rfl, ?_, ?_⟩
    · intro other another
      exact ((OrderedMap.get?_insert _ _ _ other).trans (if_neg another)).symm
    · intro other another
      exact ((OrderedMap.get?_insert _ _ _ other).trans (if_neg another)).symm
  have declared : documents.map (fun document =>
      (parse document.text).toOption.map Element.declaredUris) =
        [some ["using:Gauges", xamlNamespace, "using:Gauges"], none] := by
    decide +kernel
  have unused : ¬ UsesUri documents avaloniaNamespace := by
    rintro (fixed | ⟨document, member, root, parsed, declaredHere⟩)
    · exact absurd fixed (by decide)
    · have listed : some root.declaredUris ∈ documents.map fun document =>
          (parse document.text).toOption.map Element.declaredUris :=
        List.mem_map.mpr ⟨document, member, by rw [parsed]; rfl⟩
      rw [declared, List.mem_pair, Option.some_inj] at listed
      rcases listed with same | none
      · rw [same] at declaredHere
        exact absurd declaredHere (by decide)
      · cases none
  exact ⟨differs, unused, generate_eq_of_mappings_unused differs unused⟩

end ViewAccessors
