import ViewAccessors.Accessor
import ViewAccessors.Setting.FileNaming
import ViewAccessors.Source.Code

/-!
# Options

The options say which documents count, what is generated for them and how,
and which namespaces are known besides the well-known ones.
-/

namespace ViewAccessors

/-- The options of a run. -/
structure Options where
  style : AccessorStyle
  /-- The visibility of accessors whose elements ask for none. -/
  visibility : Visibility
  /-- Globs of which the path of a document has to match one. -/
  pathPatterns : List String
  /-- Globs of which the namespace of a view has to match one. -/
  namespacePatterns : List String
  fileNaming : FileNaming
  language : Language
  additionalNamespaces : List String
  /-- Default namespaces by URI. -/
  namespaceMappings : OrderedMap String
  /-- Namespaces of single types by URI and local name. -/
  typeMappings : OrderedMap (OrderedMap String)
  deriving DecidableEq

namespace Options

/-- The options that hold if nothing else is said: every document counts. -/
def standard : Options where
  style := default
  visibility := default
  pathPatterns := ["**"]
  namespacePatterns := ["**"]
  fileNaming := default
  language := default
  additionalNamespaces := []
  namespaceMappings := .empty
  typeMappings := .empty

instance : Inhabited Options :=
  ⟨standard⟩

/-- The well-known namespaces with the mappings of the options. -/
def namespaces (options : Options) : NamespaceMap :=
  let defaults := options.namespaceMappings.entries.foldl
    (fun map (uri, namespaceName) => map.insert uri namespaceName)
    NamespaceMap.wellKnown
  options.typeMappings.entries.foldl
    (fun map (uri, types) =>
      types.entries.foldl
        (fun map (localName, namespaceName) => map.place uri localName namespaceName)
        map)
    defaults

/-- What the options say about accessors. -/
def accessorSettings (options : Options) : AccessorSettings :=
  ⟨options.namespaces, options.language, options.visibility⟩

/-- What the options say about sources. -/
def sourceSettings (options : Options) : SourceSettings :=
  ⟨options.language, options.style, options.additionalNamespaces⟩

end Options

end ViewAccessors
