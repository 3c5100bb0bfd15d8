import ViewAccessors.Source.Layout
import ViewAccessors.Source.Member

/-!
# Writing generated sources

A generator registers its templates before anything is written.  The class is
written first, and the file around it, each by a template under a name.
-/

namespace ViewAccessors

/-- How sources are written. -/
structure SourceSettings where
  language : Language
  style : AccessorStyle
  /-- Namespaces that are imported after those that the code needs. -/
  additionalNamespaces : List String
  deriving DecidableEq, Repr

namespace SourceSettings

/-- The lines that import namespaces. -/
def imports (settings : SourceSettings) : String :=
  let namespaces := Layout.requiredImports settings.style ++ settings.additionalNamespaces
  String.join (namespaces.map (Layout.importLine settings.language))

/-- The values for the class. -/
def classFields
    (settings : SourceSettings)
    (className : String)
    (accessors : List Accessor) :
    Template.Fields :=
  match settings.style with
  | .properties =>
    [("class_name", className),
      ("members", Accessor.properties settings.language accessors)]
  | .fields =>
    [("class_name", className),
      ("fields", Accessor.fieldDeclarations settings.language accessors),
      ("assignments", Accessor.assignments settings.language accessors)]

end SourceSettings

/-- What writes sources: settings, and a library with the templates for them. -/
structure Generator where
  settings : SourceSettings
  library : Template.Library

namespace Generator

/-- Registers the templates for the settings. -/
def ofSettings (settings : SourceSettings) : Except TemplateError Generator :=
  (Layout.library settings.style).map (Generator.mk settings)

/-- The source of the class, without blanks at its end. -/
def classBody
    (generator : Generator)
    (className : String)
    (accessors : List Accessor) :
    Except TemplateError String :=
  let settings := generator.settings
  (generator.library.render (Layout.classKey settings.language settings.style)
    (settings.classFields className accessors)).map fun body =>
      String.ofList (Text.trimEnd body.toList)

/-- The source of a view: the class with its accessors in a file of its own. -/
def code
    (generator : Generator)
    (namespaceName className : String)
    (rootType : TypeRef)
    (accessors : List Accessor) :
    Except TemplateError String := do
  let settings := generator.settings
  let body ← generator.classBody className accessors
  generator.library.render (Layout.fileKey settings.language (namespaceName == ""))
    [("root_type", rootType.qualified settings.language),
      ("imports", settings.imports),
      ("namespace", namespaceName),
      ("body", body)]

end Generator

/-- The source of a view, written by a generator for the settings. -/
def SourceSettings.code
    (settings : SourceSettings)
    (namespaceName className : String)
    (rootType : TypeRef)
    (accessors : List Accessor) :
    Except TemplateError String := do
  let generator ← Generator.ofSettings settings
  generator.code namespaceName className rootType accessors

end ViewAccessors
