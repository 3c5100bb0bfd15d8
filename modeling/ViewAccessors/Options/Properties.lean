import ViewAccessors.Options.Fault

/-!
# Options from build properties

A build host hands over properties as pairs of texts.  A key may carry a mark
of where it comes from; properties of other tools and blank values are passed
over, and of several values for one key the last one counts.
-/

namespace ViewAccessors.Options

/-- What may stand before the key of a forwarded property. -/
def propertyMark : String :=
  "build_property."

/-- The fields that properties can set. -/
def Field.ofProperty? (key : String) : Option Field :=
  [("NameGeneratorBehavior", Field.style),
    ("NameGeneratorDefaultFieldModifier", Field.visibility),
    ("NameGeneratorFilterByPath", Field.pathPatterns),
    ("NameGeneratorFilterByNamespace", Field.namespacePatterns),
    ("NameGeneratorViewFileNamingStrategy", Field.fileNaming),
    ("NameGeneratorLanguage", Field.language),
    ("NameGeneratorAdditionalNamespaces", Field.additionalNamespaces)].lookup key

/-- A key without the mark of a forwarded property, of which one may stand before it. -/
def unmarkedKey (key : String) : String :=
  match Text.dropStart? propertyMark.toList key.toList with
  | some unmarked => String.ofList unmarked
  | none => key

/-- The options with one field as the value of a property says. -/
def setProperty
    (options : Options)
    (value : String) :
    Field → Except UnknownValue Options
  | .style => (AccessorStyle.ofText value).map ({ options with style := · })
  | .visibility => (Visibility.ofText value).map ({ options with visibility := · })
  | .pathPatterns => .ok { options with pathPatterns := Text.listItems value }
  | .namespacePatterns => .ok { options with namespacePatterns := Text.listItems value }
  | .fileNaming => (FileNaming.ofText value).map ({ options with fileNaming := · })
  | .language => (Language.ofText value).map ({ options with language := · })
  | .additionalNamespaces =>
    .ok { options with additionalNamespaces := Text.listItems value }
  | .namespaceMappings | .typeMappings => .ok options

/-- The options after one more property. -/
def addProperty
    (options : Options) :
    String × String → Except UnknownValue Options
  | (key, value) =>
    let value := Text.trimmed value
    if value = "" then
      .ok options
    else
      match Field.ofProperty? (unmarkedKey key) with
      | some field => options.setProperty value field
      | none => .ok options

/-- Reads options from properties, one after the other. -/
def ofProperties (properties : List (String × String)) : Except UnknownValue Options :=
  properties.foldlM addProperty standard

end ViewAccessors.Options
