import ViewAccessors.Options.Fault

/-!
# The fields of options

Options are what their fields are.  So options that are described field by
field are described completely.
-/

namespace ViewAccessors.Options

/-- The type of what a field holds. -/
def Field.Value : Field → Type
  | style => AccessorStyle
  | visibility => Visibility
  | pathPatterns => List String
  | namespacePatterns => List String
  | fileNaming => FileNaming
  | language => Language
  | additionalNamespaces => List String
  | namespaceMappings => OrderedMap String
  | typeMappings => OrderedMap (OrderedMap String)

/-- What a field holds. -/
def get (options : Options) : (field : Field) → field.Value
  | .style => options.style
  | .visibility => options.visibility
  | .pathPatterns => options.pathPatterns
  | .namespacePatterns => options.namespacePatterns
  | .fileNaming => options.fileNaming
  | .language => options.language
  | .additionalNamespaces => options.additionalNamespaces
  | .namespaceMappings => options.namespaceMappings
  | .typeMappings => options.typeMappings

/-- Options with the same fields are the same. -/
theorem eq_of_get_eq
    {first second : Options}
    (same : ∀ field, first.get field = second.get field) :
    first = second := by
  cases first
  cases second
  rw [Options.mk.injEq]
  exact ⟨same .style, same .visibility, same .pathPatterns, same .namespacePatterns,
    same .fileNaming, same .language, same .additionalNamespaces, same .namespaceMappings,
    same .typeMappings⟩

end ViewAccessors.Options
