import ViewAccessors.Options.Properties
import ViewAccessors.Proofs.Latest
import ViewAccessors.Proofs.ListItems
import ViewAccessors.Proofs.NamespaceMaps
import ViewAccessors.Proofs.OptionFields

/-!
# Options from build properties, field by field

Properties are read one after the other, but what comes of them can be said of
each field by itself: the last property counts that sets it.  Of the properties
with a value that is not accepted it is the first one that counts.  So the
order of the properties matters only where they have the same key.
-/

namespace ViewAccessors.Options

open Text

/-! ## Which field a property sets -/

/-- The key of the properties that set a field, if there are such properties. -/
def Field.propertyKey? : Field → Option String
  | style => some "NameGeneratorBehavior"
  | visibility => some "NameGeneratorDefaultFieldModifier"
  | pathPatterns => some "NameGeneratorFilterByPath"
  | namespacePatterns => some "NameGeneratorFilterByNamespace"
  | fileNaming => some "NameGeneratorViewFileNamingStrategy"
  | language => some "NameGeneratorLanguage"
  | additionalNamespaces => some "NameGeneratorAdditionalNamespaces"
  | namespaceMappings => none
  | typeMappings => none

/-- A property has the key of a field, marked or not, and a value that is not blank. -/
def Sets
    (field : Field)
    (property : String × String)
    (value : String) :
    Prop :=
  (∃ key, field.propertyKey? = some key ∧
    (property.1 = key ∨ property.1 = propertyMark ++ key)) ∧
    property.2 = value ∧ value.toList.all isBlank = false

theorem ofProperty?_eq_some_iff
    {key : String}
    {field : Field} :
    Field.ofProperty? key = some field ↔ field.propertyKey? = some key := by
  rw [Field.ofProperty?, lookup_eq_some_iff_mem (by decide)]
  cases field <;> simp [Field.propertyKey?, eq_comm]

/-- A key that is not marked is what remains of itself and of the marked key. -/
theorem unmarkedKey_eq_iff
    {key : String}
    (unmarked : dropStart? propertyMark.toList key.toList = none)
    (text : String) :
    unmarkedKey text = key ↔ text = key ∨ text = propertyMark ++ key := by
  cases cut : dropStart? propertyMark.toList text.toList with
  | none =>
      have differs : text ≠ propertyMark ++ key := by
        rintro rfl
        rw [String.toList_append, dropStart?_eq_some_iff.mpr rfl] at cut
        cases cut
      simp [unmarkedKey, cut, differs]
  | some rest =>
      have differs : text ≠ key := by
        rintro rfl
        rw [unmarked] at cut
        cases cut
      have whole : text.toList = propertyMark.toList ++ rest := dropStart?_eq_some_iff.mp cut
      rw [unmarkedKey, cut, or_iff_right differs]
      simp [← String.toList_inj, whole]

theorem sets_iff
    {field : Field}
    {property : String × String}
    {value : String} :
    Sets field property value ↔
      Field.ofProperty? (unmarkedKey property.1) = some field ∧
        property.2 = value ∧ trimmed value ≠ "" := by
  have unmarked : ∀ key, field.propertyKey? = some key →
      dropStart? propertyMark.toList key.toList = none := by
    intro key known
    cases field <;> cases known <;> decide
  have visible : value.toList.all isBlank = false ↔ trimmed value ≠ "" := by
    rw [← Bool.not_eq_true, ← trim_eq_nil_iff, trimmed, Ne, String.ofList_eq_empty_iff]
  rw [Sets, visible, ofProperty?_eq_some_iff]
  refine and_congr_left fun _ => ?_
  constructor
  · rintro ⟨key, known, written⟩
    rw [(unmarkedKey_eq_iff (unmarked key known) property.1).mpr written, known]
  · intro known
    exact ⟨_, known, (unmarkedKey_eq_iff (unmarked _ known) property.1).mp rfl⟩

/-! ## What a value means for a field -/

/-- The field takes one of a few words, and the value is one of them, or it takes all values. -/
def Field.Accepts (value : String) : Field → Prop
  | style => ∃ word, AccessorStyle.ofText value = .ok word
  | visibility => ∃ word, Visibility.ofText value = .ok word
  | fileNaming => ∃ word, FileNaming.ofText value = .ok word
  | language => ∃ word, Language.ofText value = .ok word
  | pathPatterns | namespacePatterns | additionalNamespaces => True
  | namespaceMappings | typeMappings => True

/-- The field takes one of a few words, and the value is none of them. -/
def Field.Refuses
    (value : String)
    (unknown : UnknownValue) :
    Field → Prop
  | style => AccessorStyle.ofText value = .error unknown
  | visibility => Visibility.ofText value = .error unknown
  | fileNaming => FileNaming.ofText value = .error unknown
  | language => Language.ofText value = .error unknown
  | pathPatterns | namespacePatterns | additionalNamespaces => False
  | namespaceMappings | typeMappings => False

/-- The field holds what a property with the value says. -/
def Field.Holds (value : String) : (field : Field) → field.Value → Prop
  | .style, word => AccessorStyle.ofText value = .ok word
  | .visibility, word => Visibility.ofText value = .ok word
  | .fileNaming, word => FileNaming.ofText value = .ok word
  | .language, word => Language.ofText value = .ok word
  | .pathPatterns, patterns => Glob.ListsPatterns value patterns
  | .namespacePatterns, patterns => Glob.ListsPatterns value patterns
  | .additionalNamespaces, items => Lists value items
  | .namespaceMappings, _ => False
  | .typeMappings, _ => False

theorem lowered_trimmed (text : String) :
    lowered (trimmed text) = lowered text := by
  rw [lowered, toList_trimmed, trim_trim, lowered]

/-- Blanks around a value do not change what it means. -/
theorem Field.holds_trimmed_iff
    (value : String)
    (field : Field)
    (content : field.Value) :
    field.Holds (trimmed value) content ↔ field.Holds value content := by
  cases field with
  | style => simp only [Holds, AccessorStyle.ofText, trimmed_trimmed]
  | visibility =>
      simp only [Holds, Visibility.ofText, Visibility.ofText?, lowered_trimmed]
      split <;> simp
  | pathPatterns | namespacePatterns => exact Glob.listsPatterns_trimmed_iff
  | fileNaming => simp only [Holds, FileNaming.ofText, trimmed_trimmed]
  | language =>
      simp only [Holds, Language.ofText, lowered_trimmed]
      split <;> simp
  | additionalNamespaces => exact lists_trimmed_iff
  | namespaceMappings | typeMappings => rfl

theorem Field.accepts_trimmed_iff
    (value : String)
    (field : Field) :
    field.Accepts (trimmed value) ↔ field.Accepts value := by
  cases field with
  | style => exact exists_congr (holds_trimmed_iff value style)
  | visibility => exact exists_congr (holds_trimmed_iff value visibility)
  | fileNaming => exact exists_congr (holds_trimmed_iff value fileNaming)
  | language => exact exists_congr (holds_trimmed_iff value language)
  | pathPatterns | namespacePatterns | additionalNamespaces => rfl
  | namespaceMappings | typeMappings => rfl

/-- A value says one thing only. -/
theorem Field.Holds.unique
    {value : String}
    {field : Field}
    {first second : field.Value}
    (holdsFirst : field.Holds value first)
    (holdsSecond : field.Holds value second) :
    first = second := by
  cases field with
  | style | visibility | fileNaming | language =>
      exact Except.ok.inj (holdsFirst.symm.trans holdsSecond)
  | pathPatterns | namespacePatterns =>
      rw [← Glob.listsPatterns_iff.mp holdsFirst, ← Glob.listsPatterns_iff.mp holdsSecond]
  | additionalNamespaces =>
      rw [← lists_iff.mp holdsFirst, ← lists_iff.mp holdsSecond]
  | namespaceMappings | typeMappings => cases holdsFirst

/-! ## One field is set -/

section

variable
    {options next : Options}
    {value : String}
    {field : Field}

theorem setProperty_eq_error_iff {unknown : UnknownValue} :
    options.setProperty value field = .error unknown ↔ field.Refuses value unknown := by
  cases field <;> simp [setProperty, Field.Refuses, map_eq_error_iff]

theorem exists_setProperty_iff :
    (∃ next, options.setProperty value field = .ok next) ↔ field.Accepts value := by
  cases field <;> simp [setProperty, Field.Accepts, map_eq_ok_iff]

/-- A field that properties can set holds what the value says. -/
theorem holds_of_setProperty
    {key : String}
    (known : field.propertyKey? = some key)
    (worked : options.setProperty value field = .ok next) :
    field.Holds value (next.get field) := by
  cases field with
  | style | visibility | fileNaming | language =>
      rcases map_eq_ok_iff.mp worked with ⟨content, read, rfl⟩
      exact read
  | pathPatterns | namespacePatterns =>
      cases worked
      exact Glob.listsPatterns_iff.mpr rfl
  | additionalNamespaces =>
      cases worked
      exact lists_iff.mpr rfl
  | namespaceMappings | typeMappings => cases known

/-- The other fields stay as they are. -/
theorem get_setProperty_of_ne
    (worked : options.setProperty value field = .ok next)
    {other : Field}
    (differs : other ≠ field) :
    next.get other = options.get other := by
  cases field with
  | style | visibility | fileNaming | language =>
      rcases map_eq_ok_iff.mp worked with ⟨content, -, rfl⟩
      cases other <;> first | rfl | exact absurd rfl differs
  | pathPatterns | namespacePatterns | additionalNamespaces | namespaceMappings
  | typeMappings =>
      cases worked
      cases other <;> first | rfl | exact absurd rfl differs

end

/-! ## One property is added -/

/-- A property sets one field, or it is passed over. -/
theorem addProperty_cases (property : String × String) :
    (∃ field value, Sets field property value ∧
      (∀ other otherValue, Sets other property otherValue → other = field ∧ otherValue = value) ∧
        ∀ options : Options,
          options.addProperty property = options.setProperty (trimmed value) field) ∨
    (∀ field value, ¬ Sets field property value) ∧
      ∀ options : Options, options.addProperty property = .ok options := by
  rcases property with ⟨key, value⟩
  simp only [sets_iff, addProperty]
  by_cases blank : trimmed value = ""
  · refine .inr ⟨?_, fun options => if_pos blank⟩
    rintro field _ ⟨-, rfl, visible⟩
    exact visible blank
  · simp only [if_neg blank]
    cases known : Field.ofProperty? (unmarkedKey key) with
    | none => exact .inr ⟨fun _ _ sets => (nomatch sets.1), fun _ => rfl⟩
    | some field =>
        refine .inl ⟨field, value, ⟨rfl, rfl, blank⟩, ?_, fun _ => rfl⟩
        rintro other _ ⟨same, rfl, -⟩
        exact ⟨(Option.some.inj same).symm, rfl⟩

theorem exists_addProperty_iff
    (options : Options)
    (property : String × String) :
    (∃ next, options.addProperty property = .ok next) ↔
      ∀ field value, Sets field property value → field.Accepts value := by
  rcases addProperty_cases property with
    ⟨field, value, sets, only, adds⟩ | ⟨silent, adds⟩
  · rw [adds, exists_setProperty_iff, Field.accepts_trimmed_iff]
    constructor
    · intro accepts other otherValue setsOther
      rcases only other otherValue setsOther with ⟨rfl, rfl⟩
      exact accepts
    · exact fun accepted => accepted field value sets
  · rw [adds]
    exact ⟨fun _ field value sets => absurd sets (silent field value), fun _ => ⟨options, rfl⟩⟩

theorem addProperty_eq_error_iff
    {options : Options}
    {property : String × String}
    {unknown : UnknownValue} :
    options.addProperty property = .error unknown ↔
      ∃ field value, Sets field property value ∧ field.Refuses (trimmed value) unknown := by
  rcases addProperty_cases property with
    ⟨field, value, sets, only, adds⟩ | ⟨silent, adds⟩
  · rw [adds, setProperty_eq_error_iff]
    constructor
    · exact fun refuses => ⟨field, value, sets, refuses⟩
    · rintro ⟨other, otherValue, setsOther, refuses⟩
      rcases only other otherValue setsOther with ⟨rfl, rfl⟩
      exact refuses
  · rw [adds]
    constructor
    · nofun
    · rintro ⟨field, value, sets, -⟩
      exact absurd sets (silent field value)

/-! ## All properties are added -/

/-- Fields hold what the properties that set them last say, and the others are as at the start. -/
structure Filled
    (start : Options)
    (properties : List (String × String))
    (options : Options) :
    Prop where
  set : ∀ field value,
    Latest (Sets field) properties value → field.Holds value (options.get field)
  unset : ∀ field,
    (∀ property ∈ properties, ∀ value, ¬ Sets field property value) →
      options.get field = start.get field

theorem filled_nil (start : Options) :
    Filled start [] start := by
  constructor
  · intro field value latest
    rcases latest.exists_mem with ⟨property, present, -⟩
    cases present
  · exact fun field unset => rfl

/-- One more property leaves the fields filled. -/
theorem Filled.addProperty
    {start options next : Options}
    {properties : List (String × String)}
    (filled : Filled start properties options)
    {property : String × String}
    (added : options.addProperty property = .ok next) :
    Filled start (properties ++ [property]) next := by
  rcases addProperty_cases property with
    ⟨field, value, sets, only, adds⟩ | ⟨silent, adds⟩
  · rw [adds] at added
    rcases sets.1 with ⟨key, known, -⟩
    constructor
    · intro other otherValue latest
      rcases latest_concat_iff.mp latest with setsOther | ⟨quiet, earlier⟩
      · rcases only other otherValue setsOther with ⟨rfl, rfl⟩
        rw [← Field.holds_trimmed_iff]
        exact holds_of_setProperty known added
      · have differs : other ≠ field := by
          rintro rfl
          exact quiet value sets
        rw [get_setProperty_of_ne added differs]
        exact filled.set other otherValue earlier
    · intro other unset
      have differs : other ≠ field := by
        rintro rfl
        exact unset property (by simp) value sets
      rw [get_setProperty_of_ne added differs]
      exact filled.unset other fun earlier present =>
        unset earlier (List.mem_append_left _ present)
  · rw [adds] at added
    cases added
    constructor
    · intro field value latest
      rcases latest_concat_iff.mp latest with sets | ⟨-, earlier⟩
      · exact absurd sets (silent field value)
      · exact filled.set field value earlier
    · intro field unset
      exact filled.unset field fun earlier present =>
        unset earlier (List.mem_append_left _ present)

/-- Properties that are added behind others leave the fields filled. -/
theorem Filled.addAll
    {start options last : Options}
    {earlier properties : List (String × String)}
    (filled : Filled start earlier options)
    (added : properties.foldlM Options.addProperty options = .ok last) :
    Filled start (earlier ++ properties) last := by
  induction properties generalizing earlier options with
  | nil =>
      cases added
      rw [List.append_nil]
      exact filled
  | cons property others hypothesis =>
      rw [List.foldlM_cons] at added
      rcases bind_eq_ok_iff.mp added with ⟨next, first, later⟩
      have whole := hypothesis (filled.addProperty first) later
      rwa [List.append_assoc, List.singleton_append] at whole

theorem exists_addAll_iff
    (options : Options)
    (properties : List (String × String)) :
    (∃ last, properties.foldlM addProperty options = .ok last) ↔
      ∀ property ∈ properties, ∀ field value,
        Sets field property value → field.Accepts value := by
  induction properties generalizing options with
  | nil => exact ⟨fun _ => nofun, fun _ => ⟨options, rfl⟩⟩
  | cons property others hypothesis =>
      rw [List.forall_mem_cons, ← exists_addProperty_iff options property, List.foldlM_cons]
      constructor
      · rintro ⟨last, added⟩
        rcases bind_eq_ok_iff.mp added with ⟨next, first, later⟩
        exact ⟨⟨next, first⟩, (hypothesis next).mp ⟨last, later⟩⟩
      · rintro ⟨⟨next, first⟩, accepted⟩
        rcases (hypothesis next).mpr accepted with ⟨last, later⟩
        exact ⟨last, bind_eq_ok_iff.mpr ⟨next, first, later⟩⟩

/-- The fields of filled options are determined by the properties. -/
theorem Filled.unique
    {start first second : Options}
    {properties : List (String × String)}
    (filledFirst : Filled start properties first)
    (filledSecond : Filled start properties second) :
    first = second := by
  refine eq_of_get_eq fun field => ?_
  by_cases unset : ∀ property ∈ properties, ∀ value, ¬ Sets field property value
  · rw [filledFirst.unset field unset, filledSecond.unset field unset]
  · push Not at unset
    rcases unset with ⟨property, present, value, sets⟩
    rcases exists_latest_of_mem present sets with ⟨latest, isLatest⟩
    exact (filledFirst.set field latest isLatest).unique (filledSecond.set field latest isLatest)

/-! ## Other orders -/

/-- Both lists have the same properties, those with one key in the same order. -/
def Rearranged (first second : List (String × String)) : Prop :=
  ∀ key, (first.filter fun property => unmarkedKey property.1 = key) =
    second.filter fun property => unmarkedKey property.1 = key

section

variable {first second : List (String × String)}

theorem Rearranged.mem_iff
    (rearranged : Rearranged first second)
    (property : String × String) :
    property ∈ first ↔ property ∈ second := by
  have same : property ∈ first.filter (fun other => unmarkedKey other.1 = unmarkedKey property.1) ↔
      property ∈ second.filter (fun other => unmarkedKey other.1 = unmarkedKey property.1) := by
    rw [rearranged]
  simpa using same

/-- A field is set last to the same value. -/
theorem Rearranged.latest_iff
    (rearranged : Rearranged first second)
    (field : Field)
    (value : String) :
    Latest (Sets field) first value ↔ Latest (Sets field) second value := by
  cases known : field.propertyKey? with
  | none =>
      have silent : ∀ properties, ¬ Latest (Sets field) properties value := by
        intro properties latest
        rcases latest.exists_mem with ⟨_, -, ⟨key, other, -⟩, -⟩
        rw [known] at other
        cases other
      exact iff_of_false (silent first) (silent second)
  | some key =>
      have keyed : ∀ property value, Sets field property value →
          decide (unmarkedKey property.1 = key) = true := by
        intro property value sets
        have own := ofProperty?_eq_some_iff.mp (sets_iff.mp sets).1
        rw [known] at own
        exact decide_eq_true (Option.some.inj own).symm
      rw [← latest_filter_iff keyed, rearranged key, latest_filter_iff keyed]

theorem Rearranged.filled
    {start options : Options}
    (rearranged : Rearranged first second)
    (filled : Filled start first options) :
    Filled start second options where
  set field value latest := filled.set field value ((rearranged.latest_iff field value).mpr latest)
  unset field unset := filled.unset field fun property present =>
    unset property ((rearranged.mem_iff property).mp present)

end

/-! ## Reading properties -/

theorem filled_of_ofProperties
    {properties : List (String × String)}
    {options : Options}
    (read : ofProperties properties = .ok options) :
    Filled standard properties options :=
  (filled_nil standard).addAll read

/-- A field that no property can set is as in the standard options. -/
theorem get_eq_standard_of_propertyKey?_eq_none
    {properties : List (String × String)}
    {options : Options}
    (read : ofProperties properties = .ok options)
    (field : Field)
    (unknown : field.propertyKey? = none) :
    options.get field = standard.get field := by
  refine (filled_of_ofProperties read).unset field ?_
  rintro property - value ⟨⟨key, known, -⟩, -⟩
  rw [unknown] at known
  cases known

/--
Properties give options exactly if every value that sets a field is accepted,
and otherwise the error is that of the first value that is not.  The options
hold in every field what the last property says that sets it, and are the
standard ones where there is no such property; the mappings are always empty.
Properties with different keys can change places.
-/
theorem ofProperties_by_field (properties : List (String × String)) :
    ((∃ options, ofProperties properties = .ok options) ↔
      ∀ property ∈ properties, ∀ field value,
        Sets field property value → field.Accepts value) ∧
    (∀ unknown, ofProperties properties = .error unknown ↔
      ∃ before property after field value, properties = before ++ property :: after ∧
        (∀ earlier ∈ before, ∀ field value, Sets field earlier value → field.Accepts value) ∧
          Sets field property value ∧ field.Refuses (trimmed value) unknown) ∧
    (∀ options, ofProperties properties = .ok options →
      Filled standard properties options ∧
        options.namespaceMappings = .empty ∧ options.typeMappings = .empty) ∧
    ∀ others, Rearranged properties others →
      ∀ options, ofProperties properties = .ok options → ofProperties others = .ok options := by
  refine ⟨exists_addAll_iff standard properties, ?_, ?_, ?_⟩
  · intro unknown
    rw [ofProperties, foldlM_eq_error_iff]
    constructor
    · rintro ⟨before, property, after, state, whole, added, failed⟩
      rcases addProperty_eq_error_iff.mp failed with ⟨field, value, sets, refuses⟩
      exact ⟨before, property, after, field, value, whole,
        (exists_addAll_iff standard before).mp ⟨state, added⟩, sets, refuses⟩
    · rintro ⟨before, property, after, field, value, whole, accepted, sets, refuses⟩
      rcases (exists_addAll_iff standard before).mpr accepted with ⟨state, added⟩
      exact ⟨before, property, after, state, whole, added,
        addProperty_eq_error_iff.mpr ⟨field, value, sets, refuses⟩⟩
  · intro options read
    exact ⟨filled_of_ofProperties read,
      get_eq_standard_of_propertyKey?_eq_none read .namespaceMappings rfl,
      get_eq_standard_of_propertyKey?_eq_none read .typeMappings rfl⟩
  · intro others rearranged options read
    have accepted := (exists_addAll_iff standard properties).mp ⟨options, read⟩
    rcases (exists_addAll_iff standard others).mpr fun property present =>
      accepted property ((rearranged.mem_iff property).mpr present) with ⟨last, readOthers⟩
    have filled := rearranged.filled (filled_of_ofProperties read)
    rw [ofProperties, readOthers, filled.unique (filled_of_ofProperties readOthers)]

/-- The last language counts, wherever a property of another tool stands. -/
theorem ofProperties_by_field_language :
    let properties := [("build_property.NameGeneratorLanguage", "C#"), ("Other", "VB"),
      ("NameGeneratorLanguage", " VB ")]
    let others := [("build_property.NameGeneratorLanguage", "C#"),
      ("NameGeneratorLanguage", " VB "), ("Other", "VB")]
    let options := { standard with language := .visualBasic }
    ofProperties properties = .ok options ∧
      Latest (Sets .language) properties " VB " ∧
      Language.ofText " VB " = .ok options.language ∧
      options.get .style = standard.get .style ∧
      Rearranged properties others ∧ ofProperties others = .ok options := by
  intro properties others options
  have read : ofProperties properties = .ok options := by
    decide +kernel
  have latest : Latest (Sets .language) properties " VB " := by
    have sets : Sets .language ("NameGeneratorLanguage", " VB ") " VB " :=
      ⟨⟨_, rfl, .inl rfl⟩, rfl, by decide⟩
    exact ⟨properties.take 2, _, [], rfl, sets, fun _ present => absurd present List.not_mem_nil⟩
  have rearranged : Rearranged properties others := by
    have marked : unmarkedKey "build_property.NameGeneratorLanguage" =
        "NameGeneratorLanguage" := by
      decide +kernel
    have plain : unmarkedKey "NameGeneratorLanguage" = "NameGeneratorLanguage" := by
      decide +kernel
    have other : unmarkedKey "Other" = "Other" := by
      decide +kernel
    intro key
    simp only [properties, others, List.filter_cons, List.filter_nil, marked, plain, other]
    by_cases same : key = "Other"
    · subst same
      decide
    · simp [Ne.symm same]
  rcases ofProperties_by_field properties with ⟨-, -, filled, moved⟩
  rcases (filled options read).1 with ⟨set, unset⟩
  have silent : ∀ property ∈ properties, ∀ value, ¬ Sets .style property value := by
    have keys : ∀ property ∈ properties,
        Field.ofProperty? (unmarkedKey property.1) ≠ some .style := by
      decide +kernel
    exact fun property present value sets => keys property present (sets_iff.mp sets).1
  exact ⟨read, latest, set .language " VB " latest, unset .style silent, rearranged,
    moved others rearranged options read⟩

end ViewAccessors.Options
