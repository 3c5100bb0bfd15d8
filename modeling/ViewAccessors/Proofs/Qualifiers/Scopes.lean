import ViewAccessors.Proofs.NamedElements
import ViewAccessors.Proofs.Outcomes
import ViewAccessors.Proofs.Qualifiers.Parts

/-!
# Types under other qualifiers

In a renamed scope a renamed qualifier stands for the URI for which the
qualifier itself stands, so directives are found where they are and names and
type arguments have the types that they have.  Where something has no type it
is for the same kind of reason.
-/

namespace ViewAccessors

open Markup

/-! ## Kinds of errors -/

/-- What kind of error it is, without what it says of the text. -/
inductive ResolutionError.Kind where
  | undeclaredQualifier
  | unmappedNamespace
  | duplicateName
  | invalidTypeArguments
  deriving DecidableEq, Repr

/-- The kind of an error. -/
def ResolutionError.kind : ResolutionError → Kind
  | undeclaredQualifier _ _ => .undeclaredQualifier
  | unmappedNamespace _ _ _ => .unmappedNamespace
  | duplicateName _ _ _ => .duplicateName
  | invalidTypeArguments _ _ _ => .invalidTypeArguments

/-- Two computations have the same result, or errors of the same kind. -/
def Agree
    {Result : Type}
    (first second : Except ResolutionError Result) :
    Prop :=
  first.mapError ResolutionError.kind = second.mapError ResolutionError.kind

namespace Agree

variable {Result Next : Type} {first second : Except ResolutionError Result}

theorem refl (computation : Except ResolutionError Result) :
    Agree computation computation :=
  rfl

/-- Computations that agree succeed with the same result or fail with errors of one kind. -/
theorem cases_of_agree
    (agree : Agree first second) :
    (∃ result, first = .ok result ∧ second = .ok result) ∨
      ∃ error other, first = .error error ∧ second = .error other ∧ error.kind = other.kind := by
  cases first with
  | error error =>
      cases second with
      | error other => exact .inr ⟨error, other, rfl, rfl, Except.error.inj agree⟩
      | ok result => cases agree
  | ok result =>
      cases second with
      | error other => cases agree
      | ok other => exact .inl ⟨result, rfl, Except.ok.inj agree ▸ rfl⟩

theorem error
    {error other : ResolutionError}
    (same : error.kind = other.kind) :
    Agree (.error error : Except ResolutionError Result) (.error other) :=
  congrArg Except.error same

/-- Computations that agree still agree after the same, or agreeing, further steps. -/
theorem bind
    {next nextOther : Result → Except ResolutionError Next}
    (agree : Agree first second)
    (agreeNext : ∀ result, Agree (next result) (nextOther result)) :
    Agree (first.bind next) (second.bind nextOther) := by
  rcases agree.cases_of_agree with ⟨result, rfl, rfl⟩ | ⟨failure, other, rfl, rfl, same⟩
  · exact agreeNext result
  · exact Agree.error same

theorem map
    (agree : Agree first second)
    (change : Result → Next) :
    Agree (first.map change) (second.map change) := by
  rcases agree.cases_of_agree with ⟨result, rfl, rfl⟩ | ⟨failure, other, rfl, rfl, same⟩
  · exact refl _
  · exact Agree.error same

/-- Lists are worked through alike if their members are. -/
theorem mapM
    {Source : Type}
    {step stepOther : Source → Except ResolutionError Result}
    {sources : List Source}
    (agree : ∀ source ∈ sources, Agree (step source) (stepOther source)) :
    Agree (sources.mapM step) (sources.mapM stepOther) := by
  induction sources with
  | nil => exact refl _
  | cons source others hypothesis =>
      rw [List.forall_mem_cons] at agree
      rw [List.mapM_cons, List.mapM_cons]
      exact agree.1.bind fun result => (hypothesis agree.2).bind fun later => refl _

end Agree

/-! ## Scopes -/

/-- The scope with all declared qualifiers changed. -/
def Scope.requalify
    (change : String → String)
    (scope : Scope) :
    Scope :=
  ⟨scope.frames.map (List.map fun (qualifier, uri) => (change qualifier, uri))⟩

section

variable (exchange : Renaming)

theorem Renaming.change_eq_iff
    {word : String}
    (reserved : word ∈ reservedWords)
    (qualifier : String) :
    exchange.change qualifier = word ↔ qualifier = word := by
  constructor
  · intro same
    exact exchange.injective (same.trans (exchange.fixed word reserved).symm)
  · rintro rfl
    exact exchange.fixed _ reserved

namespace Scope

theorem lookup_map_change
    (qualifier : String)
    (entries : List (String × String)) :
    (entries.map fun (declared, uri) => (exchange.change declared, uri)).lookup
        (exchange.change qualifier) =
      entries.lookup qualifier := by
  induction entries with
  | nil => rfl
  | cons entry others hypothesis =>
      rcases entry with ⟨declared, uri⟩
      rw [List.map_cons, lookup_cons_eq_ite, lookup_cons_eq_ite, hypothesis]
      simp only [exchange.injective.eq_iff]

/-- A renamed qualifier stands for the same URI. -/
theorem uri?_requalify
    (scope : Scope)
    (qualifier : String) :
    (scope.requalify exchange.change).uri? (exchange.change qualifier) = scope.uri? qualifier := by
  have isReserved : "xml" ∈ reservedWords := by simp [reservedWords]
  have isXml := exchange.change_eq_iff isReserved qualifier
  simp only [uri?, requalify, isXml, List.findSome?_map, Function.comp_def, ← List.map_reverse,
    lookup_map_change]

end Scope

/-! ## Attributes -/

namespace Markup.Attribute

/-- A renamed attribute has the renamed qualifier; that of a declaration is reserved. -/
theorem qualifier_requalify (entry : Attribute) :
    (entry.requalify exchange.change).name.qualifier =
      entry.name.qualifier.map exchange.change := by
  rw [requalify]
  split
  · rename_i declares
    rw [declaresQualifier, beq_iff_eq] at declares
    rw [declares, Option.map_some, exchange.fixed "xmlns" (by simp [reservedWords])]
  · rfl

/-- A renamed attribute has a reserved local name if and only if the attribute has it. -/
theorem localName_requalify_eq_iff
    {word : String}
    (reserved : word ∈ reservedWords)
    (entry : Attribute) :
    (entry.requalify exchange.change).name.localName = word ↔ entry.name.localName = word := by
  rw [requalify]
  split
  · exact exchange.change_eq_iff reserved _
  · rfl

theorem declaresNamespace_requalify (entry : Attribute) :
    (entry.requalify exchange.change).name.declaresNamespace =
      entry.name.declaresNamespace := by
  have isReserved : "xmlns" ∈ reservedWords := by simp [reservedWords]
  rw [Name.declaresNamespace, Name.declaresNamespace, entry.qualifier_requalify]
  cases entry.name.qualifier with
  | none =>
      rw [Option.map_none, Bool.eq_iff_iff, beq_iff_eq, beq_iff_eq]
      exact entry.localName_requalify_eq_iff exchange isReserved
  | some qualifier =>
      rw [Option.map_some, Bool.eq_iff_iff, beq_iff_eq, beq_iff_eq]
      exact exchange.change_eq_iff isReserved qualifier

/-- Only type arguments change the value of an attribute. -/
theorem value_requalify
    {entry : Attribute}
    (holdsNone : entry.holdsTypeArguments = false)
    (change : String → String) :
    (entry.requalify change).value = entry.value := by
  rw [requalify, holdsNone]
  rfl

theorem holdsTypeArguments_of_ne
    {entry : Attribute}
    (notArguments : entry.name.localName ≠ "TypeArguments") :
    entry.holdsTypeArguments = false := by
  rw [holdsTypeArguments, beq_false_of_ne notArguments, Bool.false_and]

end Markup.Attribute

/-! ## Declarations and directives -/

/-- A declaration declares the same URI under the renamed qualifier. -/
theorem Markup.Attribute.declaration_requalify
    {entry : Attribute}
    (declares : entry.name.declaresNamespace = true) :
    (if (entry.requalify exchange.change).name.qualifier.isSome then
        (entry.requalify exchange.change).name.localName
      else
        "") =
      exchange.change (if entry.name.qualifier.isSome then entry.name.localName else "") ∧
    (entry.requalify exchange.change).value = entry.value := by
  rw [entry.qualifier_requalify]
  rw [Name.declaresNamespace] at declares
  cases found : entry.name.qualifier with
  | none =>
      rw [found, beq_iff_eq] at declares
      constructor
      · exact (exchange.fixed "" (by simp [reservedWords])).symm
      · apply value_requalify
        exact holdsTypeArguments_of_ne (by rw [declares]; decide)
  | some qualifier =>
      have isDeclaration : entry.declaresQualifier = true := by
        rw [found] at declares
        rw [declaresQualifier, found, beq_iff_eq, beq_iff_eq.mp declares]
      constructor
      · rw [requalify, if_pos isDeclaration]
        rfl
      · apply value_requalify
        rw [holdsTypeArguments, isDeclaration, Bool.not_true, Bool.and_false]

/-- A renamed element declares the same namespaces under the renamed qualifiers. -/
theorem Markup.Tag.namespaceDeclarations_requalify (tag : Tag) :
    (tag.requalify exchange.change).namespaceDeclarations =
      tag.namespaceDeclarations.map fun (qualifier, uri) => (exchange.change qualifier, uri) := by
  have sameFilter : (fun entry : Attribute => entry.name.declaresNamespace) ∘
      Attribute.requalify exchange.change = fun entry => entry.name.declaresNamespace :=
    funext fun entry => entry.declaresNamespace_requalify exchange
  rw [namespaceDeclarations, namespaceDeclarations, requalify, List.filter_map, sameFilter,
    List.map_map, List.map_map]
  apply List.map_congr_left
  intro entry member
  have same := Attribute.declaration_requalify exchange (List.mem_filter.mp member).2
  exact Prod.ext same.1 same.2

theorem Scope.inside_requalify (tags : List Tag) :
    Scope.inside (tags.map (Tag.requalify exchange.change)) =
      (Scope.inside tags).requalify exchange.change := by
  rw [inside, inside, requalify, List.map_map, List.map_map]
  congr 1
  exact List.map_congr_left fun tag _ => tag.namespaceDeclarations_requalify exchange

namespace Scope

theorem isDirective_requalify
    (scope : Scope)
    (entry : Attribute) :
    (scope.requalify exchange.change).isDirective (entry.requalify exchange.change).name =
      scope.isDirective entry.name := by
  rw [isDirective, isDirective, entry.qualifier_requalify]
  cases entry.name.qualifier with
  | none => rfl
  | some qualifier => rw [Option.map_some, Option.any_some, Option.any_some, uri?_requalify]

/-- The directives of a renamed element are its renamed directives. -/
theorem directive?_requalify
    {word : String}
    (reserved : word ∈ reservedWords)
    (scope : Scope)
    (tag : Tag) :
    (scope.requalify exchange.change).directive? (tag.requalify exchange.change) word =
      (scope.directive? tag word).map (Attribute.requalify exchange.change) := by
  have sameTest : (fun entry : Attribute => entry.name.localName == word &&
        (scope.requalify exchange.change).isDirective entry.name) ∘
      Attribute.requalify exchange.change =
        fun entry => entry.name.localName == word && scope.isDirective entry.name := by
    funext entry
    have sameName : ((entry.requalify exchange.change).name.localName == word) =
        (entry.name.localName == word) := by
      rw [Bool.eq_iff_iff, beq_iff_eq, beq_iff_eq]
      exact entry.localName_requalify_eq_iff exchange reserved
    rw [Function.comp_apply, sameName, isDirective_requalify]
  rw [directive?, directive?, Tag.requalify, List.find?_map, sameTest]

end Scope

theorem Markup.Tag.attribute?_requalify (tag : Tag) :
    (tag.requalify exchange.change).attribute? none "Name" =
      (tag.attribute? none "Name").map (Attribute.requalify exchange.change) := by
  have sameTest : (fun entry : Attribute => decide (entry.name = ⟨none, "Name"⟩)) ∘
      Attribute.requalify exchange.change = fun entry => decide (entry.name = ⟨none, "Name"⟩) := by
    have isReserved : "Name" ∈ reservedWords := by simp [reservedWords]
    have eq_iff : ∀ name : Name, name = ⟨none, "Name"⟩ ↔
        name.qualifier = none ∧ name.localName = "Name" := by
      rintro ⟨qualifier, localName⟩
      simp
    funext entry
    simp only [Function.comp_apply, eq_iff, entry.qualifier_requalify, Option.map_eq_none_iff,
      entry.localName_requalify_eq_iff exchange isReserved]
  rw [attribute?, attribute?, requalify, List.find?_map, sameTest]

end

end ViewAccessors
