import ViewAccessors.Proofs.Qualifiers.Scopes

/-!
# Elements under other qualifiers

A renamed element has the type of the element itself, or none for the same
kind of reason.  Its type arguments are renamed along with it; the one
exception is a declaration of the qualifier `TypeArguments` that is also read
as a directive, because a declared URI is not renamed.
-/

namespace ViewAccessors

open Markup
open TypeArguments

/--
The value of the directive for type arguments changes as type arguments do.
That of a declaration which is also read as the directive does not change.
-/
def Scope.RenamesArguments
    (scope : Scope)
    (tag : Tag)
    (change : String → String) :
    Prop :=
  ∀ entry ∈ scope.directive? tag "TypeArguments",
    (entry.requalify change).value.toList =
      TypeArguments.requalify change entry.value.toList

section

variable (exchange : Renaming)

namespace Resolver

/-- The resolver for a text with its qualifiers changed. -/
def requalify
    (change : String → String)
    (resolver : Resolver) :
    Resolver :=
  { resolver with scope := resolver.scope.requalify change }

/-- A renamed name has the type of the name. -/
theorem agree_typeNamed
    (resolver : Resolver)
    (span : Span)
    (name : Name) :
    Agree ((resolver.requalify exchange.change).typeNamed span (name.requalify exchange.change))
      (resolver.typeNamed span name) := by
  have sameQualifier : (name.requalify exchange.change).qualifier.getD "" =
      exchange.change (name.qualifier.getD "") := by
    rw [Name.requalify]
    cases name.qualifier with
    | none => exact (exchange.fixed "" (by simp [reservedWords])).symm
    | some qualifier => rfl
  simp only [typeNamed, requalify, sameQualifier, Scope.uri?_requalify]
  cases resolver.scope.uri? (name.qualifier.getD "") with
  | none => exact Agree.error rfl
  | some uri =>
      have sameLocalName : (name.requalify exchange.change).localName = name.localName := rfl
      simp only [sameLocalName]
      generalize (if uri = xamlNamespace then intrinsicType? name.localName else
        (resolver.namespaces.typeNamespace? uri name.localName).map fun namespaceName =>
          (namespaceName, name.localName)) = found
      cases found with
      | none => exact Agree.error rfl
      | some place => exact Agree.refl _

/-- A renamed part names the type that the part names, if the lists inside it do. -/
theorem agree_typeArgument
    (resolver : Resolver)
    (span : Span)
    {value valueRenamed : List Char}
    {nested nestedRenamed : List Char → Except ResolutionError (List TypeRef)}
    (agree : ∀ text, Agree
      (nestedRenamed (TypeArguments.requalify exchange.change text)) (nested text))
    {part : List Char}
    (isPart : IsPart part) :
    Agree
      ((resolver.requalify exchange.change).typeArgument span valueRenamed nestedRenamed
        (TypeArguments.requalify exchange.change part))
      (resolver.typeArgument span value nested part) := by
  rw [typeArgument, typeArgument, readPart_requalify exchange isPart]
  cases readPart part with
  | error fault => exact Agree.error rfl
  | ok found =>
      rcases found with ⟨name, inner⟩
      refine (resolver.agree_typeNamed exchange span name).bind fun type => ?_
      cases inner with
      | none => exact Agree.refl _
      | some text => exact (agree text).bind fun types => Agree.refl _

/-- A renamed list of type arguments names the types that the list names. -/
theorem agree_typeArguments
    (resolver : Resolver)
    (span : Span)
    (room : Nat)
    (value : List Char) :
    Agree
      ((resolver.requalify exchange.change).typeArguments span room
        (TypeArguments.requalify exchange.change value))
      (resolver.typeArguments span room value) := by
  induction room generalizing value with
  | zero => exact Agree.error rfl
  | succ room hypothesis =>
      rw [typeArguments, typeArguments, parts?_requalify]
      cases found : parts? value with
      | none => exact Agree.error rfl
      | some parts =>
          have areParts := ((parts?_eq_some_iff value parts).mp found).2.1
          simp only [Option.map_some, List.mapM_map]
          exact Agree.mapM fun part member =>
            resolver.agree_typeArgument exchange span hypothesis (areParts part member)

/--
A renamed element has the type of the element, if the value of its directive
for type arguments is the renamed value.
-/
theorem agree_elementType
    (resolver : Resolver)
    {tag : Tag}
    (renamed : resolver.scope.RenamesArguments tag exchange.change) :
    Agree ((resolver.requalify exchange.change).elementType (tag.requalify exchange.change))
      (resolver.elementType tag) := by
  have isReserved : "TypeArguments" ∈ reservedWords := by simp [reservedWords]
  rw [elementType, elementType]
  refine (resolver.agree_typeNamed exchange tag.span tag.name).bind fun type => ?_
  have sameScope : (resolver.requalify exchange.change).scope =
      resolver.scope.requalify exchange.change :=
    rfl
  rw [sameScope, Scope.directive?_requalify exchange isReserved]
  cases found : resolver.scope.directive? tag "TypeArguments" with
  | none => exact Agree.refl _
  | some entry =>
      have sameValue := renamed entry found
      rw [Option.map_some]
      simp only [sameValue]
      exact (resolver.agree_typeArguments exchange entry.span maximumNesting
        entry.value.toList).bind fun types => Agree.refl _

end Resolver

end

end ViewAccessors
