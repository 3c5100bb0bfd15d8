import Mathlib.Data.List.Nodup
import ViewAccessors.Proofs.Accessors

/-!
# The identifiers of accessors

An accessor becomes a member under its name.  Names that are distinct as texts
are distinct identifiers in C#, but in Visual Basic they are distinct only if
they differ in more than the case of letters.  The walk through a document
compares names as texts, whatever the language is.
-/

namespace ViewAccessors

open Markup

namespace Language

/--
The identifier that a name is, where `fold` levels the case of letters, as
Visual Basic does.
-/
def identifier
    (fold : Char → Char) :
    Language → String → String
  | csharp, name => name
  | visualBasic, name => String.ofList (name.toList.map fold)

/-- Distinct names are distinct identifiers unless letter case alone tells them apart. -/
theorem nodup_map_identifier_iff
    (language : Language)
    (fold : Char → Char)
    {names : List String}
    (distinct : names.Nodup) :
    (names.map (language.identifier fold)).Nodup ↔
      language = csharp ∨
        ∀ one ∈ names, ∀ other ∈ names,
          one.toList.map fold = other.toList.map fold → one = other := by
  rw [List.nodup_map_iff_inj_on distinct]
  cases language with
  | csharp => exact ⟨fun _ => .inl rfl, fun _ _ _ _ _ same => same⟩
  | visualBasic => simp only [identifier, String.ofList_inj, reduceCtorEq, false_or]

end Language

namespace AccessorSettings

/-- Accessors have the names of their elements, whatever the settings are. -/
theorem names_of_describes
    {settings : AccessorSettings}
    {elements : List NamedElement}
    {accessors : List Accessor}
    (describe : List.Forall₂ settings.Describes elements accessors) :
    accessors.map Accessor.name = elements.map NamedElement.name := by
  induction describe with
  | nil => rfl
  | cons describes describe hypothesis =>
      rw [List.map_cons, List.map_cons, describes.name, hypothesis]

/-- A document gets accessors of the same names in every language. -/
theorem exists_accessors_of_language
    {settings : AccessorSettings}
    {root : Element}
    {accessors : List Accessor}
    (found : settings.accessors root = .ok accessors)
    (language : Language) :
    ∃ others, { settings with language := language }.accessors root = .ok others ∧
      others.map Accessor.name = accessors.map Accessor.name := by
  rcases (settings.accessors_eq_ok_iff root accessors).mp found with ⟨distinct, describe⟩
  have resolve := exists_type_of_describes describe
  have describes : ∃ others, List.Forall₂ { settings with language := language }.Describes
      root.namedElements others :=
    exists_describes resolve
  rcases describes with ⟨others, describeOthers⟩
  refine ⟨others, (accessors_eq_ok_iff _ root others).mpr ⟨distinct, describeOthers⟩, ?_⟩
  rw [names_of_describes describe, names_of_describes describeOthers]

/--
The accessors of a document have distinct names, and in the other language the
document gets accessors of the same names.  Their identifiers are distinct in
C#; in Visual Basic they are distinct exactly if no two named elements have
names that differ in nothing but the case of letters.
-/
theorem distinct_identifiers_iff
    {settings : AccessorSettings}
    {root : Element}
    {accessors : List Accessor}
    (found : settings.accessors root = .ok accessors)
    (fold : Char → Char) :
    (accessors.map Accessor.name).Nodup ∧
      (∀ language, ∃ others,
        { settings with language := language }.accessors root = .ok others ∧
          others.map Accessor.name = accessors.map Accessor.name) ∧
      ((accessors.map fun accessor =>
          settings.language.identifier fold accessor.name).Nodup ↔
        settings.language = .csharp ∨
          ∀ one ∈ root.namedElements, ∀ other ∈ root.namedElements,
            one.name.toList.map fold = other.name.toList.map fold → one.name = other.name) := by
  rcases (settings.accessors_eq_ok_iff root accessors).mp found with ⟨distinct, describe⟩
  have named : accessors.map Accessor.name = root.namedElements.map NamedElement.name :=
    names_of_describes describe
  have identified := settings.language.nodup_map_identifier_iff fold distinct
  simp only [List.forall_mem_map] at identified
  rw [← named, List.map_map] at identified
  exact ⟨named ▸ distinct, exists_accessors_of_language found, identified⟩

/-- A view in C# with a second element below the root. -/
theorem distinct_identifiers_iff_window :
    ∃ root accessors,
      parse "<Window xmlns=\"using:App\" Name=\"ok\"><Button Name=\"OK\"/></Window>" = .ok root ∧
        AccessorSettings.accessors ⟨.wellKnown, .csharp, default⟩ root = .ok accessors ∧
          (accessors.map fun accessor =>
            Language.csharp.identifier Char.toLower accessor.name).Nodup := by
  have named :
      (parse "<Window xmlns=\"using:App\" Name=\"ok\"><Button Name=\"OK\"/></Window>").map
          (fun root => (AccessorSettings.accessors ⟨.wellKnown, .csharp, default⟩ root).map
            (List.map Accessor.name)) =
        .ok (.ok ["ok", "OK"]) := by
    decide +kernel
  rcases map_eq_ok_iff.mp named with ⟨root, read, named⟩
  rcases map_eq_ok_iff.mp named with ⟨accessors, found, -⟩
  have identifiers := (distinct_identifiers_iff found Char.toLower).2.2
  exact ⟨root, accessors, read, found, identifiers.mpr (.inl rfl)⟩

/-- In Visual Basic the two elements of the same view get members of one identifier. -/
theorem one_identifier_window :
    ∃ root accessors,
      parse "<Window xmlns=\"using:App\" Name=\"ok\"><Button Name=\"OK\"/></Window>" = .ok root ∧
        AccessorSettings.accessors ⟨.wellKnown, .visualBasic, default⟩ root = .ok accessors ∧
          ¬ (accessors.map fun accessor =>
            Language.visualBasic.identifier Char.toLower accessor.name).Nodup := by
  have named :
      (parse "<Window xmlns=\"using:App\" Name=\"ok\"><Button Name=\"OK\"/></Window>").map
          (fun root => (AccessorSettings.accessors ⟨.wellKnown, .visualBasic, default⟩ root).map
            (List.map Accessor.name)) =
        .ok (.ok ["ok", "OK"]) := by
    decide +kernel
  rcases map_eq_ok_iff.mp named with ⟨root, read, named⟩
  rcases map_eq_ok_iff.mp named with ⟨accessors, found, names⟩
  refine ⟨root, accessors, read, found, ?_⟩
  have identified : (accessors.map fun accessor =>
      Language.visualBasic.identifier Char.toLower accessor.name) = ["ok", "ok"] := by
    show accessors.map (Language.visualBasic.identifier Char.toLower ∘ Accessor.name) = _
    rw [← List.map_map, names]
    rfl
  rw [identified]
  decide

end AccessorSettings

end ViewAccessors
