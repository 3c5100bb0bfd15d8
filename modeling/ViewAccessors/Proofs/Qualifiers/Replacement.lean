import Mathlib.Logic.Equiv.Basic
import ViewAccessors.Proofs.Qualifiers.Documents

/-!
# One qualifier in place of another

Replacing a qualifier by one that does not occur changes neither what a
document is a view of nor its accessors.  The proof exchanges the two
qualifiers, which can be undone and is the same as long as the new one does
not occur.
-/

namespace ViewAccessors

open Markup

/-- A qualifier is made of letters and has no meaning of its own. -/
structure Replaceable (qualifier : String) : Prop where
  lettered : qualifier.toList.all Text.isLetter = true
  unreserved : qualifier ∉ reservedWords

namespace Markup.Element

/--
No declaration of the qualifier `TypeArguments` that has `qualifier` in its
value is also read as a directive, which it could be only where `xmlns` is
declared as the qualifier of directives.
-/
def DeclaresApart
    (root : Element)
    (qualifier : String) :
    Prop :=
  ∀ lineage ∈ root.lineages, ∀ entry ∈ lineage.1.attributes,
    entry.name = ⟨some "xmlns", "TypeArguments"⟩ →
      qualifier ∈ TypeArguments.qualifiers entry.value.toList →
        (Scope.inside (lineage.1 :: lineage.2)).uri? "xmlns" ≠ some xamlNamespace

instance (root : Element) (qualifier : String) : Decidable (root.Mentions qualifier) :=
  inferInstanceAs (Decidable (∃ lineage ∈ root.lineages, qualifier ∈ lineage.1.qualifiers))

instance (root : Element) (qualifier : String) : Decidable (root.DeclaresApart qualifier) :=
  inferInstanceAs (Decidable (∀ lineage ∈ root.lineages, ∀ entry ∈ lineage.1.attributes, _ → _))

end Markup.Element

section

variable {old new : String}

/-- The exchange of two qualifiers. -/
def Renaming.exchange
    (replaceableOld : Replaceable old)
    (replaceableNew : Replaceable new) :
    Renaming where
  change := Equiv.swap old new
  injective := (Equiv.swap old new).injective
  fixed := by
    intro word reserved
    apply Equiv.swap_apply_of_ne_of_ne
    · rintro rfl
      exact replaceableOld.unreserved reserved
    · rintro rfl
      exact replaceableNew.unreserved reserved
  lettered := by
    intro qualifier
    rw [Equiv.swap_apply_def]
    split
    · exact .inr (List.all_eq_true.mp replaceableNew.lettered)
    · split
      · exact .inr (List.all_eq_true.mp replaceableOld.lettered)
      · exact .inl rfl

namespace Markup.Element

variable {root : Element}

/-- Replacing a qualifier is an exchange as long as the new one does not occur. -/
theorem requalify_replacement (absent : ¬ root.Mentions new) :
    root.requalify (replacement old new) = root.requalify (Equiv.swap old new) := by
  apply requalify_congr
  intro qualifier occurs
  have other : qualifier ≠ new := by
    rintro rfl
    exact absent occurs
  rw [replacement, Equiv.swap_apply_def, if_neg other]

theorem renamesArguments_swap
    (absent : ¬ root.Mentions new)
    (apart : root.DeclaresApart old) :
    root.RenamesArguments (Equiv.swap old new) := by
  intro lineage isListed entry isDirective
  rcases (Scope.directive?_eq_some_iff _ _ _ entry).mp isDirective with
    ⟨⟨isArguments, qualifier, qualified, isBound⟩, before, after, attributes, -⟩
  have member : entry ∈ lineage.1.attributes := by
    rw [attributes]
    exact List.mem_append_right _ List.mem_cons_self
  cases declares : entry.declaresQualifier with
  | true =>
    have isXmlns : qualifier = "xmlns" := by
      rw [Attribute.declaresQualifier, qualified, beq_iff_eq] at declares
      exact Option.some.inj declares
    subst isXmlns
    have named : entry.name = ⟨some "xmlns", "TypeArguments"⟩ := by
      rw [← qualified, ← isArguments]
    have holdsNone : entry.holdsTypeArguments = false := by
      rw [Attribute.holdsTypeArguments, declares, Bool.not_true, Bool.and_false]
    have unchanged : ∀ qualifier ∈ TypeArguments.qualifiers entry.value.toList,
        Equiv.swap old new qualifier = qualifier := by
      intro qualifier occurs
      apply Equiv.swap_apply_of_ne_of_ne
      · rintro rfl
        exact apart lineage isListed entry member named occurs isBound
      · rintro rfl
        refine absent ⟨lineage, isListed, ?_⟩
        rw [Tag.qualifiers, List.mem_append, List.mem_flatMap]
        refine .inr ⟨entry, member, ?_⟩
        rw [Attribute.qualifiers, if_pos isArguments]
        exact List.mem_append_right _ occurs
    rw [Attribute.value_requalify holdsNone, TypeArguments.requalify_congr unchanged,
      TypeArguments.requalify_id]
  | false =>
    have holds : entry.holdsTypeArguments = true := by
      rw [Attribute.holdsTypeArguments, isArguments, declares]
      rfl
    rw [Attribute.requalify, if_pos holds, String.toList_ofList]

/--
A qualifier may be replaced by one that does not occur in the document: the
view of the document has the same class, namespace and root type, and there
are the same accessors, or none for the same kind of reason.
-/
theorem unchanged_by_replacement
    (replaceableOld : Replaceable old)
    (replaceableNew : Replaceable new)
    (absent : ¬ root.Mentions new)
    (apart : root.DeclaresApart old) :
    (∀ namespaces,
      View.ofDocument? namespaces (root.requalify (replacement old new)) =
        (View.ofDocument? namespaces root).map fun view =>
          { view with document := root.requalify (replacement old new) }) ∧
    ∀ settings : AccessorSettings,
      (settings.accessors (root.requalify (replacement old new))).mapError ResolutionError.kind =
        (settings.accessors root).mapError ResolutionError.kind := by
  have renamed := renamesArguments_swap absent apart
  let exchange := Renaming.exchange replaceableOld replaceableNew
  rw [requalify_replacement absent]
  constructor
  · intro namespaces
    exact View.ofDocument?_requalify exchange namespaces renamed
  · intro settings
    exact settings.agree_accessors exchange renamed

/--
A list inside a window.  The row inside the list declares the qualifier
`local` once more.
-/
def window : Element where
  name := ⟨none, "Window"⟩
  attributes := [
    ⟨⟨some "xmlns", "local"⟩, "using:App", ⟨⟨8, 1, 9⟩, ⟨31, 1, 32⟩⟩⟩,
    ⟨⟨some "xmlns", "x"⟩, xamlNamespace, ⟨⟨32, 1, 33⟩, ⟨86, 1, 87⟩⟩⟩,
    ⟨⟨some "x", "Class"⟩, "App.Main", ⟨⟨87, 1, 88⟩, ⟨105, 1, 106⟩⟩⟩]
  span := ⟨⟨0, 1, 1⟩, ⟨259, 1, 260⟩⟩
  children := [
    .element
      { name := ⟨some "local", "List"⟩
        attributes := [
          ⟨⟨some "x", "TypeArguments"⟩, "local:Pair( local:Item, x:String )",
            ⟨⟨118, 1, 119⟩, ⟨170, 1, 171⟩⟩⟩,
          ⟨⟨some "x", "Name"⟩, "list", ⟨⟨171, 1, 172⟩, ⟨184, 1, 185⟩⟩⟩]
        span := ⟨⟨106, 1, 107⟩, ⟨250, 1, 251⟩⟩ }
      [.element
        { name := ⟨some "local", "Row"⟩
          attributes := [
            ⟨⟨some "xmlns", "local"⟩, "using:App.Rows", ⟨⟨196, 1, 197⟩, ⟨224, 1, 225⟩⟩⟩,
            ⟨⟨none, "Name"⟩, "row", ⟨⟨225, 1, 226⟩, ⟨235, 1, 236⟩⟩⟩]
          span := ⟨⟨185, 1, 186⟩, ⟨237, 1, 238⟩⟩ }
        []]]

theorem unchanged_by_replacement_window :
    Replaceable "local" ∧ Replaceable "vm" ∧ ¬ window.Mentions "vm" ∧
      window.DeclaresApart "local" ∧
        View.ofDocument? .wellKnown (window.requalify (replacement "local" "vm")) =
          some ⟨"Main", "App", ⟨"", "Window", []⟩, window.requalify (replacement "local" "vm")⟩ ∧
        (AccessorSettings.accessors ⟨.wellKnown, default, default⟩
            (window.requalify (replacement "local" "vm"))).mapError ResolutionError.kind =
          .ok [
            ⟨"global::App.List<global::App.Pair<global::App.Item, global::System.String>>", "list",
              .ownClass⟩,
            ⟨"global::App.Rows.Row", "row", .ownClass⟩] := by
  have isOld : Replaceable "local" := ⟨by decide, by decide⟩
  have isNew : Replaceable "vm" := ⟨by decide, by decide⟩
  have absent : ¬ window.Mentions "vm" := by decide +kernel
  have apart : window.DeclaresApart "local" := by decide +kernel
  have unchanged := unchanged_by_replacement isOld isNew absent apart
  refine ⟨isOld, isNew, absent, apart, ?_, ?_⟩
  · rw [unchanged.1]
    rfl
  · rw [unchanged.2]
    decide +kernel

/--
A box that declares the qualifiers `xmlns`, `qualifier` and `TypeArguments`.
As `xmlns` is declared to be the qualifier of directives, the last declaration
is also the directive that gives the box its type arguments.
-/
def box (qualifier arguments : String) : Element where
  name := ⟨some "TypeArguments", "Box"⟩
  attributes := [
    ⟨⟨some "xmlns", "xmlns"⟩, xamlNamespace, ⟨⟨19, 1, 20⟩, ⟨77, 1, 78⟩⟩⟩,
    ⟨⟨some "xmlns", qualifier⟩, "using:App", ⟨⟨78, 1, 79⟩, ⟨101, 1, 102⟩⟩⟩,
    ⟨⟨some "xmlns", "TypeArguments"⟩, arguments, ⟨⟨102, 1, 103⟩, ⟨134, 1, 135⟩⟩⟩,
    ⟨⟨none, "Name"⟩, "box", ⟨⟨135, 1, 136⟩, ⟨145, 1, 146⟩⟩⟩]
  span := ⟨⟨0, 1, 1⟩, ⟨147, 1, 148⟩⟩
  children := []

/-- The box with the qualifier `using`, as it is written. -/
def boxText : String :=
  "<TypeArguments:Box xmlns:xmlns=\"http://schemas.microsoft.com/winfx/2006/xaml\" " ++
    "xmlns:using=\"using:App\" xmlns:TypeArguments=\"using:Item\" Name=\"box\"/>"

/--
A declaration that is read as a directive has to be apart: the box loses its
accessor when its qualifier is replaced, whether or not it is replaced in the
declaration that is read as a directive.
-/
theorem changed_by_replacement_box :
    parse boxText = .ok (box "using" "using:Item") ∧
      Replaceable "using" ∧ Replaceable "q" ∧ ¬ (box "using" "using:Item").Mentions "q" ∧
      (box "using" "using:Item").requalify (replacement "using" "q") = box "q" "using:Item" ∧
      let settings : AccessorSettings := ⟨.wellKnown, default, default⟩
      settings.accessors (box "using" "using:Item") =
          .ok [⟨"global::Item.Box<global::App.Item>", "box", .ownClass⟩] ∧
        (settings.accessors (box "q" "using:Item")).mapError ResolutionError.kind =
          .error .undeclaredQualifier ∧
        (settings.accessors (box "q" "q:Item")).mapError ResolutionError.kind =
          .error .unmappedNamespace := by
  refine ⟨?_, ⟨by decide, by decide⟩, ⟨by decide, by decide⟩, by decide +kernel, rfl, ?_⟩
  · have read : (parse boxText).map (fun root => (root.toTag, root.children.isEmpty)) =
        .ok ((box "using" "using:Item").toTag, true) := by
      decide +kernel
    rcases map_eq_ok_iff.mp read with ⟨⟨tag, children⟩, parsed, same⟩
    rw [Prod.mk.injEq, List.isEmpty_iff] at same
    rcases same with ⟨rfl, rfl⟩
    exact parsed
  exact ⟨by decide +kernel, by decide +kernel, by decide +kernel⟩

end Markup.Element

end

end ViewAccessors
