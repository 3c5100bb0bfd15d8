import ViewAccessors.Proofs.Markup.Soundness
import ViewAccessors.Proofs.Markup.Writable

/-!
# What is parsed

A text is read as a document exactly if it is a writing of one in which the
elements stand at most 256 deep, and then it is read as the tree that is
written.  Every tree with lawful names has such a text, and the first element
that stands too deep in a text is the one that is reported.
-/

namespace ViewAccessors.Markup

/--
Every tree of which the names can be written is written by some document, and
every writing of a document is read back.  The result is the tree that is
written, unless the tree has an element with 256 elements around it; then the
first such element in the order of the text is reported, with its line.
-/
theorem parse_every_writing :
    (∀ root : Element,
      (∃ document : Writing.Document, document.tree.withoutPlaces = root.withoutPlaces) ↔
        root.Writable) ∧
    ∀ document : Writing.Document,
      parse (String.ofList document.text) =
        match firstAtDepth? 256 document.tree.lineages with
        | none => .ok document.tree
        | some tag => .error (.nestedTooDeep 256 tag.span.line) := by
  constructor
  · exact Element.exists_document_iff
  · intro document
    rw [parse_text]
    rfl

/--
A text that is read as a tree is, to its last character, a writing of this
tree, and no element of the tree stands more than 256 deep; every such text is
read as the tree that it writes.
-/
theorem parse_eq_ok_iff
    (text : String)
    (root : Element) :
    parse text = .ok root ↔
      (∃ document : Writing.Document, document.text = text.toList ∧ document.tree = root) ∧
        ∀ lineage ∈ root.lineages, lineage.2.length < 256 := by
  rw [← root.firstAtDepth?_lineages_eq_none_iff 256]
  constructor
  · intro read
    rcases exists_of_parse read with ⟨document, isText, rfl⟩
    refine ⟨⟨document, isText, rfl⟩, ?_⟩
    rw [← String.ofList_toList (s := text), ← isText, parse_text] at read
    change unlessTooDeep (firstAtDepth? 256 document.tree.lineages) document.tree = _ at read
    cases offender : firstAtDepth? 256 document.tree.lineages with
    | none => rfl
    | some tag =>
        rw [offender] at read
        cases read
  · rintro ⟨⟨document, isText, rfl⟩, shallow⟩
    rw [← String.ofList_toList (s := text), ← isText, parse_text]
    show unlessTooDeep (firstAtDepth? 256 document.tree.lineages) document.tree = _
    rw [shallow]
    rfl

end ViewAccessors.Markup
