import Mathlib.Data.Set.Finite.Basic
import ViewAccessors.Proofs.Markup.Levels

/-!
# Elements that are begun

When reading stops inside a document, some elements are begun and not ended.
A beginning says how far they are written: the innermost one up to its
bracket, into its start tag or into its content, the others up to the next of
them.  Every beginning is the beginning of an element, which takes no more
levels: a name can be made different from others, and what is open can be
closed.
-/

namespace ViewAccessors.Markup.Writing

open Text

/-! ## Content that goes on -/

namespace Content

/-- The character data at the end of a content. -/
def lastData : Content → CharacterData
  | .last data => data
  | .enclosed _ _ others => others.lastData
  | .child _ _ others => others.lastData

/-- The content with other content in place of its last character data. -/
def extend
    (next : CharacterData → Content) :
    Content → Content
  | .last data => next data
  | .enclosed data construct others => .enclosed data construct (others.extend next)
  | .child data element others => .child data element (others.extend next)

variable {next : CharacterData → Content}

theorem text_extend
    {added : List Char} :
    ∀ (content : Content)
      (_adds : (next content.lastData).text = content.lastData.text ++ added),
      (content.extend next).text = content.text ++ added
  | .last _, adds => adds
  | .enclosed _ _ others, adds => by
      rw [extend, text, text_extend others adds, text]
      simp only [List.append_assoc]
  | .child _ _ others, adds => by
      rw [extend, text, text_extend others adds, text]
      simp only [List.append_assoc, List.cons_append]

theorem lastData_extend :
    ∀ content : Content,
      (content.extend next).lastData = (next content.lastData).lastData
  | .last _ => rfl
  | .enclosed _ _ others => lastData_extend others
  | .child _ _ others => lastData_extend others

theorem levels_extend :
    ∀ content : Content,
      (content.extend next).levels = max content.levels (next content.lastData).levels
  | .last _ => (Nat.zero_max _).symm
  | .enclosed _ _ others => levels_extend others
  | .child _ _ others => by
      rw [extend, levels, levels_extend others, levels, Nat.max_assoc]
      rfl

/-- The content with a construct behind it. -/
def thenEnclosed
    (content : Content)
    (construct : Enclosed Enclosure.insideElement) :
    Content :=
  content.extend fun data => .enclosed data construct (.last .none)

/-- The content with an element behind it. -/
def thenChild
    (content : Content)
    (element : Element) :
    Content :=
  content.extend fun data => .child data element (.last .none)

/-- The content with character data in place of the last ones. -/
def thenData
    (content : Content)
    (data : CharacterData) :
    Content :=
  content.extend fun _ => .last data

theorem text_thenEnclosed
    (content : Content)
    (construct : Enclosed Enclosure.insideElement) :
    (content.thenEnclosed construct).text = content.text ++ construct.text := by
  apply text_extend
  rw [text, text]
  exact congrArg (content.lastData.text ++ ·) (List.append_nil construct.text)

theorem text_thenChild
    (content : Content)
    (element : Element) :
    (content.thenChild element).text = content.text ++ element.text := by
  apply text_extend
  rw [text, text]
  exact congrArg (content.lastData.text ++ '<' :: ·) (List.append_nil element.tail)

theorem text_thenData
    {content : Content}
    (empty : content.lastData.text = [])
    (data : CharacterData) :
    (content.thenData data).text = content.text ++ data.text := by
  apply text_extend
  rw [empty]
  rfl

theorem lastData_thenEnclosed
    (content : Content)
    (construct : Enclosed Enclosure.insideElement) :
    (content.thenEnclosed construct).lastData = .none := by
  rw [thenEnclosed, lastData_extend]
  rfl

theorem lastData_thenChild
    (content : Content)
    (element : Element) :
    (content.thenChild element).lastData = .none := by
  rw [thenChild, lastData_extend]
  rfl

theorem levels_thenEnclosed
    (content : Content)
    (construct : Enclosed Enclosure.insideElement) :
    (content.thenEnclosed construct).levels = content.levels := by
  rw [thenEnclosed, levels_extend, levels, levels, Nat.max_zero]

theorem levels_thenData
    (content : Content)
    (data : CharacterData) :
    (content.thenData data).levels = content.levels := by
  rw [thenData, levels_extend, levels, Nat.max_zero]

theorem levels_thenChild
    (content : Content)
    (element : Element) :
    (content.thenChild element).levels = max content.levels element.levels := by
  rw [thenChild, levels_extend, levels, levels, Nat.max_zero]

end Content

/-! ## Beginnings -/

/-- An element that is written from its first bracket on, but not up to its end. -/
inductive Beginning where
  /-- Nothing but the bracket. -/
  | unnamed
  /-- The start tag, but not its end. -/
  | startTag (tag : StartTag)
  /-- The start tag up to the name of another attribute. -/
  | attributeName (tag : StartTag) (separated : tag.blanks.text ≠ []) (name : Name)
  /-- The start tag and a part of the content. -/
  | inContent (tag : StartTag) (content : Content)
  /-- The content up to an element in it that is not ended itself. -/
  | inChild (tag : StartTag) (content : Content) (inner : Beginning)

namespace Beginning

/-- What is written after the first bracket. -/
def tail : Beginning → List Char
  | unnamed => []
  | startTag tag => tag.text
  | attributeName tag _ name => tag.text ++ name.text
  | inContent tag content => tag.text ++ '>' :: content.text
  | inChild tag content inner => tag.text ++ '>' :: (content.text ++ '<' :: inner.tail)

/-- How many elements are begun inside one another or stand in these. -/
def levels : Beginning → Nat
  | unnamed | startTag _ | attributeName _ _ _ => 1
  | inContent _ content => content.levels + 1
  | inChild _ content inner => max content.levels inner.levels + 1

end Beginning

/-- The text is misc with the beginning of an element behind it. -/
def IsBegun (text : List Char) : Prop :=
  ∃ (misc : Misc) (beginning : Beginning), misc.text ++ '<' :: beginning.tail = text

/-! ## Names that are made different -/

/-- A name can be made longer until it is none of the given ones. -/
theorem exists_append_replicate_notMem
    (text : List Char)
    (names : List (List Char)) :
    ∃ count, text ++ List.replicate count 'a' ∉ names := by
  have injective : Function.Injective fun count => text ++ List.replicate count 'a' := by
    intro first second same
    have lengths := congrArg List.length same
    simpa using lengths
  rcases (Set.infinite_range_of_injective injective).exists_notMem_finset names.toFinset with
    ⟨_, ⟨count, rfl⟩, absent⟩
  exact ⟨count, fun member => absent (List.mem_toFinset.mpr member)⟩

/-- The name with further letters. -/
def Name.lengthened
    (name : Name)
    (count : Nat) :
    Name where
  text := name.text ++ List.replicate count 'a'
  starts := by
    rcases name.exists_eq_cons with ⟨first, others, begins, starts⟩
    rw [begins]
    exact starts
  continues := by
    rw [List.all_append, name.continues, Bool.true_and, List.all_eq_true]
    intro character member
    rw [List.eq_of_mem_replicate member]
    decide

/-- Attributes of different names stay so with one of another name behind them. -/
theorem nodup_names_append
    {attributes : List Attribute}
    (distinct : (attributes.map (·.name.text)).Nodup)
    {entry : Attribute}
    (fresh : entry.name.text ∉ attributes.map (·.name.text)) :
    ((attributes ++ [entry]).map (·.name.text)).Nodup := by
  rw [List.map_append, List.nodup_append_comm]
  exact List.nodup_cons.mpr ⟨fresh, distinct⟩

/-- A start tag takes another attribute, if its name can be made longer. -/
theorem StartTag.exists_attribute
    (tag : StartTag)
    (separated : tag.blanks.text ≠ [])
    (name : Name) :
    ∃ complete : StartTag, tag.text ++ name.text <+: complete.text := by
  rcases exists_append_replicate_notMem name.text (tag.attributes.map (·.name.text)) with
    ⟨count, fresh⟩
  let own : Attribute := {
    blanks := tag.blanks
    separated
    name := name.lengthened count
    beforeSign := ⟨[], rfl⟩
    afterSign := ⟨[], rfl⟩
    quote := '"'
    quotes := .inl rfl
    value := ⟨[], List.not_mem_nil⟩ }
  have distinct : ((tag.attributes ++ [own]).map (·.name.text)).Nodup :=
    nodup_names_append tag.distinct fresh
  refine ⟨⟨tag.name, tag.attributes ++ [own], distinct, ⟨[], rfl⟩⟩, ?_⟩
  refine ⟨List.replicate count 'a' ++ own.signAndValue, ?_⟩
  have ownText : own.text =
      tag.blanks.text ++ (name.text ++ List.replicate count 'a' ++ own.signAndValue) := rfl
  simp only [StartTag.text, List.flatMap_append, List.flatMap_singleton, ownText,
    List.append_assoc, List.append_nil]

/-! ## Beginnings that are ended -/

/-- Every beginning is the beginning of an element that takes no more levels. -/
theorem Beginning.exists_element (beginning : Beginning) :
    ∃ element : Element,
      beginning.tail <+: element.tail ∧ element.levels = beginning.levels := by
  induction beginning with
  | unnamed =>
      let name : Name := ⟨['a'], by decide, by decide⟩
      exact ⟨.closed ⟨name, [], List.nodup_nil, ⟨[], rfl⟩⟩, List.nil_prefix, rfl⟩
  | startTag tag => exact ⟨.closed tag, List.prefix_append _ _, rfl⟩
  | attributeName tag separated name =>
      rcases tag.exists_attribute separated name with ⟨complete, begins⟩
      exact ⟨.closed complete, begins.trans (List.prefix_append _ _), rfl⟩
  | inContent tag content =>
      refine ⟨.filled tag content ⟨[], rfl⟩, ⟨closingTag tag.name ⟨[], rfl⟩, ?_⟩, rfl⟩
      rw [tail, Element.tail, List.append_assoc, List.cons_append]
  | inChild tag content inner hypothesis =>
      rcases hypothesis with ⟨element, ⟨rest, ends⟩, sameLevels⟩
      refine ⟨.filled tag (content.thenChild element) ⟨[], rfl⟩,
        ⟨rest ++ closingTag tag.name ⟨[], rfl⟩, ?_⟩, ?_⟩
      · rw [tail, Element.tail, content.text_thenChild, Element.text, ← ends]
        simp only [List.append_assoc, List.cons_append]
      · rw [Element.levels, content.levels_thenChild, sameLevels, levels]

end ViewAccessors.Markup.Writing
