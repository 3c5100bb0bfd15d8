import ViewAccessors.Proofs.Markup.Failures

/-!
# Constructs that are left open

A text can end inside a construct: inside a comment or the like, inside a start
tag, or inside the content of an element.  Everything before the construct has
been read.  The line that is reported is the one on which the construct begins;
only for a start tag it is the last line of the text, which lies below if
there are line feeds in the tag.
-/

namespace ViewAccessors.Markup

/-! ## What is left open, and where -/

/-- The text begins with the construct and ends inside it. -/
inductive Construct.IsOpenIn : (construct : Construct) → (text : List Char) → Prop where
  | startTag
      (tag : Writing.StartTag) :
      IsOpenIn .startTag ('<' :: tag.text)
  | element
      (tag : Writing.StartTag)
      (content : Writing.Content) :
      IsOpenIn (.element tag.name.string) ('<' :: (tag.text ++ '>' :: content.text))
  | enclosed
      {enclosure : Enclosure}
      {text : List Char}
      (isKnown : enclosure ∈ Enclosure.aroundRoot ++ Enclosure.insideElement)
      (isOpen : enclosure.IsOpenIn text) :
      IsOpenIn enclosure.construct text

/-- Every construct begins with a bracket. -/
theorem Construct.IsOpenIn.exists_eq_cons
    {construct : Construct}
    {text : List Char}
    (isOpen : construct.IsOpenIn text) :
    ∃ others, text = '<' :: others := by
  cases isOpen with
  | startTag tag => exact ⟨_, rfl⟩
  | element tag content => exact ⟨_, rfl⟩
  | @enclosed enclosure _ isKnown isOpen =>
      have opens : ∃ second more, (second = '!' ∨ second = '?') ∧
          enclosure.opening = '<' :: second :: more := by
        rcases List.mem_append.mp isKnown with around | inside
        · exact Enclosure.recognizable_aroundRoot.opens enclosure around
        · exact Enclosure.recognizable_insideElement.opens enclosure inside
      rcases opens with ⟨second, more, -, opens⟩
      rcases isOpen with ⟨content, rfl, -⟩
      exact ⟨second :: (more ++ content), by rw [opens]; rfl⟩

/-- The innermost of the elements that are begun is written up to a place in its content. -/
def Writing.Beginning.EndsInContent : Writing.Beginning → Prop
  | unnamed | startTag _ | attributeName _ _ _ => False
  | inContent _ _ => True
  | inChild _ _ inner => inner.EndsInContent

/-- Behind the text, a construct may begin: before, in or behind the root of a document. -/
inductive Writing.IsComplete : (text : List Char) → Prop where
  | before
      (misc : Misc) :
      IsComplete misc.text
  | inside
      (misc : Misc)
      {beginning : Beginning}
      (endsInContent : beginning.EndsInContent) :
      IsComplete (misc.text ++ '<' :: beginning.tail)
  | behind
      (before : Misc)
      (root : Element)
      (after : Misc) :
      IsComplete (before.text ++ (root.text ++ after.text))

/--
Of the text `before ++ rest`, which begins at `opening`, the construct is left
open with which `rest` begins, and `line` is reported for it.
-/
structure Construct.IsReportedAt
    (construct : Construct)
    (line : Nat)
    (opening : Position)
    (before rest : List Char) :
    Prop where
  isOpen : construct.IsOpenIn rest
  /-- For anything but a start tag, the line is that of its first character. -/
  line_eq : construct ≠ .startTag → line = (opening.after before).line
  /-- For a start tag, the line is that of the end of the text. -/
  line_startTag :
    construct = .startTag → line = (opening.after before).line + rest.count '\n'

theorem Enclosure.isReportedAt
    {enclosure : Enclosure}
    (isKnown : enclosure ∈ aroundRoot ++ insideElement)
    {stop : Cursor}
    (isOpen : enclosure.IsOpenIn stop.rest)
    {opening : Position}
    {before : List Char}
    (reached : stop.place = opening.after before) :
    enclosure.construct.IsReportedAt stop.place.line opening before stop.rest where
  isOpen := .enclosed isKnown isOpen
  line_eq := by
    intro _
    rw [reached]
  line_startTag := by
    have noTag : ∀ other ∈ aroundRoot ++ insideElement, other.construct ≠ .startTag := by
      simp [aroundRoot, insideElement, comment, instruction, doctype, characterData]
    exact fun isTag => absurd isTag (noTag enclosure isKnown)

/-- What stands before a text only moves the place where it begins. -/
theorem Construct.IsReportedAt.behind
    {construct : Construct}
    {line : Nat}
    {opening : Position}
    {more before rest : List Char}
    (isReported : construct.IsReportedAt line (opening.after more) before rest) :
    construct.IsReportedAt line opening (more ++ before) rest where
  isOpen := isReported.isOpen
  line_eq := by
    rw [Position.after_append]
    exact isReported.line_eq
  line_startTag := by
    rw [Position.after_append]
    exact isReported.line_startTag

/-! ## Elements -/

theorem Cursor.unexpected_ne_unterminated
    {stop : Cursor}
    {expected : Expectation}
    {construct : Construct}
    {line : Nat} :
    stop.unexpected expected ≠ .unterminated construct line :=
  unexpected_ne (by simp) (by simp)

/-- In an element that is begun, a construct may begin where the element does or in its content. -/
def Writing.IsCompleteIn (before : List Char) : Prop :=
  before = [] ∨ ∃ outer : Writing.Beginning, outer.EndsInContent ∧ '<' :: outer.tail = before

/-- An element breaks off with its start tag, with its content or in a construct in it. -/
theorem Writing.Beginning.Fails.exists_isReportedAt
    {beginning : Writing.Beginning}
    {opening : Position}
    {stop : Cursor}
    {error : MarkupError}
    {construct : Construct}
    {line : Nat}
    (fails : beginning.Fails opening stop error)
    (isOpen : error = .unterminated construct line)
    (reached : stop.place = opening.after ('<' :: beginning.tail)) :
    ∃ before rest, before ++ rest = '<' :: (beginning.tail ++ stop.rest) ∧
      Writing.IsCompleteIn before ∧ construct.IsReportedAt line opening before rest := by
  induction fails with
  | @tagEnded tag opening stop ended =>
      cases isOpen
      refine ⟨[], '<' :: tag.text, ?_, .inl rfl, .startTag tag, absurd rfl, fun _ => ?_⟩
      · rw [ended, List.append_nil]
        rfl
      · rw [reached]
        exact Position.line_after opening ('<' :: tag.text)
  | @contentEnded tag content opening stop ended =>
      cases isOpen
      refine ⟨[], '<' :: (tag.text ++ '>' :: content.text), ?_, .inl rfl, .element tag content,
        fun _ => rfl, fun isTag => absurd isTag (by simp)⟩
      rw [ended, List.append_nil]
      rfl
  | @construct tag content opening stop enclosure isAllowed isOpenHere =>
      cases isOpen
      have isKnown := List.mem_append_right Enclosure.aroundRoot isAllowed
      exact ⟨_, stop.rest, rfl, .inr ⟨.inContent tag content, trivial, rfl⟩,
        Enclosure.isReportedAt isKnown isOpenHere reached⟩
  | @inChild tag content inner opening stop _ fails hypothesis =>
      have reachedInner : stop.place =
          (opening.after ('<' :: (tag.text ++ '>' :: content.text))).after ('<' :: inner.tail) := by
        rw [reached, ← Position.after_append]
        simp [Writing.Beginning.tail]
      rcases hypothesis isOpen reachedInner with
        ⟨before, rest, split, complete, isReported⟩
      refine ⟨'<' :: (tag.text ++ '>' :: content.text) ++ before, rest, ?_, .inr ?_,
        isReported.behind⟩
      · rw [List.append_assoc, split]
        simp [Writing.Beginning.tail]
      · rcases complete with rfl | ⟨outer, endsInContent, rfl⟩
        · exact ⟨.inContent tag content, trivial, (List.append_nil _).symm⟩
        · exact ⟨.inChild tag content outer, endsInContent, by simp [Writing.Beginning.tail]⟩
  | elementName absent => exact absurd isOpen Cursor.unexpected_ne_unterminated
  | unseparated joined more => exact absurd isOpen Cursor.unexpected_ne_unterminated
  | attributeName absent more => exact absurd isOpen Cursor.unexpected_ne_unterminated
  | attributeValue absent => exact absurd isOpen Cursor.unexpected_ne_unterminated
  | closingTag passes absent => exact absurd isOpen Cursor.unexpected_ne_unterminated
  | valueReference separated name beforeSign afterSign quotes isRest unquoted faulty =>
      cases isOpen
  | duplicateAttribute entry repeated passes => cases isOpen
  | mismatchedTag closing blanks different passes => cases isOpen
  | textReference atTag isRest unbracketed ends faulty => cases isOpen

/-! ## Documents -/

theorem DocumentFails.exists_isReportedAt
    {text : List Char}
    {error : MarkupError}
    {construct : Construct}
    {line : Nat}
    (fails : DocumentFails text error)
    (isOpen : error = .unterminated construct line) :
    ∃ before rest, before ++ rest = text ∧ Writing.IsComplete before ∧
      construct.IsReportedAt line .start before rest := by
  cases fails with
  | @constructBefore misc stop _ passes isAllowed isOpenHere =>
      cases isOpen
      have isKnown := List.mem_append_left Enclosure.insideElement isAllowed
      exact ⟨_, stop.rest, passes.1.symm, .before misc,
        Enclosure.isReportedAt isKnown isOpenHere passes.2⟩
  | @constructBehind before after root stop _ passes isAllowed isOpenHere =>
      cases isOpen
      have isKnown := List.mem_append_left Enclosure.insideElement isAllowed
      exact ⟨_, stop.rest, passes.1.symm, .behind before root after,
        Enclosure.isReportedAt isKnown isOpenHere passes.2⟩
  | @inRoot misc beginning stop _ passes fits fails =>
      have reached : stop.place =
          (Position.start.after misc.text).after ('<' :: beginning.tail) := by
        rw [← Position.after_append]
        exact passes.2
      rcases fails.exists_isReportedAt isOpen reached with
        ⟨before, rest, split, complete, isReported⟩
      refine ⟨misc.text ++ before, rest, ?_, ?_, isReported.behind⟩
      · have whole : text = misc.text ++ '<' :: beginning.tail ++ stop.rest := passes.1
        rw [whole, List.append_assoc, List.append_assoc, split]
        rfl
      · rcases complete with rfl | ⟨outer, endsInContent, rfl⟩
        · rw [List.append_nil]
          exact .before misc
        · exact .inside misc endsInContent
  | rootElement passes more => exact absurd isOpen Cursor.unexpected_ne_unterminated
  | missingRoot passes ended => cases isOpen
  | nestedTooDeep line => cases isOpen
  | trailingContent passes more => cases isOpen

/--
An error of a construct that is not ended is about the construct with which
the rest of the text begins behind what has been read.  The line that is
reported is the line of the first character of the construct, if it is an
element, a comment, a processing instruction, a document type declaration or
character data.  For a start tag it is the line on which the text ends, as many
lines below as there are line feeds in the tag.
-/
theorem exists_isReportedAt_of_parse
    {text : String}
    {construct : Construct}
    {line : Nat}
    (failed : parse text = .error (.unterminated construct line)) :
    ∃ before rest, before ++ rest = withoutByteOrderMark text.toList ∧
      Writing.IsComplete before ∧ construct.IsReportedAt line .start before rest :=
  (documentFails_of_readDocument failed).exists_isReportedAt rfl

/-- A comment that begins on the second line of a grid and is not closed is reported there. -/
theorem exists_isReportedAt_grid :
    parse "<Grid>\n<!-- first\nsecond" = .error (.unterminated .comment 2) ∧
      ∃ before rest, before ++ rest = "<Grid>\n<!-- first\nsecond".toList ∧
        Writing.IsComplete before ∧ Construct.comment.IsReportedAt 2 .start before rest := by
  have failed : (parse "<Grid>\n<!-- first\nsecond").map (fun _ => ()) =
      .error (.unterminated .comment 2) := by
    decide +kernel
  exact ⟨map_eq_error_iff.mp failed, exists_isReportedAt_of_parse (map_eq_error_iff.mp failed)⟩

/--
A start tag that is followed by a line feed is reported as starting on the
second line, although every construct in the text begins on the first line.
-/
theorem parse_startTag_lineFeed :
    parse "<Window\n" = .error (.unterminated .startTag 2) ∧
      (MarkupError.unterminated .startTag 2).message =
        "Unterminated start tag starting at line 2" ∧
      ∀ (construct : Construct) (before rest : List Char),
        before ++ rest = "<Window\n".toList → construct.IsOpenIn rest →
          (Position.start.after before).line = 1 := by
  have failed : (parse "<Window\n").map (fun _ => ()) = .error (.unterminated .startTag 2) := by
    decide +kernel
  refine ⟨map_eq_error_iff.mp failed, by decide +kernel, ?_⟩
  intro construct before rest split isOpen
  rcases isOpen.exists_eq_cons with ⟨others, rfl⟩
  cases before with
  | nil => rfl
  | cons first before =>
      have later : before ++ '<' :: others = "Window\n".toList := (List.cons.inj split).2
      have member : '<' ∈ "Window\n".toList :=
        later ▸ List.mem_append_right _ List.mem_cons_self
      exact absurd member (by decide)

end ViewAccessors.Markup
