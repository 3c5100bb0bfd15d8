import ViewAccessors.Markup.Document

/-!
# What the readers of markup do

The readers of markup return the fact that they have moved on along with what
they read.  `outcome` leaves this fact out.  For every reader an equation says
what its outcome is; the proofs about reading use these equations and do not
look into the readers.
-/

namespace ViewAccessors.Markup

section

variable {Value : Type} {cursor : Cursor}

/-- What was read and where reading goes on. -/
def Reading.outcome (reading : Reading Value cursor) : Value × Cursor :=
  (reading.value, reading.next)

/-- What a reader reads and where it stops. -/
def outcome (result : Except MarkupError (Reading Value cursor)) :
    Except MarkupError (Value × Cursor) :=
  result.map Reading.outcome

/-- What a reader reads and where it stops, if it reads anything. -/
def outcome? (result : Except MarkupError (Option (Reading Value cursor))) :
    Except MarkupError (Option (Value × Cursor)) :=
  result.map (Option.map Reading.outcome)

end

/-! ## Start tags -/

theorem outcome_readAttribute (cursor : Cursor) :
    outcome (readAttribute cursor) =
      match cursor.name? with
      | none => .error (cursor.unexpected .attributeName)
      | some (name, afterName) =>
        match afterName.attributeValue? with
        | none => .error (afterName.unexpected .attributeValue)
        | some (raw, next) =>
          (decodeText raw cursor.place.line).map fun value =>
            (⟨Name.ofText name, value, cursor.spanTo next⟩, next) := by
  rw [readAttribute]
  split
  · rename_i unnamed
    simp only [unnamed]
    rfl
  · rename_i name afterName named
    simp only [named]
    split
    · rename_i unvalued
      simp only [unvalued]
      rfl
    · rename_i raw next valued
      simp only [valued]
      cases decodeText raw cursor.place.line <;> rfl

theorem outcome_readTagItem
    (spaced : Bool)
    (cursor : Cursor) :
    outcome (readTagItem spaced cursor) =
      match cursor.pass? ['/', '>'] with
      | some next => .ok (.ending true, next)
      | none =>
        match cursor.pass? ['>'] with
        | some next => .ok (.ending false, next)
        | none =>
          if cursor.rest.isEmpty then
            .error (.unterminated .startTag cursor.place.line)
          else if !spaced then
            .error (cursor.unexpected .blankBeforeAttribute)
          else
            (outcome (readAttribute cursor)).map fun (read, next) => (.entry read, next) := by
  rw [readTagItem]
  split
  · rename_i next closed
    simp only [closed]
    rfl
  · rename_i notClosed
    simp only [notClosed]
    split
    · rename_i next opened
      simp only [opened]
      rfl
    · rename_i notOpened
      simp only [notOpened]
      split
      · rfl
      · split
        · rfl
        · cases readAttribute cursor <;> rfl

theorem outcome_readAttributes
    (found : List Attribute)
    (cursor : Cursor) :
    outcome (readAttributes found cursor) =
      match outcome (readTagItem (cursor.rest.head?.any Text.isBlank) cursor.passBlanks) with
      | .error error => .error error
      | .ok (.ending closed, next) => .ok ((found, closed), next)
      | .ok (.entry read, next) =>
        if found.any fun earlier => earlier.name = read.name then
          .error (.duplicateAttribute read.name.toText read.span)
        else
          outcome (readAttributes (found ++ [read]) next) := by
  rw [readAttributes]
  cases readTagItem (cursor.rest.head?.any Text.isBlank) cursor.passBlanks with
  | error error => rfl
  | ok item =>
      rcases item with ⟨value, next, shorter⟩
      cases value with
      | ending closed => rfl
      | entry read =>
          simp only [outcome, Except.map, Reading.outcome]
          by_cases repeated : (found.any fun earlier => earlier.name = read.name) = true
          · simp only [repeated, if_true]
          · simp only [repeated]
            cases readAttributes (found ++ [read]) next <;> rfl

/-! ## Content -/

theorem outcome?_readEnclosed (cursor : Cursor) :
    outcome? (readEnclosed cursor) =
      (cursor.enclosed Enclosure.insideElement).map fun found =>
        found.map fun (enclosure, content, next) =>
          (if enclosure.construct = .characterData then
            ContentItem.text (String.ofList content)
          else
            .nothing, next) := by
  rw [readEnclosed]
  split
  · rename_i error found
    simp only [found]
    rfl
  · rename_i found
    simp only [found]
    rfl
  · rename_i found
    simp only [found]
    rfl

theorem outcome?_readText (cursor : Cursor) :
    outcome? (readText cursor) =
      match cursor.passWhile (· != '<') with
      | ([], _) => .ok none
      | (first :: others, next) =>
        if (first :: others).all Text.isBlank then
          .ok (some (.nothing, next))
        else
          (decodeText (first :: others) cursor.place.line).map fun content =>
            some (.text content, next) := by
  rw [readText]
  split
  · rename_i passed
    simp only [passed]
    rfl
  · rename_i passed
    simp only [passed]
    split
    · rfl
    · cases decodeText _ cursor.place.line <;> rfl

theorem outcome?_readItem (cursor : Cursor) :
    outcome? (readItem cursor) =
      match cursor.pass? ['<', '/'] with
      | some inside =>
        match inside.closingName? with
        | none => .error (cursor.unexpected .closingTag)
        | some (name, next) => .ok (some (.closingTag name, next))
      | none =>
        match outcome? (readEnclosed cursor) with
        | .error error => .error error
        | .ok (some item) => .ok (some item)
        | .ok none =>
          match cursor.pass? ['<'] with
          | some next => .ok (some (.opening, next))
          | none => outcome? (readText cursor) := by
  rw [readItem]
  split
  · rename_i inside closing
    simp only [closing]
    split
    · rename_i unnamed
      simp only [unnamed]
      rfl
    · rename_i named
      simp only [named]
      rfl
  · rename_i notClosing
    simp only [notClosing]
    cases readEnclosed cursor with
    | error error => rfl
    | ok found =>
        cases found with
        | some item => rfl
        | none =>
            have nothingRead : outcome? (.ok none : Except MarkupError
                (Option (Reading ContentItem cursor))) = .ok none := rfl
            simp only [nothingRead]
            split
            · rename_i next opened
              simp only [opened]
              rfl
            · rename_i notOpened
              simp only [notOpened]

theorem outcome_readContent
    (child : Position → (inside : Cursor) → Except MarkupError (Reading Element inside))
    (name : String)
    (opening : Position)
    (cursor : Cursor) :
    outcome (readContent child name opening cursor) =
      match outcome? (readItem cursor) with
      | .error error => .error error
      | .ok none => .error (.unterminated (.element name) opening.line)
      | .ok (some (.closingTag found, next)) =>
        if found = name then
          .ok ([], next)
        else
          .error (.mismatchedTag name found (cursor.spanTo next))
      | .ok (some (.nothing, next)) => outcome (readContent child name opening next)
      | .ok (some (.text text, next)) =>
        (outcome (readContent child name opening next)).map fun (nodes, last) =>
          (.text text :: nodes, last)
      | .ok (some (.opening, inside)) =>
        (outcome (child cursor.place inside)).bind fun (element, next) =>
          (outcome (readContent child name opening next)).map fun (nodes, last) =>
            (element.toNode :: nodes, last) := by
  rw [readContent]
  cases readItem cursor with
  | error error => rfl
  | ok found =>
      cases found with
      | none => rfl
      | some item =>
          rcases item with ⟨value, next, shorter⟩
          cases value with
          | closingTag found =>
              simp only [outcome?, Except.map, Option.map_some, Reading.outcome]
              split <;> rfl
          | nothing =>
              simp only [outcome?, Except.map, Option.map_some, Reading.outcome]
              cases readContent child name opening next <;> rfl
          | text text =>
              simp only [outcome?, Except.map, Option.map_some, Reading.outcome]
              cases readContent child name opening next <;> rfl
          | opening =>
              simp only [outcome?, Except.map, Option.map_some, Reading.outcome]
              cases child cursor.place next with
              | error error => rfl
              | ok read =>
                  rcases read with ⟨element, after, further⟩
                  simp only [outcome, Except.map, Except.bind, Reading.outcome]
                  cases readContent child name opening after <;> rfl

/-! ## Elements and documents -/

theorem outcome_readElement_zero
    (opening : Position)
    (inside : Cursor) :
    outcome (readElement 0 opening inside) =
      .error (.nestedTooDeep maximumNesting opening.line) :=
  rfl

theorem outcome_readElement_succ
    (room : Nat)
    (opening : Position)
    (inside : Cursor) :
    outcome (readElement (room + 1) opening inside) =
      match inside.name? with
      | none => .error (inside.unexpected .elementName)
      | some (name, afterName) =>
        (outcome (readAttributes [] afterName)).bind fun ((attributes, closed), start) =>
          (if closed then .ok ([], start)
          else outcome (readContent (readElement room) name opening start)).map
            fun (children, next) =>
              (⟨⟨Name.ofText name, attributes, ⟨opening, next.place⟩⟩, children⟩, next) := by
  rw [readElement]
  split
  · rename_i unnamed
    simp only [unnamed]
    rfl
  · rename_i name afterName named
    simp only [named]
    cases readAttributes [] afterName with
    | error error => rfl
    | ok read =>
        rcases read with ⟨⟨attributes, closed⟩, start, shorter⟩
        cases closed with
        | true => rfl
        | false =>
            simp only [outcome, Except.map, Except.bind, Reading.outcome]
            cases readContent (readElement room) name opening start <;> rfl

theorem passMisc_eq (cursor : Cursor) :
    cursor.passMisc =
      match cursor.passBlanks.enclosed Enclosure.aroundRoot with
      | .error error => .error error
      | .ok none => .ok cursor.passBlanks
      | .ok (some (_, _, later)) => later.passMisc := by
  rw [Cursor.passMisc]
  split <;> simp_all

theorem readDocument_eq (text : List Char) :
    readDocument text =
      (Cursor.ofText text).passMisc.bind fun start =>
        if start.rest.isEmpty then
          .error .missingRoot
        else
          match start.pass? ['<'] with
          | none => .error (start.unexpected .rootElement)
          | some inside =>
            (outcome (readElement maximumNesting start.place inside)).bind fun (root, next) =>
              next.passMisc.bind fun last =>
                if last.rest.isEmpty then
                  .ok root
                else
                  .error (.trailingContent last.place.line) := by
  rw [readDocument]
  cases (Cursor.ofText text).passMisc with
  | error error => rfl
  | ok start =>
      simp only [Except.bind]
      split
      · rfl
      · cases start.pass? ['<'] with
        | none => rfl
        | some inside =>
            simp only
            cases readElement maximumNesting start.place inside with
            | error error => rfl
            | ok read =>
                rcases read with ⟨root, next, shorter⟩
                simp only [outcome, Except.map, Reading.outcome]
                cases next.passMisc <;> rfl

end ViewAccessors.Markup
