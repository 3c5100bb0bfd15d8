import ViewAccessors.Proofs.Sources.LineBreaks
import ViewAccessors.Proofs.Sources.Rows

/-!
# Classes inside namespaces

The source of a view in a namespace is that of the same view outside every
namespace with the lines of its class indented between the rows of the
namespace.  Lines end with a line feed here, before which a carriage return may
stand; the last line of a class is never blank, so none is lost.
-/

namespace ViewAccessors

open Text

namespace Text

/-! ## Lines -/

/--
A text has the lines.  Between two of them stands a line feed, or a carriage
return with a line feed, and neither belongs to a line.
-/
inductive HasLines : List Char → List (List Char) → Prop where
  | last
      {line : List Char}
      (unbroken : '\n' ∉ line) :
      HasLines line [line]
  | lineFeed
      {line rest : List Char}
      {lines : List (List Char)}
      (unbroken : '\n' ∉ line)
      (bare : line.getLast? ≠ some '\r')
      (others : HasLines rest lines) :
      HasLines (line ++ '\n' :: rest) (line :: lines)
  | returned
      {line rest : List Char}
      {lines : List (List Char)}
      (unbroken : '\n' ∉ line)
      (others : HasLines rest lines) :
      HasLines (line ++ '\r' :: '\n' :: rest) (line :: lines)

/-- A part before a line feed is a line, with or without a carriage return behind it. -/
theorem HasLines.cons_withoutReturn
    {part rest : List Char}
    {lines : List (List Char)}
    (unbroken : '\n' ∉ part)
    (others : HasLines rest lines) :
    HasLines (part ++ '\n' :: rest) (withoutReturn part :: lines) := by
  rw [withoutReturn]
  split
  · rename_i ends
    have whole : part.dropLast ++ ['\r'] = part := List.dropLast_append_getLast? _ ends
    have unbrokenLine : '\n' ∉ part.dropLast := fun member =>
      unbroken (List.dropLast_subset part member)
    have lined := HasLines.returned unbrokenLine others
    rwa [← List.singleton_append, ← List.append_assoc, whole] at lined
  · rename_i bare
    exact .lineFeed unbroken bare others

theorem hasLines_linesOf
    {parts : List (List Char)}
    (unbroken : ∀ part ∈ parts, '\n' ∉ part)
    {last : Char}
    (ends : (['\n'].intercalate parts).getLast? = some last)
    (visible : last ≠ '\n') :
    HasLines (['\n'].intercalate parts) (linesOf parts) := by
  induction parts with
  | nil => cases ends
  | cons part others hypothesis =>
      have unbrokenPart := unbroken part List.mem_cons_self
      cases others with
      | nil =>
          rw [List.intercalate_singleton] at ends ⊢
          have nonempty : part ≠ [] := by
            rintro rfl
            cases ends
          rw [linesOf, if_neg nonempty]
          exact .last unbrokenPart
      | cons second others =>
          rw [List.intercalate_cons_cons, List.append_assoc] at ends ⊢
          -- The last character stands behind the line feed, as it is none itself.
          have endsLater : (['\n'].intercalate (second :: others)).getLast? = some last := by
            rw [List.getLast?_append, List.getLast?_append] at ends
            cases later : (['\n'].intercalate (second :: others)).getLast? with
            | none =>
                rw [later] at ends
                cases ends
                exact absurd rfl visible
            | some character =>
                rw [later] at ends
                exact ends
          have othersLined := hypothesis
            (fun other member => unbroken other (List.mem_cons_of_mem _ member)) endsLater
          exact othersLined.cons_withoutReturn unbrokenPart

/-- A text that does not end with a line feed has the lines that are read from it. -/
theorem hasLines_lines
    {text : List Char}
    {last : Char}
    (ends : text.getLast? = some last)
    (visible : last ≠ '\n') :
    HasLines text (lines text) := by
  have parted : ['\n'].intercalate (text.splitOn '\n') = text :=
    List.intercalate_splitOn '\n'
  have endsParted : (['\n'].intercalate (text.splitOn '\n')).getLast? = some last := by
    rw [parted, ends]
  have lined := hasLines_linesOf (fun _ => notMem_of_mem_splitOn) endsParted visible
  rwa [parted, ← lines_eq_linesOf] at lined

/-! ## Rows of lines -/

/-- The row of a line in a namespace: the line behind four spaces, or nothing if it is blank. -/
def indentedRow (line : List Char) : String :=
  if line.any fun character => !isBlank character then "    " ++ String.ofList line else ""

theorem ofList_indentLine (line : List Char) :
    String.ofList (indentLine 4 line) = indentedRow line := by
  rw [indentLine, indentedRow, ← List.not_all_eq_any_not]
  cases line.all isBlank with
  | true => rfl
  | false => exact String.ofList_append

/-- An indented text holds one row for each line. -/
theorem indent_append_lineFeed
    {text : List Char}
    (nonempty : lines text ≠ []) :
    String.ofList (indent 4 text) ++ "\n" = ofRows ((lines text).map indentedRow) := by
  rw [← intercalate_append_lineFeed (mt List.map_eq_nil_iff.mp nonempty)]
  refine congrArg (· ++ "\n") (String.toList_inj.mp ?_)
  rw [indent, String.toList_ofList, String.toList_intercalate, List.map_map]
  refine congrArg (List.intercalate _) (List.map_congr_left fun line _ => ?_)
  rw [Function.comp_apply, ← ofList_indentLine, String.toList_ofList]

example : (lines "a\r\n \nb".toList).map indentedRow = ["    a", "", "    b"] := by
  decide

end Text

/-! ## Classes -/

namespace SourceSettings

open Layout

variable
    (settings : SourceSettings)
    (className : String)
    (rootType : TypeRef)
    (accessors : List Accessor)

/-- The declaration is a row of its own at the beginning of a class. -/
theorem declaration_prefix_classText :
    (declarationRow className settings.language ++ "\n").toList <+:
      (settings.classText className accessors).toList := by
  refine ⟨(ofRows (openingRows settings.language ++ settings.memberRows accessors)
    ++ closingRow settings.language).toList, ?_⟩
  rw [← String.toList_append, classText, beginningRows, List.cons_append, ofRows_cons]
  simp only [String.append_assoc]

theorem exists_getLast?_classText :
    ∃ last, (settings.classText className accessors).toList.getLast? = some last ∧
      isBlank last = false := by
  rw [classText, String.toList_append, List.getLast?_append]
  cases settings.language with
  | csharp => exact ⟨'\x7d', rfl, by decide⟩
  | visualBasic => exact ⟨'s', rfl, by decide⟩

/-- In a namespace the lines of a class stand indented between the rows of the namespace. -/
theorem code_inside_eq_ofRows
    {namespaceName : String}
    (inside : namespaceName ≠ "")
    (someLine : lines (settings.classText className accessors).toList ≠ []) :
    settings.code namespaceName className rootType accessors =
      .ok (ofRows (settings.headRows rootType
        ++ namespaceRows namespaceName settings.language
        ++ (lines (settings.classText className accessors).toList).map indentedRow
        ++ [namespaceEnd settings.language])) := by
  have written := Layout.render_file_namespaced settings.language
    (rootType.qualified settings.language) settings.imports namespaceName
    (settings.classText className accessors)
  rw [code_eq, Generator.code_complete, classBody_eq_classText, beq_eq_false_iff_ne.mpr inside]
  refine written.trans (congrArg Except.ok ?_)
  rw [imports_eq_ofRows, indent_append_lineFeed someLine, headRows]
  simp only [ofRows_append, ofRows_cons, ofRows_nil, String.empty_append, String.append_empty,
    String.append_assoc]

/--
The source of a view in a namespace is that of the same view outside every
namespace with the lines of its class indented between the rows of the
namespace.
-/
theorem code_in_namespaces :
    ∃ body lines,
      (declarationRow className settings.language ++ "\n").toList <+: body.toList ∧
      (∃ last, body.toList.getLast? = some last ∧ isBlank last = false) ∧
      HasLines body.toList lines ∧
      settings.code "" className rootType accessors =
        .ok (ofRows (settings.headRows rootType) ++ body ++ "\n") ∧
      ∀ namespaceName, namespaceName ≠ "" →
        settings.code namespaceName className rootType accessors =
          .ok (ofRows (settings.headRows rootType
            ++ namespaceRows namespaceName settings.language
            ++ lines.map indentedRow
            ++ [namespaceEnd settings.language])) := by
  rcases settings.exists_getLast?_classText className accessors with ⟨last, ends, visible⟩
  have noBreak : last ≠ '\n' := by
    rintro rfl
    exact Bool.noConfusion visible
  have someLine : lines (settings.classText className accessors).toList ≠ [] := by
    intro noLine
    rw [eq_nil_of_lines_eq_nil noLine] at ends
    cases ends
  exact ⟨_, _, settings.declaration_prefix_classText className accessors,
    ⟨last, ends, visible⟩, hasLines_lines ends noBreak,
    settings.code_outside_eq_append className rootType accessors,
    fun _ inside => settings.code_inside_eq_ofRows className rootType accessors inside someLine⟩

/-- A class in the namespace `App` with a line feed after a carriage return in its name. -/
theorem code_in_namespaces_brokenName :
    let settings : SourceSettings := ⟨.csharp, .fields, ["App.Parts"]⟩
    let rootType : TypeRef := ⟨"App", "Shell", []⟩
    let accessors : List Accessor := [⟨"Button", "save", .ownClass⟩]
    ∃ body lines,
      HasLines body.toList lines ∧
      settings.code "" "Main\r\nView" rootType accessors =
        .ok (ofRows (settings.headRows rootType) ++ body ++ "\n") ∧
      settings.code "App" "Main\r\nView" rootType accessors =
        .ok (ofRows (settings.headRows rootType
          ++ ["namespace App", "\x7b"] ++ lines.map indentedRow ++ ["\x7d"])) := by
  intro settings rootType accessors
  rcases code_in_namespaces settings "Main\r\nView" rootType accessors with
    ⟨body, lines, -, -, lined, outside, inside⟩
  exact ⟨body, lines, lined, outside, inside "App" (by decide)⟩

end SourceSettings

end ViewAccessors
