import ViewAccessors.Proofs.FileNames
import ViewAccessors.TypeRef.Basic

/-!
# Distinct types are written differently

A reference to a type is written as a name, with its type arguments between
marks behind it.  No mark occurs in a name, so that it can be told from what
follows where a name and where a type ends.  A written type therefore stands
for one reference only, its arguments at every depth included.
-/

namespace ViewAccessors.TypeRef

open Text

/-! ## Names -/

/-- Whether the character may stand in an identifier. -/
def isIdentifierCharacter (character : Char) : Bool :=
  isAlphanumeric character || character == '_'

/-- Letters, digits and underscores, of which there is at least one. -/
def IsIdentifier (text : List Char) : Prop :=
  text ≠ [] ∧ text.all isIdentifierCharacter = true

instance : DecidablePred IsIdentifier :=
  fun text => inferInstanceAs (Decidable (text ≠ [] ∧ text.all isIdentifierCharacter = true))

/-- Identifiers with dots between them, or nothing. -/
def IsNamespace (text : List Char) : Prop :=
  ∃ parts, (∀ part ∈ parts, IsIdentifier part) ∧ text = ['.'].intercalate parts

/-- The type and its arguments have identifiers as names, and stand in namespaces or in none. -/
inductive IsNamed : TypeRef → Prop where
  | intro
      {namespaceName name : String}
      {arguments : List TypeRef}
      (inNamespace : IsNamespace namespaceName.toList)
      (named : IsIdentifier name.toList)
      (inside : ∀ argument ∈ arguments, argument.IsNamed) :
      IsNamed ⟨namespaceName, name, arguments⟩

/-- Whether the character may stand in a name behind its namespace. -/
def isNamePart (character : Char) : Bool :=
  isIdentifierCharacter character || character == '.' || character == ':'

/-- Whether a written type may go on with the character. -/
def continuesType (character : Char) : Bool :=
  isNamePart character || character == '<' || character == '('

theorem IsIdentifier.all_isNamePart
    {text : List Char}
    (isIdentifier : IsIdentifier text) :
    text.all isNamePart = true := by
  rw [List.all_eq_true]
  intro character member
  have inIdentifier := List.all_eq_true.mp isIdentifier.2 character member
  rw [isNamePart, inIdentifier]
  rfl

theorem IsIdentifier.dot_notMem
    {text : List Char}
    (isIdentifier : IsIdentifier text) :
    '.' ∉ text := by
  intro member
  have inIdentifier := List.all_eq_true.mp isIdentifier.2 '.' member
  revert inIdentifier
  decide

theorem IsNamespace.all_isNamePart
    {text : List Char}
    (isNamespace : IsNamespace text) :
    text.all isNamePart = true := by
  rcases isNamespace with ⟨parts, identifiers, rfl⟩
  induction parts with
  | nil => rfl
  | cons part parts hypothesis =>
      rw [List.forall_mem_cons] at identifiers
      have first := identifiers.1.all_isNamePart
      cases parts with
      | nil => rwa [List.intercalate_singleton]
      | cons second parts =>
          rw [List.intercalate_cons_cons, List.all_append, List.all_append, first,
            hypothesis identifiers.2]
          rfl

section

variable (language : Language) {namespaceName name : String}

theorem toList_qualifiedName (namespaceName name : String) :
    (qualifiedName language namespaceName name).toList =
      (if namespaceName = "" then [] else language.globalMark.toList) ++
        ViewAccessors.qualifiedName namespaceName.toList name.toList := by
  have dot : ".".toList = ['.'] := rfl
  by_cases isGlobal : namespaceName = ""
  · simp [qualifiedName, dotted, ViewAccessors.qualifiedName, isGlobal]
  · have inside : namespaceName.toList ≠ [] := by
      simpa using isGlobal
    simp [qualifiedName, dotted, ViewAccessors.qualifiedName, isGlobal, inside, dot]

theorem all_isNamePart_qualifiedName
    (inNamespace : IsNamespace namespaceName.toList)
    (named : IsIdentifier name.toList) :
    (qualifiedName language namespaceName name).toList.all isNamePart = true := by
  have mark : language.globalMark.toList.all isNamePart = true := by
    cases language <;> decide
  have dot : isNamePart '.' = true := by decide
  rw [toList_qualifiedName, ViewAccessors.qualifiedName]
  split_ifs <;>
    simp only [List.all_append, List.all_cons, List.all_nil, mark, dot, named.all_isNamePart,
      inNamespace.all_isNamePart, Bool.and_self]

/-- A name behind a namespace has a dot, and one alone has none. -/
theorem dot_mem_qualifiedName_iff
    (named : IsIdentifier name.toList) :
    '.' ∈ (qualifiedName language namespaceName name).toList ↔ namespaceName ≠ "" := by
  rw [toList_qualifiedName, ViewAccessors.qualifiedName]
  by_cases isGlobal : namespaceName = ""
  · simp [isGlobal, named.dot_notMem]
  · simp [isGlobal]

/-- A name that is marked as beginning at the outermost namespace tells its namespace. -/
theorem eq_of_qualifiedName_eq
    {otherNamespace other : String}
    (named : IsIdentifier name.toList)
    (otherNamed : IsIdentifier other.toList)
    (same : qualifiedName language namespaceName name =
      qualifiedName language otherNamespace other) :
    namespaceName = otherNamespace ∧ name = other := by
  have alike : namespaceName = "" ↔ otherNamespace = "" := by
    rw [← not_iff_not]
    exact (dot_mem_qualifiedName_iff language named).symm.trans
      (same ▸ dot_mem_qualifiedName_iff language otherNamed)
  have sameText := congrArg String.toList same
  rw [toList_qualifiedName, toList_qualifiedName, if_congr alike rfl rfl,
    List.append_right_inj, qualifiedName_eq_iff named.dot_notMem otherNamed.dot_notMem,
    String.toList_inj, String.toList_inj] at sameText
  exact sameText

end

/-! ## Types with their arguments -/

section

variable (language : Language)

/-- The type arguments as they are written behind the name of a type, with their marks. -/
def argumentsText : List TypeRef → List Char
  | [] => []
  | first :: others =>
    language.argumentsOpening.toList ++ ((first.qualified language).toList ++
      ((qualifiedRest language others).toList ++ language.argumentsClosing.toList))

theorem toList_qualified (type : TypeRef) :
    (type.qualified language).toList =
      (qualifiedName language type.namespaceName type.name).toList ++
        argumentsText language type.arguments := by
  rcases type with ⟨namespaceName, name, _ | ⟨first, others⟩⟩
  · rw [qualified, argumentsText, List.append_nil]
  · simp only [qualified, argumentsText, String.toList_append, List.append_assoc]

/-- Neither the arguments of a type nor what follows the type go on with its name. -/
theorem stops_isNamePart_argumentsText
    (arguments : List TypeRef)
    {rest : List Char}
    (stops : Stops continuesType rest) :
    Stops isNamePart (argumentsText language arguments ++ rest) := by
  cases arguments with
  | nil =>
      intro character isHead
      have notContinued := stops character isHead
      rw [continuesType, Bool.or_eq_false_iff, Bool.or_eq_false_iff] at notContinued
      exact notContinued.1.1
  | cons first others => cases language <;> exact stops_cons (by decide) _

theorem stops_qualifiedRest
    (others : List TypeRef)
    (rest : List Char) :
    Stops continuesType
      ((qualifiedRest language others).toList ++ (language.argumentsClosing.toList ++ rest)) := by
  cases others with
  | nil => cases language <;> exact stops_cons (by decide) _
  | cons first others =>
      have comma : ", ".toList = [',', ' '] := rfl
      rw [qualifiedRest, String.toList_append, String.toList_append, comma]
      exact stops_cons (by decide) _

/-- Arguments go on with a comma, which is no closing mark. -/
theorem qualifiedRest_append_ne
    (first : TypeRef)
    (others : List TypeRef)
    (rest other : List Char) :
    (qualifiedRest language (first :: others)).toList ++ rest ≠
      language.argumentsClosing.toList ++ other := by
  intro same
  have heads := congrArg List.head? same
  rw [qualifiedRest, String.append_assoc, String.toList_append] at heads
  cases language <;> cases heads

end

/-- A name ends where a character stands that belongs to no name. -/
theorem append_inj_of_stops
    {member : Char → Bool}
    {first second rest other : List Char}
    (members : first.all member = true)
    (otherMembers : second.all member = true)
    (stops : Stops member rest)
    (otherStops : Stops member other)
    (same : first ++ rest = second ++ other) :
    first = second ∧ rest = other := by
  have cut := takeWhile_append_of_stops members stops
  rw [same] at cut
  have otherCut := takeWhile_append_of_stops otherMembers otherStops
  exact ⟨cut.1.symm.trans otherCut.1, cut.2.symm.trans otherCut.2⟩

section

variable (language : Language)

-- Types are read back with the text behind them, which the induction has to cover.

mutual

/-- A written type tells the type and where it ends. -/
theorem eq_of_qualified_append_eq :
    ∀ {first second : TypeRef} {rest other : List Char}, first.IsNamed → second.IsNamed →
      Stops continuesType rest → Stops continuesType other →
        (first.qualified language).toList ++ rest = (second.qualified language).toList ++ other →
          first = second ∧ rest = other
  | ⟨_, _, arguments⟩, ⟨_, _, others⟩, rest, other, .intro inNamespace named inside,
      .intro otherNamespace otherNamed otherInside, stops, otherStops, same => by
      rw [toList_qualified, toList_qualified, List.append_assoc, List.append_assoc] at same
      rcases append_inj_of_stops (all_isNamePart_qualifiedName language inNamespace named)
        (all_isNamePart_qualifiedName language otherNamespace otherNamed)
        (stops_isNamePart_argumentsText language arguments stops)
        (stops_isNamePart_argumentsText language others otherStops) same with
        ⟨sameName, sameRest⟩
      rcases eq_of_qualifiedName_eq language named otherNamed (String.toList_inj.mp sameName) with
        ⟨rfl, rfl⟩
      rcases eq_of_argumentsText_append_eq inside otherInside stops otherStops sameRest with
        ⟨rfl, sameEnd⟩
      exact ⟨rfl, sameEnd⟩

/-- Written arguments tell the arguments, if there are any, and where they end. -/
theorem eq_of_argumentsText_append_eq :
    ∀ {first second : List TypeRef} {rest other : List Char},
      (∀ argument ∈ first, argument.IsNamed) → (∀ argument ∈ second, argument.IsNamed) →
        Stops continuesType rest → Stops continuesType other →
          argumentsText language first ++ rest = argumentsText language second ++ other →
            first = second ∧ rest = other
  | [], [], _, _, _, _, _, _, same => ⟨rfl, same⟩
  | [], _ :: _, rest, _, _, _, stops, _, same => by
      exfalso
      cases language <;> exact absurd (stops _ (congrArg List.head? same)) (by decide)
  | _ :: _, [], _, _, _, _, _, otherStops, same => by
      exfalso
      cases language <;> exact absurd (otherStops _ (congrArg List.head? same.symm)) (by decide)
  | first :: arguments, second :: others, rest, other, named, otherNamed, _, _, same => by
      rw [List.forall_mem_cons] at named otherNamed
      simp only [argumentsText, List.append_assoc, List.append_right_inj] at same
      rcases eq_of_qualified_append_eq named.1 otherNamed.1
        (stops_qualifiedRest language arguments rest)
        (stops_qualifiedRest language others other) same with ⟨rfl, sameRest⟩
      rcases eq_of_qualifiedRest_append_eq named.2 otherNamed.2 sameRest with ⟨rfl, sameEnd⟩
      exact ⟨rfl, sameEnd⟩

/-- Further arguments go on up to the closing mark. -/
theorem eq_of_qualifiedRest_append_eq :
    ∀ {first second : List TypeRef} {rest other : List Char},
      (∀ argument ∈ first, argument.IsNamed) → (∀ argument ∈ second, argument.IsNamed) →
        (qualifiedRest language first).toList ++ (language.argumentsClosing.toList ++ rest) =
            (qualifiedRest language second).toList ++
              (language.argumentsClosing.toList ++ other) →
          first = second ∧ rest = other
  | [], [], _, _, _, _, same => by
      simpa [qualifiedRest] using same
  | [], _ :: _, _, _, _, _, same => absurd same.symm (qualifiedRest_append_ne language _ _ _ _)
  | _ :: _, [], _, _, _, _, same => absurd same (qualifiedRest_append_ne language _ _ _ _)
  | first :: arguments, second :: others, rest, other, named, otherNamed, same => by
      rw [List.forall_mem_cons] at named otherNamed
      simp only [qualifiedRest, String.toList_append, List.append_assoc, List.append_right_inj]
        at same
      rcases eq_of_qualified_append_eq named.1 otherNamed.1
        (stops_qualifiedRest language arguments rest)
        (stops_qualifiedRest language others other) same with ⟨rfl, sameRest⟩
      rcases eq_of_qualifiedRest_append_eq named.2 otherNamed.2 sameRest with ⟨rfl, sameEnd⟩
      exact ⟨rfl, sameEnd⟩

end

/--
Distinct references to types are written differently in every language, as
long as the names in them are identifiers.
-/
theorem qualified_eq_iff
    {first second : TypeRef}
    (named : first.IsNamed)
    (otherNamed : second.IsNamed) :
    first.qualified language = second.qualified language ↔ first = second := by
  constructor
  · intro same
    have sameText := congrArg (String.toList · ++ []) same
    exact (eq_of_qualified_append_eq language named otherNamed (stops_nil _) (stops_nil _)
      sameText).1
  · rintro rfl
    rfl

end

/-- Two types that are written with the same names in the same order. -/
theorem qualified_eq_iff_map :
    let item : TypeRef := ⟨"App", "Item", []⟩
    let apart : TypeRef := ⟨"App.Data", "Map", [⟨"", "List", [item]⟩, item]⟩
    let together : TypeRef := ⟨"App.Data", "Map", [⟨"", "List", [item, item]⟩]⟩
    apart.IsNamed ∧ together.IsNamed ∧
      apart.qualified .csharp ≠ together.qualified .csharp ∧
      apart.qualified .visualBasic =
        "Global.App.Data.Map(Of List(Of Global.App.Item), Global.App.Item)" ∧
      apart.qualified .visualBasic ≠ together.qualified .visualBasic := by
  intro item apart together
  have inApp : IsNamespace "App".toList := ⟨["App".toList], by decide, rfl⟩
  have inData : IsNamespace "App.Data".toList :=
    ⟨["App".toList, "Data".toList], by decide, rfl⟩
  have inNone : IsNamespace "".toList := ⟨[], by decide, rfl⟩
  have item_isNamed : item.IsNamed := .intro inApp (by decide) (by simp)
  have apart_isNamed : apart.IsNamed := by
    refine .intro inData (by decide) (List.forall_mem_cons.mpr
      ⟨?_, List.forall_mem_singleton.mpr item_isNamed⟩)
    exact .intro inNone (by decide) (List.forall_mem_singleton.mpr item_isNamed)
  have together_isNamed : together.IsNamed := by
    refine .intro inData (by decide) (List.forall_mem_singleton.mpr ?_)
    exact .intro inNone (by decide) (List.forall_mem_cons.mpr
      ⟨item_isNamed, List.forall_mem_singleton.mpr item_isNamed⟩)
  have different : apart ≠ together := by
    intro same
    cases congrArg (fun type => type.arguments.length) same
  refine ⟨apart_isNamed, together_isNamed, ?_, by decide, ?_⟩
  · rwa [Ne, qualified_eq_iff .csharp apart_isNamed together_isNamed]
  · rwa [Ne, qualified_eq_iff .visualBasic apart_isNamed together_isNamed]

end ViewAccessors.TypeRef
