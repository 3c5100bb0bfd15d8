import ViewAccessors.Proofs.TypeArguments.Reading

/-!
# Which type arguments are resolved

The value of a `TypeArguments` directive is resolved exactly if it is written
as a list of type arguments in which lists stand at most 256 deep and in which
every name has a type.  The types are then those that the writing names: one
for each argument in the order of the text, with the types of the list inside
its parentheses as its own arguments.
-/

namespace ViewAccessors

open TypeArguments
open TypeArguments.Writing

namespace TypeArguments.Writing

mutual

/-- The names in an argument in the order of the text. -/
def Argument.heads : Argument → List Head
  | .plain head => [head]
  | .generic head nested _ => head :: nested.heads

/-- The names in a list of arguments in the order of the text. -/
def Arguments.heads : Arguments → List Head
  | .last argument => argument.heads
  | .more argument others => argument.heads ++ others.heads

end

section

variable {resolver : Resolver} {span : Markup.Span}

mutual

/-- An argument names a type if and only if each name in it has a type. -/
theorem Argument.exists_denotes_iff :
    ∀ argument : Argument,
      (∃ type, argument.Denotes resolver span type) ↔
        ∀ head ∈ argument.heads, ∃ type, resolver.typeNamed span head.name = .ok type
  | .plain head => by
      rw [Argument.heads, List.forall_mem_singleton]
      constructor
      · rintro ⟨type, ⟨found⟩⟩
        exact ⟨type, found⟩
      · rintro ⟨type, found⟩
        exact ⟨type, .plain found⟩
  | .generic head nested blanks => by
      rw [Argument.heads, List.forall_mem_cons, ← nested.exists_denotes_iff]
      constructor
      · rintro ⟨_, ⟨⟩ | ⟨found, inside, -⟩⟩
        exact ⟨⟨_, found⟩, _, inside⟩
      · rintro ⟨⟨type, found⟩, types, inside⟩
        exact ⟨_, .generic found inside blanks⟩

/-- The same for arguments one after the other. -/
theorem Arguments.exists_denotes_iff :
    ∀ written : Arguments,
      (∃ types, written.Denotes resolver span types) ↔
        ∀ head ∈ written.heads, ∃ type, resolver.typeNamed span head.name = .ok type
  | .last argument => by
      rw [Arguments.heads, ← argument.exists_denotes_iff]
      constructor
      · rintro ⟨_, ⟨denotes⟩⟩
        exact ⟨_, denotes⟩
      · rintro ⟨type, denotes⟩
        exact ⟨[type], .last denotes⟩
  | .more argument others => by
      rw [Arguments.heads, List.forall_mem_append, ← argument.exists_denotes_iff,
        ← others.exists_denotes_iff]
      constructor
      · rintro ⟨_, ⟨⟩ | ⟨denotes, denote⟩⟩
        exact ⟨⟨_, denotes⟩, _, denote⟩
      · rintro ⟨⟨type, denotes⟩, types, denote⟩
        exact ⟨type :: types, .more denotes denote⟩

end

end

end TypeArguments.Writing

namespace Resolver

variable {resolver : Resolver} {span : Markup.Span} {room : Nat}

/-- `types` are named by some writing of `value` with at most `room` levels of lists. -/
def NamesWritten
    (resolver : Resolver)
    (span : Markup.Span)
    (room : Nat)
    (value : List Char)
    (types : List TypeRef) :
    Prop :=
  ∃ written : Arguments, written.text = value ∧ written.levels ≤ room ∧
    written.Denotes resolver span types

/--
One part is resolved exactly if it is written as an argument.  `read` says the
same of the lists inside parentheses, which have one level less.
-/
theorem typeArgument_eq_ok_iff
    {nested : List Char → Except ResolutionError (List TypeRef)}
    (read : ∀ inner types, nested inner = .ok types ↔
      resolver.NamesWritten span room inner types)
    (value : List Char)
    {part : List Char}
    (isPart : IsPart part)
    (type : TypeRef) :
    resolver.typeArgument span value nested part = .ok type ↔
      ∃ argument : Argument, argument.text = part ∧ argument.levels ≤ room ∧
        argument.Denotes resolver span type := by
  constructor
  · intro resolved
    rw [typeArgument] at resolved
    split at resolved
    · cases resolved
    · rename_i name inner found
      rcases bind_eq_ok_iff.mp resolved with ⟨base, named, applied⟩
      cases inner with
      | none =>
          rcases exists_of_readPart_plain isPart found with ⟨head, isText, rfl⟩
          cases applied
          exact ⟨.plain head, isText, Nat.zero_le _, .plain named⟩
      | some inner =>
          rcases exists_of_readPart_generic isPart found with ⟨head, blanks, isText, rfl⟩
          rcases bind_eq_ok_iff.mp applied with ⟨types, inside, same⟩
          cases same
          rcases (read inner types).mp inside with ⟨written, rfl, within, denotes⟩
          exact ⟨.generic head written blanks, isText, within, .generic named denotes blanks⟩
  · rintro ⟨argument, rfl, within, denotes⟩
    cases denotes with
    | @plain head _ named =>
        rw [typeArgument, Argument.text, readPart_plain]
        exact bind_eq_ok_iff.mpr ⟨type, named, rfl⟩
    | @generic head written base types named inside blanks =>
        rw [typeArgument, Argument.text, readPart_generic]
        have resolved := (read written.text types).mpr ⟨written, rfl, within, inside⟩
        exact bind_eq_ok_iff.mpr ⟨base, named, bind_eq_ok_iff.mpr ⟨types, resolved, rfl⟩⟩

/-- Parts are resolved one after the other exactly if they are those of a writing. -/
theorem mapM_eq_ok_iff
    {resolve : List Char → Except ResolutionError TypeRef}
    {parts : List (List Char)}
    (nonempty : parts ≠ [])
    (read : ∀ part ∈ parts, ∀ type, resolve part = .ok type ↔
      ∃ argument : Argument, argument.text = part ∧ argument.levels ≤ room ∧
        argument.Denotes resolver span type)
    (types : List TypeRef) :
    parts.mapM resolve = .ok types ↔
      ∃ written : Arguments, written.parts = parts ∧ written.levels ≤ room + 1 ∧
        written.Denotes resolver span types := by
  induction parts generalizing types with
  | nil => exact absurd rfl nonempty
  | cons part others hypothesis =>
      rw [List.forall_mem_cons] at read
      rcases read with ⟨readFirst, readOthers⟩
      rw [mapM_cons_eq_ok_iff]
      cases others with
      | nil =>
          constructor
          · rintro ⟨type, _, resolved, finished, rfl⟩
            cases finished
            rcases (readFirst type).mp resolved with ⟨argument, rfl, within, denotes⟩
            exact ⟨.last argument, rfl, Nat.succ_le_succ within, .last denotes⟩
          · rintro ⟨written, same, within, denotes⟩
            cases denotes with
            | @last argument type denotes =>
                cases same
                have resolved := (readFirst type).mpr
                  ⟨argument, rfl, Nat.le_of_succ_le_succ within, denotes⟩
                exact ⟨type, [], resolved, rfl, rfl⟩
            | @more argument more _ _ _ _ =>
                exact absurd (List.cons.inj same).2 more.parts_ne_nil
      | cons other others =>
          simp only [hypothesis (List.cons_ne_nil _ _) readOthers]
          constructor
          · rintro ⟨type, later, resolved, ⟨written, same, deep, denote⟩, rfl⟩
            rcases (readFirst type).mp resolved with ⟨argument, rfl, within, denotes⟩
            refine ⟨.more argument written, ?_, ?_, .more denotes denote⟩
            · rw [Arguments.parts, same]
            · exact Nat.max_le.mpr ⟨Nat.succ_le_succ within, deep⟩
          · rintro ⟨written, same, within, denotes⟩
            cases denotes with
            | last _ => cases same
            | @more argument more type later denotes denote =>
                rcases List.cons.inj same with ⟨rfl, sameLater⟩
                rcases Nat.max_le.mp within with ⟨here, deep⟩
                have resolved := (readFirst type).mpr
                  ⟨argument, rfl, Nat.le_of_succ_le_succ here, denotes⟩
                exact ⟨type, later, resolved, ⟨more, sameLater, deep, denote⟩, rfl⟩

/-- A text is resolved exactly if it is written as a list with enough room for its levels. -/
theorem typeArguments_eq_ok_iff
    (value : List Char)
    (types : List TypeRef) :
    resolver.typeArguments span room value = .ok types ↔
      resolver.NamesWritten span room value types := by
  induction room generalizing value types with
  | zero =>
      constructor
      · intro impossible
        cases impossible
      · rintro ⟨written, -, within, -⟩
        exact absurd written.levels_pos (Nat.not_lt.mpr within)
  | succ room hypothesis =>
      rw [typeArguments]
      constructor
      · intro resolved
        split at resolved
        · cases resolved
        · rename_i parts cut
          rcases (parts?_eq_some_iff _ _).mp cut with ⟨nonempty, areParts, rfl⟩
          have read := fun part member =>
            typeArgument_eq_ok_iff hypothesis ([','].intercalate parts) (areParts part member)
          rcases (mapM_eq_ok_iff nonempty read types).mp resolved with
            ⟨written, rfl, within, denotes⟩
          exact ⟨written, written.intercalate_parts.symm, within, denotes⟩
      · rintro ⟨written, rfl, within, denotes⟩
        have cut : parts? written.text = some written.parts :=
          (parts?_eq_some_iff _ _).mpr
            ⟨written.parts_ne_nil, written.isPart_of_mem_parts, written.intercalate_parts⟩
        have read := fun part member =>
          typeArgument_eq_ok_iff hypothesis written.text (written.isPart_of_mem_parts part member)
        simp only [cut]
        exact (mapM_eq_ok_iff written.parts_ne_nil read types).mpr
          ⟨written, rfl, within, denotes⟩

/--
The value of a directive is resolved exactly if it is written as a list of
type arguments with at most 256 levels of lists in which every name has a
type.  The types are those that such a writing names.
-/
theorem typeArguments_exactly_of_writing
    (resolver : Resolver)
    (span : Markup.Span)
    (value : String) :
    ((∃ types, resolver.typeArguments span Markup.maximumNesting value.toList = .ok types) ↔
      ∃ written : Arguments, String.ofList written.text = value ∧ written.levels ≤ 256 ∧
        ∀ head ∈ written.heads, ∃ type, resolver.typeNamed span head.name = .ok type) ∧
    ∀ types, resolver.typeArguments span Markup.maximumNesting value.toList = .ok types ↔
      ∃ written : Arguments, String.ofList written.text = value ∧ written.levels ≤ 256 ∧
        written.Denotes resolver span types := by
  have isText : ∀ written : Arguments,
      String.ofList written.text = value ↔ written.text = value.toList := by
    intro written
    constructor
    · rintro rfl
      exact String.toList_ofList.symm
    · intro same
      rw [same, String.ofList_toList]
  have exactly : ∀ types,
      resolver.typeArguments span Markup.maximumNesting value.toList = .ok types ↔
        ∃ written : Arguments, String.ofList written.text = value ∧ written.levels ≤ 256 ∧
          written.Denotes resolver span types := by
    intro types
    rw [typeArguments_eq_ok_iff, NamesWritten]
    simp only [isText]
    rfl
  refine ⟨?_, exactly⟩
  simp only [exactly, ← Arguments.exists_denotes_iff]
  constructor
  · rintro ⟨types, written, same, within, denotes⟩
    exact ⟨written, same, within, types, denotes⟩
  · rintro ⟨written, same, within, types, denotes⟩
    exact ⟨types, written, same, within, denotes⟩

end Resolver

end ViewAccessors
