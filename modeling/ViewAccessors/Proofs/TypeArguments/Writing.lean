import ViewAccessors.Proofs.Markup.Writing
import ViewAccessors.Proofs.Trimming
import ViewAccessors.Proofs.TypeArguments.Parts
import ViewAccessors.Resolution

/-!
# How type arguments are written

A list of type arguments is written as arguments with commas between them.  An
argument is the name of a type, or such a name and a list of its own in
parentheses, with blanks wherever a name begins or ends and after a closing
parenthesis.  A writing can only be built if it is lawful; `text` is the text
that is written, `levels` says how deep its lists stand in each other, and
`Denotes` which types it names.
-/

namespace ViewAccessors.TypeArguments.Writing

/-- The name that a text with blanks around it stands for. -/
def nameOf (text : List Char) : Markup.Name :=
  Markup.Name.ofText (String.ofList (Text.trim text))

/-- The name of a type as it is written, with the blanks around it. -/
structure Head where
  text : List Char
  unmarked : ∀ mark ∈ marks, mark ∉ text
  /-- Something follows the qualifier, or the name has no qualifier and is not blank. -/
  named : (nameOf text).localName ≠ ""

/-- The name that is written. -/
def Head.name (head : Head) : Markup.Name :=
  nameOf head.text

mutual

/-- A type argument as it is written. -/
inductive Argument where
  | plain (head : Head)
  | generic (head : Head) (nested : Arguments) (blanks : Markup.Writing.Run Text.isBlank)

/-- Type arguments as they are written with commas between them; there is at least one. -/
inductive Arguments where
  | last (argument : Argument)
  | more (argument : Argument) (others : Arguments)

end

mutual

def Argument.text : Argument → List Char
  | .plain head => head.text
  | .generic head nested blanks => head.text ++ '(' :: (nested.text ++ ')' :: blanks.text)

def Arguments.text : Arguments → List Char
  | .last argument => argument.text
  | .more argument others => argument.text ++ ',' :: others.text

end

mutual

/-- How many levels of lists stand inside an argument. -/
def Argument.levels : Argument → Nat
  | .plain _ => 0
  | .generic _ nested _ => nested.levels

/-- How many levels of lists there are, this list being one of them. -/
def Arguments.levels : Arguments → Nat
  | .last argument => argument.levels + 1
  | .more argument others => max (argument.levels + 1) others.levels

end

mutual

/-- The argument names `type`: its head the type itself, and its list the type arguments. -/
inductive Argument.Denotes
    (resolver : Resolver)
    (span : Markup.Span) :
    Argument → TypeRef → Prop where
  | plain
      {head : Head}
      {type : TypeRef}
      (found : resolver.typeNamed span head.name = .ok type) :
      Argument.Denotes resolver span (.plain head) type
  | generic
      {head : Head}
      {nested : Arguments}
      {type : TypeRef}
      {types : List TypeRef}
      (found : resolver.typeNamed span head.name = .ok type)
      (inside : nested.Denotes resolver span types)
      (blanks : Markup.Writing.Run Text.isBlank) :
      Argument.Denotes resolver span (.generic head nested blanks)
        { type with arguments := types }

/-- The arguments name `types`, one each and in the order in which they are written. -/
inductive Arguments.Denotes
    (resolver : Resolver)
    (span : Markup.Span) :
    Arguments → List TypeRef → Prop where
  | last
      {argument : Argument}
      {type : TypeRef}
      (denotes : argument.Denotes resolver span type) :
      Arguments.Denotes resolver span (.last argument) [type]
  | more
      {argument : Argument}
      {others : Arguments}
      {type : TypeRef}
      {types : List TypeRef}
      (denotes : argument.Denotes resolver span type)
      (denote : others.Denotes resolver span types) :
      Arguments.Denotes resolver span (.more argument others) (type :: types)

end

/-! ## The parts of a writing -/

/-- The texts of the arguments in their order. -/
def Arguments.parts : Arguments → List (List Char)
  | .last argument => [argument.text]
  | .more argument others => argument.text :: others.parts

theorem Arguments.parts_ne_nil (written : Arguments) :
    written.parts ≠ [] := by
  cases written <;> exact List.cons_ne_nil _ _

theorem Arguments.intercalate_parts :
    ∀ written : Arguments, [','].intercalate written.parts = written.text
  | .last argument => List.intercalate_singleton
  | .more argument others => by
      rw [parts, List.intercalate_cons_of_ne_nil others.parts_ne_nil, others.intercalate_parts,
        text, List.append_assoc]
      rfl

theorem Arguments.levels_pos (written : Arguments) :
    0 < written.levels := by
  cases written with
  | last argument => exact Nat.succ_pos _
  | more argument others => exact Nat.lt_of_lt_of_le (Nat.succ_pos _) (Nat.le_max_left _ _)

theorem unmarked_of_all_isBlank
    {blanks : List Char}
    (members : blanks.all Text.isBlank = true) :
    ∀ mark ∈ marks, mark ∉ blanks := by
  intro mark isMark
  simp only [marks, List.mem_cons, List.not_mem_nil, or_false] at isMark
  rcases isMark with rfl | rfl | rfl <;> exact Text.notMem_of_all_isBlank members rfl

mutual

/-- The parentheses of an argument pair up, and its commas stand inside them. -/
theorem Argument.depthAfterAll?_text
    (depth : Nat) :
    ∀ argument : Argument, depthAfterAll? depth argument.text = some depth
  | .plain head => depthAfterAll?_of_unmarked head.unmarked depth
  | .generic head nested blanks => by
      have inside := nested.depthAfterAll?_text depth
      have behind := depthAfterAll?_of_unmarked (unmarked_of_all_isBlank blanks.members) depth
      rw [Argument.text, depthAfterAll?_append, depthAfterAll?_of_unmarked head.unmarked,
        Option.bind_some, depthAfterAll?_cons, depthAfter?, if_pos rfl, Option.bind_some,
        depthAfterAll?_append, inside, Option.bind_some, depthAfterAll?_cons]
      simpa [depthAfter?] using behind

/-- The same for arguments inside parentheses. -/
theorem Arguments.depthAfterAll?_text
    (depth : Nat) :
    ∀ written : Arguments, depthAfterAll? (depth + 1) written.text = some (depth + 1)
  | .last argument => argument.depthAfterAll?_text (depth + 1)
  | .more argument others => by
      rw [Arguments.text, depthAfterAll?_append, argument.depthAfterAll?_text, Option.bind_some,
        depthAfterAll?_cons]
      simpa [depthAfter?] using others.depthAfterAll?_text depth

end

theorem Arguments.isPart_of_mem_parts :
    ∀ written : Arguments, ∀ part ∈ written.parts, IsPart part
  | .last argument => by
      intro part member
      rw [parts, List.mem_singleton] at member
      exact member ▸ argument.depthAfterAll?_text 0
  | .more argument others => by
      rw [parts, List.forall_mem_cons]
      exact ⟨argument.depthAfterAll?_text 0, others.isPart_of_mem_parts⟩

end ViewAccessors.TypeArguments.Writing
