import Mathlib.Data.List.Forall2
import ViewAccessors.Options.Document
import ViewAccessors.Proofs.Json.Tokens
import ViewAccessors.Proofs.Json.Values
import ViewAccessors.Proofs.Outcomes

/-!
# Options that are written and read back

Options are written as JSON field by field, and each field is read back by
other code than has written it.  Every field comes back as it was, so an
object with any choice of fields gives just these fields of the options, and
the object with all fields gives the options themselves.
-/

namespace ViewAccessors

/-! ## Settings -/

theorem AccessorStyle.ofText_toText (style : AccessorStyle) :
    ofText style.toText = .ok style := by
  cases style <;> decide +kernel

theorem Visibility.ofText_toText (visibility : Visibility) :
    ofText visibility.toText = .ok visibility := by
  cases visibility <;> decide +kernel

theorem FileNaming.ofText_toText (naming : FileNaming) :
    ofText naming.toText = .ok naming := by
  cases naming <;> decide +kernel

theorem Language.ofText_toText (language : Language) :
    ofText language.toText = .ok language := by
  cases language <;> decide +kernel

namespace Options

open Json

/-! ## Fields -/

/-- The options with one field as other options have it. -/
def take
    (options source : Options) :
    Field → Options
  | .style => { options with style := source.style }
  | .visibility => { options with visibility := source.visibility }
  | .pathPatterns => { options with pathPatterns := source.pathPatterns }
  | .namespacePatterns => { options with namespacePatterns := source.namespacePatterns }
  | .fileNaming => { options with fileNaming := source.fileNaming }
  | .language => { options with language := source.language }
  | .additionalNamespaces =>
    { options with additionalNamespaces := source.additionalNamespaces }
  | .namespaceMappings => { options with namespaceMappings := source.namespaceMappings }
  | .typeMappings => { options with typeMappings := source.typeMappings }

/-- What was read gives `options` and leaves `rest`. -/
def Gives
    {source : List Token}
    (outcome : Except Fault (Options.Reading source))
    (options : Options)
    (rest : List Token) :
    Prop :=
  outcome.map (fun reading => (reading.value, reading.rest)) = .ok (options, rest)

theorem Gives.exists_eq
    {source rest : List Token}
    {outcome : Except Fault (Options.Reading source)}
    {options : Options}
    (gives : Gives outcome options rest) :
    ∃ shorter, outcome = .ok ⟨options, rest, shorter⟩ := by
  rcases map_eq_ok_iff.mp gives with ⟨⟨value, later, shorter⟩, read, same⟩
  cases same
  exact ⟨shorter, read⟩

section

variable {Value : Type} (store : Value → Options)

theorem gives_readValue
    {reader : Reader Value}
    {source rest : List Token}
    {value : Value}
    (reads : Reads reader source value rest) :
    Gives (readValue reader store source) (store value) rest := by
  rcases reads.exists_eq with ⟨shorter, read⟩
  rw [Gives, readValue, read]
  rfl

theorem gives_readWord
    {meaning : String → Except UnknownValue Value}
    {word : String}
    {value : Value}
    (means : meaning word = .ok value)
    (rest : List Token) :
    Gives (readWord meaning store (writeText word ++ rest)) (store value) rest := by
  rw [Gives, readWord, writeText, List.singleton_append, readText?]
  simp only [means]
  rfl

end

/-- A field is read back as it was. -/
theorem gives_readField
    (options source : Options)
    (field : Field)
    (rest : List Token) :
    Gives (readField options field (source.writeField field ++ rest))
      (options.take source field) rest := by
  have opens : ∀ content, ∃ token others,
      writeText content = token :: others ∧ token ≠ .closeBracket :=
    fun content => ⟨.text content, [], rfl, nofun⟩
  cases field with
  | style =>
      exact (gives_readWord ({ options with style := · }) source.style.ofText_toText rest :)
  | visibility =>
      exact (gives_readWord ({ options with visibility := · })
        source.visibility.ofText_toText rest :)
  | fileNaming =>
      exact (gives_readWord ({ options with fileNaming := · })
        source.fileNaming.ofText_toText rest :)
  | language =>
      exact (gives_readWord ({ options with language := · }) source.language.ofText_toText rest :)
  | pathPatterns | namespacePatterns | additionalNamespaces =>
      exact gives_readValue _ (reads_list reads_text opens _ rest)
  | namespaceMappings => exact gives_readValue _ (reads_map reads_text _ rest)
  | typeMappings => exact gives_readValue _ (reads_map (reads_map reads_text) _ rest)

/-! ## Objects -/

theorem Field.ofKey?_key (field : Field) :
    ofKey? field.key = some field := by
  cases field <;> decide

/-- The tokens of an entry for a field. -/
def writeFieldEntry
    (source : Options)
    (field : Field) :
    List Token :=
  .text field.key :: .colon :: source.writeField field

/-- The options with the listed fields as other options have them. -/
def takeAll
    (options source : Options)
    (fields : List Field) :
    Options :=
  fields.foldl (fun options field => options.take source field) options

/-- Entries for distinct fields are read back one after the other. -/
theorem gives_readObject
    (source : Options)
    {first : Field}
    {others : List Field}
    (distinct : (first :: others).Nodup)
    {seen : List Field}
    (unseen : ∀ field ∈ first :: others, field ∉ seen)
    (options : Options)
    (rest : List Token) :
    Gives
      (readObject seen options
        (separated ((first :: others).map source.writeFieldEntry) ++ .closeBrace :: rest))
      (options.takeAll source (first :: others)) rest := by
  have firstUnseen : first ∉ seen := unseen first List.mem_cons_self
  induction others generalizing first seen options with
  | nil =>
      rcases (gives_readField options source first (.closeBrace :: rest)).exists_eq with
        ⟨shorter, read⟩
      rw [Gives, List.map_cons, List.map_nil, separated, writeFieldEntry, List.cons_append,
        List.cons_append, readObject]
      simp only [Field.ofKey?_key, if_neg firstUnseen, read]
      rfl
  | cons second others hypothesis =>
      rw [List.nodup_cons] at distinct
      have laterUnseen : ∀ field ∈ second :: others, field ∉ first :: seen := by
        intro field member
        rw [List.mem_cons, not_or]
        refine ⟨?_, unseen field (List.mem_cons_of_mem _ member)⟩
        rintro rfl
        exact distinct.1 member
      rcases (hypothesis distinct.2 laterUnseen (options.take source first)
        (laterUnseen second List.mem_cons_self)).exists_eq with ⟨shorterOthers, readOthers⟩
      rcases (gives_readField options source first
        (.comma :: (separated ((second :: others).map source.writeFieldEntry) ++
          .closeBrace :: rest))).exists_eq with ⟨shorter, read⟩
      rw [Gives, separated_append, writeFieldEntry, List.cons_append, List.cons_append,
        readObject]
      simp only [Field.ofKey?_key, if_neg firstUnseen, read, readOthers]
      rfl

/-- An object with any choice of fields, in any order, gives just these fields. -/
theorem ofTokens_writeObject
    (source : Options)
    {fields : List Field}
    (distinct : fields.Nodup) :
    ofTokens (source.writeObject fields) = .ok (standard.takeAll source fields) := by
  have written : source.writeObject fields =
      .openBrace :: (separated (fields.map source.writeFieldEntry) ++ [.closeBrace]) := by
    rw [writeObject, writeEntries, List.map_map]
    rfl
  rw [written]
  cases fields with
  | nil => rfl
  | cons first others =>
      have begins : source.writeFieldEntry first =
          .text first.key :: .colon :: source.writeField first := rfl
      rcases exists_separated_eq_cons begins others with ⟨later, whole⟩
      have gives := gives_readObject source distinct (fun _ _ => List.not_mem_nil) standard []
      rw [whole, List.cons_append] at gives ⊢
      rcases gives.exists_eq with ⟨shorter, read⟩
      simp only [ofTokens, read]
      rfl

/-- The options are made of their fields. -/
theorem takeAll_all (options source : Options) :
    options.takeAll source Field.all = source := by
  simp only [takeAll, Field.all, List.foldl_cons, List.foldl_nil, take]

/-! ## Texts -/

/-- Every field is written with tokens of JSON. -/
theorem other_notMem_writeField
    (source : Options)
    (field : Field) :
    .other ∉ source.writeField field := by
  have inText : ∀ content, .other ∉ writeText content := by simp [writeText]
  cases field with
  | style | visibility | fileNaming | language => exact inText _
  | pathPatterns | namespacePatterns | additionalNamespaces =>
      exact other_notMem_writeList inText _
  | namespaceMappings => exact other_notMem_writeEntries inText _
  | typeMappings =>
      exact other_notMem_writeEntries
        (fun types : OrderedMap String => other_notMem_writeEntries inText types.entries) _

/--
The options are written as a JSON object that has all fields in their order,
and this object is read back as the same options, with the entries of the
maps in the same order.
-/
theorem ofJson_toJson (options : Options) :
    tokens options.toJson.toList = options.writeObject Field.all ∧
      ofJson options.toJson = .ok options := by
  have read : tokens options.toJson.toList = options.writeObject Field.all := by
    rw [toJson, String.toList_ofList, tokens_writeAll]
    exact other_notMem_writeEntries options.other_notMem_writeField _
  refine ⟨read, ?_⟩
  rw [ofJson, read, ofTokens_writeObject options (by decide), takeAll_all]

end Options

end ViewAccessors
