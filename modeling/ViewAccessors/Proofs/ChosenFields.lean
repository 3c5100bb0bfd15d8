import ViewAccessors.Proofs.OptionFields
import ViewAccessors.Proofs.OptionsAsJson

/-!
# Options with some of the fields

A JSON object may have any of the fields, in any order, and a JSON array may
end after any of them.  Both give the fields that they have and leave the
others as they are in the standard options, however the text is laid out and
however its strings are written.
-/

namespace ViewAccessors.Options

open Json

/-! ## Fields that are taken -/

theorem get_take
    (options source : Options)
    (taken field : Field) :
    (options.take source taken).get field =
      if field = taken then source.get field else options.get field := by
  cases taken <;> cases field <;> rfl

/-- The listed fields are taken, and the others stay. -/
theorem get_takeAll
    (options source : Options)
    (fields : List Field)
    (field : Field) :
    (options.takeAll source fields).get field =
      if field ∈ fields then source.get field else options.get field := by
  induction fields generalizing options with
  | nil => rfl
  | cons taken others hypothesis =>
      have step : options.takeAll source (taken :: others) =
          (options.take source taken).takeAll source others := rfl
      rw [step, hypothesis, get_take]
      by_cases first : field = taken <;> by_cases later : field ∈ others <;>
        simp [first, later]

/-! ## Arrays -/

/-- The tokens of an array with the given fields of the options one after the other. -/
def writePositions
    (options : Options)
    (fields : List Field) :
    List Token :=
  writeList options.writeField fields

/-- No value begins with the bracket that closes an array. -/
theorem exists_writeField_eq_cons
    (source : Options)
    (field : Field) :
    ∃ token others, source.writeField field = token :: others ∧ token ≠ .closeBracket := by
  cases field <;> exact ⟨_, _, rfl, nofun⟩

/-- Values are read back one after the other into the fields for which they stand. -/
theorem gives_readPositions
    (source : Options)
    (first : Field)
    (others later : List Field)
    (options : Options)
    (rest : List Token) :
    Gives
      (readPositions options
        (separated ((first :: others).map source.writeField) ++ .closeBracket :: rest)
        (first :: (others ++ later)))
      (options.takeAll source (first :: others)) rest := by
  induction others generalizing first options with
  | nil =>
      rcases (gives_readField options source first (.closeBracket :: rest)).exists_eq with
        ⟨shorter, read⟩
      rw [Gives, List.map_cons, List.map_nil, separated]
      conv in readPositions _ _ _ => whnf
      simp only [read]
      rfl
  | cons second others hypothesis =>
      rcases (hypothesis second (options.take source first)).exists_eq with
        ⟨shorterOthers, readOthers⟩
      rcases (gives_readField options source first
        (.comma :: (separated ((second :: others).map source.writeField) ++
          .closeBracket :: rest))).exists_eq with ⟨shorter, read⟩
      rw [Gives, separated_append]
      conv in readPositions _ _ _ => whnf
      simp only [read, List.cons_append, readOthers]
      rfl

/-- An array that ends after some of the fields gives just these fields. -/
theorem ofTokens_writePositions
    (source : Options)
    (count : Nat) :
    ofTokens (source.writePositions (Field.all.take count)) =
      .ok (standard.takeAll source (Field.all.take count)) := by
  cases taken : Field.all.take count with
  | nil => rfl
  | cons first others =>
      have parted : Field.all = first :: (others ++ Field.all.drop count) := by
        rw [← List.cons_append, ← taken, List.take_append_drop]
      rcases exists_writeField_eq_cons source first with ⟨token, tokens, begins, noBracket⟩
      rcases exists_separated_eq_cons begins others with ⟨later, whole⟩
      have gives := gives_readPositions source first others (Field.all.drop count) standard []
      rw [← parted, whole, List.cons_append] at gives
      rcases gives.exists_eq with ⟨shorter, read⟩
      rw [writePositions, writeList, whole, List.cons_append, List.cons_append, ofTokens]
      · simp only [read]
        rfl
      · intro rest same
        exact noBracket (List.cons.inj same).1

/-! ## Texts -/

/-- Fields are written with tokens of JSON, whatever the options are. -/
theorem spells_of_writeField
    (source : Options)
    (fields : List Field) :
    Spells (source.writeObject fields) (writeAll (source.writeObject fields)) ∧
      Spells (source.writePositions fields) (writeAll (source.writePositions fields)) :=
  ⟨spells_writeAll (other_notMem_writeEntries source.other_notMem_writeField _),
    spells_writeAll (other_notMem_writeList source.other_notMem_writeField _)⟩

theorem ofJson_of_spells
    {text : String}
    {all : List Token}
    (spelled : Spells all text.toList) :
    ofJson text = ofTokens all := by
  rw [ofJson, tokens_of_spells spelled]

/--
An object with any choice of fields, in any order, gives the options that have
these fields from `source` and the others as standard.  An array of the first
fields gives the same options as the object with these fields.  This holds of
all the ways in which the object and the array can be written, and there are
such ways.
-/
theorem ofJson_of_chosen_fields (source : Options) :
    (∀ fields, fields.Nodup →
      ∀ text : String, Spells (source.writeObject fields) text.toList →
        ∃ options, ofJson text = .ok options ∧
          ∀ field, options.get field =
            if field ∈ fields then source.get field else standard.get field) ∧
    (∀ count, ∀ array object : String,
      Spells (source.writePositions (Field.all.take count)) array.toList →
        Spells (source.writeObject (Field.all.take count)) object.toList →
          ∃ options, ofJson array = .ok options ∧ ofJson object = .ok options) ∧
    ∀ fields,
      Spells (source.writeObject fields) (writeAll (source.writeObject fields)) ∧
        Spells (source.writePositions fields) (writeAll (source.writePositions fields)) := by
  refine ⟨?_, ?_, source.spells_of_writeField⟩
  · intro fields distinct text spelled
    refine ⟨standard.takeAll source fields, ?_, standard.get_takeAll source fields⟩
    rw [ofJson_of_spells spelled, source.ofTokens_writeObject distinct]
  · intro count array object spelledArray spelledObject
    have distinct : (Field.all.take count).Nodup :=
      List.Nodup.sublist (List.take_sublist count Field.all) (by decide)
    refine ⟨standard.takeAll source (Field.all.take count), ?_, ?_⟩
    · rw [ofJson_of_spells spelledArray, source.ofTokens_writePositions]
    · rw [ofJson_of_spells spelledObject, source.ofTokens_writeObject distinct]

/-- Two fields in another order, with a blank before them, and the first field in both ways. -/
theorem ofJson_of_chosen_fields_language :
    let source := { standard with language := .visualBasic }
    let text := " \x7b\"language\":\"VisualBasic\",\"behavior\":\"OnlyProperties\"\x7d"
    let array := "[\"OnlyProperties\"]"
    let object := "\x7b\"behavior\":\"OnlyProperties\"\x7d"
    ([.language, .style] : List Field).Nodup ∧
      Spells (source.writeObject [.language, .style]) text.toList ∧
      Spells (source.writePositions (Field.all.take 1)) array.toList ∧
      Spells (source.writeObject (Field.all.take 1)) object.toList ∧
      (∃ options, ofJson text = .ok options ∧
        ∀ field, options.get field =
          if field ∈ [.language, .style] then source.get field else standard.get field) ∧
      ∃ options, ofJson array = .ok options ∧ ofJson object = .ok options := by
  intro source text array object
  have distinct : ([.language, .style] : List Field).Nodup := by
    decide
  have spelledText : Spells (source.writeObject [.language, .style]) text.toList := by
    have blank : text.toList = ' ' :: writeAll (source.writeObject [.language, .style]) := by
      decide +kernel
    rw [blank]
    exact .blank rfl (source.spells_of_writeField _).1
  have spelledArray : Spells (source.writePositions (Field.all.take 1)) array.toList := by
    have plain : array.toList = writeAll (source.writePositions (Field.all.take 1)) := by
      decide +kernel
    rw [plain]
    exact (source.spells_of_writeField _).2
  have spelledObject : Spells (source.writeObject (Field.all.take 1)) object.toList := by
    have plain : object.toList = writeAll (source.writeObject (Field.all.take 1)) := by
      decide +kernel
    rw [plain]
    exact (source.spells_of_writeField _).1
  rcases ofJson_of_chosen_fields source with ⟨fromObject, fromArray, -⟩
  exact ⟨distinct, spelledText, spelledArray, spelledObject,
    fromObject [.language, .style] distinct text spelledText,
    fromArray 1 array object spelledArray spelledObject⟩

end ViewAccessors.Options
