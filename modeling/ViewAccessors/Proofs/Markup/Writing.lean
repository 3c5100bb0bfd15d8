import ViewAccessors.Markup.Document

/-!
# How documents are written

A document can be written in many ways.  A writing records one of them: which
blanks stand where, how each character of a value is written, which quotes
are used, and where comments and the like stand.  A writing can only be built
if it is lawful; `text` is the text it stands for, and `elementAt` and its
companions give the tree that is written, with the places in the text.
-/

namespace ViewAccessors

/-! ## Characters and their references -/

/-- The digits write `value` in the given base, the last digit being the least. -/
inductive Text.Numeral (base : Nat) : (digits : List Char) → (value : Nat) → Prop where
  | single
      {character : Char}
      {digit : Nat}
      (isDigit : digitValue character = some digit)
      (small : digit < base) :
      Numeral base [character] digit
  | more
      {digits : List Char}
      {value : Nat}
      {character : Char}
      {digit : Nat}
      (before : Numeral base digits value)
      (isDigit : Text.digitValue character = some digit)
      (small : digit < base) :
      Numeral base (digits ++ [character]) (value * base + digit)

namespace Markup

/-- What marks the base of the number of a character, with the base. -/
def Reference.baseMarks : List (List Char × Nat) :=
  [([], 10), (['x'], 16), (['X'], 16)]

/-- What may stand before the digits of the number of a character. -/
def Reference.signs : List (List Char) :=
  [[], ['+']]

/-- The text between an ampersand and a semicolon stands for `character`. -/
inductive Reference.Denotes : (body : List Char) → (character : Char) → Prop where
  | named
      {body : List Char}
      {character : Char}
      (known : (body, character) ∈ Reference.named) :
      Denotes body character
  | numbered
      {mark sign digits : List Char}
      {base : Nat}
      {character : Char}
      (marked : (mark, base) ∈ Reference.baseMarks)
      (signed : sign ∈ Reference.signs)
      (number : Text.Numeral base digits character.toNat) :
      Denotes ('#' :: mark ++ sign ++ digits) character

namespace Writing

/-- One character of a value or of a text as it is written. -/
inductive Symbol where
  | plain (character : Char) (notReference : character ≠ '&')
  | reference (body : List Char) (character : Char) (denotes : Reference.Denotes body character)

namespace Symbol

def text : Symbol → List Char
  | plain character _ => [character]
  | reference body _ _ => '&' :: body ++ [';']

def character : Symbol → Char
  | plain character _ => character
  | reference _ character _ => character

end Symbol

/-- Characters as they are written up to a delimiter, which does not occur among them. -/
structure Phrase (delimiter : Char) where
  symbols : List Symbol
  undelimited : delimiter ∉ symbols.flatMap Symbol.text

namespace Phrase

variable {delimiter : Char}

def text (phrase : Phrase delimiter) : List Char :=
  phrase.symbols.flatMap Symbol.text

/-- The characters that are meant. -/
def value (phrase : Phrase delimiter) : String :=
  String.ofList (phrase.symbols.map Symbol.character)

end Phrase

/-! ## Start tags -/

/-- Characters of a class, perhaps none. -/
structure Run (member : Char → Bool) where
  text : List Char
  members : text.all member = true

/-- A name as it is written. -/
structure Name where
  text : List Char
  starts : text.head?.any isNameStart = true
  continues : text.all isNameCharacter = true

namespace Name

def string (name : Name) : String :=
  String.ofList name.text

end Name

/-- An attribute as it is written, with the blanks before it. -/
structure Attribute where
  blanks : Run Text.isBlank
  separated : blanks.text ≠ []
  name : Name
  beforeSign : Run Text.isTagBlank
  afterSign : Run Text.isTagBlank
  quote : Char
  quotes : quote = '"' ∨ quote = '\''
  value : Phrase quote

namespace Attribute

/-- The attribute without the blanks before it. -/
def ownText (entry : Attribute) : List Char :=
  entry.name.text ++ (entry.beforeSign.text ++ '=' :: (entry.afterSign.text ++
    entry.quote :: (entry.value.text ++ [entry.quote])))

def text (entry : Attribute) : List Char :=
  entry.blanks.text ++ entry.ownText

/-- The attribute that is written, its name standing at `place`. -/
def attributeAt
    (place : Position)
    (entry : Attribute) :
    Markup.Attribute :=
  ⟨.ofText entry.name.string, entry.value.value,
    place, place.after entry.ownText⟩

end Attribute

/-- A start tag as it is written, without the brackets.  No two attributes have the same name. -/
structure StartTag where
  name : Name
  attributes : List Attribute
  distinct : (attributes.map (·.name.text)).Nodup
  blanks : Run Text.isBlank

namespace StartTag

def text (tag : StartTag) : List Char :=
  tag.name.text ++ (tag.attributes.flatMap Attribute.text ++ tag.blanks.text)

/-- The attributes that are written from `place` on. -/
def attributesAt (place : Position) : List Attribute → List Markup.Attribute
  | [] => []
  | entry :: others =>
    entry.attributeAt (place.after entry.blanks.text) ::
      attributesAt (place.after entry.text) others

/-- The element, except for its children, that begins with the tag at `opening`. -/
def tagAt
    (opening : Position)
    (text : List Char)
    (tag : StartTag) :
    Tag where
  name := .ofText tag.name.string
  attributes := attributesAt ((opening.step '<').after tag.name.text) tag.attributes
  span := ⟨opening, opening.after text⟩

end StartTag

/-! ## Content -/

/-- A construct between fixed delimiters, of which only the last characters end it. -/
structure Enclosed (allowed : List Enclosure) where
  enclosure : Enclosure
  isAllowed : enclosure ∈ allowed
  content : List Char
  unclosed : ¬ enclosure.closing <:+: content

namespace Enclosed

variable {allowed : List Enclosure}

def text (enclosed : Enclosed allowed) : List Char :=
  enclosed.enclosure.opening ++ (enclosed.content ++ enclosed.enclosure.closing)

/-- The nodes that the construct makes: one text if it is character data. -/
def nodes (enclosed : Enclosed allowed) : List Node :=
  if enclosed.enclosure.construct = .characterData then
    [.text (String.ofList enclosed.content)]
  else
    []

end Enclosed

/-- What stands between two tags, comments or the like: blanks, or a text that is not blank. -/
inductive CharacterData where
  | blank (run : Run Text.isBlank)
  | visible (phrase : Phrase '<') (notBlank : phrase.text.all Text.isBlank = false)

namespace CharacterData

def text : CharacterData → List Char
  | blank run => run.text
  | visible phrase _ => phrase.text

def nodes : CharacterData → List Node
  | blank _ => []
  | visible phrase _ => [.text phrase.value]

end CharacterData

mutual

/-- An element as it is written. -/
inductive Element where
  | closed (tag : StartTag)
  | filled (tag : StartTag) (content : Content) (blanks : Run Text.isTagBlank)

/-- The content of an element as it is written. -/
inductive Content where
  | last (data : CharacterData)
  | enclosed
    (data : CharacterData)
    (construct : Enclosed Enclosure.insideElement)
    (others : Content)
  | child (data : CharacterData) (element : Element) (others : Content)

end

/-- The closing tag of an element of the given name. -/
def closingTag
    (name : Name)
    (blanks : Run Text.isTagBlank) :
    List Char :=
  '<' :: '/' :: (name.text ++ (blanks.text ++ ['>']))

mutual

/-- The text of an element without its first character. -/
def Element.tail : Element → List Char
  | .closed tag => tag.text ++ ['/', '>']
  | .filled tag content blanks =>
    tag.text ++ '>' :: (content.text ++ closingTag tag.name blanks)

def Content.text : Content → List Char
  | .last data => data.text
  | .enclosed data construct others => data.text ++ (construct.text ++ others.text)
  | .child data element others => data.text ++ '<' :: (element.tail ++ others.text)

end

def Element.text (element : Element) : List Char :=
  '<' :: element.tail

mutual

/-- The element that is written, beginning at `opening`. -/
def Element.elementAt
    (opening : Position) :
    Element → Markup.Element
  | .closed tag => ⟨tag.tagAt opening (Element.closed tag).text, []⟩
  | .filled tag content blanks =>
    ⟨tag.tagAt opening (Element.filled tag content blanks).text,
      content.nodesAt (opening.after ('<' :: tag.text ++ ['>']))⟩

/-- The nodes that are written from `place` on. -/
def Content.nodesAt
    (place : Position) :
    Content → List Node
  | .last data => data.nodes
  | .enclosed data construct others =>
    data.nodes ++ construct.nodes ++
      others.nodesAt (place.after (data.text ++ construct.text))
  | .child data element others =>
    data.nodes ++ (element.elementAt (place.after data.text)).toNode ::
      others.nodesAt (place.after (data.text ++ element.text))

end

/-! ## Documents -/

/-- Blanks, comments, processing instructions and document type declarations. -/
structure Misc where
  constructs : List (Run Text.isBlank × Enclosed Enclosure.aroundRoot)
  blanks : Run Text.isBlank

namespace Misc

def text (misc : Misc) : List Char :=
  misc.constructs.flatMap (fun (blanks, construct) => blanks.text ++ construct.text) ++
    misc.blanks.text

end Misc

/-- A document as it is written. -/
structure Document where
  /-- Whether a byte order mark stands before everything else. -/
  marked : Bool
  before : Misc
  root : Element
  after : Misc

namespace Document

/-- The document without the byte order mark that may stand before it. -/
def body (document : Document) : List Char :=
  document.before.text ++ (document.root.text ++ document.after.text)

def text (document : Document) : List Char :=
  (if document.marked then ['\ufeff'] else []) ++ document.body

/-- The tree that is written. -/
def tree (document : Document) : Markup.Element :=
  document.root.elementAt (Position.start.after document.before.text)

end Document

end Writing

end Markup

end ViewAccessors
