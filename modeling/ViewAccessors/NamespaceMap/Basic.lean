import ViewAccessors.OrderedMap
import ViewAccessors.Text.Split

/-!
# From XML namespaces to namespaces of types

A namespace map tells in which namespace a type lives whose element belongs
to a given XML namespace.  Each XML namespace has a default, and single types
can be placed elsewhere.  A URI that begins with `using:` or `clr-namespace:`
names its namespace directly and needs no entry.
-/

namespace ViewAccessors

/-- Where the types of XML namespaces live. -/
structure NamespaceMap where
  /-- The default namespace of each URI. -/
  defaults : OrderedMap String
  /-- The namespaces of single types, by URI and local name. -/
  placements : OrderedMap (OrderedMap String)
  deriving DecidableEq, Repr

namespace NamespaceMap

/-- The map without entries. -/
def empty : NamespaceMap :=
  ⟨.empty, .empty⟩

/-- The map with `namespaceName` as the default of `uri`. -/
def insert
    (map : NamespaceMap)
    (uri namespaceName : String) :
    NamespaceMap :=
  { map with defaults := map.defaults.insert uri namespaceName }

/-- The map with one type of `uri` placed in `namespaceName`. -/
def place
    (map : NamespaceMap)
    (uri localName namespaceName : String) :
    NamespaceMap :=
  let placed := (map.placements.get? uri).getD .empty
  { map with placements := map.placements.insert uri (placed.insert localName namespaceName) }

/-- The namespace that a URI names directly, of which a list of characters is given. -/
def directNamespace? (uri : List Char) : Option (List Char) :=
  match Text.dropStart? "using:".toList uri with
  | some namespaceName => some (Text.trim namespaceName)
  | none =>
    (Text.dropStart? "clr-namespace:".toList uri).map fun rest =>
      Text.trim (rest.takeWhile (· != ';'))

/-- The namespace of the types of `uri` that are not placed elsewhere. -/
def namespace?
    (map : NamespaceMap)
    (uri : String) :
    Option String :=
  match directNamespace? uri.toList with
  | some namespaceName => some (String.ofList namespaceName)
  | none => map.defaults.get? uri

/-- Where the type of the given URI and local name is placed, if it is placed by itself. -/
def placement?
    (map : NamespaceMap)
    (uri localName : String) :
    Option String :=
  (map.placements.get? uri).bind (·.get? localName)

/-- The namespace of the type `localName` of `uri`. -/
def typeNamespace?
    (map : NamespaceMap)
    (uri localName : String) :
    Option String :=
  (map.placement? uri localName).or (map.namespace? uri)

/-- The defaults in the order in which their URIs were inserted first. -/
def toList (map : NamespaceMap) : List (String × String) :=
  map.defaults.entries

/-- The number of URIs with a default. -/
def size (map : NamespaceMap) : Nat :=
  map.defaults.size

/-- Whether no URI has a default. -/
def isEmpty (map : NamespaceMap) : Bool :=
  map.size == 0

end NamespaceMap

end ViewAccessors
