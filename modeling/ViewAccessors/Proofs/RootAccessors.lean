import ViewAccessors.Proofs.Accessors

/-!
# The accessor of the root

The type of a root element is found twice: for the view, which puts up with the
bare name of a root whose type is unknown, and for the accessor of the root,
which does not.  If a document has both a view and accessors and its root
declares a name, then the two are the same type, and it is no makeshift.
-/

namespace ViewAccessors

open Markup

/-! ## The first of the named elements -/

/-- A root that makes an object and declares a name is the first of the named elements. -/
theorem Markup.Element.exists_namedElements_eq_cons
    {root : Element}
    {element : NamedElement}
    (named : NamedElement.ofLineage? (root.toTag, []) = some element) :
    ∃ others, root.namedElements = element :: others := by
  have listed : root.lineages =
      (root.toTag, []) :: Node.lineagesOfAll [root.toTag] root.children := rfl
  rw [Element.namedElements, listed, List.filterMap_cons_some named]
  exact ⟨_, rfl⟩

/-- Of a document that has accessors, the first one is that of the root, if the root is named. -/
theorem AccessorSettings.exists_first_of_accessors
    {settings : AccessorSettings}
    {root : Element}
    {accessors : List Accessor}
    (succeeded : settings.accessors root = .ok accessors)
    {element : NamedElement}
    (named : NamedElement.ofLineage? (root.toTag, []) = some element) :
    ∃ first others, accessors = first :: others ∧ settings.Describes element first := by
  have describe := ((settings.accessors_eq_ok_iff root accessors).mp succeeded).2
  rcases Element.exists_namedElements_eq_cons named with ⟨others, listed⟩
  rw [listed] at describe
  cases describe with
  | @cons _ first _ later describes _ => exact ⟨first, later, rfl, describes⟩

/-! ## The view -/

namespace View

/-- The root of a view has the type of its element, wherever that is known. -/
theorem typeOfRoot_eq
    {namespaces : NamespaceMap}
    {root : Element}
    {type : TypeRef}
    (resolved : Resolver.elementType ⟨namespaces, .inside [root.toTag]⟩ root.toTag = .ok type) :
    typeOfRoot namespaces root = type := by
  rw [typeOfRoot, ← Scope.inside_nil, Scope.enter_inside, resolved]

theorem document_and_rootType_of_ofDocument?
    {namespaces : NamespaceMap}
    {root : Element}
    {view : View}
    (isView : ofDocument? namespaces root = some view) :
    view.document = root ∧ view.rootType = typeOfRoot namespaces root := by
  rcases Option.map_eq_some_iff.mp isView with ⟨names, -, rfl⟩
  exact ⟨rfl, rfl⟩

/--
Whatever the namespaces, the language and the visibilities are: the root of a
view with accessors gives rise to the first of them, if it is named, and the
view and the accessor agree on its type.
-/
theorem exists_accessor_of_root
    (settings : AccessorSettings)
    {root : Element}
    {view : View}
    {accessors : List Accessor}
    (isView : ofDocument? settings.namespaces root = some view)
    (succeeded : settings.accessors root = .ok accessors)
    {element : NamedElement}
    (named : NamedElement.ofLineage? (root.toTag, []) = some element) :
    ∃ first others, accessors = first :: others ∧ first.name = element.name ∧
      first.typeName = view.rootType.qualified settings.language ∧
        Resolver.elementType ⟨settings.namespaces, .inside [root.toTag]⟩ root.toTag =
          .ok view.rootType := by
  rcases AccessorSettings.exists_first_of_accessors succeeded named with
    ⟨first, others, begins, describes⟩
  rcases (NamedElement.ofLineage?_eq_some_iff _ _ _).mp named with ⟨-, sameTag, sameScope, -⟩
  rcases describes.type with ⟨type, resolved, written⟩
  rw [sameTag, sameScope] at resolved
  have isRootType : view.rootType = type := by
    rw [(document_and_rootType_of_ofDocument? isView).2, typeOfRoot_eq resolved]
  rw [isRootType]
  exact ⟨first, others, begins, describes.name, written, resolved⟩

end View

/-! ## Both together -/

theorem resolve_eq_ok_some_iff
    {text : String}
    {language : Language}
    {view : View}
    {accessors : List Accessor} :
    resolve text language = .ok (some (view, accessors)) ↔
      ∃ root, parse text = .ok root ∧ View.ofDocument? .wellKnown root = some view ∧
        AccessorSettings.accessors ⟨.wellKnown, language, default⟩ root = .ok accessors := by
  constructor
  · intro resolved
    rcases bind_eq_ok_iff.mp resolved with ⟨found, read, continued⟩
    rcases map_eq_ok_iff.mp (mapError_eq_ok_iff.mp read) with ⟨root, parsed, rfl⟩
    cases isView : View.ofDocument? .wellKnown root with
    | none =>
        rw [isView] at continued
        cases continued
    | some other =>
        rw [isView] at continued
        rcases bind_eq_ok_iff.mp continued with ⟨listed, succeeded, same⟩
        cases same
        have succeeded := mapError_eq_ok_iff.mp succeeded
        rw [(View.document_and_rootType_of_ofDocument? isView).1] at succeeded
        exact ⟨root, parsed, isView, succeeded⟩
  · rintro ⟨root, parsed, isView, succeeded⟩
    rw [← (View.document_and_rootType_of_ofDocument? isView).1] at succeeded
    refine bind_eq_ok_iff.mpr ⟨some view, ?_, ?_⟩
    · exact mapError_eq_ok_iff.mpr (map_eq_ok_iff.mpr ⟨root, parsed, isView⟩)
    · exact bind_eq_ok_iff.mpr ⟨accessors, mapError_eq_ok_iff.mpr succeeded, rfl⟩

/--
A text that has a view and accessors, and whose root makes an object and
declares a name: the first accessor is that of the root, and its type is the
type of the root in the view.  That type is the one of the root element; so a
root whose type is unknown, which has only its bare name in a view, has no
accessor.
-/
theorem resolve_agrees_on_root
    {text : String}
    {language : Language}
    {view : View}
    {accessors : List Accessor}
    (resolved : resolve text language = .ok (some (view, accessors)))
    {name : String}
    (isObject : '.' ∉ view.document.name.localName.toList)
    (declares : (Scope.inside [view.document.toTag]).Declares view.document.toTag name) :
    parse text = .ok view.document ∧
      ∃ first others, accessors = first :: others ∧ first.name = name ∧
        first.typeName = view.rootType.qualified language ∧
          Resolver.elementType ⟨.wellKnown, .inside [view.document.toTag]⟩
            view.document.toTag = .ok view.rootType := by
  rcases resolve_eq_ok_some_iff.mp resolved with ⟨root, parsed, isView, succeeded⟩
  have isRoot := (View.document_and_rootType_of_ofDocument? isView).1
  rw [isRoot] at isObject declares ⊢
  have named : NamedElement.ofLineage? (root.toTag, []) =
      some ⟨root.toTag, .inside [root.toTag], name⟩ :=
    (NamedElement.ofLineage?_eq_some_iff _ _ _).mpr ⟨isObject, rfl, rfl, declares⟩
  exact ⟨parsed,
    View.exists_accessor_of_root ⟨.wellKnown, language, default⟩ isView succeeded named⟩

/-- A root with a name and a type argument. -/
theorem resolve_agrees_on_root_box :
    let text :=
      "<q:Box xmlns:q=\"using:App\" xmlns:x=\"http://schemas.microsoft.com/winfx/2006/xaml\" "
        ++ "x:Class=\"Main\" x:TypeArguments=\"x:Uri\" Name=\"box\"><q:Pen Name=\"pen\"/></q:Box>"
    ∃ view accessors,
      resolve text .csharp = .ok (some (view, accessors)) ∧
      '.' ∉ view.document.name.localName.toList ∧
      (Scope.inside [view.document.toTag]).Declares view.document.toTag "box" ∧
      parse text = .ok view.document ∧
      ∃ first others, accessors = first :: others ∧ first.name = "box" ∧
        first.typeName = view.rootType.qualified .csharp ∧
          Resolver.elementType ⟨.wellKnown, .inside [view.document.toTag]⟩
            view.document.toTag = .ok view.rootType := by
  intro text
  have resolves : (resolve text .csharp).map (Option.map fun (view, _) =>
      (NamedElement.ofLineage? (view.document.toTag, [])).map NamedElement.name) =
        .ok (some (some "box")) := by
    decide +kernel
  rcases map_eq_ok_iff.mp resolves with ⟨found, resolved, isFound⟩
  rcases Option.map_eq_some_iff.mp isFound with ⟨⟨view, accessors⟩, rfl, isNamed⟩
  rcases Option.map_eq_some_iff.mp isNamed with ⟨element, named, isName⟩
  rcases (NamedElement.ofLineage?_eq_some_iff _ _ _).mp named with
    ⟨isObject, sameTag, sameScope, declares⟩
  rw [sameScope, isName] at declares
  exact ⟨view, accessors, resolved, isObject, declares,
    resolve_agrees_on_root resolved isObject declares⟩

end ViewAccessors
