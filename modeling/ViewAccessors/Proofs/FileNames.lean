import ViewAccessors.Proofs.ClassNames
import ViewAccessors.Setting.FileNaming

/-!
# File names identify views

The name of a file ends in the same way for all classes in a language.  Before
the ending stands the name of the class, behind its namespace or alone.  No
name of a class holds a dot, so the last dot before the ending, if there is
one, tells where the namespace ends, and the view can be read off the name of
its file.
-/

namespace ViewAccessors

open Text

/-! ## Qualified names -/

/-- The name of a class behind its namespace, or alone if it is in none. -/
def qualifiedName (namespaceName className : List Char) : List Char :=
  if namespaceName = [] then className else namespaceName ++ '.' :: className

/-- The parts before and behind the last dot of a name; all of it is behind if it has no dot. -/
def nameParts (name : List Char) : List Char × List Char :=
  (splitLast '.' name).getD ([], name)

/-- The parts of the qualified name of a class are its namespace and its name. -/
theorem nameParts_qualifiedName
    {className : List Char}
    (undotted : '.' ∉ className)
    (namespaceName : List Char) :
    nameParts (qualifiedName namespaceName className) = (namespaceName, className) := by
  rw [qualifiedName]
  split
  · rename_i isGlobal
    rw [nameParts, (splitLast_eq_none_iff _ _).mpr undotted, isGlobal]
    rfl
  · have split : splitLast '.' (namespaceName ++ '.' :: className) =
        some (namespaceName, className) :=
      splitLast_eq_some_iff.mpr ⟨rfl, undotted⟩
    rw [nameParts, split]
    rfl

theorem qualifiedName_eq_iff
    {first second : List Char}
    (firstUndotted : '.' ∉ first)
    (secondUndotted : '.' ∉ second)
    {firstNamespace secondNamespace : List Char} :
    qualifiedName firstNamespace first = qualifiedName secondNamespace second ↔
      firstNamespace = secondNamespace ∧ first = second := by
  constructor
  · intro same
    have sameParts := congrArg nameParts same
    rw [nameParts_qualifiedName firstUndotted, nameParts_qualifiedName secondUndotted] at sameParts
    exact Prod.mk.inj sameParts
  · rintro ⟨rfl, rfl⟩
    rfl

/-! ## File names -/

namespace FileNaming

/-- What the names of all files in a language end with. -/
def ending (language : Language) : String :=
  ".g." ++ language.extension

theorem fileName_byClass
    (language : Language)
    (namespaceName className : String) :
    byClass.fileName language namespaceName className = className ++ ending language := by
  simp [fileName, ending, String.append_assoc]

theorem toList_fileName_byNamespaceAndClass
    (language : Language)
    (namespaceName className : String) :
    (byNamespaceAndClass.fileName language namespaceName className).toList =
      qualifiedName namespaceName.toList className.toList ++ (ending language).toList := by
  have dot : ".".toList = ['.'] := rfl
  by_cases isGlobal : namespaceName = ""
  · simp [fileName, ending, qualifiedName, isGlobal]
  · have named : namespaceName.toList ≠ [] := by
      simpa using isGlobal
    simp [fileName, ending, qualifiedName, isGlobal, named, dot]

variable
    (language : Language)
    {firstNamespace secondNamespace first second : String}

/-- Files that are named by their classes have the same name if the classes have. -/
theorem fileName_byClass_eq_iff :
    byClass.fileName language firstNamespace first =
        byClass.fileName language secondNamespace second ↔
      first = second := by
  rw [fileName_byClass, fileName_byClass, ← String.toList_inj, ← String.toList_inj,
    String.toList_append, String.toList_append, List.append_left_inj]

/-- Files that are named by namespaces too have the same name if both names are the same. -/
theorem fileName_byNamespaceAndClass_eq_iff
    (firstUndotted : '.' ∉ first.toList)
    (secondUndotted : '.' ∉ second.toList) :
    byNamespaceAndClass.fileName language firstNamespace first =
        byNamespaceAndClass.fileName language secondNamespace second ↔
      firstNamespace = secondNamespace ∧ first = second := by
  rw [← String.toList_inj, toList_fileName_byNamespaceAndClass,
    toList_fileName_byNamespaceAndClass, List.append_left_inj,
    qualifiedName_eq_iff firstUndotted secondUndotted, String.toList_inj, String.toList_inj]

end FileNaming

/--
The class of a view has a name without a dot and without blanks around it.  So
two views, from whatever documents, have files of the same name exactly if
their classes are the same: by namespace and name, or by name alone if the
files are named by classes only.
-/
theorem View.identified_by_fileName
    {firstMap secondMap : NamespaceMap}
    {firstText secondText : String}
    {first second : View}
    (isFirst : View.ofText? firstMap firstText = .ok (some first))
    (isSecond : View.ofText? secondMap secondText = .ok (some second))
    (language : Language) :
    IsClassName first.className.toList ∧
      (FileNaming.byNamespaceAndClass.fileName language first.namespaceName first.className =
          FileNaming.byNamespaceAndClass.fileName language second.namespaceName
            second.className ↔
        first.namespaceName = second.namespaceName ∧ first.className = second.className) ∧
      (FileNaming.byClass.fileName language first.namespaceName first.className =
          FileNaming.byClass.fileName language second.namespaceName second.className ↔
        first.className = second.className) := by
  have firstIsProper := isClassName_of_ofText? isFirst
  have secondIsProper := isClassName_of_ofText? isSecond
  exact ⟨firstIsProper,
    FileNaming.fileName_byNamespaceAndClass_eq_iff language firstIsProper.undotted
      secondIsProper.undotted,
    FileNaming.fileName_byClass_eq_iff language⟩

/-- A class in a namespace and one of the same name in none. -/
theorem View.identified_by_fileName_main :
    let firstText :=
      "<A xmlns:x=\"http://schemas.microsoft.com/winfx/2006/xaml\" x:Class=\"App.Main\"/>"
    let secondText :=
      "<A xmlns:x=\"http://schemas.microsoft.com/winfx/2006/xaml\" x:Class=\" . Main\"/>"
    ∃ first second,
      View.ofText? .wellKnown firstText = .ok (some first) ∧
      View.ofText? .wellKnown secondText = .ok (some second) ∧
      (first.namespaceName = "App" ∧ second.namespaceName = "") ∧
      IsClassName first.className.toList ∧
      (FileNaming.byNamespaceAndClass.fileName .csharp first.namespaceName first.className =
          FileNaming.byNamespaceAndClass.fileName .csharp second.namespaceName
            second.className ↔
        first.namespaceName = second.namespaceName ∧ first.className = second.className) ∧
      (FileNaming.byClass.fileName .csharp first.namespaceName first.className =
          FileNaming.byClass.fileName .csharp second.namespaceName second.className ↔
        first.className = second.className) := by
  intro firstText secondText
  have exists_view : ∀ text namespaceName,
      (View.ofText? .wellKnown text).map (Option.map View.namespaceName) =
          .ok (some namespaceName) →
        ∃ view, View.ofText? .wellKnown text = .ok (some view) ∧
          view.namespaceName = namespaceName := by
    intro text namespaceName isView
    rcases map_eq_ok_iff.mp isView with ⟨found, read, named⟩
    rcases Option.map_eq_some_iff.mp named with ⟨view, rfl, same⟩
    exact ⟨view, read, same⟩
  rcases exists_view firstText "App" (by decide +kernel) with ⟨first, isFirst, inNamespace⟩
  rcases exists_view secondText "" (by decide +kernel) with ⟨second, isSecond, inNone⟩
  exact ⟨first, second, isFirst, isSecond, ⟨inNamespace, inNone⟩,
    View.identified_by_fileName isFirst isSecond .csharp⟩

end ViewAccessors
