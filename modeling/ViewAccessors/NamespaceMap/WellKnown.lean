import ViewAccessors.NamespaceMap.Basic

/-!
# The well-known namespaces

The XML namespaces of the markup language itself and of the two user
interface frameworks whose views are read, with the types of these frameworks
that live outside their default namespaces.
-/

namespace ViewAccessors

/-- The namespace of the language directives and of the types built into the language. -/
def xamlNamespace : String :=
  "http://schemas.microsoft.com/winfx/2006/xaml"

/-- The namespace that the qualifier `xml` always stands for. -/
def xmlNamespace : String :=
  "http://www.w3.org/XML/1998/namespace"

/-- The namespace of the Avalonia controls. -/
def avaloniaNamespace : String :=
  "https://github.com/avaloniaui"

/-- The namespace of the WPF presentation types. -/
def presentationNamespace : String :=
  "http://schemas.microsoft.com/winfx/2006/xaml/presentation"

/-- The types built into the language, all of which live in `System`. -/
def intrinsicTypes : List String :=
  ["Object", "String", "Char", "Boolean", "Byte", "Int16", "Int32", "Int64", "Single",
    "Double", "Decimal", "TimeSpan", "Uri"]

/-- The namespace and the name of a type built into the language. -/
def intrinsicType? (localName : String) : Option (String × String) :=
  if localName ∈ intrinsicTypes then some ("System", localName) else none

namespace NamespaceMap

/-- The Avalonia types outside `Avalonia.Controls`, by namespace. -/
def avaloniaPlacements : List (String × List String) :=
  [("Avalonia.Controls.Primitives",
      ["AccessText", "AdornerLayer", "ChromeOverlayLayer", "HeaderedContentControl",
        "HeaderedItemsControl", "HeaderedSelectingItemsControl", "LightDismissOverlayLayer",
        "OverlayLayer", "Popup", "PopupRoot", "RangeBase", "ScrollBar",
        "SelectingItemsControl", "TabStrip", "TabStripItem", "TemplatedControl", "Thumb",
        "ToggleButton", "Track", "UniformGrid", "VisualLayerManager"]),
    ("Avalonia.Controls.Shapes",
      ["Arc", "Ellipse", "Line", "Path", "Polygon", "Polyline", "Rectangle", "Sector",
        "Shape"]),
    ("Avalonia.Controls.Presenters",
      ["ContentPresenter", "ItemsPresenter", "ScrollContentPresenter", "TextPresenter"]),
    ("Avalonia.Controls.Documents",
      ["Bold", "Inline", "InlineUIContainer", "Italic", "LineBreak", "Run", "Span",
        "Underline"]),
    ("Avalonia.Styling",
      ["ControlTheme", "Style", "Styles"])]

/-- The presentation types outside `System.Windows.Controls`, by namespace. -/
def presentationPlacements : List (String × List String) :=
  [("System.Windows.Controls.Primitives",
      ["Popup", "RepeatButton", "ScrollBar", "StatusBar", "StatusBarItem", "TabPanel",
        "Thumb", "ToggleButton", "Track", "UniformGrid"]),
    ("System.Windows.Shapes",
      ["Ellipse", "Line", "Path", "Polygon", "Polyline", "Rectangle"]),
    ("System.Windows.Documents",
      ["Bold", "Hyperlink", "InlineUIContainer", "Italic", "LineBreak", "Run", "Span",
        "Underline"])]

/-- The map with all the listed types of `uri` placed. -/
def placeAll
    (map : NamespaceMap)
    (uri : String)
    (placements : List (String × List String)) :
    NamespaceMap :=
  placements.foldl
    (fun map (namespaceName, names) =>
      names.foldl (fun map name => map.place uri name namespaceName) map)
    map

/-- The map of the well-known namespaces. -/
def wellKnown : NamespaceMap :=
  let defaults :=
    (empty.insert avaloniaNamespace "Avalonia.Controls").insert
      presentationNamespace "System.Windows.Controls"
  (defaults.placeAll avaloniaNamespace avaloniaPlacements).placeAll
    presentationNamespace presentationPlacements

end NamespaceMap

end ViewAccessors
