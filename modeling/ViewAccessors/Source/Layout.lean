import ViewAccessors.Setting.AccessorStyle
import ViewAccessors.Setting.Language
import ViewAccessors.Template.Library

/-!
# The layout of generated sources

A generated source consists of a head with the imports and of one partial
class, which stands inside a namespace if it has one.  This file holds the
texts around the values: one template for the file and one for the class, for
every language and style.  They are registered under names in a library, which
has the templates of classes in one style only.
-/

namespace ViewAccessors.Layout

namespace Written

/-- A C# file with the class inside a namespace. -/
def csharpFile : String :=
  "// <auto-generated />\n// Root: {{root_type}}\n\n{{imports}}\n"
    ++ "namespace {{namespace}}\n\x7b\n{{indent body 4}}\n\x7d\n"

/-- A C# file with the class outside every namespace. -/
def csharpGlobalFile : String :=
  "// <auto-generated />\n// Root: {{root_type}}\n\n{{imports}}\n{{body}}\n"

/-- A Visual Basic file with the class inside a namespace. -/
def visualBasicFile : String :=
  "' <auto-generated />\n' Root: {{root_type}}\n\n{{imports}}\n"
    ++ "Namespace {{namespace}}\n{{indent body 4}}\nEnd Namespace\n"

/-- A Visual Basic file with the class outside every namespace. -/
def visualBasicGlobalFile : String :=
  "' <auto-generated />\n' Root: {{root_type}}\n\n{{imports}}\n{{body}}\n"

/-- A C# class with a property for each name. -/
def csharpProperties : String :=
  "partial class {{class_name}}\n\x7b\n{{members}}\n\x7d\n"

/-- A Visual Basic class with a property for each name. -/
def visualBasicProperties : String :=
  "Partial Class {{class_name}}\n{{members}}\nEnd Class\n"

/-- The C# method that assigns the fields, up to the assignments. -/
def csharpMethod : String :=
  "    /// <summary>\n"
    ++ "    /// Wires up the named controls and optionally loads the XAML markup.\n"
    ++ "    /// </summary>\n"
    ++ "    /// <param name=\"loadXaml\">"
    ++ "Should the XAML be loaded into the component.</param>\n"
    ++ "    public void InitializeComponent(bool loadXaml = true)\n"
    ++ "    \x7b\n"
    ++ "        if (loadXaml)\n"
    ++ "        \x7b\n"
    ++ "            AvaloniaXamlLoader.Load(this);\n"
    ++ "        \x7d"

/-- A C# class with a field for each name and the method that assigns the fields. -/
def csharpFields : String :=
  "partial class {{class_name}}\n\x7b\n{{fields}}" ++ csharpMethod
    ++ "{{assignments}}\n    \x7d\n\x7d\n"

/-- The Visual Basic method that assigns the fields, up to the assignments. -/
def visualBasicMethod : String :=
  "    ''' <summary>\n"
    ++ "    ''' Wires up the named controls and optionally loads the XAML markup.\n"
    ++ "    ''' </summary>\n"
    ++ "    ''' <param name=\"loadXaml\">"
    ++ "Should the XAML be loaded into the component.</param>\n"
    ++ "    Public Sub InitializeComponent(Optional loadXaml As Boolean = True)\n"
    ++ "        If loadXaml Then\n"
    ++ "            AvaloniaXamlLoader.Load(Me)\n"
    ++ "        End If"

/-- A Visual Basic class with a field for each name and the method that assigns the fields. -/
def visualBasicFields : String :=
  "Partial Class {{class_name}}\n{{fields}}" ++ visualBasicMethod
    ++ "{{assignments}}\n    End Sub\nEnd Class\n"

end Written

/-- The templates of files under their names. -/
def writtenFiles : List (String × String) :=
  [("cs_file", Written.csharpFile), ("cs_file_global", Written.csharpGlobalFile),
    ("vb_file", Written.visualBasicFile), ("vb_file_global", Written.visualBasicGlobalFile)]

/-- The templates of classes in a style under their names. -/
def writtenClasses : AccessorStyle → List (String × String)
  | .properties =>
    [("cs_properties", Written.csharpProperties), ("vb_properties", Written.visualBasicProperties)]
  | .fields =>
    [("cs_initialize", Written.csharpFields), ("vb_initialize", Written.visualBasicFields)]

/-- The name of the template of a file, whose class is inside a namespace or outside every one. -/
def fileKey : Language → (global : Bool) → String
  | .csharp, false => "cs_file"
  | .csharp, true => "cs_file_global"
  | .visualBasic, false => "vb_file"
  | .visualBasic, true => "vb_file_global"

/-- The name of the template of a class. -/
def classKey : Language → AccessorStyle → String
  | .csharp, .properties => "cs_properties"
  | .csharp, .fields => "cs_initialize"
  | .visualBasic, .properties => "vb_properties"
  | .visualBasic, .fields => "vb_initialize"

/-- The library with the templates of files and those of classes in a style. -/
def library (style : AccessorStyle) : Except TemplateError Template.Library := do
  let files ← Template.Library.empty.registerAll writtenFiles
  files.registerAll (writtenClasses style)

/-- The namespaces that the generated code itself needs. -/
def requiredImports : AccessorStyle → List String
  | .properties => ["Avalonia.Controls"]
  | .fields => ["Avalonia.Controls", "Avalonia.Markup.Xaml"]

/-- The line that imports a namespace. -/
def importLine : Language → String → String
  | .csharp, namespaceName => "using " ++ namespaceName ++ ";\n"
  | .visualBasic, namespaceName => "Imports " ++ namespaceName ++ "\n"

end ViewAccessors.Layout
