import ViewAccessors.Options.Fault

/-!
# Generating sources for documents

A run takes a list of documents and generates one file for each view among
them.  A document counts if its path has one of the endings for views and
matches the path globs, and its view counts if its namespace matches the
namespace globs.  `generate` stops at the first error; `generateEach` reports
on every document by itself.
-/

namespace ViewAccessors

/-- A document with the path under which it is known. -/
structure Document where
  path : String
  text : String
  deriving DecidableEq, Repr

/-- A generated source and the name of its file. -/
structure GeneratedFile where
  name : String
  content : String
  deriving DecidableEq, Repr

/-- Why a run, or the work on one document, fails. -/
inductive GenerationError where
  | configuration (error : ConfigurationError)
  | document (error : DocumentError)
  | template (error : TemplateError)
  deriving DecidableEq, Repr

/-- The endings of the paths of documents that can be views. -/
def viewEndings : List String :=
  [".xaml", ".axaml", ".paml"]

namespace Document

/-- The path with slashes between its parts. -/
def slashedPath (document : Document) : String :=
  String.ofList (document.path.toList.map fun character =>
    if character = '\\' then '/' else character)

/-- Whether the path has an ending for views. -/
def hasViewEnding (document : Document) : Bool :=
  viewEndings.any fun ending => ending.toList.isSuffixOf document.slashedPath.toList

end Document

/-- Options that have been checked, with their globs read. -/
structure Pipeline where
  options : Options
  pathFilter : Glob.Group
  namespaceFilter : Glob.Group

namespace Pipeline

/-- Reads the globs of the options, those for paths first. -/
def ofOptions (options : Options) : Except ConfigurationError Pipeline := do
  let pathFilter ←
    (Glob.Group.ofPatterns options.pathPatterns).mapError .invalidPattern
  let namespaceFilter ←
    (Glob.Group.ofPatterns options.namespacePatterns).mapError .invalidPattern
  .ok ⟨options, pathFilter, namespaceFilter⟩

/--
Prepares a run: reads the globs of the options and registers the templates for
its sources.  Whatever is wrong with the options shows before a document is
read.
-/
def prepare (options : Options) : Except GenerationError (Pipeline × Generator) := do
  let pipeline ← (ofOptions options).mapError .configuration
  let generator ← (Generator.ofSettings options.sourceSettings).mapError .template
  .ok (pipeline, generator)

/-- Whether a document counts by its path. -/
def accepts
    (pipeline : Pipeline)
    (document : Document) :
    Bool :=
  document.hasViewEnding && pipeline.pathFilter.matchesText document.slashedPath

/-- The file for a view whose namespace counts. -/
def fileFor
    (pipeline : Pipeline)
    (view : View) :
    Except GenerationError GeneratedFile := do
  let options := pipeline.options
  let accessors ←
    (options.accessorSettings.accessors view.document).mapError fun error =>
      .document (.resolution error)
  let content ←
    (options.sourceSettings.code view.namespaceName view.className view.rootType
      accessors).mapError .template
  let name :=
    options.fileNaming.fileName options.language view.namespaceName view.className
  .ok ⟨name, content⟩

/-- The file for a document, if the document is a view whose namespace counts. -/
def process
    (pipeline : Pipeline)
    (document : Document) :
    Except GenerationError (Option GeneratedFile) := do
  let found ←
    (View.ofText? pipeline.options.namespaces document.text).mapError fun error =>
      .document (.markup error)
  match found with
  | none => .ok none
  | some view =>
    if pipeline.namespaceFilter.matchesText view.namespaceName then
      (pipeline.fileFor view).map some
    else
      .ok none

/-- The files for the views among the documents, or the first error. -/
def generate
    (pipeline : Pipeline)
    (documents : List Document) :
    Except GenerationError (List GeneratedFile) :=
  ((documents.filter pipeline.accepts).mapM pipeline.process).map List.reduceOption

/-- What became of one document, unless it does not count. -/
def report?
    (pipeline : Pipeline)
    (document : Document) :
    Option (String × Except GenerationError GeneratedFile) :=
  match pipeline.process document with
  | .ok none => none
  | .ok (some file) => some (document.path, .ok file)
  | .error error => some (document.path, .error error)

/-- What became of every document that counts, under its path. -/
def generateEach
    (pipeline : Pipeline)
    (documents : List Document) :
    List (String × Except GenerationError GeneratedFile) :=
  (documents.filter pipeline.accepts).filterMap pipeline.report?

end Pipeline

/-- A run with the given options: checks them and generates the files. -/
def generate
    (options : Options)
    (documents : List Document) :
    Except GenerationError (List GeneratedFile) := do
  let pipeline ← (Pipeline.ofOptions options).mapError .configuration
  pipeline.generate documents

end ViewAccessors
