import AspRust.Analysis.Report
import AspRust.Discovery.PackageRoots
import AspRust.Foundation.Program

/-!
# What the analysis asks of the file system

The analysis reads the file system in many places: the walk for sources, the
manifest reader, the test target parser, and rule by rule.  It is written here
as a program that asks questions, and this file is the list of its questions.
`answers` is what a file system replies, by the functions that model discovery
and the manifest parser.

Two states of the file system give the same analysis when they answer alike the
questions the analysis asks; nothing else of a state can matter.

### Design notes

A question is as coarse as the function that answers it.  The manifest is one question with
the facts as its answer, although many files can lie behind it, and so is the walk for
sources; what these functions look at is described where they are modelled.  The single
lookups of a rule are questions of their own, in the order in which the rule makes them.
-/

namespace AspRust.Analysis

open AspRust.Foundation AspRust.Discovery

/-- The table a dependency is listed in. -/
inductive CargoDependencyKind where
  | normal
  | dev
  | build
deriving DecidableEq, Repr

/-- What is read of the dependencies of a package. -/
structure CargoDependencyFacts where
  packageName : String
  kind : CargoDependencyKind
deriving DecidableEq, Repr

def dependencyTableFacts (kind : CargoDependencyKind) (table : DepsSet) :
    List CargoDependencyFacts :=
  table.entries.map fun entry => ⟨entry.2.package.getD entry.1, kind⟩

/-- The dependencies of a manifest, of the package and of every platform. -/
def manifestDependencyFacts (manifest : Manifest) : List CargoDependencyFacts :=
  dependencyTableFacts .normal manifest.dependencies ++
    dependencyTableFacts .dev manifest.devDependencies ++
    dependencyTableFacts .build manifest.buildDependencies ++
    manifest.target.values.flatMap fun table =>
      dependencyTableFacts .normal table.dependencies ++
        dependencyTableFacts .dev table.devDependencies ++
        dependencyTableFacts .build table.buildDependencies

/-- The questions of the analysis, by the type of their answer. -/
inductive FileQuery : Type → Type where
  /-- Something is at the path, links followed. -/
  | pathExists (path : Path) : FileQuery Bool
  /-- The path leads to a regular file. -/
  | isFile (path : Path) : FileQuery Bool
  /-- The path leads to a directory. -/
  | isDir (path : Path) : FileQuery Bool
  /-- The names in the directory a path leads to, in listing order. -/
  | entryNames (path : Path) : FileQuery (Option (List String))
  /-- The text of the file a path leads to. -/
  | readToString (path : Path) : FileQuery (Except String String)
  /-- The path without links that a path leads to. -/
  | canonicalize (path : Path) : FileQuery (Option Path)
  /-- The manifest facts of a package root (`parse_cargo_manifest`). -/
  | cargoManifest (projectRoot : Path) : FileQuery CargoManifestFacts
  /-- The manifest facts of a package root that must have some. -/
  | requiredCargoManifest (projectRoot : Path) : FileQuery (Except String CargoManifestFacts)
  /-- The dependencies in the manifest of a package root. -/
  | cargoDependencies (projectRoot : Path) : FileQuery (List CargoDependencyFacts)
  /-- The package roots a walk of a package does not enter. -/
  | exclusionRoots (packageRoot : Path) (ignored hidden : OrderedSet String) :
      FileQuery (OrderedSet Path)
  /-- The Rust files below a list of paths. -/
  | rustFiles (filter : WalkFilter) (paths : List Path) : FileQuery (List Path)

/-- Reading a file as text, with the texts of the errors. -/
def readToString (fs : FileSystem) (path : Path) : Except String String :=
  match fs.stat path with
  | some (.file content _) =>
      match fromUtf8 content with
      | .ok text => .ok (String.ofList text)
      | .error _ => .error "stream did not contain valid UTF-8"
  | some (.directory _) => .error "Is a directory (os error 21)"
  | some _ => .error "No such device or address (os error 6)"
  | none => .error "No such file or directory (os error 2)"

/-- The dependencies of a package; none when its manifest cannot be read. -/
def parseCargoDependencyFacts (fromPath : ManifestReader) (fs : FileSystem)
    (projectRoot : Path) : List CargoDependencyFacts :=
  match fromPath fs (Path.join projectRoot "Cargo.toml") with
  | .error _ => []
  | .ok manifest => manifestDependencyFacts manifest

/-- The answers of a file system. -/
def answers (fromPath : ManifestReader) (fs : FileSystem) : Answers FileQuery
  | _, .pathExists path => fs.pathExists path
  | _, .isFile path => fs.isFile path
  | _, .isDir path => fs.isDir path
  | _, .entryNames path => (fs.readDir path).map fun entries => entries.map Prod.fst
  | _, .readToString path => readToString fs path
  | _, .canonicalize path => fs.canonicalize path
  | _, .cargoManifest projectRoot => parseCargoManifest fromPath fs projectRoot
  | _, .requiredCargoManifest projectRoot => parseRequiredCargoManifest fromPath fs projectRoot
  | _, .cargoDependencies projectRoot => parseCargoDependencyFacts fromPath fs projectRoot
  | _, .exclusionRoots packageRoot ignored hidden =>
      cargoPackageExclusionRoots fromPath fs packageRoot ignored hidden
  | _, .rustFiles filter paths => discoverRustPackageFiles filter fs paths

/-- Code that asks the file system. -/
abbrev FileProgram := Program FileQuery

/-- Ask one question. -/
abbrev ask {α : Type} (query : FileQuery α) : FileProgram α := Program.question query

/-! ## Lists of questions -/

section Lists

variable {α : Type}

/-- The elements that pass a test that asks. -/
def filterAsk (test : α → FileProgram Bool) : List α → FileProgram (List α)
  | [] => pure []
  | head :: rest => do
      let keep ← test head
      let others ← filterAsk test rest
      return if keep then head :: others else others

/-- The first element that passes a test that asks; the rest is not asked about. -/
def findAsk? (test : α → FileProgram Bool) : List α → FileProgram (Option α)
  | [] => pure none
  | head :: rest => do
      if ← test head then return some head
      findAsk? test rest

/-- Some element passes a test that asks; the rest is not asked about. -/
def anyAsk (test : α → FileProgram Bool) (list : List α) : FileProgram Bool := do
  return (← findAsk? test list).isSome

end Lists

end AspRust.Analysis
