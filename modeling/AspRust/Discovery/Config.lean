import AspRust.Foundation.FileTree
import AspRust.Foundation.OrderedMap
import AspRust.Verification.Model

/-!
# Harness configuration and scope

The configuration a run is given, the scope it scans, and the name tests that
every directory walk of the harness shares.  Sets and maps of the configuration
are ordered, as they are serialized in order into cache keys.
-/

namespace AspRust.Discovery

open AspRust.Foundation AspRust.Verification

/-- Finding severity. -/
inductive RustDiagnosticSeverity where
  | info
  | warning
  | error
deriving DecidableEq, Repr

namespace RustDiagnosticSeverity

/-- The declaration position, by which severities are ordered. -/
def rank : RustDiagnosticSeverity → ℕ
  | .info => 0
  | .warning => 1
  | .error => 2

theorem rank_injective : Function.Injective rank := by
  intro a b h
  cases a <;> cases b <;> simp_all [rank]

instance : LinearOrder RustDiagnosticSeverity := LinearOrder.lift' rank rank_injective

end RustDiagnosticSeverity

/-- Directory names ignored by default during recursive discovery. -/
def defaultIgnoredDirNames : List String :=
  [".cache", ".direnv", ".git", ".idea", ".jj", ".run", ".vscode", "node_modules", "target"]

/-- Configuration of a harness run, with its defaults. -/
structure AspRustConfig where
  ignoredDirNames : OrderedSet String := OrderedSet.ofList defaultIgnoredDirNames
  includeHiddenDirNames : OrderedSet String := ∅
  blockingSeverities : OrderedSet RustDiagnosticSeverity := OrderedSet.ofList [.warning, .error]
  disabledRules : OrderedSet String := ∅
  ruleSeverityOverrides : OrderedMap String RustDiagnosticSeverity := ∅
  includeTests : Bool := true
  sourceDirNames : List String := ["src"]
  testDirNames : List String := ["tests"]
  sourcePathExplanations : OrderedMap String String := ∅
  testPathExplanations : OrderedMap String String := ∅
  sourcePathExclusionExplanations : OrderedMap String String := ∅
  testPathExclusionExplanations : OrderedMap String String := ∅
  agentAdviceAllowExplanation : Option String := none
  cargoCheckAdviceAllowExplanation : Option String := none
  cargoTestAdviceAllowExplanation : Option String := none
  verificationPolicy : RustVerificationPolicy := {}
deriving DecidableEq

/-- The paths a package run scans. -/
structure AspRustScope where
  projectRoot : Path
  sourcePaths : List Path
  testPaths : List Path
  packagePaths : List Path
  fallbackPaths : List Path
deriving DecidableEq, Repr

/-- The concrete roots scanned by the parser; the fallback is used only when no
conventional root exists. -/
def AspRustScope.monitoredPaths (scope : AspRustScope) : List Path :=
  let selected := scope.sourcePaths ++ scope.testPaths ++ scope.packagePaths
  if selected = [] then scope.fallbackPaths else selected

/-- Lexical normalization: `..` removes what stands before it, also another
`..`, and stays only where nothing stands before it. -/
def normalizeLexicalPath (path : Path) : Path :=
  path.foldl (fun normalized component =>
    match component with
    | .parent => if normalized = [] then [.parent] else normalized.dropLast
    | .normal name => normalized ++ [.normal name]) []

/-- A name discovery does not enter: an ignored one, or a hidden one that is not
included. -/
def shouldIgnoreDirName (ignored hidden : OrderedSet String) (name : String) : Bool :=
  name ∈ ignored.keys ||
    (name.toList.head? = some '.' && name ≠ "." && name ≠ ".." && name ∉ hidden.keys)

/-- The name test on the last component of a path; a path that ends in no name
is not ignored. -/
def shouldIgnore (ignored hidden : OrderedSet String) (path : Path) : Bool :=
  (path.fileName?).any (shouldIgnoreDirName ignored hidden)

/-- A path is a Rust file when its extension is `rs`, whatever the case. -/
def isRustFile (path : Path) : Bool :=
  (path.extension?).any fun extension => eqIgnoreAsciiCase extension.toList "rs".toList

@[simp] theorem shouldIgnore_concat (ignored hidden : OrderedSet String) (path : Path)
    (name : String) :
    shouldIgnore ignored hidden (path ++ [.normal name]) =
      shouldIgnoreDirName ignored hidden name := by
  simp [shouldIgnore]

end AspRust.Discovery
