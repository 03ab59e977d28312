import AspRust.Foundation.DepthFirst
import AspRust.Foundation.Path

/-!
# The module tree

Which files of a package belong to it is read off the declarations in its sources: a file
is reached from a crate root or a binary root through `mod` declarations, `#[path]`
attributes and literal `include!` calls.  Source files that are not reached are reported.

The parser of the Rust grammar is not part of the repository.  A file is taken as the tree
of its items, of which only those that can name another file matter; the facts about the
items at the top level are computed from this tree.

### Design notes

The facts at the top level are those that the source collects: declared modules with their
attributes, and literal arguments of `include!`.  Where a name leads is decided by two
candidates in their order, and only source files count.
-/

namespace AspRust.Parser

open AspRust.Foundation

/-! ## Syntax -/

/-- An identifier; a raw one is written with `r#` before it. -/
structure Ident where
  name : String
  raw : Bool := false
  nonempty : name.toList ≠ [] := by decide
  undotted : '.' ∉ name.toList := by decide
deriving DecidableEq, Repr

/-- The text of an identifier, with the `r#` of a raw one. -/
def Ident.text (ident : Ident) : String := if ident.raw then "r#" ++ ident.name else ident.name

/-- An entry of a `cfg` attribute: the bare word `test`, or something else. -/
inductive CfgPredicate where
  | test
  | other
deriving DecidableEq, Repr

inductive Attribute where
  /-- `#[path = "value"]`. -/
  | path (value : String)
  /-- `#[cfg(..)]`, with the entries between its commas. -/
  | cfg (predicates : List CfgPredicate)
  | other
deriving DecidableEq, Repr

/-- The tokens of a macro call: a string literal, perhaps with a comma after it, or
something else. -/
inductive MacroTokens where
  | literal (value : String) (comma : Bool)
  | other
deriving DecidableEq, Repr

/-- An item of a file. -/
inductive Item where
  /-- `mod name;` -/
  | mod (attrs : List Attribute) (ident : Ident)
  /-- `mod name { .. }` -/
  | inlineMod (attrs : List Attribute) (ident : Ident) (content : List Item)
  /-- A macro call; its path is given segment by segment. -/
  | macroCall (attrs : List Attribute) (path : List String) (tokens : MacroTokens)
  /-- Any other item, with the declarations and macro calls in its bodies. -/
  | other (attrs : List Attribute) (body : List Item)
deriving Repr

/-- A file; one that cannot be parsed has no items. -/
structure SourceFile where
  path : Path
  items : List Item

/-! ## Paths in attributes and macro calls -/

/-- Take back a name for each `..`; nothing stands above the root. -/
def normalizeRustPath (path : Path) : Path :=
  path.foldl (fun normalized component =>
    match component with
    | .parent => normalized.dropLast
    | .normal name => normalized ++ [.normal name]) []

/-- The directory of a file. -/
def parentDir (path : Path) : Path := (Path.parent? path).getD []

def resolveRustPathAttr (sourceFile : Path) (pathValue : String) : Path :=
  normalizeRustPath (Path.join (parentDir sourceFile) pathValue)

def resolveRustIncludeLiteral (sourceFile : Path) (includeTarget : String) : Path :=
  normalizeRustPath (Path.join (parentDir sourceFile) includeTarget)

/-! ## Facts about items -/

/-- A module declaration, as far as the module tree looks at it. -/
structure RustModuleDeclarationSyntax where
  ident : String
  resolvedPathAttr : Option Path
  isInline : Bool
  isCfgTest : Bool
deriving DecidableEq, Repr

/-- An item at the top level, as far as the module tree looks at it. -/
structure RustTopLevelItemSyntax where
  includeTarget : Option String
  module : Option RustModuleDeclarationSyntax
deriving DecidableEq, Repr

def pathAttrValue (attrs : List Attribute) : Option String :=
  attrs.findSome? fun attr =>
    match attr with
    | .path value => some value
    | _ => none

def attributeHasCfgTest : Attribute → Bool
  | .cfg predicates => predicates.any (· = .test)
  | _ => false

def attrsHaveCfgTest (attrs : List Attribute) : Bool := attrs.any attributeHasCfgTest

def moduleDeclarationFromItemMod (attrs : List Attribute) (ident : Ident) (isInline : Bool)
    (sourceFile : Path) : RustModuleDeclarationSyntax where
  ident := ident.text
  resolvedPathAttr := (pathAttrValue attrs).map (resolveRustPathAttr sourceFile)
  isInline := isInline
  isCfgTest := attrsHaveCfgTest attrs

def moduleDeclarationSyntax (item : Item) (sourceFile : Path) :
    Option RustModuleDeclarationSyntax :=
  match item with
  | .mod attrs ident => some (moduleDeclarationFromItemMod attrs ident false sourceFile)
  | .inlineMod attrs ident _ => some (moduleDeclarationFromItemMod attrs ident true sourceFile)
  | _ => none

/-- The literal of an `include!` call, whatever the path before the last segment. -/
def includeLiteralTarget (path : List String) (tokens : MacroTokens) : Option String :=
  if path.getLast? = some "include" then
    match tokens with
    | .literal value false => some value
    | _ => none
  else none

def includeTargetSyntax : Item → Option String
  | .macroCall _ path tokens => includeLiteralTarget path tokens
  | _ => none

def topLevelItemSyntax (item : Item) (sourceFile : Path) : RustTopLevelItemSyntax where
  includeTarget := includeTargetSyntax item
  module := moduleDeclarationSyntax item sourceFile

/-- A parsed file. -/
structure ParsedRustModule where
  path : Path
  topLevelItems : List RustTopLevelItemSyntax
deriving DecidableEq, Repr

/-- Parse a file. -/
def SourceFile.parsed (file : SourceFile) : ParsedRustModule where
  path := file.path
  topLevelItems := file.items.map (topLevelItemSyntax · file.path)

/-! ## Child edges -/

/-- How a file names another one as its child. -/
inductive RustModuleChildEdgeKind where
  | mod
  | pathAttrMod
  | includeLiteral
deriving DecidableEq, Repr

/-- A source file that another one declares. -/
structure RustModuleChildEdge where
  childPath : Path
  kind : RustModuleChildEdgeKind
deriving DecidableEq

def isSpecialRustEntrypointPath (path : Path) : Bool :=
  match Path.fileName? path with
  | some name => name ∈ ["lib.rs", "main.rs", "mod.rs"]
  | none => false

/-- The directory in which the modules of a file are looked up: its own for the special
names, and the one called like the file for others. -/
def childModuleBaseDir (modulePath : Path) : Path :=
  if isSpecialRustEntrypointPath modulePath ||
      Path.fileName? modulePath = some "mod.rs" then parentDir modulePath
  else
    match Path.fileStem? modulePath with
    | none => parentDir modulePath
    | some stem => parentDir modulePath ++ [.normal stem]

/-- An edge to a path, if a source file is there. -/
def edgeTo (sourceFiles : OrderedSet Path) (kind : RustModuleChildEdgeKind) (path : Path) :
    List RustModuleChildEdge :=
  if path ∈ sourceFiles.keys then [⟨path, kind⟩] else []

/-- The edges of one declaration. -/
def moduleEdges (modulePath : Path) (sourceFiles : OrderedSet Path) (includeCfgTest : Bool)
    (itemMod : RustModuleDeclarationSyntax) : List RustModuleChildEdge :=
  if itemMod.isInline || (itemMod.isCfgTest && !includeCfgTest) then []
  else
    match itemMod.resolvedPathAttr with
    | some resolved => edgeTo sourceFiles .pathAttrMod resolved
    | none =>
        let base := childModuleBaseDir modulePath
        edgeTo sourceFiles .mod (base ++ [.normal (itemMod.ident ++ ".rs")]) ++
          edgeTo sourceFiles .mod (base ++ [.normal itemMod.ident, .normal "mod.rs"])

/-- The edges of one item. -/
def itemEdges (modulePath : Path) (sourceFiles : OrderedSet Path) (includeCfgTest : Bool)
    (item : RustTopLevelItemSyntax) : List RustModuleChildEdge :=
  (match item.includeTarget with
    | some includeTarget => edgeTo sourceFiles .includeLiteral
        (resolveRustIncludeLiteral modulePath includeTarget)
    | none => []) ++
  (match item.module with
    | some itemMod => moduleEdges modulePath sourceFiles includeCfgTest itemMod
    | none => [])

def externalChildModuleEdgesWithTestCfg (module : ParsedRustModule)
    (sourceFiles : OrderedSet Path) (includeCfgTest : Bool) : List RustModuleChildEdge :=
  module.topLevelItems.flatMap (itemEdges module.path sourceFiles includeCfgTest)

def externalChildModuleEdges (module : ParsedRustModule) (sourceFiles : OrderedSet Path) :
    List RustModuleChildEdge :=
  externalChildModuleEdgesWithTestCfg module sourceFiles false

/-! ## Reachable files -/

def isUnderAnyDir (path : Path) (dirs : List Path) : Bool := dirs.any fun dir => dir.isPrefixOf path

/-- Crate roots and binary roots, by their place below a source directory. -/
def isModuleTreeRoot (sourcePaths : List Path) (path : Path) : Bool :=
  sourcePaths.any fun sourceRoot =>
    path = sourceRoot ++ [.normal "lib.rs"] || path = sourceRoot ++ [.normal "main.rs"] ||
      match Path.stripPrefix? sourceRoot path with
      | some [first, _] => first = .normal "bin"
      | some [first, _, file] => first = .normal "bin" && file = .normal "main.rs"
      | _ => false

/-- The parsed files under the source directories. -/
def sourceFilesOf (sourcePaths : List Path) (modules : List ParsedRustModule) : OrderedSet Path :=
  OrderedSet.ofList ((modules.filter fun module => isUnderAnyDir module.path sourcePaths).map
    ParsedRustModule.path)

def modulesByPath (modules : List ParsedRustModule) : OrderedMap Path ParsedRustModule :=
  OrderedMap.insertAll ParsedRustModule.path id modules ∅

/-- The files an element of the stack leads to. -/
def childPaths (modules : List ParsedRustModule) (sourceFiles : OrderedSet Path) (path : Path) :
    List Path :=
  match (modulesByPath modules).get? path with
  | some module => (externalChildModuleEdges module sourceFiles).map RustModuleChildEdge.childPath
  | none => []

/-- The roots among the source files. -/
def rootFiles (sourcePaths : List Path) (sourceFiles : OrderedSet Path) : OrderedSet Path :=
  OrderedSet.ofList (sourceFiles.keys.filter (isModuleTreeRoot sourcePaths))

/-- The search from the roots.  A run makes a step for each root and for each edge at most. -/
def reachableSourceFiles (sourcePaths : List Path) (modules : List ParsedRustModule)
    (sourceFiles : OrderedSet Path) : OrderedSet Path :=
  let roots := rootFiles sourcePaths sourceFiles
  let fuel := roots.keys.length +
    (sourceFiles.keys.map fun path => (childPaths modules sourceFiles path).length).sum
  DepthFirst.visit (childPaths modules sourceFiles) fuel roots.keys.reverse ∅

structure RustModuleSourceShadow where
  fileForm : Path
  modForm : Path
deriving DecidableEq, Repr

/-- The sources of a module that has both forms. -/
def shadowedModuleSources (sourceFiles : OrderedSet Path) : List RustModuleSourceShadow :=
  (sourceFiles.keys.filter fun path => Path.fileName? path = some "mod.rs").filterMap fun modForm =>
    match Path.fileName? (parentDir modForm) with
    | none => none
    | some moduleName =>
        let fileForm := parentDir (parentDir modForm) ++ [.normal (moduleName ++ ".rs")]
        if fileForm ∈ sourceFiles.keys then some ⟨fileForm, modForm⟩ else none

structure RustModuleTreeFacts where
  shadowedModuleSources : List RustModuleSourceShadow := []
  unreachableSourceFiles : List Path := []
deriving DecidableEq, Repr

def rustModuleTreeFacts (sourcePaths : List Path) (modules : List ParsedRustModule) :
    RustModuleTreeFacts :=
  let sourceFiles := sourceFilesOf sourcePaths modules
  if sourceFiles.keys = [] then {}
  else
    let reachable := reachableSourceFiles sourcePaths modules sourceFiles
    { shadowedModuleSources := shadowedModuleSources sourceFiles
      unreachableSourceFiles := (sourceFiles.keys.filter fun path =>
        path ∉ reachable.keys).filter fun path => !isModuleTreeRoot sourcePaths path }

end AspRust.Parser
