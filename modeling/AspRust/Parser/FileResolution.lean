import AspRust.Foundation.LexicalResolution
import AspRust.Parser.ModuleTree

/-!
# How the compiler finds the files of a crate

This is not a model of the repository's code but of what its module tree is compared
with: the rules by which the Rust compiler loads the files of a crate.

A file is loaded in one of two roles.  A crate root, a `mod.rs`, and every file that is
loaded through `#[path]` or `include!` owns its directory: its modules are looked up
beside it.  A file found as `name.rs` for `mod name;` owns the directory `name` beside it.
An inline module adds its name to the directory, or replaces it by its own `#[path]`; a
function body and the like has no directory, so that only `#[path]` and `include!` load
files from there.  The path of `include!` starts from the directory of the file in which
the call stands, wherever in it that is.
-/

namespace AspRust.Parser

open AspRust.Foundation

/-- Where a path leads from the root of the file system. -/
def leadsTo (path : Path) : Path := (Path.climb path).names.map .normal

/-- The files of a package.  A file is known by the names that lead to it, and one file
stands at a place. -/
structure SourceTree where
  files : List SourceFile
  named : ∀ file ∈ files, leadsTo file.path = file.path
  distinct : (files.map SourceFile.path).Nodup

/-- A file together with the role in which it was loaded. -/
structure LoadedFile where
  path : Path
  /-- The directory of its modules, below the one the file is in, if it has its own. -/
  relative : Option String
deriving DecidableEq, Repr

/-- The directory in which the modules of a loaded file are looked up. -/
def LoadedFile.baseDir (loaded : LoadedFile) : Path :=
  parentDir loaded.path ++ loaded.relative.toList.map .normal

/-- What a place in a file has for its modules. -/
inductive DirOwnership where
  /-- A directory, or the one of this name in it. -/
  | owned (relative : Option String)
  /-- No directory: the place is in a body. -/
  | unownedViaBlock
deriving DecidableEq, Repr

namespace SourceTree

variable (tree : SourceTree)

def has (path : Path) : Bool := tree.files.any fun file => file.path = path

/-- The file at the end of a path, as an owner of its directory. -/
def openFile (path : Path) : Option LoadedFile :=
  if tree.has (leadsTo path) then some ⟨leadsTo path, none⟩ else none

/-- The file of `mod name;`.  It is an error if there is none, or if both forms exist. -/
def defaultSubmodPath (ident : Ident) (relative : Option String) (dirPath : Path) :
    Option LoadedFile :=
  let base := dirPath ++ relative.toList.map .normal
  let defaultPath := leadsTo (base ++ [.normal (ident.name ++ ".rs")])
  let secondaryPath := leadsTo (base ++ [.normal ident.name, .normal "mod.rs"])
  match tree.has defaultPath, tree.has secondaryPath with
  | true, false => some ⟨defaultPath, some ident.name⟩
  | false, true => some ⟨secondaryPath, none⟩
  | _, _ => none

/-- The file of an out-of-line module. -/
def modFilePath (attrs : List Attribute) (ident : Ident) (dirPath : Path)
    (dirOwnership : DirOwnership) : Option LoadedFile :=
  match pathAttrValue attrs, dirOwnership with
  | some value, _ => tree.openFile (Path.join dirPath value)
  | none, .owned relative => tree.defaultSubmodPath ident relative dirPath
  | none, .unownedViaBlock => none

/-- The directory of an inline module. -/
def modDirPath (attrs : List Attribute) (ident : Ident) (dirPath : Path)
    (dirOwnership : DirOwnership) : Path × DirOwnership :=
  match pathAttrValue attrs, dirOwnership with
  | some value, _ => (Path.join dirPath value, .owned none)
  | none, .owned relative =>
      (dirPath ++ relative.toList.map .normal ++ [.normal ident.name], .owned none)
  | none, .unownedViaBlock => (dirPath ++ [.normal ident.name], .unownedViaBlock)

/-- The macro of the standard library. -/
def isInclude (path : List String) : Bool :=
  path ∈ [["include"], ["std", "include"], ["core", "include"]]

/-- The file of a macro call in a file of some directory. -/
def includedFile (fileDir : Path) (path : List String) : MacroTokens → Option LoadedFile
  | .literal value _ => if isInclude path then tree.openFile (Path.join fileDir value) else none
  | .other => none

mutual

/-- The files an item loads.  What is only there under `cfg(test)` is left out. -/
def itemLoads (fileDir dirPath : Path) (dirOwnership : DirOwnership) : Item → List LoadedFile
  | .mod attrs ident =>
      if attrsHaveCfgTest attrs then []
      else (tree.modFilePath attrs ident dirPath dirOwnership).toList
  | .inlineMod attrs ident content =>
      if attrsHaveCfgTest attrs then []
      else itemsLoad fileDir (modDirPath attrs ident dirPath dirOwnership).1
        (modDirPath attrs ident dirPath dirOwnership).2 content
  | .macroCall attrs path tokens =>
      if attrsHaveCfgTest attrs then [] else (tree.includedFile fileDir path tokens).toList
  | .other attrs body =>
      if attrsHaveCfgTest attrs then [] else itemsLoad fileDir dirPath .unownedViaBlock body

/-- The files that a list of items loads. -/
def itemsLoad (fileDir dirPath : Path) (dirOwnership : DirOwnership) :
    List Item → List LoadedFile
  | [] => []
  | item :: rest =>
      itemLoads fileDir dirPath dirOwnership item ++ itemsLoad fileDir dirPath dirOwnership rest

end

/-- The files that a loaded file loads. -/
def loads (loaded : LoadedFile) : List LoadedFile :=
  (tree.files.filter fun file => file.path = loaded.path).flatMap fun file =>
    tree.itemsLoad (parentDir file.path) (parentDir file.path) (.owned loaded.relative) file.items

/-- The files that a crate with some roots loads. -/
inductive Loaded (roots : List Path) : LoadedFile → Prop
  | root {path : Path} : path ∈ roots → Loaded roots ⟨path, none⟩
  | load {first second : LoadedFile} :
      Loaded roots first → second ∈ tree.loads first → Loaded roots second

/-- The file is part of a crate with some roots. -/
def Reaches (roots : List Path) (path : Path) : Prop :=
  ∃ loaded, tree.Loaded roots loaded ∧ loaded.path = path

end SourceTree

end AspRust.Parser
