import Clamd.FileTree

/-!
# Changes to a tree of files

Making, removing and writing files, folders and links, each with the faults that it may meet.

Most changes are made whole or not at all. Two take several steps, and leave behind what was done
before a step that fails: `makeFolders` makes one folder after another, and `removeFolder` removes
what is in a folder before the folder itself.
-/

namespace Clamd.FileTree

/-- Makes one folder. Nothing may be there yet, not even a link. -/
def makeFolder (tree : FileTree) (path : String) : Except Fault FileTree := do
  let tip ← tree.tip path
  if !tip.isNamed then throw (.system .alreadyExists)
  match ← tip.entry? with
  | some _ => throw (.system .alreadyExists)
  | none => return (tip.folder.put tip.part (.folder [])).tree

/-- The outcome of making one folder where one that is there already will do as well. -/
def settle (tree : FileTree) (path : String) : Except Fault FileTree → Except Fault Unit × FileTree
  | .ok made => (.ok (), made)
  | .error fault => (if tree.isFolder path then .ok () else .error fault, tree)

/-- Makes the folder at a path. If it cannot be made for lack of a folder above it, the one that is
reached by the steps `above`, the last step first, is made before it in the same way. -/
def makeFoldersBelow (tree : FileTree) (path : String) :
    List String → Except Fault Unit × FileTree
  | [] => tree.settle path (tree.makeFolder path)
  | step :: above =>
    match tree.makeFolder path with
    | .error (.system .notFound) =>
      match tree.makeFoldersBelow ("/".intercalate (step :: above).reverse) above with
      | (.error fault, tree) => (.error fault, tree)
      | (.ok (), tree) => tree.settle path (tree.makeFolder path)
    | result => tree.settle path result

/-- Makes the folder at a path and all folders above it that are missing. It may be there already.
-/
def makeFolders (tree : FileTree) (path : String) : Except Fault Unit × FileTree :=
  tree.makeFoldersBelow path ((Path.steps path).reverse.drop 1)

/-- Removes a folder in which nothing is. -/
def removeEmptyFolder (tree : FileTree) (path : String) : Except Fault FileTree := do
  let tip ← tree.tip path
  if tip.part == "." then throw (.system .invalidArgument)
  if tip.part == ".." then throw (.system .notEmpty)
  match ← tip.entry? with
  | some (.folder []) => return (tip.folder.erase tip.part).tree
  | some (.folder _) => throw (.system .notEmpty)
  | some _ => throw (.system .notADirectory)
  | none => throw (.system .notFound)

/-- Removes a folder with all that is in it. A link is removed itself.

The folder is emptied first. The path may lead through what was in it, as `a/..` does: it then leads
nowhere any more, the empty folder stays, and all is well. -/
def removeFolder (tree : FileTree) (path : String) : Except Fault Unit × FileTree :=
  match tree.find path .itself with
  | .error fault => (.error fault, tree)
  | .ok (.free _ _) => (.error (.system .notFound), tree)
  | .ok (.file _ _ _) => (.error (.system .notADirectory), tree)
  | .ok (.link folder name _) => (.ok (), (folder.erase name).tree)
  | .ok (.folder folder) =>
    let tree := folder.clear.tree
    match tree.removeEmptyFolder path with
    | .ok tree => (.ok (), tree)
    | .error (.system .notFound) => (.ok (), tree)
    | .error fault => (.error fault, tree)

/-- Removes a file or a link. -/
def remove (tree : FileTree) (path : String) : Except Fault FileTree := do
  let tip ← tree.tip path
  if !tip.isNamed then throw (.system .isADirectory)
  match ← tip.entry? with
  | none => throw (.system .notFound)
  | some (.folder _) => throw (.system .isADirectory)
  | some _ =>
    if tip.slashed then throw (.system .notADirectory)
    else return (tip.folder.erase tip.part).tree

/-- Writes a file, which is made if it is missing. Its folder has to be there. -/
def write (tree : FileTree) (path : String) (content : ByteArray) : Except Fault FileTree := do
  match ← tree.find path .writable with
  | .file folder name _ => return (folder.put name (.file content)).tree
  | .free folder name => return (folder.put name (.file content)).tree
  | _ => throw (.system .isADirectory)

/-- Makes a link to `target`. -/
def makeLink (tree : FileTree) (path target : String) : Except Fault FileTree := do
  if path.toList.contains '\x00' then throw .nulInName
  checkPath target
  let tip ← tree.tip path
  if !tip.isNamed then throw (.system .alreadyExists)
  match ← tip.entry? with
  | some _ => throw (.system .alreadyExists)
  | none =>
    if tip.slashed then throw (.system .notFound)
    else return (tip.folder.put tip.part (.link target)).tree

/-- A change to a tree. -/
inductive Change where
  /-- Make a folder and those above it. -/
  | makeFolders (path : String)
  /-- Remove a folder with its content. -/
  | removeFolder (path : String)
  /-- Remove a file. -/
  | remove (path : String)
  /-- Write a file. -/
  | write (path : String) (content : ByteArray)
  /-- Make a link. -/
  | makeLink (path target : String)

/-- The outcome of a change that is made whole or not at all. -/
def whole (tree : FileTree) : Except Fault FileTree → Except Fault Unit × FileTree
  | .ok changed => (.ok (), changed)
  | .error fault => (.error fault, tree)

/-- Carries out a change. A change that fails may have been made in part. -/
def apply (tree : FileTree) : Change → Except Fault Unit × FileTree
  | .makeFolders path => tree.makeFolders path
  | .removeFolder path => tree.removeFolder path
  | .remove path => tree.whole (tree.remove path)
  | .write path content => tree.whole (tree.write path content)
  | .makeLink path target => tree.whole (tree.makeLink path target)

/-- Carries out changes one after another, whether or not they fail. -/
def applyAll (tree : FileTree) (changes : List Change) : FileTree :=
  changes.foldl (fun tree change => (tree.apply change).2) tree

end Clamd.FileTree
