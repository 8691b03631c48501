import Clamd.Fault
import Clamd.Path

/-!
# A tree of files

Folders, files and symbolic links under one top folder, with the rules by which a path is followed:
`..` leads to the folder above the one that was reached, links lead on, and a path that ends in a
slash means a folder. Every path starts at the top.

A place in a tree is given by a `Folder`, which knows the folders above it, so that a change to its
entries gives the changed tree. A path is followed to such a place by `FileTree.find`, or to the
folder in which its last part stands by `FileTree.tip`.
-/

namespace Clamd

/-- What has a name in a folder. -/
inductive FileTree.Entry where
  | file (content : ByteArray)
  /-- A link to the path `target`. -/
  | link (target : String)
  | folder (entries : List (String × FileTree.Entry))

/-- A tree of files. -/
structure FileTree where
  /-- What is in the top folder. -/
  entries : List (String × FileTree.Entry) := []

namespace FileTree

/-- Entries with a new one of a name, in place of one that is there. -/
def withEntry (entries : List (String × Entry)) (name : String) (entry : Entry) :
    List (String × Entry) :=
  (name, entry) :: entries.filter (·.1 != name)

/-- A folder in a tree. -/
structure Folder where
  /-- What is in the folder. -/
  entries : List (String × Entry)
  /-- The folders above it, the nearest one first, each with the name that leads on from there. -/
  above : List (String × List (String × Entry)) := []

namespace Folder

/-- The entry of a name. -/
def entry? (f : Folder) (name : String) : Option Entry :=
  (f.entries.find? (·.1 == name)).map (·.2)

/-- The names of the entries, in no particular order. -/
def names (f : Folder) : List String :=
  f.entries.map (·.1)

/-- The folder of a name, which holds `entries`. -/
def enter (f : Folder) (name : String) (entries : List (String × Entry)) : Folder :=
  { entries, above := (name, f.entries) :: f.above }

/-- The folder above. The top is above itself. -/
def leave (f : Folder) : Folder :=
  match f.above with
  | [] => f
  | (_, entries) :: above => { entries, above }

/-- The folder with a new entry of a name, in place of one that is there. -/
def put (f : Folder) (name : String) (entry : Entry) : Folder :=
  { f with entries := withEntry f.entries name entry }

/-- The folder without the entry of a name. -/
def erase (f : Folder) (name : String) : Folder :=
  { f with entries := f.entries.filter (·.1 != name) }

/-- The folder with nothing in it. -/
def clear (f : Folder) : Folder :=
  { f with entries := [] }

/-- The tree in which the folder is. -/
def tree (f : Folder) : FileTree :=
  { entries := f.above.foldl (fun inner up => withEntry up.2 up.1 (.folder inner)) f.entries }

end Folder

/-- The top folder. -/
def top (tree : FileTree) : Folder :=
  { entries := tree.entries }

/-- A place to which a path leads. -/
inductive Place where
  | file (folder : Folder) (name : String) (content : ByteArray)
  | link (folder : Folder) (name : String) (target : String)
  | folder (folder : Folder)
  /-- No entry yet, but there is the folder in which `name` would be. -/
  | free (folder : Folder) (name : String)

/-- How the end of a path is taken. -/
inductive Ending where
  /-- A link at the end is followed. -/
  | followed
  /-- A link at the very end, with no slash after it, is meant itself. -/
  | itself
  /-- A link at the end is followed to a file that may have yet to be made. A slash after the last
  name is refused, for it means a folder. -/
  | writable
  deriving DecidableEq, Repr

/-- The greatest number of bytes in a name. -/
def nameLimit : Nat := 255

/-- The greatest number of bytes in a path. -/
def pathLimit : Nat := 4095

/-- How many links one path may lead through. -/
def linkLimit : Nat := 40

/-- The folder where the target of a link begins that stands in `folder`. -/
def linkStart (tree : FileTree) (folder : Folder) (target : String) : Folder :=
  if target.startsWith "/" then tree.top else folder

/-- Follows the parts of a path from `folder` on, through at most `links` links. -/
def walk (tree : FileTree) (ending : Ending) (links : Nat) (folder : Folder) :
    List String → Except Fault Place
  | [] => .ok (.folder folder)
  | part :: rest =>
    if Path.isIdle part then walk tree ending links folder rest
    else if part == ".." then walk tree ending links folder.leave rest
    else if ending == .writable && !rest.isEmpty && rest.all (·.isEmpty) then
      .error (.system .isADirectory)
    else if nameLimit < part.utf8ByteSize then .error (.system .nameTooLong)
    else
      match folder.entry? part with
      | none =>
        if rest.all (·.isEmpty) then .ok (.free folder part) else .error (.system .notFound)
      | some (.file content) =>
        if rest.isEmpty then .ok (.file folder part content) else .error (.system .notADirectory)
      | some (.folder entries) => walk tree ending links (folder.enter part entries) rest
      | some (.link target) =>
        if ending == .itself && rest.isEmpty then .ok (.link folder part target)
        else match links with
          | 0 => .error (.system .tooManyLinks)
          | links + 1 =>
            walk tree ending links (tree.linkStart folder target) (Path.parts target ++ rest)
termination_by parts => (links, parts.length)

/-- Refuses a text that is no path. -/
def checkPath (path : String) : Except Fault Unit :=
  if path.toList.contains '\x00' then .error .nulInName
  else if path.isEmpty then .error (.system .notFound)
  else if pathLimit < path.utf8ByteSize then .error (.system .nameTooLong)
  else .ok ()

/-- The place to which a path leads. -/
def find (tree : FileTree) (path : String) (ending : Ending := .followed) : Except Fault Place := do
  checkPath path
  tree.walk ending linkLimit tree.top (Path.parts path)

/-- The end of a path. -/
structure Tip where
  /-- The folder in which the last part stands. -/
  folder : Folder
  /-- The last part: a name, or `.` or `..`. -/
  part : String
  /-- Whether a slash follows the last part. -/
  slashed : Bool

/-- Whether the last part is a name. -/
def Tip.isNamed (tip : Tip) : Bool :=
  tip.part != "." && tip.part != ".."

/-- What stands at the end of a path whose last part is a name. A link there is not followed. -/
def Tip.entry? (tip : Tip) : Except Fault (Option Entry) :=
  if nameLimit < tip.part.utf8ByteSize then .error (.system .nameTooLong)
  else .ok (tip.folder.entry? tip.part)

/-- The end of a path, all parts before the last one followed. -/
def tip (tree : FileTree) (path : String) : Except Fault Tip := do
  checkPath path
  match (Path.parts path).reverse.dropWhile (·.isEmpty) with
  | [] => return { folder := tree.top, part := ".", slashed := true }
  | part :: before =>
    match ← tree.walk .followed linkLimit tree.top before.reverse with
    | .folder folder => return { folder, part, slashed := path.endsWith "/" }
    | .free _ _ => throw (.system .notFound)
    | _ => throw (.system .notADirectory)

/-- Whether a path leads to a folder. -/
def isFolder (tree : FileTree) (path : String) : Bool :=
  match tree.find path with
  | .ok (.folder _) => true
  | _ => false

/-- Whether a path leads to a file. -/
def isFile (tree : FileTree) (path : String) : Bool :=
  match tree.find path with
  | .ok (.file _ _ _) => true
  | _ => false

/-- What is opened for reading at a path: the bytes of a file, or nothing but a folder, whose first
read fails. -/
def open? (tree : FileTree) (path : String) : Except Fault (Option ByteArray) := do
  match ← tree.find path with
  | .file _ _ content => return some content
  | .free _ _ => throw (.system .notFound)
  | _ => return none

/-- The bytes of the file at a path. -/
def read (tree : FileTree) (path : String) : Except Fault ByteArray := do
  match ← tree.open? path with
  | none => throw (.system .isADirectory)
  | some content => return content

/-- The names in the folder at a path that lead to folders themselves, in no particular order. Each
is followed by its whole path, so that it may be out of reach though the folder is not. -/
def folders (tree : FileTree) (path : String) : Except Fault (List String) := do
  match ← tree.find path with
  | .folder folder =>
    return folder.names.filter fun name => tree.isFolder (Path.join path name)
  | .free _ _ => throw (.system .notFound)
  | _ => throw (.system .notADirectory)

end FileTree

end Clamd
