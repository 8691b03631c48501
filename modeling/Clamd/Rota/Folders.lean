import Clamd.FileTree.Change
import Clamd.Rota
import Clamd.Text.Blank
import Clamd.Text.Utf8

/-!
# A rota over the folders of a root

The names are those of the folders directly in one root folder. They are texts where nothing else is
said; a system may take other names too, and a rota goes through them all the same.

With a state file the last name survives a restart: it is written there each time a name is given
out, and read back at the start. Trouble with the state file is no trouble for the rota.
-/

namespace Clamd

/-- A rota with the root whose folders it goes through. -/
structure FolderRota (Name : Type := String) [LT Name] where
  /-- The path of the root. -/
  root : String
  /-- Where the last name is kept. -/
  stateFile : Option String := none
  /-- The rota proper. -/
  rota : Rota Name := {}

namespace FolderRota

/-- The name that a state file holds: its text without the blanks around it, unless nothing is left.
-/
def savedName (content : Except Fault ByteArray) : Option String :=
  match content with
  | .error _ => none
  | .ok bytes =>
    match Text.Utf8.decode? bytes with
    | none => none
    | some text =>
      let name := Text.trimmed text
      if name.isEmpty then none else some name

/-- What is written to a state file for `name`. -/
def savedContent (name : String) : ByteArray :=
  Text.Utf8.encode name

/-- A rota over the folders of `root` that goes on where the state file, if one is given with its
content, says. It has no names before its first refresh. -/
def resume (root : String) (state : Option (String × Except Fault ByteArray)) : FolderRota :=
  { root
    stateFile := state.map (·.1)
    rota := { cursor := state.bind fun s => savedName s.2 } }

/-- A rota over the folders of `root` in a tree of files. -/
def openIn (tree : FileTree) (root : String) (stateFile : Option String) : FolderRota :=
  resume root (stateFile.map fun path => (path, tree.read path))

section Names

variable {Name : Type} [LT Name] [DecidableLT Name]

/-- Takes over what a look at the root found. -/
def refresh [DecidableEq Name] [LE Name] [Std.IsLinearOrder Name] [Std.LawfulOrderLT Name]
    (r : FolderRota Name) (found : Except Fault (List Name)) :
    Except Fault Unit × FolderRota Name :=
  let (result, rota) := r.rota.refresh found
  (result, { r with rota })

/-- Gives out the next name. -/
def next (r : FolderRota Name) : Option Name × FolderRota Name :=
  let (name, rota) := r.rota.next
  (name, { r with rota })

end Names

/-- Looks at the root in a tree of files. -/
def refreshIn (tree : FileTree) (r : FolderRota) : Except Fault Unit × FolderRota :=
  r.refresh (tree.folders r.root)

/-- What to write to the state file when `name` has been given out. -/
def saving (r : FolderRota) (name : Option String) : Option (String × ByteArray) :=
  match r.stateFile, name with
  | some path, some name => some (path, savedContent name)
  | _, _ => none

/-- Gives out the next name and saves it in a tree of files. A write that fails changes nothing. -/
def nextIn (tree : FileTree) (r : FolderRota) : Option String × FolderRota × FileTree :=
  let (name, r) := r.next
  match r.saving name with
  | some (path, content) => (name, r, (tree.write path content).toOption.getD tree)
  | none => (name, r, tree)

/-- The path of a folder that the rota has named. -/
def path (r : FolderRota) (name : String) : String :=
  Path.join r.root name

end FolderRota

end Clamd
