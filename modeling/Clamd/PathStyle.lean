import Clamd.Text.Quoted

/-!
# Path styles

The host of the daemon may separate the parts of a path otherwise than this one. A path is brought
to the daemon's style before it is sent.
-/

namespace Clamd

/-- How the daemon's host writes paths. -/
inductive PathStyle where
  /-- As this host does; paths are sent as they are. -/
  | native
  | unix
  | windows
  deriving DecidableEq, Repr

namespace PathStyle

instance : Inhabited PathStyle := ⟨native⟩

/-- The name of a style. -/
def name : PathStyle → String
  | native => "native"
  | unix => "unix"
  | windows => "windows"

/-- The style with exactly the given name. -/
def ofName? (name : String) : Option PathStyle :=
  [native, unix, windows].find? (·.name == name)

/-- `path` in the style of the daemon's host. -/
def convert (style : PathStyle) (path : String) : String :=
  match style with
  | native => path
  | unix => String.ofList (path.toList.map fun c => if c = '\\' then '/' else c)
  | windows => String.ofList (path.toList.map fun c => if c = '/' then '\\' else c)

/-- The text that refuses a name which is no style. -/
def unknownMessage (name : String) : String :=
  "unknown file separator " ++ Text.quoted name ++ " (expected native, unix or windows)"

/-- The style that a user's text names, or the text that refuses it. Letters from A to Z are first
made small; other letters are left alone. -/
def parse (text : String) : Except String PathStyle :=
  let name := String.ofList (text.toList.map Char.toLower)
  match ofName? name with
  | some style => .ok style
  | none => .error (unknownMessage name)

end PathStyle

end Clamd
