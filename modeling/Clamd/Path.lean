/-!
# Paths

A path is a text whose parts stand between slashes. Nothing here looks at files: two paths are told
apart by their text alone.
-/

namespace Clamd.Path

/-- The parts of a path between its slashes, empty ones included. -/
def parts (path : String) : List String :=
  path.splitOn "/"

/-- Whether a part leads nowhere else. -/
def isIdle (part : String) : Bool :=
  part.isEmpty || part == "."

/-- The parts of a path that lead somewhere. -/
def steps (path : String) : List String :=
  (parts path).filter (!isIdle ·)

/-- The path of `name` inside the folder at `path`. -/
def join (path name : String) : String :=
  if path.isEmpty || path.endsWith "/" then path ++ name else path ++ "/" ++ name

/-- A path without the idle parts at its two ends. -/
def tidy (path : String) : String :=
  let front := (parts path).dropWhile isIdle
  "/".intercalate (front.reverse.dropWhile isIdle).reverse

/-- What is left of `path` below the folder whose path is `base`, if it begins there. -/
def below? (base path : String) : Option String :=
  if (parts base).isPrefixOf (parts path) then
    some (tidy ("/".intercalate ((parts path).drop (parts base).length)))
  else none

end Clamd.Path
