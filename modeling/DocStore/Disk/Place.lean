/-!
# Paths and places

A path is a text of names with slashes between them. A place is where a path leads to: the names below the working
directory, innermost first, or below the root, which is itself a last name `/`. Above the working directory places
are counted by names `..`.
-/

namespace DocStore.Disk

abbrev Place := List String

def Place.up : Place → Place
  | [] => [".."]
  | name :: outer => if name = "/" then [name] else if name = ".." then ".." :: name :: outer else outer

def Place.isBase : Place → Bool
  | [] => true
  | name :: _ => name = "/" || name = ".."

/-- All that stands between slashes, also nothing. -/
def names (path : String) : List String :=
  (path.toList.splitOn '/').map String.ofList

def base (path : String) : Place :=
  if path.toList.head? = some '/' then ["/"] else []

/-- The names that count: empty ones do not, and a dot only does at the front. -/
def steps (path : String) : List String :=
  let counted := (names path).filter fun name => name ≠ "" && name ≠ "."
  if (names path).head? = some "." then "." :: counted else counted

/-- The names of the directory that a path is in, innermost first. -/
def folder (path : String) : List String :=
  (steps path).reverse.tail

end DocStore.Disk
