/-
# `CallAtlas.Text.FilePath` — the last component of a path and the rest

A path is cut at its slashes.  Empty components and single dots count
nothing, except that a root slash, or a dot at the very start of a
relative path, stands before the components.  The base of a path is its last
component; a path that has none, or ends in two dots, is its own base.
-/
import CallAtlas.Text.Fields

namespace CallAtlas.Text

/-- Whether a component only repeats the directory it stands in. -/
def idle (component : List Char) : Bool :=
  component = [] || component = ['.']

/-- A path as what stands before its components, and the text of those. -/
def splitRoot : List Char → List Char × List Char
  | '/' :: rest => (['/'], rest)
  | ['.'] => (['.'], [])
  | '.' :: '/' :: rest => (['.'], '/' :: rest)
  | cs => ([], cs)

/-- The components of a path from the last one on, idle ones at the end left out. -/
def backComponents (body : List Char) : List (List Char) :=
  (fields '/' body).reverse.dropWhile idle

/-- The last component of a path; the path itself if it names none. -/
def fileBase (path : String) : String :=
  match backComponents (splitRoot path.toList).2 with
  | [] => path
  | last :: _ => if last = ['.', '.'] then path else String.ofList last

/-- The path up to its last component, without slashes and idle components at
the end; empty if there is no component. -/
def fileDir (path : String) : String :=
  let (root, body) := splitRoot path.toList
  match backComponents body with
  | [] => ""
  | _ :: before => String.ofList (root ++ joinFields '/' (before.dropWhile idle).reverse)

end CallAtlas.Text
