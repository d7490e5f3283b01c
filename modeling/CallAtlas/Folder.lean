/-
# `CallAtlas.Folder` — files by name, and reading one

A folder lists files and directories under paths of their own.  Reading walks
from the top of the folder, one step of the path at a time: an empty step and a
single dot stay where they are, and every other step but the last has to
lead to a directory.  What lies around the folder is not known: a path
that leaves it finds directories there, and nothing in them.
-/
import CallAtlas.QueryError
import CallAtlas.Text.Fields

namespace CallAtlas

/-- What a path in a folder leads to. -/
inductive FileContent
  | bytes (content : ByteArray)
  | directory

/-- Files and directories by path, later ones last. -/
abbrev Folder := List (String × FileContent)

namespace Folder

/-- The longest name of a file, in bytes. -/
def nameLimit : Nat := 255

/-- The longest path, in bytes. -/
def pathLimit : Nat := 4095

/-- The steps of a path, those that stay where they are included. -/
def steps (path : String) : List String :=
  (Text.fields '/' path.toList).map String.ofList

/-- Whether a step stays where it is. -/
def isIdle (step : String) : Bool := step = "" || step = "."

/-- The steps of a path that go somewhere. -/
def trail (path : String) : List String := (steps path).filter (!isIdle ·)

/-- What the folder has at the end of a trail.  A trail that others go on from leads to
a directory. -/
def find? (folder : Folder) (here : List String) : Option FileContent :=
  match folder.reverse.find? fun entry => trail entry.1 = here with
  | some entry => some entry.2
  | none =>
      if folder.any fun entry => here.isPrefixOf (trail entry.1) then some .directory else none

/-- Follows steps from a directory of the folder, or from `none`, a directory outside. -/
def walk (folder : Folder) : Option (List String) → List String → Except FileFault FileContent
  | _, [] => .ok .directory
  | here, step :: rest =>
      if isIdle step then walk folder here rest
      else if step.utf8ByteSize > nameLimit then .error .nameTooLong
      else if step = ".." then
        match here with
        | some (name :: names) => walk folder (some (name :: names).dropLast) rest
        | _ => walk folder none rest
      else
        match here with
        | none => .error .absent
        | some names =>
            match find? folder (names ++ [step]) with
            | none => .error .absent
            | some .directory => walk folder (some (names ++ [step])) rest
            | some (.bytes content) =>
                if rest.isEmpty then .ok (.bytes content) else .error .notDirectory

/-- The text of a file of a folder, or the fault that keeps it from being read. -/
def text (folder : Folder) (path : String) : Except FileFault String :=
  if path.toList.contains '\x00' then .error .nullInName
  else if path = "" then .error .absent
  else if path.utf8ByteSize > pathLimit then .error .nameTooLong
  else
    match walk folder (if path.toList.head? = some '/' then none else some []) (steps path) with
    | .error fault => .error fault
    | .ok .directory => .error .directory
    | .ok (.bytes content) =>
        match String.fromUTF8? content with
        | some text => .ok text
        | none => .error .notText

/-- The text of a file of a folder. -/
def read (folder : Folder) (path : String) : Except QueryError String :=
  (folder.text path).mapError (.file path)

end Folder

end CallAtlas
