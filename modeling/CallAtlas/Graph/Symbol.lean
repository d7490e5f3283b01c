/-
# `CallAtlas.Graph.Symbol` — functions and variables of a program

A declaration describes a symbol; a graph gives it an identity, its position
among the graph's symbols.  Two symbols are the same if their identities are,
whatever they are called and wherever they are defined.
-/
import CallAtlas.Json.Record
import CallAtlas.Text.FilePath

namespace CallAtlas

/-- The description of a function or variable. -/
structure SymbolDecl where
  name : String
  file : String
  line : Nat
  isVariable : Bool
  isStatic : Bool
  isDeclaration : Bool
deriving Repr, DecidableEq, Inhabited

/-- A function or variable of a graph. -/
structure Symbol extends SymbolDecl where
  id : Nat
deriving Repr, DecidableEq, Inhabited

namespace Symbol

/-- How an identity is written. -/
def idText (id : Nat) : String := "#" ++ toString id

/-- Whether two symbols are one and the same. -/
def same (a b : Symbol) : Bool := a.id == b.id

/-- The last component of the file's path. -/
def fileBase (s : Symbol) : String := Text.fileBase s.file

/-- The directory of the file. -/
def fileDir (s : Symbol) : String := Text.fileDir s.file

end Symbol

namespace SymbolDecl

/-- The largest line number. -/
def largestLine : Nat := 4294967295

/-- The fields of a declaration in records, in their order. -/
def fieldNames : List String :=
  ["name", "file", "line", "is_variable", "is_static", "is_declaration"]

/-- A declaration from a record; the three marks may be left out. -/
def ofJson? (v : Json) : Option SymbolDecl := do
  match ← v.fields? fieldNames with
  | [name, file, line, isVariable, isStatic, isDeclaration] =>
      some {
        name := ← Json.required Json.text? name
        file := ← Json.required Json.text? file
        line := ← Json.required (Json.nat? largestLine) line
        isVariable := ← Json.optional false Json.bool? isVariable
        isStatic := ← Json.optional false Json.bool? isStatic
        isDeclaration := ← Json.optional false Json.bool? isDeclaration }
  | _ => none

/-- A declaration as a record. -/
def toJson (d : SymbolDecl) : Json :=
  .object [
    (some "name", .ofString d.name),
    (some "file", .ofString d.file),
    (some "line", .ofNat d.line),
    (some "is_variable", .bool d.isVariable),
    (some "is_static", .bool d.isStatic),
    (some "is_declaration", .bool d.isDeclaration)]

end SymbolDecl

end CallAtlas
