/-
# `CallAtlas.Json.Record` — reading records from JSON

A record may be written as an object, in any order and with members
that nobody asks for, or as an array with its fields in their order.  In an
object a field that the record knows may be written once; in an array the
last fields may be left out if they have a default.
-/
import CallAtlas.Json.Reader

namespace CallAtlas.Json

/-- The number that decimal digits stand for. -/
def digitsValue (ds : List Char) : Nat := ds.foldl (fun n c => 10 * n + (c.toNat - 48)) 0

/-- A natural number not above a limit, written as digits only. -/
def nat? (limit : Nat) : Json → Option Nat
  | .number ds =>
      if ds ≠ [] ∧ ds.all isDigit ∧ digitsValue ds ≤ limit then some (digitsValue ds) else none
  | _ => none

/-- A truth value. -/
def bool? : Json → Option Bool
  | .bool b => some b
  | _ => none

/-- Text. -/
def text? : Json → Option String
  | .string s => s
  | _ => none

/-- A list. -/
def list? {α : Type} (item : Json → Option α) : Json → Option (List α)
  | .array vs => vs.mapM item
  | _ => none

/-- A pair, as an array of two. -/
def pair? {α : Type} (item : Json → Option α) : Json → Option (α × α)
  | .array [a, b] => do some (← item a, ← item b)
  | _ => none

/-- The members of an object that have one of the given keys, in the order of those keys.
There is none if a key stands for no text, or if one of the given keys is written twice. -/
def pick? (keys : List String) (members : List (Option String × Json)) :
    Option (List (Option Json)) := do
  let named ← members.mapM fun m => m.1.map fun k => (k, m.2)
  keys.mapM fun k =>
    match named.filter (·.1 = k) with
    | [] => some none
    | [m] => some (some m.2)
    | _ => none

/-- The fields of a record, from an object by their keys or from an array by their places;
`none` for a field that is left out. -/
def fields? (keys : List String) : Json → Option (List (Option Json))
  | .object members => pick? keys members
  | .array vs =>
      if vs.length ≤ keys.length then
        some (vs.map some ++ List.replicate (keys.length - vs.length) none)
      else none
  | _ => none

/-- A field that must be there. -/
def required {α : Type} (read : Json → Option α) : Option Json → Option α
  | some v => read v
  | none => none

/-- A field with a default. -/
def optional {α : Type} (default : α) (read : Json → Option α) : Option Json → Option α
  | some v => read v
  | none => some default

end CallAtlas.Json
