/-
# `CallAtlas.QueryConfig` — the settings of a graph's queries

Two settings travel with a graph: how long a path may become, and which of
several shortest paths between two symbols is kept.
-/
import CallAtlas.Json.Record
import CallAtlas.QueryError

namespace CallAtlas

/-- Which of several shortest paths between two symbols is kept. -/
inductive TieBreak
  | firstSeen
  | lastSeen
deriving Repr, DecidableEq, Inhabited

namespace TieBreak

/-- The name of a rule in records. -/
def name : TieBreak → String
  | .firstSeen => "first_seen"
  | .lastSeen => "last_seen"

/-- The rule of a name. -/
def ofName? (s : String) : Option TieBreak :=
  if s = "first_seen" then some .firstSeen
  else if s = "last_seen" then some .lastSeen
  else none

/-- A rule in a record: its name, or an object whose one member has the name as its key and
null as its value. -/
def ofJson? : Json → Option TieBreak
  | .string (some s) => ofName? s
  | .object [(some s, .null)] => ofName? s
  | _ => none

end TieBreak

/-- The settings of a graph's queries. -/
structure QueryConfig where
  /-- the greatest number of symbols of a path, if there is one -/
  maxPathLength : Option Nat
  tieBreak : TieBreak
deriving Repr, DecidableEq, Inhabited

namespace QueryConfig

/-- Paths of any length, and the first of the shortest. -/
def standard : QueryConfig := ⟨none, .firstSeen⟩

/-- Paths of at most 32 symbols, for large programs. -/
def bounded : QueryConfig := { standard with maxPathLength := some 32 }

/-- The settings with a greatest path length. -/
def withMaxPathLength (c : QueryConfig) (n : Nat) : QueryConfig := { c with maxPathLength := some n }

/-- The settings with a rule for ties. -/
def withTieBreak (c : QueryConfig) (t : TieBreak) : QueryConfig := { c with tieBreak := t }

/-- The largest number that a length or an index may have. -/
def largestIndex : Nat := 18446744073709551615

/-- A length that may be null. -/
def lengthOfJson? : Json → Option (Option Nat)
  | .null => some none
  | v => (v.nat? largestIndex).map some

/-- Settings from a record. -/
def ofJson? (v : Json) : Option QueryConfig := do
  match ← v.fields? ["max_path_length", "tie_break"] with
  | [length, tie] =>
      some ⟨← Json.optional none lengthOfJson? length, ← Json.optional .firstSeen TieBreak.ofJson? tie⟩
  | _ => none

/-- Reads settings from JSON text. -/
def ofText (text : String) : Except QueryError QueryConfig :=
  match (Json.parse? text).bind ofJson? with
  | some c => .ok c
  | none => .error (.serialization "Failed to parse query config")

/-- The settings as a record. -/
def toJson (c : QueryConfig) : Json :=
  .object [
    (some "max_path_length", c.maxPathLength.elim .null Json.ofNat),
    (some "tie_break", .ofString c.tieBreak.name)]

end QueryConfig

end CallAtlas
