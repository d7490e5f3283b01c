/-
# `CallAtlas.Unicode.CodeMap` — character mappings as runs

A mapping from characters to one or several others, kept as runs of code
points that move by one distance.  A table is text: `41-5A>61` moves a run
onto the run that starts at the code after the arrow, `100-12E/2>101` does so
for every second code point, and `DF>53+53` gives one character two.
-/
import CallAtlas.Text.CharSet

namespace CallAtlas.Unicode

/-- Code points `first`, `first + step`, … up to `last`, and what `first` becomes. -/
structure Run where
  first : Nat
  last : Nat
  step : Nat
  image : List Nat
deriving Repr, Inhabited

namespace Run

/-- Whether a code point belongs to the run. -/
def covers (r : Run) (n : Nat) : Bool :=
  r.first ≤ n && n ≤ r.last && (n - r.first) % r.step == 0

/-- What a code point of the run becomes: the image moves along with it. -/
def move (r : Run) (n : Nat) : List Nat :=
  r.image.map (· + (n - r.first))

/-- The code points of the run. -/
def codes (r : Run) : List Nat :=
  (List.range ((r.last - r.first) / r.step + 1)).map fun i => r.first + i * r.step

/-- Reads one table entry. -/
def ofEntry (entry : String) : Run :=
  match entry.splitOn ">" with
  | [source, target] =>
      let image := (target.splitOn "+").map CharSet.hexNumber
      match source.splitOn "-" with
      | [lo, hi] =>
          match hi.splitOn "/" with
          | [last, step] => ⟨CharSet.hexNumber lo, CharSet.hexNumber last, CharSet.hexNumber step, image⟩
          | _ => ⟨CharSet.hexNumber lo, CharSet.hexNumber hi, 1, image⟩
      | _ => ⟨CharSet.hexNumber source, CharSet.hexNumber source, 1, image⟩
  | _ => ⟨1, 0, 1, []⟩

end Run

/-- A mapping of code points; those in no run stay as they are. -/
structure CodeMap where
  runs : List Run
deriving Repr, Inhabited

namespace CodeMap

/-- Reads a table: lines of entries with a blank between each two. -/
def ofTable (lines : List String) : CodeMap :=
  ⟨lines.flatMap fun line => (line.splitOn " ").map Run.ofEntry⟩

/-- The runs of one mapping, then those of another. -/
def append (m k : CodeMap) : CodeMap := ⟨m.runs ++ k.runs⟩

/-- What a code point becomes. -/
def apply (m : CodeMap) (n : Nat) : List Nat :=
  match m.runs.find? fun r => r.covers n with
  | some r => r.move n
  | none => [n]

/-- The code points that become a single other one, with that one. -/
def entries (m : CodeMap) : List (Nat × Nat) :=
  m.runs.flatMap fun r =>
    match r.image with
    | [_] => r.codes.flatMap fun n => (r.move n).map fun t => (n, t)
    | _ => []

/-- The characters that the mapping changes. -/
def domain (m : CodeMap) : CharSet :=
  .ofRanges (m.runs.flatMap fun r => r.codes.map fun n => (n, n))

end CodeMap

end CallAtlas.Unicode
