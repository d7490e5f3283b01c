/-
# `CallAtlas.Dot` — sets of symbols as DOT drawings

The drawing of a set shows its members as nodes and the calls between them as
edges; calls that leave the set are left out.  Labels are escaped, so whatever
characters a name or a file path holds, a label stays one quoted string on one line.
-/
import CallAtlas.SymbolSet.Basic

namespace CallAtlas

/-- How a drawing looks. -/
structure DotStyle where
  /-- the colour of functions that other files see -/
  externalColor : String
  /-- the colour of functions that other files do not see -/
  staticColor : String
  /-- the colour of variables -/
  variableColor : String
  /-- the direction in which the drawing is laid out -/
  direction : String
  /-- whether labels show file and line -/
  showLocation : Bool
deriving Repr, DecidableEq, Inhabited

namespace DotStyle

/-- The usual style. -/
def standard : DotStyle := ⟨"#90CAF9", "#FFE082", "#CE93D8", "LR", false⟩

/-- The colour of a symbol. -/
def colorOf (style : DotStyle) (s : Symbol) : String :=
  if s.isVariable then style.variableColor
  else if s.isStatic then style.staticColor
  else style.externalColor

end DotStyle

namespace Dot

/-- Text with every occurrence of a character replaced. -/
def replaceChar (c : Char) (by' : List Char) (cs : List Char) : List Char :=
  cs.flatMap fun d => if d = c then by' else [d]

/-- Text for the inside of a label.  Backslashes are doubled first, so that the
backslashes that quotes and line breaks are given after that stay single. -/
def escapeChars (cs : List Char) : List Char :=
  replaceChar '\n' ['\\', 'n'] (replaceChar '"' ['\\', '"'] (replaceChar '\\' ['\\', '\\'] cs))

/-- Text for the inside of a label. -/
def escape (s : String) : String := String.ofList (escapeChars s.toList)

/-- The label of a symbol. -/
def label (style : DotStyle) (s : Symbol) : String :=
  escape s.name ++
    if style.showLocation then "\\n" ++ escape s.file ++ ":" ++ toString s.line else ""

/-- The line of a node. -/
def nodeLine (style : DotStyle) (s : Symbol) : String :=
  "    n" ++ toString s.id ++ " [label=\"" ++ label style s ++ "\", shape=" ++
    (if s.isVariable then "ellipse" else "box") ++ ", fillcolor=\"" ++ style.colorOf s ++ "\"" ++
    (if s.isDeclaration then ", style=\"filled,dashed\"" else "") ++ "];\n"

/-- The line of an edge. -/
def edgeLine (caller callee : Symbol) : String :=
  "    n" ++ toString caller.id ++ " -> n" ++ toString callee.id ++ ";\n"

/-- The calls between members, by caller in the order of the set. -/
def edges (s : SymbolSet) : List (Symbol × Symbol) :=
  s.toList.flatMap fun caller =>
    ((s.graph.calleesOf caller).filter s.contains).map fun callee => (caller, callee)

/-- The drawing of a set. -/
def draw (style : DotStyle) (s : SymbolSet) : String :=
  "digraph call_graph \x7b\n    rankdir=" ++ style.direction ++ ";\n    node [style=filled];\n\n" ++
    String.join (s.toList.map (nodeLine style)) ++ "\n" ++
    String.join ((edges s).map fun e => edgeLine e.1 e.2) ++ "\x7d\n"

end Dot

end CallAtlas
