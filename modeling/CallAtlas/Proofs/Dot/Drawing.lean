/-
# `CallAtlas.Proofs.Dot.Drawing` — a drawing shows the calls between the members

`Statement.read?` reads one line of a drawing.  It reads the line that a statement is
written on as that statement (`Statement.read?_text`), and no line is broken by what
stands in it, so a drawing cut into its lines can be read line by line.  It states a
node for each member and an edge for each call between two members, in the order of the
set and, within a caller, in the order of its calls, and nothing else, whatever
characters names and files are made of (`draw_reads_back`).
-/
import CallAtlas.Proofs.Dot.Escape
import CallAtlas.Proofs.Graph.Bookkeeping
import CallAtlas.Proofs.Json.Lossless
import CallAtlas.Proofs.OrderedSet
import CallAtlas.Proofs.Text.Fields

namespace CallAtlas.Dot

/-! ## Numbers -/

theorem toList_toString (n : Nat) : (toString n).toList = Nat.toDigits 10 n := String.toList_ofList

theorem plain_toDigits (n : Nat) : Plain (Nat.toDigits 10 n) := by
  intro c hc
  have hdigit := (Json.numeral_toDigits n).digits c hc
  refine ⟨?_, ?_, ?_⟩ <;> rintro rfl <;> cases hdigit

/-! ## Statements -/

/-- What is stated on one line of a drawing. -/
inductive Statement
  | node (id : Nat) (label shape color : String) (dashed : Bool)
  | edge (caller callee : Nat)
deriving Repr, DecidableEq

namespace Statement

/-- How the line of a node ends. -/
def ending (dashed : Bool) : String :=
  if dashed then ", style=\"filled,dashed\"];" else "];"

/-- The line of a node. -/
def nodeText (id : Nat) (label shape color : String) (dashed : Bool) : String :=
  "    n" ++ toString id ++ " [label=\"" ++ escape label ++ "\", shape=" ++ shape ++
    ", fillcolor=\"" ++ color ++ "\"" ++ ending dashed

/-- The line of an edge. -/
def edgeText (caller callee : Nat) : String :=
  "    n" ++ toString caller ++ " -> n" ++ toString callee ++ ";"

/-- The line that a statement is written on. -/
def text : Statement → String
  | .node id label shape color dashed => nodeText id label shape color dashed
  | .edge caller callee => edgeText caller callee

/-- What is behind a piece that a text starts with. -/
def after? (piece : String) (cs : List Char) : Option (List Char) := cs.dropPrefix? piece.toList

/-- A number, and what is behind it. -/
def number? (cs : List Char) : Option (Nat × List Char) :=
  (Json.readDigits cs).map fun (digits, rest) => (Json.digitsValue digits, rest)

/-- The rest of the line of an edge. -/
def edge? (caller : Nat) (cs : List Char) : Option Statement := do
  let (callee, rest) ← number? cs
  if rest = [';'] then some (.edge caller callee) else none

/-- The rest of the line of a node. -/
def node? (id : Nat) (cs : List Char) : Option Statement := do
  let (label, rest) ← readQuoted cs
  let rest ← after? ", shape=" rest
  let shape := rest.takeWhile (· ≠ ',')
  let rest ← after? ", fillcolor=\"" (rest.dropWhile (· ≠ ','))
  let (color, rest) ← readQuoted rest
  let node := Statement.node id (.ofList label) (.ofList shape) (.ofList color)
  if rest = (ending false).toList then some (node false)
  else if rest = (ending true).toList then some (node true)
  else none

/-- The statement that a line reads as, if it is one. -/
def read? (line : List Char) : Option Statement := do
  let rest ← after? "    n" line
  let (id, rest) ← number? rest
  match after? " -> n" rest with
  | some rest => edge? id rest
  | none =>
      let rest ← after? " [label=\"" rest
      node? id rest

/-- The shape ends before a comma, and the colour needs no escapes. -/
def Clean : Statement → Prop
  | .node _ _ shape color _ => ',' ∉ shape.toList ∧ '\n' ∉ shape.toList ∧ Plain color.toList
  | .edge _ _ => True

theorem after?_append (piece : String) (rest : List Char) :
    after? piece (piece.toList ++ rest) = some rest :=
  List.dropPrefix?_append_of_beq rest (beq_self_eq_true piece.toList)

theorem number?_toDigits (n : Nat) {rest : List Char} (hrest : Json.Stops rest) :
    number? (Nat.toDigits 10 n ++ rest) = some (n, rest) := by
  have hnumeral := Json.numeral_toDigits n
  rw [number?, Json.readDigits_append hnumeral.ne_nil hnumeral.digits hrest, Option.map_some]
  exact congrArg (fun value => some (value, rest)) (Json.digitsValue_toDigits n)

theorem edge?_toDigits (caller callee : Nat) :
    edge? caller (Nat.toDigits 10 callee ++ [';']) = some (.edge caller callee) := by
  rw [edge?, number?_toDigits callee (Json.stops_cons rfl [])]
  rfl

theorem node?_text (id : Nat) (label : String) {shape color : String}
    (hshape : ',' ∉ shape.toList) (hcolor : Plain color.toList) (dashed : Bool) :
    node? id (escapeChars label.toList ++ '"' :: (", shape=".toList ++ (shape.toList ++
      (", fillcolor=\"".toList ++ (color.toList ++ '"' :: (ending dashed).toList))))) =
      some (.node id label shape color dashed) := by
  have hbefore : ∀ c ∈ shape.toList, decide (c ≠ ',') = true := by
    intro c hc
    rw [decide_eq_true_iff]
    rintro rfl
    exact hshape hc
  have htake : ∀ rest : List Char,
      (shape.toList ++ (", fillcolor=\"".toList ++ rest)).takeWhile (· ≠ ',') = shape.toList := by
    intro rest
    rw [List.takeWhile_append_of_pos hbefore]
    exact List.append_nil _
  have hdrop : ∀ rest : List Char,
      (shape.toList ++ (", fillcolor=\"".toList ++ rest)).dropWhile (· ≠ ',') =
        ", fillcolor=\"".toList ++ rest := by
    intro rest
    rw [List.dropWhile_append_of_pos hbefore]
    rfl
  have hquoted := readQuoted_escapeChars color.toList (ending dashed).toList
  rw [escapeChars_of_plain hcolor] at hquoted
  simp only [node?, readQuoted_escapeChars, after?_append, htake, hdrop, hquoted,
    Option.bind_eq_bind, Option.bind_some, String.ofList_toList]
  cases dashed with
  | false => rfl
  | true => rfl

theorem toList_nodeText (id : Nat) (label shape color : String) (dashed : Bool) :
    (nodeText id label shape color dashed).toList =
      "    n".toList ++ (Nat.toDigits 10 id ++ (" [label=\"".toList ++
        (escapeChars label.toList ++ '"' :: (", shape=".toList ++ (shape.toList ++
          (", fillcolor=\"".toList ++ (color.toList ++ '"' :: (ending dashed).toList))))))) := by
  unfold nodeText escape
  simp only [String.toList_append, toList_toString, String.toList_ofList, List.append_assoc]
  rfl

theorem toList_edgeText (caller callee : Nat) :
    (edgeText caller callee).toList =
      "    n".toList ++ (Nat.toDigits 10 caller ++ (" -> n".toList ++
        (Nat.toDigits 10 callee ++ [';']))) := by
  unfold edgeText
  simp only [String.toList_append, toList_toString, List.append_assoc]
  rfl

/-- A line reads as the statement that is written on it. -/
theorem read?_text {x : Statement} (hx : x.Clean) : read? x.text.toList = some x := by
  cases x with
  | edge caller callee =>
    have hstops : Json.Stops (" -> n".toList ++ (Nat.toDigits 10 callee ++ [';'])) :=
      Json.stops_cons rfl _
    rw [text, toList_edgeText]
    simp only [read?, after?_append, number?_toDigits caller hstops, Option.bind_eq_bind,
      Option.bind_some]
    exact edge?_toDigits caller callee
  | node id label shape color dashed =>
    obtain ⟨hcomma, -, hcolor⟩ := hx
    have hstops : ∀ rest, Json.Stops (" [label=\"".toList ++ rest) :=
      fun rest => Json.stops_cons rfl _
    have harrow : ∀ rest, after? " -> n" (" [label=\"".toList ++ rest) = none := fun _ => rfl
    rw [text, toList_nodeText]
    simp only [read?, after?_append, number?_toDigits id (hstops _), harrow, Option.bind_eq_bind,
      Option.bind_some]
    exact node?_text id label hcomma hcolor dashed

theorem newline_not_mem_text {x : Statement} (hx : x.Clean) : '\n' ∉ x.text.toList := by
  have hdigits : ∀ n, '\n' ∉ Nat.toDigits 10 n := fun n hmem => (plain_toDigits n _ hmem).2.2 rfl
  cases x with
  | edge caller callee =>
    rw [text, toList_edgeText]
    simp only [List.mem_append, not_or]
    exact ⟨by decide, hdigits caller, by decide, hdigits callee, by decide⟩
  | node id label shape color dashed =>
    obtain ⟨-, hshape, hcolor⟩ := hx
    have hending : '\n' ∉ (ending dashed).toList := by cases dashed <;> decide
    rw [text, toList_nodeText]
    simp only [List.mem_append, List.mem_cons, not_or]
    exact ⟨by decide, hdigits id, by decide, newline_not_mem_escapeChars _, by decide, by decide,
      hshape, by decide, fun hmem => (hcolor _ hmem).2.2 rfl, by decide, hending⟩

end Statement

/-! ## Lines -/

/-- Lines one below the other, each with its line break. -/
def unlines (lines : List (List Char)) : List Char := lines.flatMap fun line => line ++ ['\n']

theorem unlines_append (lines more : List (List Char)) :
    unlines (lines ++ more) = unlines lines ++ unlines more :=
  List.flatMap_append

theorem fields_unlines {lines : List (List Char)} (h : ∀ line ∈ lines, '\n' ∉ line) :
    Text.fields '\n' (unlines lines) = lines ++ [[]] := by
  induction lines with
  | nil => rfl
  | cons line lines ih =>
    obtain ⟨hline, hlines⟩ := List.forall_mem_cons.1 h
    rw [unlines, List.flatMap_cons, List.append_assoc, List.singleton_append,
      Text.fields_append_sep hline]
    exact congrArg (line :: ·) (ih hlines)

/-- The lines before those of the nodes. -/
def opening (style : DotStyle) : List (List Char) :=
  ["digraph call_graph \x7b".toList, "    rankdir=".toList ++ (style.direction.toList ++ [';']),
    "    node [style=filled];".toList, []]

/-- What the label of a symbol shows: its name, and below it where it is, if the style has that. -/
def labelText (style : DotStyle) (a : Symbol) : String :=
  a.name ++ if style.showLocation then "\n" ++ a.file ++ ":" ++ toString a.line else ""

/-- What is stated of a symbol: its identity, its label, and what its marks give. -/
def node (style : DotStyle) (a : Symbol) : Statement :=
  let shape := if a.isVariable then "ellipse" else "box"
  let color :=
    if a.isVariable then style.variableColor
    else if a.isStatic then style.staticColor
    else style.externalColor
  .node a.id (labelText style a) shape color a.isDeclaration

theorem label_eq (style : DotStyle) (a : Symbol) : label style a = escape (labelText style a) := by
  rw [← String.toList_inj]
  unfold label labelText escape
  cases style.showLocation with
  | false => simp
  | true =>
    have hline := escapeChars_of_plain (plain_toDigits a.line)
    simp only [if_true, String.toList_append, String.toList_ofList, escapeChars_append,
      toList_toString, hline]
    rfl

theorem nodeLine_eq (style : DotStyle) (a : Symbol) :
    nodeLine style a = (node style a).text ++ "\n" := by
  have hending : (if a.isDeclaration then ", style=\"filled,dashed\"" else "") ++ "];\n" =
      Statement.ending a.isDeclaration ++ "\n" := by
    cases a.isDeclaration <;> rfl
  unfold nodeLine node DotStyle.colorOf Statement.text Statement.nodeText
  rw [String.append_assoc, hending, label_eq]
  simp only [String.append_assoc]

theorem edgeLine_eq (caller callee : Symbol) :
    edgeLine caller callee = (Statement.edge caller.id callee.id).text ++ "\n" := by
  unfold edgeLine Statement.text Statement.edgeText
  simp only [String.append_assoc]
  rfl

/-- The lines of a drawing: those before the nodes, the nodes, an empty line, the edges, and the
closing brace. -/
def lines (style : DotStyle) (nodes edges : List Statement) : List (List Char) :=
  opening style ++ nodes.map (·.text.toList) ++ [[]] ++ edges.map (·.text.toList) ++ [['\x7d']]

theorem join_text (statements : List Statement) :
    (String.join (statements.map fun x => x.text ++ "\n")).toList =
      unlines (statements.map (·.text.toList)) := by
  rw [String.toList_join, unlines, List.flatMap_map, List.flatMap_map]
  simp only [String.toList_append]
  rfl

/-! ## Calls between members -/

/-- The calls between members: by caller in the order of the set, and of each caller in the order
in which it has them. -/
def drawnCalls (s : SymbolSet) : List (Nat × Nat) :=
  s.toList.flatMap fun a =>
    ((CallGraph.idsAt s.graph.callees a.id).filter (· ∈ s.toList.map Symbol.id)).map (a.id, ·)

variable {s : SymbolSet}

theorem map_ids_edges (hg : s.graph.Built) :
    (edges s).map (fun e => (e.1.id, e.2.id)) = drawnCalls s := by
  unfold edges drawnCalls
  rw [List.map_flatMap]
  congr 1
  funext a
  have hids : (s.graph.calleesOf a).map Symbol.id = CallGraph.idsAt s.graph.callees a.id := by
    refine (s.graph.map_id_listed s.graph.callees a.id).trans (List.filter_eq_self.2 ?_)
    exact fun j hj => decide_eq_true (hg.coherent.known a.id j hj)
  rw [← hids, List.filter_map, List.map_map, List.map_map]
  congr 1
  exact List.filter_congr fun b _ => s.members.contains_eq_decide b

theorem mem_drawnCalls {i j : Nat} :
    (i, j) ∈ drawnCalls s ↔
      i ∈ s.toList.map Symbol.id ∧ j ∈ s.toList.map Symbol.id ∧ s.graph.hasCall i j = true := by
  unfold drawnCalls
  simp only [List.mem_flatMap, List.mem_map, List.mem_filter, decide_eq_true_iff,
    CallGraph.hasCall_iff]
  constructor
  · rintro ⟨a, ha, j, ⟨hrow, hj⟩, ⟨⟩⟩
    exact ⟨⟨a, ha, rfl⟩, hj, hrow⟩
  · rintro ⟨⟨a, ha, rfl⟩, hj, hrow⟩
    exact ⟨a, ha, j, ⟨hrow, hj⟩, rfl⟩

theorem nodup_drawnCalls (s : SymbolSet) : (drawnCalls s).Nodup := by
  refine List.nodup_flatMap.2 ⟨fun a _ => ?_, ?_⟩
  · have hrow := CallGraph.nodup_idsAt s.graph.callees a.id
    exact (hrow.filter _).map fun _ _ h => (Prod.mk.inj h).2
  · refine (List.pairwise_map.1 s.members.nodup_toList).imp ?_
    intro a b hab
    show List.Disjoint _ _
    rw [List.disjoint_left]
    intro call ha hb
    obtain ⟨j, -, rfl⟩ := List.mem_map.1 ha
    obtain ⟨k, -, heq⟩ := List.mem_map.1 hb
    exact hab (Prod.mk.inj heq).1.symm

/-! ## The drawing -/

/-- The direction and the colours need no escapes. -/
structure PlainStyle (style : DotStyle) : Prop where
  direction : Plain style.direction.toList
  externalColor : Plain style.externalColor.toList
  staticColor : Plain style.staticColor.toList
  variableColor : Plain style.variableColor.toList

theorem PlainStyle.clean_node {style : DotStyle} (h : PlainStyle style) (a : Symbol) :
    (node style a).Clean := by
  refine ⟨?_, ?_, ?_⟩
  · cases a.isVariable <;> decide
  · cases a.isVariable <;> decide
  · split
    · exact h.variableColor
    · split
      · exact h.staticColor
      · exact h.externalColor

theorem unlines_opening (style : DotStyle) :
    unlines (opening style) = "digraph call_graph \x7b\n    rankdir=".toList ++
      (style.direction.toList ++ ";\n    node [style=filled];\n\n".toList) := by
  have hbefore : "digraph call_graph \x7b\n    rankdir=".toList =
      "digraph call_graph \x7b".toList ++ '\n' :: "    rankdir=".toList := rfl
  have hbehind : ";\n    node [style=filled];\n\n".toList =
      ';' :: '\n' :: ("    node [style=filled];".toList ++ ['\n', '\n']) := rfl
  simp only [unlines, opening, hbefore, hbehind, List.flatMap_cons, List.flatMap_nil,
    List.append_assoc, List.cons_append, List.nil_append, List.append_nil]

/-- The statements of a drawing that are nodes. -/
def drawnNodes (style : DotStyle) (s : SymbolSet) : List Statement := s.toList.map (node style)

/-- The statements of a drawing that are edges. -/
def drawnEdges (s : SymbolSet) : List Statement :=
  (drawnCalls s).map fun call => .edge call.1 call.2

/-- A drawing is made of its lines. -/
theorem toList_draw (style : DotStyle) (hg : s.graph.Built) :
    (draw style s).toList = unlines (lines style (drawnNodes style s) (drawnEdges s)) := by
  have hnodes : s.toList.map (nodeLine style) =
      (drawnNodes style s).map fun x => x.text ++ "\n" := by
    rw [drawnNodes, List.map_map]
    exact List.map_congr_left fun a _ => nodeLine_eq style a
  have hedges : ((edges s).map fun e => edgeLine e.1 e.2) =
      (drawnEdges s).map fun x => x.text ++ "\n" := by
    rw [drawnEdges, ← map_ids_edges hg, List.map_map, List.map_map]
    exact List.map_congr_left fun e _ => edgeLine_eq e.1 e.2
  have hgap : unlines [[]] = "\n".toList := rfl
  have hclosing : unlines [['\x7d']] = "\x7d\n".toList := rfl
  unfold draw lines
  rw [hnodes, hedges]
  simp only [String.toList_append, join_text, unlines_append, unlines_opening, hgap, hclosing,
    List.append_assoc]

theorem PlainStyle.newline_not_mem_lines {style : DotStyle} (h : PlainStyle style)
    {nodes edges : List Statement} (hnodes : ∀ x ∈ nodes, x.Clean) (hedges : ∀ x ∈ edges, x.Clean) :
    ∀ line ∈ lines style nodes edges, '\n' ∉ line := by
  have htext : ∀ {statements : List Statement}, (∀ x ∈ statements, x.Clean) →
      ∀ line ∈ statements.map (·.text.toList), '\n' ∉ line := by
    intro statements hclean line hline
    obtain ⟨x, hx, rfl⟩ := List.mem_map.1 hline
    exact Statement.newline_not_mem_text (hclean x hx)
  have hdirection : '\n' ∉ style.direction.toList := fun hmem => (h.direction _ hmem).2.2 rfl
  have hopening : ∀ line ∈ opening style, '\n' ∉ line := by
    simp [opening, hdirection]
  intro line hline
  simp only [lines, List.mem_append, List.mem_singleton] at hline
  rcases hline with (((hline | hline) | rfl) | hline) | rfl
  · exact hopening line hline
  · exact htext hnodes line hline
  · exact List.not_mem_nil
  · exact htext hedges line hline
  · decide

theorem read?_of_opening (style : DotStyle) {line : List Char} (h : line ∈ opening style) :
    Statement.read? line = none := by
  simp only [opening, List.mem_cons, List.not_mem_nil, or_false] at h
  rcases h with rfl | rfl | rfl | rfl <;> rfl

theorem map_read?_text {statements : List Statement} (h : ∀ x ∈ statements, x.Clean) :
    (statements.map (·.text.toList)).map Statement.read? = statements.map some := by
  rw [List.map_map]
  exact List.map_congr_left fun x hx => Statement.read?_text (h x hx)

/-- Cut at its line breaks, a drawing has lines that read as one node for each member, in the order
of the set, and as one edge for each call between two members, by caller in the order of the set and
of each caller in the order of its calls; no other line reads as a node or an edge.  The identities
of the nodes are distinct, and no edge is there twice. -/
theorem draw_reads_back {style : DotStyle} (hstyle : PlainStyle style) {s : SymbolSet}
    (hg : s.graph.Built) :
    let written := Text.fields '\n' (draw style s).toList
    written = lines style (drawnNodes style s) (drawnEdges s) ++ [[]] ∧
    written.map Statement.read? =
      [none, none, none, none] ++ (drawnNodes style s).map some ++ [none] ++
        (drawnEdges s).map some ++ [none, none] ∧
    (s.toList.map Symbol.id).Nodup ∧ (drawnCalls s).Nodup ∧
    ∀ i j, (i, j) ∈ drawnCalls s ↔
      i ∈ s.toList.map Symbol.id ∧ j ∈ s.toList.map Symbol.id ∧ s.graph.hasCall i j = true := by
  intro written
  have hnodes : ∀ x ∈ drawnNodes style s, x.Clean := by
    intro x hx
    obtain ⟨a, -, rfl⟩ := List.mem_map.1 hx
    exact hstyle.clean_node a
  have hedges : ∀ x ∈ drawnEdges s, x.Clean := by
    intro x hx
    obtain ⟨call, -, rfl⟩ := List.mem_map.1 hx
    trivial
  have hwritten : written = lines style (drawnNodes style s) (drawnEdges s) ++ [[]] := by
    show Text.fields '\n' (draw style s).toList = _
    rw [toList_draw style hg]
    exact fields_unlines (hstyle.newline_not_mem_lines hnodes hedges)
  refine ⟨hwritten, ?_, s.members.nodup_toList, nodup_drawnCalls s, fun i j => mem_drawnCalls⟩
  have hopening : (opening style).map Statement.read? = [none, none, none, none] :=
    List.map_congr_left fun line => read?_of_opening style
  rw [hwritten, lines]
  simp only [List.map_append, hopening, map_read?_text hnodes, map_read?_text hedges,
    List.append_assoc]
  rfl

/-- A name that would end its label, its node and its line, and draw an edge. -/
def forger : Symbol := ⟨⟨"a\"];\n    n0 -> n1;", "b.c", 2, false, true, true⟩, 0⟩

/-- A function that calls itself and goes by such a name. -/
theorem draw_reads_back_forger :
    let g := (CallGraph.new 0 .standard).run [.addSymbol forger.toSymbolDecl, .addCalls [(0, 0)]]
    PlainStyle .standard ∧ g.Built ∧
      (Text.fields '\n' (draw .standard (.whole g)).toList).map Statement.read? =
        [none, none, none, none, some (.node 0 forger.name "box" "#FFE082" true), none,
          some (.edge 0 0), none, none] := by
  intro g
  have hstyle : PlainStyle .standard := by
    constructor <;> decide
  have hg : g.Built := ⟨0, .standard, _, rfl⟩
  refine ⟨hstyle, hg, (draw_reads_back hstyle (s := .whole g) hg).2.1.trans ?_⟩
  decide +kernel

end CallAtlas.Dot
