/-
# `CallAtlas.Proofs.Graph.Warnings` — one warning for each gap

While its callers are not computed, a graph answers a question for callers with
nothing, and the first such question makes it warn.  What makes the callers go (a
new call) is not what makes the graph forget that it has warned (computing them),
so a question can be in vain before the graph has warned, after that, or not at all.

A life of a graph is a list of events: it is built further, it is asked for the
callers of a symbol, or a predicate is asked that asks for them in turn.  Whatever
is asked, one question after the other is put to the graph (`Predicate.heeds_eval`),
and only the first one in vain since callers were last computed is warned about.
Between two computations that comes to one warning, if anything was asked in vain
(`logged_eq`); over a whole life it says of each question, by what was warned about
before it, whether it is warned about itself (`callersWarned_follow_iff`).
-/
import CallAtlas.Proofs.Graph.Failure
import CallAtlas.Proofs.Predicate.Noting

namespace CallAtlas

/-! ## Questions -/

namespace CallGraph

/-- Of some questions, those that the graph cannot answer. -/
def vain (g : CallGraph) (asked : List Symbol) : List Symbol :=
  if g.callersComputed then [] else asked

/-- What is warned about: the first of some questions in vain, unless one before them was. -/
def firstWarning (warned : Bool) (inVain : List Symbol) : List String :=
  if warned then [] else (inVain.head?.map callersWarning).toList

/-- The graph afterwards and its warnings are those of some questions for callers. -/
structure Heeds (g : CallGraph) (asked : List Symbol) (after : CallGraph)
    (warnings : List String) : Prop where
  after : after = g.withWarned (g.callersWarned || !(g.vain asked).isEmpty)
  warnings : warnings = firstWarning g.callersWarned (g.vain asked)

theorem firstWarning_append (warned : Bool) (first more : List Symbol) :
    firstWarning warned (first ++ more) =
      firstWarning warned first ++ firstWarning (warned || !first.isEmpty) more := by
  cases warned with
  | true => rfl
  | false => cases first <;> rfl

theorem firstWarning_ne_nil_iff {warned : Bool} {inVain : List Symbol} :
    firstWarning warned inVain ≠ [] ↔ warned = false ∧ inVain ≠ [] := by
  cases warned with
  | true => simp [firstWarning]
  | false => cases inVain <;> simp [firstWarning]

variable (g : CallGraph)

theorem vain_nil : g.vain [] = [] := by
  unfold vain
  split <;> rfl

theorem vain_append (first more : List Symbol) :
    g.vain (first ++ more) = g.vain first ++ g.vain more := by
  unfold vain
  split <;> rfl

/-- No question changes whether the callers are computed. -/
theorem vain_withWarned (b : Bool) (asked : List Symbol) :
    (g.withWarned b).vain asked = g.vain asked :=
  rfl

theorem heeds_nil : g.Heeds [] g [] := by
  constructor
  · rw [vain_nil, List.isEmpty_nil, Bool.not_true, Bool.or_false]
    rfl
  · rw [vain_nil]
    cases g.callersWarned <;> rfl

theorem heeds_noteCallerQuery (a : Symbol) :
    g.Heeds [a] (g.noteCallerQuery a).1 (g.noteCallerQuery a).2 := by
  obtain ⟨number, config, decls, callees, callers, callCount, warned⟩ := g
  cases callers with
  | none => cases warned <;> exact ⟨rfl, rfl⟩
  | some rows => cases warned <;> exact ⟨rfl, rfl⟩

variable {g}

/-- What is asked later finds a graph that may have warned. -/
theorem Heeds.append {first more : List Symbol} {middle after : CallGraph}
    {warnings warnings' : List String} (h : g.Heeds first middle warnings)
    (h' : middle.Heeds more after warnings') :
    g.Heeds (first ++ more) after (warnings ++ warnings') := by
  obtain ⟨rfl, rfl⟩ := h
  obtain ⟨rfl, rfl⟩ := h'
  rw [vain_withWarned]
  constructor
  · have hempty : (g.vain first ++ g.vain more).isEmpty =
        ((g.vain first).isEmpty && (g.vain more).isEmpty) := by
      cases g.vain first <;> rfl
    rw [vain_append, hempty, Bool.not_and, ← Bool.or_assoc]
    rfl
  · rw [vain_append, firstWarning_append]
    rfl

/-- Where the callers are computed, questions leave no trace. -/
theorem Heeds.eq_of_computed {asked : List Symbol} {after : CallGraph} {warnings : List String}
    (h : g.Heeds asked after warnings) (hcomputed : g.callersComputed = true) :
    after = g ∧ warnings = [] := by
  obtain ⟨rfl, rfl⟩ := h
  have hvain : g.vain asked = [] := if_pos hcomputed
  rw [hvain, List.isEmpty_nil, Bool.not_true, Bool.or_false]
  refine ⟨rfl, ?_⟩
  cases g.callersWarned <;> rfl

end CallGraph

namespace Predicate

/-- The symbols whose callers are asked for when a predicate is asked of an item, in turn. -/
def asks (item : Item) : Predicate → List Symbol
  | .and left right | .or left right => asks item left ++ asks item right
  | .not operand => asks item operand
  | .related relation _ | .relatedToSelf relation =>
      match item with
      | .symbol a => if relation.asksCallers then [a] else []
      | .path _ => []
  | .const _ | .mark _ | .field _ | .along _ _ => []

theorem heeds_noteRelation (g : CallGraph) (r : Relation) (a : Symbol) :
    g.Heeds (if r.asksCallers then [a] else []) (noteRelation g r a).1 (noteRelation g r a).2 := by
  unfold noteRelation
  split
  · exact g.heeds_noteCallerQuery a
  · exact g.heeds_nil

/-- To ask a predicate is to put its questions to the graph. -/
theorem heeds_eval (g : CallGraph) (item : Item) (p : Predicate) :
    g.Heeds (p.asks item) (p.eval g item).graph (p.eval g item).warnings := by
  induction p generalizing g with
  | const value => exact g.heeds_nil
  | mark m => cases item <;> exact g.heeds_nil
  | and left right ihl ihr => exact (ihl g).append (ihr _)
  | or left right ihl ihr => exact (ihl g).append (ihr _)
  | not operand ih => exact ih g
  | related relation target =>
    cases item with
    | symbol a => exact heeds_noteRelation g relation a
    | path path => exact g.heeds_nil
  | relatedToSelf relation =>
    cases item with
    | symbol a => exact heeds_noteRelation g relation a
    | path path => exact g.heeds_nil
  | field test => exact g.heeds_nil
  | along place pattern => cases item <;> exact g.heeds_nil

end Predicate

/-! ## Events -/

/-- A graph is built further or asked for the callers of a symbol, or a predicate is asked of
an item in it. -/
inductive GraphEvent
  | build (step : GraphStep)
  | ask (p : Predicate) (item : Item)

namespace GraphEvent

/-- The graph after an event. -/
def after (g : CallGraph) : GraphEvent → CallGraph
  | .build step => step.after g
  | .ask p item => (p.eval g item).graph

/-- The warnings that an event gives rise to. -/
def warnings (g : CallGraph) : GraphEvent → List String
  | .build (.queryCallers a) => (g.queryCallers a).2.2
  | .build _ => []
  | .ask p item => (p.eval g item).warnings

/-- The symbols whose callers an event asks for, in turn. -/
def asked : GraphEvent → List Symbol
  | .build (.queryCallers a) => [a]
  | .build _ => []
  | .ask p item => p.asks item

end GraphEvent

namespace CallGraph

/-- The graph after some events. -/
def follow (g : CallGraph) (events : List GraphEvent) : CallGraph :=
  events.foldl GraphEvent.after g

/-- All warnings that some events give rise to. -/
def logged (g : CallGraph) : List GraphEvent → List String
  | [] => []
  | e :: events => e.warnings g ++ (e.after g).logged events

/-- The symbols whose callers were asked for while they were not computed. -/
def askedInVain (g : CallGraph) : List GraphEvent → List Symbol
  | [] => []
  | e :: events => g.vain e.asked ++ (e.after g).askedInVain events

/-- One of some events gave rise to a warning, and callers were not computed after it. -/
def WarnedSince (g : CallGraph) (events : List GraphEvent) : Prop :=
  ∃ before e later, events = before ++ e :: later ∧ .build .computeCallers ∉ later ∧
    e.warnings (g.follow before) ≠ []

/-! ## What makes a graph forget that it has warned -/

section Building

variable (g : CallGraph)

theorem callersWarned_addCall (caller callee : Nat) :
    (g.addCall caller callee).1.callersWarned = g.callersWarned := by
  rcases g.addCall_cases caller callee with heq | ⟨-, -, heq⟩
  · rw [heq]
  · rw [heq]

theorem callersWarned_enterCalls (calls : List (Nat × Nat)) :
    (g.enterCalls calls).callersWarned = g.callersWarned := by
  induction calls generalizing g with
  | nil => rfl
  | cons call calls ih => exact (ih _).trans (g.callersWarned_addCall call.1 call.2)

theorem callersWarned_addCalls (pairs : List (Nat × Nat)) :
    (g.addCalls pairs).1.callersWarned = g.callersWarned := by
  rcases g.addCalls_outcome pairs with hall | ⟨before, _, _, _, -, -, -, hleft⟩
  · rw [hall]
    exact g.callersWarned_enterCalls pairs
  · rw [hleft]
    exact g.callersWarned_enterCalls before

theorem callersWarned_addSymbols (ds : List SymbolDecl) :
    (g.addSymbols ds).1.callersWarned = g.callersWarned := by
  induction ds generalizing g with
  | nil => rfl
  | cons d ds ih => exact ih (g.addSymbol d).1

theorem callersWarned_includeSnapshot (s : GraphSnapshot) :
    (g.includeSnapshot s).1.callersWarned = g.callersWarned := by
  obtain ⟨entered, hentered⟩ := g.exists_includeSnapshot_eq s
  rw [hentered, callersWarned_enterCalls, callersWarned_addSymbols]

theorem callersWarned_includeText (text : String) :
    (g.includeText text).1.callersWarned = g.callersWarned := by
  unfold includeText
  cases GraphSnapshot.ofText text with
  | ok s => exact g.callersWarned_includeSnapshot s
  | error e => rfl

theorem callersWarned_includeFile (folder : Folder) (name : String) :
    (g.includeFile folder name).1.callersWarned = g.callersWarned := by
  unfold includeFile
  cases folder.read name with
  | ok text => exact g.callersWarned_includeText text
  | error e => rfl

end Building

end CallGraph

namespace GraphEvent

open CallGraph

variable (g : CallGraph)

/-- The first question in vain is warned about, unless the graph has warned before. -/
theorem warnings_eq (e : GraphEvent) :
    e.warnings g = firstWarning g.callersWarned (g.vain e.asked) := by
  have hnone : [] = firstWarning g.callersWarned (g.vain []) := g.heeds_nil.warnings
  cases e with
  | ask p item => exact (p.heeds_eval g item).warnings
  | build step =>
    cases step with
    | queryCallers a => exact (g.heeds_noteCallerQuery a).warnings
    | _ => exact hnone

/-- The graph has warned after an event if it had before, or if something was asked in vain. -/
theorem callersWarned_after {e : GraphEvent} (he : e ≠ .build .computeCallers) :
    (e.after g).callersWarned = (g.callersWarned || !(g.vain e.asked).isEmpty) := by
  have hnone : ∀ {after : CallGraph}, after.callersWarned = g.callersWarned →
      after.callersWarned = (g.callersWarned || !(g.vain []).isEmpty) := by
    intro after heq
    rw [heq, vain_nil, List.isEmpty_nil, Bool.not_true, Bool.or_false]
  cases e with
  | ask p item => exact congrArg callersWarned (p.heeds_eval g item).after
  | build step =>
    cases step with
    | addSymbol d => exact hnone rfl
    | addCall caller callee => exact hnone (g.callersWarned_addCall caller callee)
    | addCalls pairs => exact hnone (g.callersWarned_addCalls pairs)
    | includeSnapshot s => exact hnone (g.callersWarned_includeSnapshot s)
    | includeText text => exact hnone (g.callersWarned_includeText text)
    | includeFile folder name => exact hnone (g.callersWarned_includeFile folder name)
    | computeCallers => exact absurd rfl he
    | queryCallers a => exact congrArg callersWarned (g.heeds_noteCallerQuery a).after

/-- The graph has warned after an event if the event gave rise to a warning, or if it had before
and the event did not compute callers. -/
theorem callersWarned_after_iff (e : GraphEvent) :
    (e.after g).callersWarned = true ↔
      e.warnings g ≠ [] ∨ (g.callersWarned = true ∧ e ≠ .build .computeCallers) := by
  by_cases he : e = .build .computeCallers
  · subst he
    constructor
    · intro h
      cases h
    · rintro (hwarned | ⟨-, hne⟩)
      · exact absurd rfl hwarned
      · exact absurd rfl hne
  · rw [callersWarned_after g he, warnings_eq, firstWarning_ne_nil_iff, and_iff_left he]
    cases g.callersWarned <;> simp

end GraphEvent

/-! ## Lives -/

namespace CallGraph

variable {g : CallGraph}

/-- Until callers are computed, the first question in vain is warned about and no other,
unless the graph has warned before. -/
theorem logged_eq {gap : List GraphEvent} (hgap : .build .computeCallers ∉ gap) :
    g.logged gap = firstWarning g.callersWarned (g.askedInVain gap) := by
  induction gap generalizing g with
  | nil => cases h : g.callersWarned <;> rfl
  | cons e gap ih =>
    obtain ⟨hne, hrest⟩ := not_or.1 (mt List.mem_cons.2 hgap)
    rw [logged, askedInVain, firstWarning_append, ih hrest, e.warnings_eq,
      GraphEvent.callersWarned_after g (Ne.symm hne)]

theorem follow_append_singleton (g : CallGraph) (events : List GraphEvent) (e : GraphEvent) :
    g.follow (events ++ [e]) = e.after (g.follow events) := by
  unfold follow
  rw [List.foldl_append]
  rfl

theorem not_warnedSince_nil (g : CallGraph) : ¬g.WarnedSince [] := by
  rintro ⟨before, e, later, heq, -⟩
  exact absurd heq.symm (List.append_ne_nil_of_right_ne_nil before (List.cons_ne_nil e later))

theorem warnedSince_concat {events : List GraphEvent} {e : GraphEvent} :
    g.WarnedSince (events ++ [e]) ↔
      e.warnings (g.follow events) ≠ [] ∨
        (g.WarnedSince events ∧ e ≠ .build .computeCallers) := by
  constructor
  · rintro ⟨before, x, later, heq, hlater, hwarned⟩
    rcases List.eq_nil_or_concat' later with rfl | ⟨later, y, rfl⟩
    · obtain ⟨rfl, rfl⟩ := List.append_singleton_inj.1 heq
      exact Or.inl hwarned
    · rw [← List.cons_append, ← List.append_assoc] at heq
      obtain ⟨rfl, rfl⟩ := List.append_singleton_inj.1 heq
      rw [List.mem_append, not_or, List.mem_singleton] at hlater
      exact Or.inr ⟨⟨before, x, later, rfl, hlater.1, hwarned⟩, Ne.symm hlater.2⟩
  · rintro (hwarned | ⟨⟨before, x, later, rfl, hlater, hwarned⟩, hne⟩)
    · exact ⟨events, e, [], rfl, List.not_mem_nil, hwarned⟩
    · refine ⟨before, x, later ++ [e], by simp, ?_, hwarned⟩
      rw [List.mem_append, not_or, List.mem_singleton]
      exact ⟨hlater, Ne.symm hne⟩

/-- What a graph remembers of its life: whether it has warned since callers were last
computed. -/
theorem callersWarned_follow_iff (number : Nat) (config : QueryConfig) (events : List GraphEvent) :
    ((new number config).follow events).callersWarned = true ↔
      (new number config).WarnedSince events := by
  induction events using List.reverseRecOn with
  | nil =>
    constructor
    · intro h
      cases h
    · exact fun h => absurd h (not_warnedSince_nil _)
  | append_singleton events e ih =>
    rw [follow_append_singleton, GraphEvent.callersWarned_after_iff, warnedSince_concat, ih]

theorem callersOf_eq_nil (h : g.callersComputed = false) (a : Symbol) : g.callersOf a = [] := by
  have hnone : g.callers = none := Option.not_isSome_iff_eq_none.1 (Bool.eq_false_iff.1 h)
  unfold callersOf
  rw [hnone]

/-- One question is warned about or it is not. -/
theorem firstWarning_vain_cases {warned : Bool} (a : Symbol) :
    firstWarning warned (g.vain [a]) = [callersWarning a] ∨
      firstWarning warned (g.vain [a]) = [] := by
  unfold vain
  cases g.callersComputed with
  | true => cases warned <;> exact .inr rfl
  | false =>
    cases warned with
    | true => exact .inr rfl
    | false => exact .inl rfl

/-- Whatever has happened to a graph, a question for the callers of a symbol is warned about
exactly if callers are not computed and nothing was warned about since they last were, and the
warning names the symbol.  While they are not computed it is answered with nothing; while they
are, no question warns or changes the graph.  So from the beginning, or from a computation, up to
the next one there is one warning, about what was asked in vain first, if anything was. -/
theorem warns_once_per_gap (number : Nat) (config : QueryConfig) (events : List GraphEvent) :
    let start := new number config
    let g := start.follow events
    (∀ a, ((g.queryCallers a).2.2 = [callersWarning a] ↔
          g.callersComputed = false ∧ ¬start.WarnedSince events) ∧
        ((g.queryCallers a).2.2 = [callersWarning a] ∨ (g.queryCallers a).2.2 = []) ∧
        ∀ text ∈ (g.queryCallers a).2.2, a.name.toList <:+: text.toList) ∧
    (g.callersComputed = false → ∀ a, (g.queryCallers a).2.1 = []) ∧
    (g.callersComputed = true →
      (∀ a, (g.queryCallers a).1 = g ∧ (g.queryCallers a).2.2 = []) ∧
        ∀ (p : Predicate) (item : Item),
          (p.eval g item).graph = g ∧ (p.eval g item).warnings = []) ∧
    ∀ gap, .build .computeCallers ∉ gap →
      (events = [] ∨ ∃ earlier, events = earlier ++ [.build .computeCallers]) →
        g.logged gap = ((g.askedInVain gap).head?.map callersWarning).toList := by
  intro start g
  have hwarned : g.callersWarned = true ↔ start.WarnedSince events :=
    callersWarned_follow_iff number config events
  refine ⟨fun a => ?_, fun hmissing a => callersOf_eq_nil hmissing a, fun hcomputed => ?_, ?_⟩
  · have hlogged : (g.queryCallers a).2.2 = firstWarning g.callersWarned (g.vain [a]) :=
      (g.heeds_noteCallerQuery a).warnings
    have hone : (g.queryCallers a).2.2 = [callersWarning a] ∨ (g.queryCallers a).2.2 = [] := by
      rw [hlogged]
      exact firstWarning_vain_cases a
    refine ⟨?_, hone, fun text htext => ?_⟩
    · rw [hlogged, ← hwarned, Bool.not_eq_true]
      unfold vain
      cases g.callersComputed with
      | true => cases g.callersWarned <;> simp [firstWarning]
      | false => cases g.callersWarned <;> simp [firstWarning]
    · rcases hone with hone | hone
      · rw [hone, List.mem_singleton] at htext
        exact htext ▸ name_infix_callersWarning a
      · rw [hone] at htext
        cases htext
  · exact ⟨fun a => (g.heeds_noteCallerQuery a).eq_of_computed hcomputed,
      fun p item => (p.heeds_eval g item).eq_of_computed hcomputed⟩
  · intro gap hgap hbegins
    have hfresh : g.callersWarned = false := by
      rcases hbegins with rfl | ⟨earlier, rfl⟩
      · rfl
      · exact congrArg callersWarned (start.follow_append_singleton earlier _)
    rw [logged_eq hgap, hfresh]
    rfl

/-- In each of two gaps the first question is warned about, and the one between them is not. -/
example :
    (new 0 .standard).logged [
      .build (.addSymbol ping.toSymbolDecl),
      .build (.queryCallers ping),
      .ask (.relatedToSelf .callers) (.symbol ping),
      .build .computeCallers,
      .build (.queryCallers ping),
      .build (.addCall 0 0),
      .ask (.relatedToSelf .callers) (.symbol pong),
      .build (.queryCallers ping)] = [callersWarning ping, callersWarning pong] := by
  decide +kernel

end CallGraph

end CallAtlas
