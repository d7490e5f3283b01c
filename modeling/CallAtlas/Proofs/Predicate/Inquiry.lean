/-
# `CallAtlas.Proofs.Predicate.Inquiry` — asking while graphs are built

A predicate with a name pattern for a target notes the symbols that the pattern
stands for, and looks for them again when it meets another graph.  An `Inquiry`
is such a predicate among graphs that grow between one question and the next.

The symbols that are noted are those that the graph had when the questions about
it began that no question about another graph has interrupted (`Series`).  A
symbol that is added during a series is not noted, even if its name matches: an
answer may be false then that would be true if the predicate were new.  That is
the one way in which what is noted can mislead.  Symbols neither leave a graph
nor change their names, so an answer that is true is as good as new, and every
answer is where no matching symbol was added.
-/
import CallAtlas.Predicate.Basic
import CallAtlas.Proofs.Graph.Building
import CallAtlas.Proofs.Outcome
import Mathlib.Logic.Function.Basic

namespace CallAtlas

/-! ## Graphs that grow -/

namespace CallGraph

/-- What is a symbol of the one graph is a symbol of the other. -/
def GrowsTo (g h : CallGraph) : Prop := ∀ a, g.Has a → h.Has a

/-- The graph is the one with this number, and has not lost a symbol of another. -/
structure Continues (number : Nat) (g h : CallGraph) : Prop where
  number : h.number = number
  grown : g.GrowsTo h

variable {number : Nat} {g h : CallGraph}

theorem has_addSymbol {a : Symbol} (ha : h.Has a) (d : SymbolDecl) : (h.addSymbol d).1.Has a := by
  have hlt : a.id < h.decls.size := ha.id_lt
  unfold Has symbol? at ha ⊢
  show (h.decls.push d)[a.id]?.map _ = _
  rw [Array.getElem?_push, if_neg (Nat.ne_of_lt hlt)]
  exact ha

theorem has_addCall {a : Symbol} (ha : h.Has a) (caller callee : Nat) :
    (h.addCall caller callee).1.Has a := by
  rcases addCall_cases h caller callee with heq | ⟨-, -, heq⟩
  · rw [heq]
    exact ha
  · rw [heq]
    exact ha

theorem kept_continues (number : Nat) (g : CallGraph) : Kept (Continues number g) where
  addSymbol _ d hc := ⟨hc.number, fun a ha => has_addSymbol (hc.grown a ha) d⟩
  addCall h caller callee hc := by
    refine ⟨?_, fun a ha => has_addCall (hc.grown a ha) caller callee⟩
    rcases addCall_cases h caller callee with heq | ⟨-, -, heq⟩
    · rw [heq]
      exact hc.number
    · rw [heq]
      exact hc.number
  computeCallers _ hc := ⟨hc.number, hc.grown⟩
  noteCallerQuery h a hc := by
    unfold CallGraph.noteCallerQuery
    split
    · exact ⟨hc.number, hc.grown⟩
    · exact hc

end CallGraph

/-! ## What a pattern stands for -/

namespace Target

theorem ofPattern_eq {pattern : String} {r : Regex} (hr : Pattern.wholeName pattern = .ok r) :
    ofPattern pattern = .ok (.named r none) := by
  unfold ofPattern
  rw [hr]
  rfl

/-- The symbols that a pattern stands for in a graph, where some may be noted. -/
def symbolsFor (g : CallGraph) (pattern : Regex) : Option (Nat × IdSet) → IdSet
  | some (number, ids) => if number = g.number then ids else matching g pattern
  | none => matching g pattern

theorem note_named (g : CallGraph) (pattern : Regex) (noted : Option (Nat × IdSet)) :
    (Target.named pattern noted).note g =
      .named pattern (some (g.number, symbolsFor g pattern noted)) := by
  cases noted with
  | none => rfl
  | some kept =>
    obtain ⟨number, ids⟩ := kept
    simp only [note, symbolsFor]
    split
    · rename_i h
      rw [h]
    · rfl

/-- Some symbol of the image is one of a graph with a matching name. -/
def Meets (g : CallGraph) (pattern : Regex) (image : SymbolSet) : Prop :=
  ∃ b ∈ image.toList, ∃ c, g.Has c ∧ c.id = b.id ∧ pattern.isMatch c.name = true

theorem hasKey_matching {g : CallGraph} {pattern : Regex} {id : Nat} :
    (matching g pattern).hasKey id = true ↔
      ∃ c, g.Has c ∧ c.id = id ∧ pattern.isMatch c.name = true := by
  unfold matching
  rw [OrderedSet.hasKey_iff, OrderedSet.mem_keys_ofList, List.map_id', List.mem_map]
  constructor
  · rintro ⟨c, hc, hid⟩
    obtain ⟨hmem, hmatch⟩ := List.mem_filter.1 hc
    exact ⟨c, CallGraph.mem_symbols.1 hmem, hid, hmatch⟩
  · rintro ⟨c, hhas, hid, hmatch⟩
    exact ⟨c, List.mem_filter.2 ⟨CallGraph.mem_symbols.2 hhas, hmatch⟩, hid⟩

theorem any_hasKey_matching {g : CallGraph} {pattern : Regex} {image : SymbolSet} :
    (image.toList.any fun b => (matching g pattern).hasKey b.id) = true ↔
      Meets g pattern image := by
  simp only [List.any_eq_true, hasKey_matching]
  exact Iff.rfl

/-- Symbols that were there are still met when the graph has grown. -/
theorem Meets.mono {g h : CallGraph} {pattern : Regex} {image : SymbolSet}
    (hm : Meets g pattern image) (hgrown : g.GrowsTo h) : Meets h pattern image := by
  obtain ⟨b, hb, c, hc, hid, hmatch⟩ := hm
  exact ⟨b, hb, c, hgrown c hc, hid, hmatch⟩

end Target

namespace Predicate

/-- One question about a relation to a name pattern. -/
theorem eval_named (g : CallGraph) (a : Symbol) (relation : Relation) (pattern : Regex)
    (noted : Option (Nat × IdSet)) :
    (Predicate.related relation (.named pattern noted)).eval g (.symbol a) =
      ⟨(relation.imageOf g a).toList.any fun b => (Target.symbolsFor g pattern noted).hasKey b.id,
        .related relation (.named pattern (some (g.number, Target.symbolsFor g pattern noted))),
        (noteRelation g relation a).1, (noteRelation g relation a).2⟩ := by
  simp only [eval, Target.note_named, Target.met, beq_self_eq_true, Bool.true_and]

/-- A new predicate answers whether the image meets the symbols of the graph whose names
match. -/
theorem holds_named_iff {g : CallGraph} {a : Symbol} {relation : Relation} {pattern : Regex} :
    (Predicate.related relation (.named pattern none)).holds g (.symbol a) = true ↔
      Target.Meets g pattern (relation.imageOf g a) := by
  unfold holds
  rw [eval_named]
  exact Target.any_hasKey_matching

section Kept

variable {I : CallGraph → Prop} (hI : CallGraph.Kept I)
include hI

theorem kept_noteRelation {g : CallGraph} (h : I g) (relation : Relation) (a : Symbol) :
    I (noteRelation g relation a).1 := by
  unfold noteRelation
  split
  · exact hI.noteCallerQuery g a h
  · exact h

/-- Asking a predicate keeps what building a graph keeps. -/
theorem kept_eval (item : Item) (p : Predicate) {g : CallGraph} (h : I g) :
    I (p.eval g item).graph := by
  induction p generalizing g with
  | const value => exact h
  | mark m => cases item <;> exact h
  | and left right ihl ihr => exact ihr (ihl h)
  | or left right ihl ihr => exact ihr (ihl h)
  | not operand ih => exact ih h
  | related relation target =>
    cases item with
    | symbol a => exact kept_noteRelation hI h relation a
    | path p => exact h
  | relatedToSelf relation =>
    cases item with
    | symbol a => exact kept_noteRelation hI h relation a
    | path p => exact h
  | field test => exact h
  | along place pattern => cases item <;> exact h

end Kept

end Predicate

/-! ## Inquiries -/

/-- A graph is built further, or the predicate is asked of a symbol in a graph. -/
inductive InquiryEvent
  | build (n : Nat) (step : GraphStep)
  | ask (n : Nat) (a : Symbol)

/-- Graphs, each at its number, and a predicate that is asked of their symbols. -/
structure Inquiry where
  graphs : Nat → CallGraph
  predicate : Predicate

namespace Inquiry

/-- Graphs without symbols, and a predicate that was not asked yet. -/
def start (config : Nat → QueryConfig) (p : Predicate) : Inquiry :=
  ⟨fun n => .new n (config n), p⟩

/-- The verdict on a symbol in a graph. -/
def verdict (w : Inquiry) (n : Nat) (a : Symbol) : Verdict :=
  w.predicate.eval (w.graphs n) (.symbol a)

/-- The graphs and the predicate after an event. -/
def after (w : Inquiry) : InquiryEvent → Inquiry
  | .build n step => { w with graphs := Function.update w.graphs n (step.after (w.graphs n)) }
  | .ask n a =>
      ⟨Function.update w.graphs n (w.verdict n a).graph, (w.verdict n a).predicate⟩

/-- The graphs and the predicate after some events. -/
def run (w : Inquiry) (events : List InquiryEvent) : Inquiry := events.foldl after w

theorem run_append_singleton (w : Inquiry) (events : List InquiryEvent) (e : InquiryEvent) :
    w.run (events ++ [e]) = (w.run events).after e := by
  unfold run
  rw [List.foldl_append]
  rfl

/-- What building a graph keeps, each of the graphs keeps through every event. -/
theorem kept_after {I : CallGraph → Prop} (hI : CallGraph.Kept I) {w : Inquiry} {m : Nat}
    (h : I (w.graphs m)) (e : InquiryEvent) : I ((w.after e).graphs m) := by
  cases e with
  | build n step =>
    by_cases hmn : m = n
    · subst hmn
      simp only [after, Function.update_self]
      exact hI.after step h
    · simp only [after, Function.update_of_ne hmn]
      exact h
  | ask n a =>
    by_cases hmn : m = n
    · subst hmn
      simp only [after, Function.update_self]
      exact Predicate.kept_eval hI _ _ h
    · simp only [after, Function.update_of_ne hmn]
      exact h

/-- The graph that the last question was about. -/
def lastAsked (events : List InquiryEvent) : Option Nat :=
  events.foldl (fun last e => match e with | .build _ _ => last | .ask n _ => some n) none

theorem lastAsked_build (events : List InquiryEvent) (n : Nat) (step : GraphStep) :
    lastAsked (events ++ [.build n step]) = lastAsked events := by
  unfold lastAsked
  rw [List.foldl_append]
  rfl

theorem lastAsked_ask (events : List InquiryEvent) (n : Nat) (a : Symbol) :
    lastAsked (events ++ [.ask n a]) = some n := by
  unfold lastAsked
  rw [List.foldl_append]
  rfl

/-- What follows on some events is a series of questions about one graph: the last question
before was about another graph, if there was one, and from the first question of the series on
there are none about others. -/
structure Series (n : Nat) (before series : List InquiryEvent) : Prop where
  broken : lastAsked before ≠ some n
  first : series = [] ∨ ∃ a rest, series = .ask n a :: rest
  only : ∀ m a, .ask m a ∈ series → m = n

variable {n : Nat} {before series : List InquiryEvent}

theorem Series.snoc (h : Series n before series) (hne : series ≠ []) {e : InquiryEvent}
    (he : ∀ m a, e = .ask m a → m = n) : Series n before (series ++ [e]) where
  broken := h.broken
  first := by
    obtain ⟨a, rest, rfl⟩ := h.first.resolve_left hne
    exact Or.inr ⟨a, rest ++ [e], rfl⟩
  only m a hmem := by
    rcases List.mem_append.1 hmem with hmem | hmem
    · exact h.only m a hmem
    · exact he m a (List.mem_singleton.1 hmem).symm

theorem series_nil (h : lastAsked before ≠ some n) : Series n before [] where
  broken := h
  first := Or.inl rfl
  only _ _ hmem := absurd hmem List.not_mem_nil

theorem series_singleton (h : lastAsked before ≠ some n) (a : Symbol) :
    Series n before [.ask n a] where
  broken := h
  first := Or.inr ⟨a, [], rfl⟩
  only _ _ hmem := (InquiryEvent.ask.inj (List.mem_singleton.1 hmem)).1

/-- A series that has begun makes the last question one about its graph. -/
theorem Series.lastAsked_eq (h : Series n before series) (hne : series ≠ []) :
    lastAsked (before ++ series) = some n := by
  obtain ⟨a, rest, rfl⟩ := h.first.resolve_left hne
  have hrest : ∀ m b, .ask m b ∈ rest → m = n := fun m b hmem =>
    h.only m b (List.mem_cons_of_mem _ hmem)
  clear h hne
  induction rest using List.reverseRecOn with
  | nil => exact lastAsked_ask before n a
  | append_singleton rest e ih =>
    rw [← List.cons_append, ← List.append_assoc]
    cases e with
    | build k step =>
      rw [lastAsked_build]
      exact ih fun m b hmem => hrest m b (List.mem_append_left _ hmem)
    | ask k b =>
      rw [lastAsked_ask]
      exact congrArg some (hrest k b (List.mem_append_right _ List.mem_cons_self))

/-! ## What is noted -/

section Run

variable (config : Nat → QueryConfig) (relation : Relation) (pattern : Regex)

/-- The run of a predicate that relates symbols to those whose names match a pattern. -/
def ofNamed (events : List InquiryEvent) : Inquiry :=
  (start config (.related relation (.named pattern none))).run events

/-- A graph after some events. -/
def graphAt (events : List InquiryEvent) (n : Nat) : CallGraph :=
  (ofNamed config relation pattern events).graphs n

/-- What the predicate answers after some events about a symbol in a graph. -/
def answer (events : List InquiryEvent) (n : Nat) (a : Symbol) : Bool :=
  ((ofNamed config relation pattern events).verdict n a).holds

/-- What a new predicate would answer instead. -/
def newAnswer (events : List InquiryEvent) (n : Nat) (a : Symbol) : Bool :=
  (Predicate.related relation (.named pattern none)).holds
    (graphAt config relation pattern events n) (.symbol a)

/-- After some events the graphs have their numbers, and what is noted are the matching symbols
that a graph had when the series of questions about it began. -/
structure Recalls (events : List InquiryEvent) : Prop where
  number : ∀ m, (graphAt config relation pattern events m).number = m
  unasked : lastAsked events = none →
    (ofNamed config relation pattern events).predicate = .related relation (.named pattern none)
  asked : ∀ n, lastAsked events = some n → ∃ before series, events = before ++ series ∧
    series ≠ [] ∧ Series n before series ∧
    (graphAt config relation pattern before n).GrowsTo
      (graphAt config relation pattern events n) ∧
    (ofNamed config relation pattern events).predicate = .related relation (.named pattern
      (some (n, Target.matching (graphAt config relation pattern before n) pattern)))

variable {config relation pattern} {events : List InquiryEvent}

/-- What a question finds noted: the matching symbols that the graph had when the series began
that the question belongs to. -/
theorem Recalls.exists_series (h : Recalls config relation pattern events) (n : Nat) :
    ∃ before series noted, events = before ++ series ∧ Series n before series ∧
      (graphAt config relation pattern before n).GrowsTo
        (graphAt config relation pattern events n) ∧
      (ofNamed config relation pattern events).predicate =
        .related relation (.named pattern noted) ∧
      Target.symbolsFor (graphAt config relation pattern events n) pattern noted =
        Target.matching (graphAt config relation pattern before n) pattern := by
  by_cases hlast : lastAsked events = some n
  · obtain ⟨before, series, heq, -, hseries, hgrown, hpred⟩ := h.asked n hlast
    exact ⟨before, series, _, heq, hseries, hgrown, hpred, if_pos (h.number n).symm⟩
  · have hnil := series_nil hlast
    cases hm : lastAsked events with
    | none =>
      exact ⟨events, [], none, (List.append_nil events).symm, hnil, fun _ ha => ha, h.unasked hm, rfl⟩
    | some m =>
      obtain ⟨_, _, -, -, -, -, hpred⟩ := h.asked m hm
      refine ⟨events, [], _, (List.append_nil events).symm, hnil, fun _ ha => ha, hpred, if_neg ?_⟩
      rw [h.number n]
      rintro rfl
      exact hlast hm

theorem Recalls.continues (h : Recalls config relation pattern events) {g : CallGraph} {m : Nat}
    (hgrown : g.GrowsTo (graphAt config relation pattern events m)) (e : InquiryEvent) :
    CallGraph.Continues m g (graphAt config relation pattern (events ++ [e]) m) := by
  unfold graphAt ofNamed
  rw [run_append_singleton]
  exact kept_after (CallGraph.kept_continues m g) ⟨h.number m, hgrown⟩ e

theorem recalls_nil : Recalls config relation pattern [] where
  number _ := rfl
  unasked _ := rfl
  asked _ h := nomatch h

theorem Recalls.build (h : Recalls config relation pattern events) (k : Nat) (step : GraphStep) :
    Recalls config relation pattern (events ++ [.build k step]) := by
  have hpredicate : (ofNamed config relation pattern (events ++ [.build k step])).predicate =
      (ofNamed config relation pattern events).predicate := by
    unfold ofNamed
    rw [run_append_singleton]
    rfl
  refine ⟨?_, ?_, ?_⟩
  · intro m
    exact (h.continues (fun _ ha => ha) _).number
  · intro hlast
    rw [lastAsked_build] at hlast
    rw [hpredicate]
    exact h.unasked hlast
  · intro n hlast
    rw [lastAsked_build] at hlast
    obtain ⟨before, series, heq, hne, hseries, hgrown, hpred⟩ := h.asked n hlast
    have hlonger : Series n before (series ++ [.build k step]) :=
      hseries.snoc hne fun _ _ hask => nomatch hask
    refine ⟨before, series ++ [.build k step], ?_, by simp, hlonger,
      (h.continues hgrown _).grown, hpredicate.trans hpred⟩
    rw [heq, List.append_assoc]

theorem Recalls.ask (h : Recalls config relation pattern events) (k : Nat) (a : Symbol) :
    Recalls config relation pattern (events ++ [.ask k a]) := by
  obtain ⟨before, series, noted, heq, hseries, hgrown, hpred, hnoted⟩ := h.exists_series k
  have hpredicate : (ofNamed config relation pattern (events ++ [.ask k a])).predicate =
      .related relation (.named pattern
        (some (k, Target.matching (graphAt config relation pattern before k) pattern))) := by
    have hverdict := Predicate.eval_named (graphAt config relation pattern events k) a
      relation pattern noted
    rw [← hpred, hnoted, h.number k] at hverdict
    exact (congrArg Inquiry.predicate (run_append_singleton _ events _)).trans
      (congrArg Verdict.predicate hverdict)
  refine ⟨?_, ?_, ?_⟩
  · intro m
    exact (h.continues (fun _ ha => ha) _).number
  · intro hlast
    rw [lastAsked_ask] at hlast
    cases hlast
  · intro n hlast
    rw [lastAsked_ask] at hlast
    cases hlast
    have hlonger : Series k before (series ++ [.ask k a]) := by
      by_cases hnil : series = []
      · rw [hnil]
        exact series_singleton hseries.broken a
      · exact hseries.snoc hnil fun _ _ hask => ((InquiryEvent.ask.inj hask).1).symm
    refine ⟨before, series ++ [.ask k a], ?_, by simp, hlonger, (h.continues hgrown _).grown,
      hpredicate⟩
    rw [heq, List.append_assoc]

theorem recalls (config : Nat → QueryConfig) (relation : Relation) (pattern : Regex)
    (events : List InquiryEvent) : Recalls config relation pattern events := by
  induction events using List.reverseRecOn with
  | nil => exact recalls_nil
  | append_singleton events e ih =>
    cases e with
    | build k step => exact ih.build k step
    | ask k a => exact ih.ask k a

/-! ## Answers -/

/-- An answer is whether the image meets the matching symbols that the graph had when the
series of questions about it began. -/
theorem Recalls.exists_series_answer (h : Recalls config relation pattern events) (n : Nat)
    (a : Symbol) :
    ∃ before series, events = before ++ series ∧ Series n before series ∧
      (graphAt config relation pattern before n).GrowsTo
        (graphAt config relation pattern events n) ∧
      (answer config relation pattern events n a = true ↔
        Target.Meets (graphAt config relation pattern before n) pattern
          (relation.imageOf (graphAt config relation pattern events n) a)) := by
  obtain ⟨before, series, noted, heq, hseries, hgrown, hpred, hnoted⟩ := h.exists_series n
  refine ⟨before, series, heq, hseries, hgrown, ?_⟩
  have hverdict := Predicate.eval_named (graphAt config relation pattern events n) a relation
    pattern noted
  rw [← hpred, hnoted] at hverdict
  have hanswer := congrArg Verdict.holds hverdict
  rw [answer, show ((ofNamed config relation pattern events).verdict n a).holds = _ from hanswer]
  exact Target.any_hasKey_matching

theorem newAnswer_iff {n : Nat} {a : Symbol} :
    newAnswer config relation pattern events n a = true ↔
      Target.Meets (graphAt config relation pattern events n) pattern
        (relation.imageOf (graphAt config relation pattern events n) a) :=
  Predicate.holds_named_iff

end Run

/-- Questions to a predicate with a name pattern, among any graphs that are built in between,
are answered by the symbols with matching names that the graph had when the series of questions
about it began.  A new predicate would answer the same unless a matching symbol was added
since, and where the answer is true it would in any case; so it would if the last question was
not about this graph. -/
theorem answer_by_series {pattern : String} {r : Regex} (hr : Pattern.wholeName pattern = .ok r)
    (config : Nat → QueryConfig) (relation : Relation) (events : List InquiryEvent) (n : Nat)
    (a : Symbol) :
    Target.ofPattern pattern = .ok (.named r none) ∧
    ∃ before series, events = before ++ series ∧ Series n before series ∧
      (answer config relation r events n a = true ↔
        Target.Meets (graphAt config relation r before n) r
          (relation.imageOf (graphAt config relation r events n) a)) ∧
      (newAnswer config relation r events n a = true ↔
        Target.Meets (graphAt config relation r events n) r
          (relation.imageOf (graphAt config relation r events n) a)) ∧
      (answer config relation r events n a = true →
        newAnswer config relation r events n a = true) ∧
      ((∀ c, (graphAt config relation r events n).Has c → r.isMatch c.name = true →
          (graphAt config relation r before n).Has c) →
        answer config relation r events n a = newAnswer config relation r events n a) ∧
      (lastAsked events ≠ some n →
        answer config relation r events n a = newAnswer config relation r events n a) := by
  obtain ⟨before, series, heq, hseries, hgrown, hanswer⟩ :=
    (recalls config relation r events).exists_series_answer n a
  have htrue : answer config relation r events n a = true →
      newAnswer config relation r events n a = true :=
    fun hmeets => newAnswer_iff.2 ((hanswer.1 hmeets).mono hgrown)
  have hsame : (∀ c, (graphAt config relation r events n).Has c → r.isMatch c.name = true →
      (graphAt config relation r before n).Has c) →
      answer config relation r events n a = newAnswer config relation r events n a := by
    intro hold
    refine Bool.eq_iff_iff.2 ⟨htrue, ?_⟩
    intro hmeets
    obtain ⟨b, hb, c, hc, hid, hmatch⟩ := newAnswer_iff.1 hmeets
    exact hanswer.2 ⟨b, hb, c, hold c hc hmatch, hid, hmatch⟩
  refine ⟨Target.ofPattern_eq hr, before, series, heq, hseries, hanswer, newAnswer_iff, htrue,
    hsame, ?_⟩
  intro hlast
  refine hsame ?_
  intro c hc _
  have hnil : series = [] := by
    by_contra hne
    exact hlast (heq ▸ hseries.lastAsked_eq hne)
  rw [heq, hnil, List.append_nil] at hc
  exact hc

/-- A function is asked about, and then calls a new function. -/
def callAdded : List InquiryEvent := [
  .build 0 (.addSymbol CallGraph.ping.toSymbolDecl),
  .build 0 .computeCallers,
  .ask 0 CallGraph.ping,
  .build 0 (.addSymbol CallGraph.pong.toSymbolDecl),
  .build 0 (.addCall 0 1),
  .build 0 .computeCallers]

/-- Whether it calls a function of that name is answered by what was there at first: a new
predicate would say that it does. -/
theorem answer_false_after_addSymbol :
    ∃ r, Target.ofPattern "pong" = .ok (.named r none) ∧
      answer (fun _ => .standard) .callees r callAdded 0 CallGraph.ping = false ∧
      newAnswer (fun _ => .standard) .callees r callAdded 0 CallGraph.ping = true := by
  have hrun : ((Pattern.wholeName "pong").toOption.any fun r =>
      !answer (fun _ => .standard) .callees r callAdded 0 CallGraph.ping &&
        newAnswer (fun _ => .standard) .callees r callAdded 0 CallGraph.ping) = true := by
    decide +kernel
  obtain ⟨r, hr, hboth⟩ := (Option.any_eq_true _ _).1 hrun
  rw [Bool.and_eq_true, Bool.not_eq_true'] at hboth
  exact ⟨r, Target.ofPattern_eq (Outcome.eq_ok_of_toOption_eq_some hr), hboth.1, hboth.2⟩

/-- A question about another graph in between makes the answer new. -/
theorem answer_by_series_callAdded :
    ∃ r, Pattern.wholeName "pong" = .ok r ∧
      answer (fun _ => .standard) .callees r (callAdded ++ [.ask 1 CallGraph.ping]) 0
          CallGraph.ping =
        newAnswer (fun _ => .standard) .callees r (callAdded ++ [.ask 1 CallGraph.ping]) 0
          CallGraph.ping := by
  have hok : (Pattern.wholeName "pong").toOption.isSome = true := by decide +kernel
  obtain ⟨r, hr⟩ := Option.isSome_iff_exists.1 hok
  have hpattern := Outcome.eq_ok_of_toOption_eq_some hr
  obtain ⟨-, _, _, -, -, -, -, -, -, hnew⟩ := answer_by_series hpattern (fun _ => .standard) .callees
    (callAdded ++ [.ask 1 CallGraph.ping]) 0 CallGraph.ping
  exact ⟨r, hpattern, hnew (by decide)⟩

end Inquiry

end CallAtlas
