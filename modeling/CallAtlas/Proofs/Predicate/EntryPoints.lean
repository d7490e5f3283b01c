/-
# `CallAtlas.Proofs.Predicate.EntryPoints` — one name pattern, taken in several places

A name pattern selects symbols of a set of paths, members of a set, and the target
of a relationship.  The filter of a set is the one of the three that knows
wildcards: there the empty text and a star leave the name open, and are not compiled.
The two others compile every text, for which a star is no pattern and the empty text
is the pattern of the empty name.

So the three agree on a text exactly if it is no wildcard (`entriesAgree_iff`).  Two
things carry this.  What is selected from some paths and what is filtered out of
their symbols differ in the order of two steps, leaving out and putting together,
and these commute where an identity stands for one symbol.  And the target of a
relationship notes the identities with matching names when it meets the graph, which
are those of the filtered program, and nothing that it is asked later changes them.

Where paths of two graphs were put together an identity may stand for two symbols, and
nothing is said of such sets here.
-/
import CallAtlas.Proofs.Predicate.NameFilter
import CallAtlas.Proofs.Predicate.Selection
import CallAtlas.Proofs.SymbolSet.Universe

namespace CallAtlas

/-! ## Symbols of paths -/

namespace PathSet

variable {s : PathSet} {pattern : String} {r : Regex}

theorem symbolsMatching_of_ok (hr : Pattern.wholeName pattern = .ok r) (s : PathSet) :
    s.symbolsMatching pattern =
      .ok (.ofParts s.graph (.ofList (s.symbolList.filter fun a => r.isMatch a.name)) s.ambient) := by
  unfold symbolsMatching
  rw [hr]
  rfl

theorem symbolsMatching_of_error {e : QueryError} (he : Pattern.wholeName pattern = .error e)
    (s : PathSet) : s.symbolsMatching pattern = .error e := by
  unfold symbolsMatching
  rw [he]
  rfl

theorem Within.has_symbolList {g : CallGraph} (h : s.Within g) : ∀ a ∈ s.symbolList, g.Has a := by
  intro a ha
  obtain ⟨p, hp, hap⟩ := List.mem_flatMap.1 ha
  exact (h.paths p hp).1.inGraph a hap

/-- Selecting symbols of paths by a test is filtering the set of all their symbols by it. -/
theorem toList_filter_symbols (hs : ∀ a ∈ s.symbolList, s.graph.Has a) (keep : Symbol → Bool) :
    s.symbols.toList.filter keep =
      (OrderedSet.ofList (s.symbolList.filter keep) : Members).toList :=
  OrderedSet.filter_toList_ofList (fun _ _ => CallGraph.Has.eq_of_id_eq) hs keep

end PathSet

/-! ## Targets -/

namespace Predicate

variable {g : CallGraph} {pattern : Regex}

/-- A relationship to a pattern answers by the symbols that it noted when it met the graph. -/
theorem keep_named (relation : Relation) {noted : Option (Nat × IdSet)}
    (h : Target.symbolsFor g pattern noted = Target.matching g pattern) (as : List Symbol) :
    ((Predicate.related relation (.named pattern noted)).keep g .symbol as).1 =
      as.filter fun a =>
        (relation.imageOf g a).toList.any fun b => (Target.matching g pattern).hasKey b.id := by
  induction as generalizing noted with
  | nil => rfl
  | cons a as ih =>
    -- what the first question notes is what the graph has, so the rest is asked of the same
    have hnoted : Target.symbolsFor g pattern (some (g.number, Target.matching g pattern)) =
        Target.matching g pattern := if_pos rfl
    simp only [keep, eval_named, h, ih hnoted, List.filter_cons]

theorem holds_symbols (relation : Relation) (ids : IdSet) (a : Symbol) :
    (Predicate.related relation (.symbols g.number ids)).holds g (.symbol a) =
      (relation.imageOf g a).toList.any fun b => ids.hasKey b.id := by
  simp only [holds, eval, Target.note, Target.met, beq_self_eq_true, Bool.true_and]

/-- One that has the same symbols for a fixed target answers the same, of one symbol and of many
in a row. -/
theorem holds_named_eq (relation : Relation) (a : Symbol) :
    (Predicate.related relation (.named pattern none)).holds g (.symbol a) =
      (Predicate.related relation (.symbols g.number (Target.matching g pattern))).holds g
        (.symbol a) := by
  rw [holds_symbols, holds, eval_named]
  rfl

theorem keep_named_eq (relation : Relation) (as : List Symbol) :
    ((Predicate.related relation (.named pattern none)).keep g .symbol as).1 =
      ((Predicate.related relation (.symbols g.number (Target.matching g pattern))).keep g
        .symbol as).1 := by
  rw [keep_named relation rfl, keep_eq_filter fun _ => rfl]
  simp only [holds_symbols]

end Predicate

/-- The members of the program whose names match are what the pattern stands for in the graph. -/
theorem Target.ofSet_filter (g : CallGraph) (r : Regex) :
    Target.ofSet ((SymbolSet.whole g).filter (.field (.matchText .name r))).1 =
      .symbols g.number (matching g r) := by
  have hlist : (SymbolSet.whole g).toList = g.symbols := SymbolSet.toList_universe g
  unfold Target.ofSet Target.matching
  rw [SymbolSet.toList_filter_field, hlist]
  rfl

theorem Target.ofPattern_of_error {pattern : String} {e : QueryError}
    (he : Pattern.wholeName pattern = .error e) : ofPattern pattern = .error e := by
  unfold ofPattern
  rw [he]
  rfl

/-! ## Agreement -/

namespace Pattern

/-- Wherever names are selected by the pattern it is accepted, or wherever they are it is
reported; and if it is accepted, the same symbols are selected: of the paths of a graph and of
the symbols of these paths, and as the target of a relationship and as a set for its target. -/
structure EntriesAgree (pattern : String) : Prop where
  paths : ∀ s : PathSet, (∀ a ∈ s.symbolList, s.graph.Has a) →
    (∃ chosen filtered, s.symbolsMatching pattern = .ok chosen ∧
      s.symbols.filterByName pattern = .ok filtered ∧
      chosen.equal filtered = true ∧ chosen.toList = filtered.toList) ∨
    (s.symbolsMatching pattern = .error (.badPattern pattern) ∧
      s.symbols.filterByName pattern = .error (.badPattern pattern))
  targets : ∀ g : CallGraph, g.Finalised → ∃ all, g.wholeProgram = .ok all ∧
    ((∃ target named, Target.ofPattern pattern = .ok target ∧
      all.filterByName pattern = .ok named ∧ ∀ relation : Relation,
        (∀ a, (Predicate.related relation target).holds g (.symbol a) =
          (Predicate.related relation (.ofSet named)).holds g (.symbol a)) ∧
        ∀ s : SymbolSet, s.graph = g →
          (s.filter (.related relation target)).1.toList =
            (s.filter (.related relation (.ofSet named))).1.toList) ∨
    (Target.ofPattern pattern = .error (.badPattern pattern) ∧
      all.filterByName pattern = .error (.badPattern pattern)))

variable {pattern : String}

theorem entriesAgree_of_ok (hempty : pattern ≠ "") (hstar : pattern ≠ "*") {r : Regex}
    (hr : wholeName pattern = .ok r) : EntriesAgree pattern where
  paths s hs := by
    have hlist :
        (OrderedSet.ofList (s.symbolList.filter fun a => r.isMatch a.name) : Members).toList =
          (s.symbols.filter (.field (.matchText .name r))).1.toList := by
      rw [SymbolSet.toList_filter_field]
      exact (PathSet.toList_filter_symbols hs _).symm
    refine Or.inl ⟨_, _, PathSet.symbolsMatching_of_ok hr s,
      filterByName_eq hr hempty hstar _, ?_, hlist⟩
    have hkeys := (OrderedSet.sameKeys_iff
      (OrderedSet.ofList (s.symbolList.filter fun a => r.isMatch a.name) : Members)
      (s.symbols.filter (.field (.matchText .name r))).1.members).2
    rw [SymbolSet.equal, Bool.and_eq_true]
    exact ⟨beq_self_eq_true _, hkeys fun k => by rw [hlist]; rfl⟩
  targets g hg := by
    refine ⟨.whole g, if_pos hg.computed, Or.inl ⟨_, _, Target.ofPattern_eq hr,
      filterByName_eq hr hempty hstar _, fun relation => ?_⟩⟩
    rw [Target.ofSet_filter]
    refine ⟨Predicate.holds_named_eq relation, fun s hs => ?_⟩
    rw [SymbolSet.toList_filter, SymbolSet.toList_filter, hs, Predicate.keep_named_eq]

theorem entriesAgree_of_error (hempty : pattern ≠ "") (hstar : pattern ≠ "*")
    (herror : wholeName pattern = .error (.badPattern pattern)) : EntriesAgree pattern where
  paths s _ := by
    refine Or.inr ⟨PathSet.symbolsMatching_of_error herror s, ?_⟩
    rw [SymbolSet.filterByName_of_pattern hempty hstar, herror]
    rfl
  targets g hg := by
    refine ⟨.whole g, if_pos hg.computed, Or.inr ⟨Target.ofPattern_of_error herror, ?_⟩⟩
    rw [SymbolSet.filterByName_of_pattern hempty hstar, herror]
    rfl

/-! ## Wildcards -/

theorem wholeName_star : wholeName "*" = .error (.badPattern "*") := by
  have hnone : (wholeName "*").toOption.isNone = true := by decide +kernel
  rcases wholeName_cases "*" with ⟨r, hr⟩ | herror
  · rw [hr] at hnone
    cases hnone
  · exact herror

theorem exists_wholeName_empty : ∃ r, wholeName "" = .ok r := by
  have hsome : (wholeName "").toOption.isSome = true := by decide +kernel
  obtain ⟨r, hr⟩ := Option.isSome_iff_exists.1 hsome
  exact ⟨r, Outcome.eq_ok_of_toOption_eq_some hr⟩

/-- The empty text is the pattern of the empty name. -/
theorem isMatch_wholeName_empty {r : Regex} (hr : wholeName "" = .ok r) (name : String) :
    r.isMatch name = true ↔ name = "" := by
  have hread : Regex.read "".toList = .ok ⟨.empty, 0, false⟩ := rfl
  rw [isMatch_wholeName_iff hread hr, ← String.toList_eq_nil_iff, ← List.length_eq_zero_iff]
  exact eq_comm

theorem symbolsMatching_empty (s : PathSet) : ∃ chosen, s.symbolsMatching "" = .ok chosen ∧
    chosen.members = .ofList (s.symbolList.filter fun a => a.name = "") := by
  obtain ⟨r, hr⟩ := exists_wholeName_empty
  refine ⟨_, PathSet.symbolsMatching_of_ok hr s, congrArg OrderedSet.ofList ?_⟩
  refine List.filter_congr fun a _ => ?_
  rw [Bool.eq_iff_iff, isMatch_wholeName_empty hr, decide_eq_true_iff]

theorem not_entriesAgree_star : ¬EntriesAgree "*" := by
  intro h
  have hopen := SymbolSet.filterByName_of_open (Or.inr rfl : "*" = "" ∨ "*" = "*")
  have hnone : ∀ a ∈ (default : PathSet).symbolList, (default : PathSet).graph.Has a :=
    fun _ ha => absurd ha List.not_mem_nil
  rcases h.paths default hnone with ⟨chosen, -, hchosen, -⟩ | ⟨-, hfiltered⟩
  · rw [PathSet.symbolsMatching_of_error wholeName_star] at hchosen
    cases hchosen
  · rw [hopen] at hfiltered
    cases hfiltered

theorem not_entriesAgree_empty : ¬EntriesAgree "" := by
  intro h
  let g := CallGraph.mutualPair .standard
  let s := (SymbolSet.whole g).paths (.whole g)
  have hwhole : (SymbolSet.whole g).Within g := SymbolSet.DrawnFrom.within .whole
  have hwithin : s.Within g := SymbolSet.paths_within hwhole hwhole
  have hping : CallGraph.ping ∈ s.symbols.toList := by decide +kernel
  have hopen := SymbolSet.filterByName_of_open (Or.inl rfl : "" = "" ∨ "" = "*") s.symbols
  obtain ⟨chosen', hchosen', hmembers⟩ := symbolsMatching_empty s
  rcases h.paths s hwithin.has_symbolList with
    ⟨chosen, filtered, hchosen, hfiltered, -, hlist⟩ | ⟨-, hfiltered⟩
  · obtain rfl : chosen' = chosen := Except.ok.inj (hchosen'.symm.trans hchosen)
    obtain rfl : _ = filtered := Except.ok.inj (hopen.symm.trans hfiltered)
    rw [SymbolSet.toList_filter_always] at hlist
    rw [← hlist, SymbolSet.toList, hmembers] at hping
    have hname := (List.mem_filter.1 (OrderedSet.mem_of_mem_ofList hping)).2
    exact absurd hname (by decide)
  · rw [hopen] at hfiltered
    cases hfiltered

/-- The three places agree on a text exactly if it is no wildcard. -/
theorem entriesAgree_iff : EntriesAgree pattern ↔ pattern ≠ "" ∧ pattern ≠ "*" := by
  constructor
  · intro h
    refine ⟨?_, ?_⟩
    · rintro rfl
      exact not_entriesAgree_empty h
    · rintro rfl
      exact not_entriesAgree_star h
  · rintro ⟨hempty, hstar⟩
    rcases wholeName_cases pattern with ⟨r, hr⟩ | herror
    · exact entriesAgree_of_ok hempty hstar hr
    · exact entriesAgree_of_error hempty hstar herror

/-- All places that take a name pattern agree on a text, whatever it is, exactly if it is no
wildcard.  A filter of a set takes the two wildcards for every name.  The other places compile
them: a star is reported, and the empty text selects what has the empty name. -/
theorem entries_agree_but_for_wildcards (pattern : String) :
    (EntriesAgree pattern ↔ pattern ≠ "" ∧ pattern ≠ "*") ∧
    (pattern = "" ∨ pattern = "*" → ∀ s : SymbolSet,
      ∃ kept, s.filterByName pattern = .ok kept ∧ kept.toList = s.toList) ∧
    (pattern = "*" → (∀ s : PathSet, s.symbolsMatching pattern = .error (.badPattern pattern)) ∧
      Target.ofPattern pattern = .error (.badPattern pattern)) ∧
    (pattern = "" → (∀ s : PathSet, ∃ chosen, s.symbolsMatching pattern = .ok chosen ∧
        chosen.members = .ofList (s.symbolList.filter fun a => a.name = "")) ∧
      ∃ target, Target.ofPattern pattern = .ok target ∧ ∀ (relation : Relation) g a,
        (Predicate.related relation target).holds g (.symbol a) = true ↔
          ∃ b ∈ (relation.imageOf g a).toList, ∃ c, g.Has c ∧ c.id = b.id ∧ c.name = "") := by
  refine ⟨entriesAgree_iff, ?_, ?_, ?_⟩
  · intro hopen s
    exact ⟨_, SymbolSet.filterByName_of_open hopen s, s.toList_filter_always⟩
  · rintro rfl
    exact ⟨PathSet.symbolsMatching_of_error wholeName_star,
      Target.ofPattern_of_error wholeName_star⟩
  · rintro rfl
    obtain ⟨r, hr⟩ := exists_wholeName_empty
    refine ⟨symbolsMatching_empty, _, Target.ofPattern_eq hr, fun relation g a => ?_⟩
    rw [Predicate.holds_named_iff]
    simp only [Target.Meets, isMatch_wholeName_empty hr]

/-- A star filters nothing out of the symbols of some paths, and selects nothing from the paths
nor as a target; the empty text filters nothing out and selects no symbol; and of paths of two
graphs a symbol is selected that is not among their symbols. -/
theorem entries_disagree :
    let s := (SymbolSet.whole (.mutualPair .standard)).paths (.whole (.mutualPair .standard))
    let mixed := s.union ((SymbolSet.whole .clockwork).paths (.whole .clockwork))
    (s.symbolsMatching "*" = .error (.badPattern "*") ∧
      ∃ kept, s.symbols.filterByName "*" = .ok kept ∧
        kept.toList = [CallGraph.ping, CallGraph.pong]) ∧
    (Target.ofPattern "*" = .error (.badPattern "*") ∧
      ∃ named, (SymbolSet.whole (.mutualPair .standard)).filterByName "*" = .ok named) ∧
    (∃ chosen kept, s.symbolsMatching "" = .ok chosen ∧ chosen.toList = [] ∧
      s.symbols.filterByName "" = .ok kept ∧ kept.toList = [CallGraph.ping, CallGraph.pong]) ∧
    ∃ chosen kept, mixed.symbolsMatching "tick" = .ok chosen ∧ chosen.toList = [CallGraph.tick] ∧
      mixed.symbols.filterByName "tick" = .ok kept ∧ kept.toList = [] := by
  intro s mixed
  have hsymbols : s.symbols.toList = [CallGraph.ping, CallGraph.pong] := by decide +kernel
  have hkept : ∀ pattern, pattern = "" ∨ pattern = "*" → ∃ kept,
      s.symbols.filterByName pattern = .ok kept ∧ kept.toList = [CallGraph.ping, CallGraph.pong] :=
    fun pattern hopen => ⟨_, SymbolSet.filterByName_of_open hopen _,
      (SymbolSet.toList_filter_always _).trans hsymbols⟩
  refine ⟨⟨PathSet.symbolsMatching_of_error wholeName_star s, hkept "*" (Or.inr rfl)⟩,
    ⟨Target.ofPattern_of_error wholeName_star, _, SymbolSet.filterByName_of_open (Or.inr rfl) _⟩,
    ?_, ?_⟩
  · obtain ⟨chosen, hchosen, hmembers⟩ := symbolsMatching_empty s
    obtain ⟨kept, hfiltered, hlist⟩ := hkept "" (Or.inl rfl)
    refine ⟨chosen, kept, hchosen, ?_, hfiltered, hlist⟩
    rw [SymbolSet.toList, hmembers]
    decide +kernel
  · have hchosen : (mixed.symbolsMatching "tick").toOption.map SymbolSet.toList =
        some [CallGraph.tick] := by decide +kernel
    have hfiltered : (mixed.symbols.filterByName "tick").toOption.map SymbolSet.toList =
        some [] := by decide +kernel
    obtain ⟨chosen, hok, hlist⟩ := Option.map_eq_some_iff.1 hchosen
    obtain ⟨kept, hok', hlist'⟩ := Option.map_eq_some_iff.1 hfiltered
    exact ⟨chosen, kept, Outcome.eq_ok_of_toOption_eq_some hok, hlist,
      Outcome.eq_ok_of_toOption_eq_some hok', hlist'⟩

end Pattern

end CallAtlas
