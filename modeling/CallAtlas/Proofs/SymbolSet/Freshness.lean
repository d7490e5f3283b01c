/-
# `CallAtlas.Proofs.SymbolSet.Freshness` — kept answers are never stale

A set starts without answers, and then things are done to it in any order:
changes in place, with any operand, and questions, which may leave an answer
in the set.  Whatever was done, asking the set gives what asking a copy of it
gives, since a copy keeps nothing (`answers_never_stale`).

The members agree because what is kept is up to date (`UpToDate.after`).  The
order agrees unless the set was sorted since it keeps the answer, and for that
it is enough to know how a step may leave an answer: it drops it, or it leaves
the members as they were (`SetStep.after_cases`).  Sorting is the one exception.
-/
import CallAtlas.Proofs.Graph.Building
import CallAtlas.Proofs.SymbolSet.Drawn

namespace CallAtlas

/-! ## The two directions -/

/-- The two directions in which a set is asked for the neighbours of its members. -/
inductive Direction
  | callees
  | callers

namespace Direction

/-- What a set keeps of the answer. -/
def kept : Direction → SymbolSet → Option Members
  | .callees, s => s.calleesCache
  | .callers, s => s.callersCache

/-- The answer for the members, as they are now. -/
def fresh : Direction → SymbolSet → Members
  | .callees, s => s.freshCallees
  | .callers, s => s.freshCallers

/-- The neighbours of one symbol. -/
def neighbours : Direction → CallGraph → Symbol → List Symbol
  | .callees, g => g.calleesOf
  | .callers, g => g.callersOf

/-- Asks a set. -/
def ask : Direction → SymbolSet → Expansion
  | .callees, s => s.callees
  | .callers, s => s.callers

variable {s t : SymbolSet}

theorem fresh_congr (d : Direction) (hgraph : s.graph = t.graph) (hlist : s.toList = t.toList) :
    d.fresh s = d.fresh t := by
  cases d with
  | callees =>
    show s.freshCallees = t.freshCallees
    unfold SymbolSet.freshCallees
    rw [hgraph, hlist]
  | callers =>
    show s.freshCallers = t.freshCallers
    unfold SymbolSet.freshCallers
    rw [hgraph, hlist]

theorem image_ask (d : Direction) (s : SymbolSet) :
    (d.ask s).image = s.derive ((d.kept s).getD (d.fresh s)) := by
  cases d with
  | callees =>
    simp only [ask, kept, fresh, SymbolSet.callees]
    cases s.calleesCache <;> rfl
  | callers =>
    simp only [ask, kept, fresh, SymbolSet.callers]
    cases s.callersCache <;> rfl

/-- A copy keeps nothing, so its answer is fresh. -/
theorem image_ask_clone (d : Direction) (s : SymbolSet) :
    (d.ask s.clone).image = s.derive (d.fresh s) := by
  cases d with
  | callees => rfl
  | callers => rfl

theorem asked (d : Direction) (h : s.UpToDate) :
    SymbolSet.Asked (d.neighbours s.graph) s (d.ask s) := by
  cases d with
  | callees => exact h.asked_callees
  | callers => exact h.asked_callers

theorem kept_congr {members : Members} (d : Direction) :
    d.kept { s with members := members } = d.kept s := by
  cases d with
  | callees => rfl
  | callers => rfl

theorem members_source_ask (d : Direction) (s : SymbolSet) :
    (d.ask s).source.members = s.members := by
  cases d with
  | callees =>
    simp only [ask, SymbolSet.callees]
    cases s.calleesCache <;> rfl
  | callers =>
    simp only [ask, SymbolSet.callers]
    cases s.callersCache <;> rfl

/-- Asking leaves a fresh answer in a set that has none, and nothing else. -/
theorem source_ask_cases (asked d : Direction) (s : SymbolSet) :
    (asked.ask s).source.graph = s.graph ∧ (asked.ask s).source.ambient = s.ambient ∧
      (asked.ask s).source.toList = s.toList ∧
      (d.kept (asked.ask s).source = d.kept s ∨
        d.kept (asked.ask s).source = some (d.fresh s)) := by
  cases asked with
  | callees =>
    simp only [ask, SymbolSet.callees]
    cases s.calleesCache with
    | some kept => exact ⟨rfl, rfl, rfl, Or.inl rfl⟩
    | none =>
      cases d with
      | callees => exact ⟨rfl, rfl, rfl, Or.inr rfl⟩
      | callers => exact ⟨rfl, rfl, rfl, Or.inl rfl⟩
  | callers =>
    simp only [ask, SymbolSet.callers]
    cases s.callersCache with
    | some kept => exact ⟨rfl, rfl, rfl, Or.inl rfl⟩
    | none =>
      cases d with
      | callees => exact ⟨rfl, rfl, rfl, Or.inl rfl⟩
      | callers => exact ⟨rfl, rfl, rfl, Or.inr rfl⟩

end Direction

/-! ## Steps -/

/-- What may be done to a set of symbols. -/
inductive SetStep
  | unionWith (t : SymbolSet)
  | interWith (t : SymbolSet)
  | subtract (t : SymbolSet)
  | sort (cs : List Comparator)
  | pop
  /-- asks for the callees, the callers or one of their closures -/
  | relate (r : Relation)
  /-- asks for the closure of some relations one after the other, kept to what a predicate holds
  of; reflexive or not -/
  | close (reflexive : Bool) (via : List Relation) (p : Predicate)

/-- The set after a step, whether the step succeeds or fails. -/
def SetStep.after (s : SymbolSet) : SetStep → SymbolSet
  | .unionWith t => s.unionWith t
  | .interWith t => s.interWith t
  | .subtract t => s.subtract t
  | .sort cs => s.sort cs
  | .pop =>
      match s.pop with
      | .ok (_, rest) => rest
      | .error _ => s
  | .relate r => (r.apply s).source
  -- a reflexive closure grows a copy
  | .close true _ _ => s
  | .close false via p => (s.transitiveClosure (Relation.composite via p)).source

namespace SymbolSet

/-- The set after some steps. -/
def run (s : SymbolSet) (steps : List SetStep) : SymbolSet := steps.foldl SetStep.after s

variable {s : SymbolSet}

theorem run_append (s : SymbolSet) (steps more : List SetStep) :
    s.run (steps ++ more) = (s.run steps).run more :=
  List.foldl_append

theorem run_concat (s : SymbolSet) (steps : List SetStep) (step : SetStep) :
    s.run (steps ++ [step]) = step.after (s.run steps) :=
  s.run_append steps [step]

/-- Among some steps there is one that sorted the set while it kept the answer, and the set has
kept it since. -/
def SortedSince (d : Direction) (s : SymbolSet) (steps : List SetStep) : Prop :=
  ∃ before cs after, steps = before ++ .sort cs :: after ∧
    ∀ done, done <+: after → (d.kept (s.run (before ++ .sort cs :: done))).isSome = true

end SymbolSet

theorem SymbolSet.source_transitiveClosure (relation : SymbolSet → Expansion) (s : SymbolSet) :
    (s.transitiveClosure relation).source = (relation s).source := by
  simp only [transitiveClosure]

theorem Relation.source_apply_cases (r : Relation) (s : SymbolSet) :
    (r.apply s).source = s ∨ ∃ d : Direction, (r.apply s).source = (d.ask s).source := by
  cases r with
  | callees => exact Or.inr ⟨.callees, rfl⟩
  | callers => exact Or.inr ⟨.callers, rfl⟩
  | transitiveCallees =>
    simp only [apply, SymbolSet.source_transitiveClosure]
    exact Or.inr ⟨.callees, rfl⟩
  | transitiveCallers =>
    simp only [apply, SymbolSet.source_transitiveClosure]
    exact Or.inr ⟨.callers, rfl⟩
  | reflexiveCallees => exact Or.inl rfl
  | reflexiveCallers => exact Or.inl rfl

theorem Relation.source_composite_cases (via : List Relation) (p : Predicate) (s : SymbolSet) :
    (Relation.composite via p s).source = s ∨
      ∃ d : Direction, (Relation.composite via p s).source = (d.ask s).source := by
  cases via with
  | nil => exact Or.inl rfl
  | cons r rest => exact r.source_apply_cases s

/-- What a step other than sorting makes of a set. -/
inductive SymbolSet.Moves (s : SymbolSet) : SymbolSet → Prop
  | added (t : SymbolSet) : Moves s (s.unionWith t)
  | narrowed (keep : Symbol → Bool) : Moves s (s.replace (s.members.retain keep))
  | dropped (members : Members) :
      Moves s { s with members := members, calleesCache := none, callersCache := none }
  | asked (d : Direction) : Moves s (d.ask s).source
  | stayed : Moves s s

namespace SymbolSet.Moves

variable {s t : SymbolSet}

theorem graph_eq (h : s.Moves t) : t.graph = s.graph := by
  cases h with
  | added t => exact s.graph_replace _
  | narrowed keep => exact s.graph_replace _
  | dropped members => rfl
  | asked d => exact (d.source_ask_cases d s).1
  | stayed => rfl

theorem ambient_eq (h : s.Moves t) : t.ambient = s.ambient := by
  cases h with
  | added t => exact s.ambient_replace _
  | narrowed keep => exact s.ambient_replace _
  | dropped members => rfl
  | asked d => exact (d.source_ask_cases d s).2.1
  | stayed => rfl

theorem upToDate (h : s.Moves t) (hs : s.UpToDate) : t.UpToDate := by
  cases h with
  | added t => exact hs.unionWith t
  | narrowed keep => exact hs.replace_retain keep
  | dropped members => constructor <;> intro kept hkept <;> cases hkept
  | asked d => exact (d.asked hs).upToDate
  | stayed => exact hs

/-- Changed members in place: the answer is dropped, or the members are as they were. -/
theorem kept_replace (d : Direction) {members : Members}
    (hsame : members.size = s.members.size → members.toList = s.members.toList) :
    d.kept (s.replace members) = none ∨
      ((s.replace members).toList = s.toList ∧ d.kept (s.replace members) = d.kept s) := by
  by_cases hsize : members.size = s.members.size
  · right
    rw [toList_replace, hsame hsize]
    refine ⟨rfl, ?_⟩
    unfold replace
    rw [if_pos hsize]
    exact d.kept_congr
  · left
    unfold replace
    rw [if_neg hsize]
    cases d with
    | callees => rfl
    | callers => rfl

/-- Where an answer is left, the members are as they were, and it is the one that was there or
a fresh one. -/
theorem kept_cases (h : s.Moves t) (d : Direction) :
    d.kept t = none ∨
      (t.toList = s.toList ∧ (d.kept t = d.kept s ∨ d.kept t = some (d.fresh s))) := by
  cases h with
  | added t =>
    exact (kept_replace d OrderedSet.toList_extend_of_size_eq).imp_right
      fun ⟨hlist, hkept⟩ => ⟨hlist, Or.inl hkept⟩
  | narrowed keep =>
    refine (kept_replace d ?_).imp_right fun ⟨hlist, hkept⟩ => ⟨hlist, Or.inl hkept⟩
    exact OrderedSet.toList_retain_of_size_eq
  | dropped members =>
    left
    cases d with
    | callees => rfl
    | callers => rfl
  | asked asked => exact Or.inr (asked.source_ask_cases d s).2.2
  | stayed => exact Or.inr ⟨rfl, Or.inl rfl⟩

end SymbolSet.Moves

namespace SetStep

open SymbolSet

/-- A step sorts the set, or it changes members with a look at what is kept. -/
theorem after_cases (step : SetStep) (s : SymbolSet) :
    (∃ cs, step = .sort cs) ∨ s.Moves (step.after s) := by
  have hasked : ∀ {t : SymbolSet},
      (t = s ∨ ∃ d : Direction, t = (d.ask s).source) → s.Moves t := by
    rintro t (rfl | ⟨d, rfl⟩)
    · exact .stayed
    · exact .asked d
  cases step with
  | unionWith t => exact Or.inr (.added t)
  | interWith t => exact Or.inr (.narrowed _)
  | subtract t => exact Or.inr (.narrowed _)
  | sort cs => exact Or.inl ⟨cs, rfl⟩
  | pop =>
    right
    unfold after
    cases hpop : s.pop with
    | error e => exact .stayed
    | ok popped =>
      obtain ⟨a, rest⟩ := popped
      obtain ⟨members, -, rfl⟩ := pop_cases hpop
      exact .dropped members
  | relate r => exact Or.inr (hasked (r.source_apply_cases s))
  | close reflexive via p =>
    cases reflexive with
    | true => exact Or.inr .stayed
    | false =>
      simp only [after, source_transitiveClosure]
      exact Or.inr (hasked (Relation.source_composite_cases via p s))

theorem graph_after (step : SetStep) (s : SymbolSet) : (step.after s).graph = s.graph := by
  rcases step.after_cases s with ⟨cs, rfl⟩ | hmoves
  · rfl
  · exact hmoves.graph_eq

theorem ambient_after (step : SetStep) (s : SymbolSet) : (step.after s).ambient = s.ambient := by
  rcases step.after_cases s with ⟨cs, rfl⟩ | hmoves
  · rfl
  · exact hmoves.ambient_eq

theorem upToDate_after (step : SetStep) {s : SymbolSet} (hs : s.UpToDate) :
    (step.after s).UpToDate := by
  rcases step.after_cases s with ⟨cs, rfl⟩ | hmoves
  · exact hs.sortBy _
  · exact hmoves.upToDate hs

end SetStep

namespace SymbolSet

/-! ## Runs -/

variable {s : SymbolSet} {steps : List SetStep} {d : Direction}

theorem graph_run (s : SymbolSet) (steps : List SetStep) : (s.run steps).graph = s.graph := by
  induction steps generalizing s with
  | nil => rfl
  | cons step steps ih => exact (ih (step.after s)).trans (step.graph_after s)

theorem ambient_run (s : SymbolSet) (steps : List SetStep) : (s.run steps).ambient = s.ambient := by
  induction steps generalizing s with
  | nil => rfl
  | cons step steps ih => exact (ih (step.after s)).trans (step.ambient_after s)

theorem UpToDate.run (h : s.UpToDate) (steps : List SetStep) : (s.run steps).UpToDate := by
  induction steps generalizing s with
  | nil => exact h
  | cons step steps ih => exact ih (step.upToDate_after h)

theorem SortedSince.concat (h : SortedSince d s steps) {step : SetStep}
    (hkept : (d.kept (s.run (steps ++ [step]))).isSome = true) :
    SortedSince d s (steps ++ [step]) := by
  obtain ⟨before, cs, after, rfl, hsince⟩ := h
  refine ⟨before, cs, after ++ [step], by rw [List.append_assoc, List.cons_append], ?_⟩
  intro done hdone
  rcases List.prefix_concat_iff.1 hdone with rfl | hdone
  · rw [List.append_assoc, List.cons_append] at hkept
    exact hkept
  · exact hsince done hdone

/-- Sorting leaves what is kept. -/
theorem sortedSince_sort {cs : List Comparator}
    (hkept : (d.kept (s.run (steps ++ [.sort cs]))).isSome = true) :
    SortedSince d s (steps ++ [.sort cs]) := by
  refine ⟨steps, cs, [], rfl, ?_⟩
  intro done hdone
  rw [List.prefix_nil.1 hdone]
  exact hkept

/-- What is kept is in the order of a fresh answer, unless the set was sorted since. -/
theorem toList_kept_run (hnone : d.kept s = none) (steps : List SetStep) :
    ∀ kept, d.kept (s.run steps) = some kept →
      kept.toList = (d.fresh (s.run steps)).toList ∨ SortedSince d s steps := by
  induction steps using List.reverseRecOn with
  | nil =>
    intro kept hkept
    rw [show s.run [] = s from rfl, hnone] at hkept
    cases hkept
  | append_singleton steps step ih =>
    intro kept hkept
    have hsome : (d.kept (s.run (steps ++ [step]))).isSome = true := by
      rw [hkept]
      rfl
    rcases step.after_cases (s.run steps) with ⟨cs, rfl⟩ | hmoves
    · exact Or.inr (sortedSince_sort hsome)
    · rw [run_concat] at hkept ⊢
      rcases hmoves.kept_cases d with hnone | ⟨hlist, hkept' | hkept'⟩
      · rw [hnone] at hkept
        cases hkept
      · rw [d.fresh_congr hmoves.graph_eq hlist]
        exact (ih kept (hkept' ▸ hkept)).imp_right fun h => h.concat hsome
      · rw [hkept'] at hkept
        cases hkept
        exact Or.inl (by rw [d.fresh_congr hmoves.graph_eq hlist])

/-- The sets that the loop of a closure goes through are runs of steps as well. -/
theorem exists_run_eq_grow {relation : SymbolSet → Expansion}
    (hsource : ∀ s, ∃ step : SetStep, step.after s = (relation s).source) (rounds : Nat)
    (s : SymbolSet) : ∃ steps, grow relation rounds s = s.run steps := by
  induction rounds generalizing s with
  | zero => exact ⟨[], rfl⟩
  | succ rounds ih =>
    obtain ⟨step, hstep⟩ := hsource s
    have hgrown : (relation s).source.unionWith (relation s).image =
        s.run [step, .unionWith (relation s).image] := by
      rw [← hstep]
      rfl
    simp only [grow, hgrown]
    split
    · exact ⟨_, rfl⟩
    · obtain ⟨more, hmore⟩ := ih (s.run [step, .unionWith (relation s).image])
      exact ⟨[step, .unionWith (relation s).image] ++ more, hmore.trans (s.run_append _ _).symm⟩

/-- Whatever is done to a set, asking it gives the members that asking a copy gives, which are
the neighbours of the members it has, with the same graph and universe; and in the same order,
unless the set was sorted since it keeps the answer.  The sets that closures ask are among
these. -/
theorem answers_never_stale (g : CallGraph) (members : Members) (ambient : Option Members)
    (steps : List SetStep) (d : Direction) :
    let start := ofParts g members ambient
    let s := start.run steps
    (∀ b, b ∈ (d.ask s).image.toList ↔ b ∈ (d.ask s.clone).image.toList) ∧
    (∀ b, b ∈ (d.ask s).image.toList ↔ ∃ a ∈ s.toList, b ∈ d.neighbours g a) ∧
    (d.ask s).image.graph = g ∧ (d.ask s).image.ambient = ambient ∧
    (d.ask s.clone).image.ambient = ambient ∧
    ((d.ask s).image.toList = (d.ask s.clone).image.toList ∨ SortedSince d start steps) ∧
    (∀ (r : Relation) (rounds : Nat), ∃ more, grow r.apply rounds s.clone = s.clone.run more) ∧
    ∀ (via : List Relation) (p : Predicate) (rounds : Nat),
      ∃ more, grow (Relation.composite via p) rounds s.clone = s.clone.run more := by
  intro start s
  have hgraph : s.graph = g := start.graph_run steps
  have hambient : s.ambient = ambient := start.ambient_run steps
  have hup : s.UpToDate := (upToDate_ofParts g members ambient).run steps
  have hmem : ∀ b,
      b ∈ (d.ask s).image.toList ↔ ∃ a ∈ s.toList, b ∈ d.neighbours g a := by
    intro b
    rw [(d.asked hup).mem_image, hgraph]
  have hmemClone : ∀ b,
      b ∈ (d.ask s.clone).image.toList ↔ ∃ a ∈ s.toList, b ∈ d.neighbours g a := by
    intro b
    have hclone : s.clone.UpToDate := upToDate_derive s s.members
    rw [(d.asked hclone).mem_image, ← hgraph]
    exact Iff.rfl
  refine ⟨fun b => (hmem b).trans (hmemClone b).symm, hmem, ?_, ?_, ?_, ?_, ?_, ?_⟩
  · rw [d.image_ask]
    exact hgraph
  · rw [d.image_ask]
    exact hambient
  · rw [d.image_ask_clone]
    exact hambient
  · rw [d.image_ask, d.image_ask_clone]
    cases hkept : d.kept s with
    | none => exact Or.inl rfl
    | some kept =>
      have hnone : d.kept start = none := by
        cases d with
        | callees => rfl
        | callers => rfl
      exact toList_kept_run hnone steps kept hkept
  · intro r rounds
    exact exists_run_eq_grow (fun _ => ⟨.relate r, rfl⟩) rounds s.clone
  · intro via p rounds
    have hsource : ∀ t : SymbolSet,
        ∃ step : SetStep, step.after t = (Relation.composite via p t).source :=
      fun t => ⟨.close false via p, source_transitiveClosure _ t⟩
    exact exists_run_eq_grow hsource rounds s.clone

-- Sorted after it was asked, a set answers in the order from before.
example :
    let s := (whole (.mutualPair .standard)).run
      [.relate .callees, .sort [.descendingBy (.number .line)]]
    (Direction.callees.ask s).image.names = ["pong", "ping"] ∧
      (Direction.callees.ask s.clone).image.names = ["ping", "pong"] := by
  cbv

end SymbolSet

end CallAtlas
