/-
# `CallAtlas.Proofs.SymbolSet.Reachability` — closures are reachability

`Settles relation n s r` is the loop of a reflexive closure without a bound on
its rounds: from `s` it comes to rest at `r` in the `n`-th round, the first
that adds nothing.  Every round before adds a symbol of the graph, so the loop
comes to rest, within the rounds that `SymbolSet.grow` allows
(`grow_settles`).

Where it comes to rest the set has all that its members lead to, because a round
that leaves the size of a set leaves its members.  So what is there at rest is
what chains of the relation lead to, of any length from the set, and of length
one or more where the loop starts from the image of the set.
-/
import CallAtlas.Proofs.Graph.Building
import CallAtlas.Proofs.SymbolSet.Drawn

namespace CallAtlas

namespace SymbolSet

/-! ## The loop -/

/-- One round: the set with its image added. -/
def enlarge (relation : SymbolSet → Expansion) (s : SymbolSet) : SymbolSet :=
  (relation s).source.unionWith (relation s).image

/-- From a set the loop comes to rest after some rounds. -/
inductive Settles (relation : SymbolSet → Expansion) : Nat → SymbolSet → SymbolSet → Prop
  | done {s : SymbolSet} : (enlarge relation s).size = s.size →
      Settles relation 1 s (enlarge relation s)
  | more {n : Nat} {s r : SymbolSet} : (enlarge relation s).size ≠ s.size →
      Settles relation n (enlarge relation s) r → Settles relation (n + 1) s r

variable {g : CallGraph} {relation : SymbolSet → Expansion} {s r : SymbolSet}

theorem image_transitiveClosure (relation : SymbolSet → Expansion) (s : SymbolSet) :
    (s.transitiveClosure relation).image = (relation s).image.reflexiveClosure relation := by
  simp only [transitiveClosure]

/-- Rounds that are allowed beyond the last change nothing. -/
theorem Settles.grow_eq {n : Nat} (h : Settles relation n s r) {rounds : Nat} (hle : n ≤ rounds) :
    grow relation rounds s = r := by
  induction h generalizing rounds with
  | done hsize =>
    obtain ⟨rounds, rfl⟩ := Nat.exists_eq_add_one.2 hle
    exact if_pos hsize
  | more hsize _ ih =>
    obtain ⟨rounds, rfl⟩ := Nat.exists_eq_add_one.2 (Nat.lt_of_lt_of_le (Nat.succ_pos _) hle)
    exact (if_neg hsize).trans (ih (Nat.le_of_succ_le_succ hle))

/-! ## Rounds -/

/-- The relation stays within the graph, and a set that is asked keeps its members. -/
structure Grows (g : CallGraph) (relation : SymbolSet → Expansion) : Prop where
  keeps : Keeps (Sound g) relation
  source : ∀ s, s.Sound g → (relation s).source.members = s.members

section Grows

variable (hg : Grows g relation)
include hg

theorem Grows.enlarge_sound (hs : s.Sound g) : (enlarge relation s).Sound g :=
  (stable_sound g).unionWith _ _ (hg.keeps s hs).2 (hg.keeps s hs).1

theorem Grows.members_enlarge (hs : s.Sound g) :
    (enlarge relation s).members = s.members.extend (relation s).image.toList := by
  unfold enlarge unionWith
  rw [members_replace, hg.source s hs]

/-- A round adds the image. -/
theorem Grows.mem_enlarge (hs : s.Sound g) {b : Symbol} :
    b ∈ (enlarge relation s).toList ↔ b ∈ s.toList ∨ b ∈ (relation s).image.toList := by
  unfold toList
  rw [hg.members_enlarge hs]
  exact OrderedSet.mem_extend_iff (fun _ _ => CallGraph.Has.eq_of_id_eq)
    hs.within.members (hg.keeps s hs).1.within.members

theorem Grows.size_le_size_enlarge (hs : s.Sound g) : s.size ≤ (enlarge relation s).size := by
  unfold size
  rw [hg.members_enlarge hs]
  exact OrderedSet.size_le_size_extend _ _

theorem Grows.toList_enlarge_of_size_eq (hs : s.Sound g)
    (h : (enlarge relation s).size = s.size) : (enlarge relation s).toList = s.toList := by
  unfold size at h
  unfold toList
  rw [hg.members_enlarge hs] at h ⊢
  exact OrderedSet.toList_extend_of_size_eq h

omit hg in
theorem Within.size_le (hs : s.Within g) : s.size ≤ g.symbolCount := by
  unfold size
  rw [OrderedSet.size_eq, ← List.length_map Symbol.id]
  apply length_le_of_nodup_of_lt s.members.nodup_toList
  intro i hi
  obtain ⟨a, ha, rfl⟩ := List.mem_map.1 hi
  exact (hs.members a ha).id_lt

/-- The loop comes to rest: each round but the last uses up a symbol that was not there. -/
theorem Grows.exists_settles (hs : s.Sound g) :
    ∃ n r, n + s.size ≤ g.symbolCount + 1 ∧ Settles relation n s r := by
  induction hleft : g.symbolCount - s.size using Nat.strongRecOn generalizing s with
  | ind left ih =>
    have hbound := hs.within.size_le
    by_cases hsize : (enlarge relation s).size = s.size
    · exact ⟨1, enlarge relation s, by omega, .done hsize⟩
    · have hle := hg.size_le_size_enlarge hs
      have hsound := hg.enlarge_sound hs
      have hbound' := hsound.within.size_le
      obtain ⟨n, r, hn, hr⟩ := ih _ (by omega) hsound rfl
      exact ⟨n + 1, r, by omega, .more hsize hr⟩

/-- A reflexive closure is where its loop comes to rest, after at most one round more than there
are symbols that the set does not have. -/
theorem Grows.settles (hs : s.Sound g) :
    ∃ n, n + s.size ≤ g.symbolCount + 1 ∧
      Settles relation n s.clone (s.reflexiveClosure relation) := by
  obtain ⟨n, r, hn, hr⟩ := hg.exists_settles ((stable_sound g).clone s hs)
  have heq : s.reflexiveClosure relation = r := by
    unfold reflexiveClosure
    rw [hs.within.graph]
    exact hr.grow_eq (by omega)
  exact ⟨n, hn, heq ▸ hr⟩

end Grows

/-! ## Relations that follow steps between symbols -/

/-- The image of a set within the graph is what its members are related to by `next`, and the
set keeps its members. -/
structure Expands (g : CallGraph) (next : Symbol → Symbol → Prop)
    (relation : SymbolSet → Expansion) : Prop where
  keeps : Keeps (Sound g) relation
  source : ∀ s, s.Sound g → (relation s).source.members = s.members
  mem_image : ∀ s, s.Sound g → ∀ b,
    b ∈ (relation s).image.toList ↔ ∃ a ∈ s.toList, next a b

theorem expands_callees (g : CallGraph) : Expands g g.Calls callees where
  keeps := (stable_sound g).callees
  source _ h := h.upToDate.asked_callees.source
  mem_image s h b := by
    rw [h.upToDate.asked_callees.mem_image, h.within.graph]
    exact exists_congr fun a => and_congr_right fun ha =>
      (CallGraph.calls_iff (h.within.members a ha)).symm

theorem expands_callers (hg : g.Finalised) : Expands g (fun b a => g.Calls a b) callers where
  keeps := (stable_sound g).callers
  source _ h := h.upToDate.asked_callers.source
  mem_image s h a := by
    rw [h.upToDate.asked_callers.mem_image, h.within.graph]
    refine exists_congr fun b => and_congr_right fun hb => ?_
    rw [CallGraph.mem_callersOf hg]
    exact ⟨fun ⟨ha, hcall⟩ => ⟨ha, h.within.members b hb, hcall⟩, fun ⟨ha, _, hcall⟩ => ⟨ha, hcall⟩⟩

section Expands

variable {next : Symbol → Symbol → Prop} (he : Expands g next relation)
include he

theorem Expands.grows : Grows g relation := ⟨he.keeps, he.source⟩

/-- A round adds what the members are related to. -/
theorem Expands.mem_enlarge (hs : s.Sound g) {b : Symbol} :
    b ∈ (enlarge relation s).toList ↔ b ∈ s.toList ∨ ∃ a ∈ s.toList, next a b :=
  (he.grows.mem_enlarge hs).trans (or_congr_right (he.mem_image s hs b))

/-- At rest the set has what chains from the first set lead to. -/
theorem Expands.mem_of_settles {n : Nat} (h : Settles relation n s r) (hs : s.Sound g)
    {b : Symbol} : b ∈ r.toList ↔ ∃ a ∈ s.toList, ∃ k, Chain next k a b := by
  induction h with
  | @done s hsize =>
    have hlist := he.grows.toList_enlarge_of_size_eq hs hsize
    have hclosed : ∀ k a, a ∈ s.toList → Chain next k a b → b ∈ s.toList := by
      intro k a ha hchain
      induction hchain with
      | nil a => exact ha
      | @cons k a c b hac _ ih =>
        have hc : c ∈ (enlarge relation s).toList := (he.mem_enlarge hs).2 (Or.inr ⟨a, ha, hac⟩)
        exact ih (hlist ▸ hc)
    rw [hlist]
    constructor
    · intro hb
      exact ⟨b, hb, 0, .nil b⟩
    · rintro ⟨a, ha, k, hchain⟩
      exact hclosed k a ha hchain
  | @more n s r _ _ ih =>
    rw [ih (he.grows.enlarge_sound hs)]
    constructor
    · rintro ⟨c, hc, k, hchain⟩
      rcases (he.mem_enlarge hs).1 hc with hc | ⟨a, ha, hac⟩
      · exact ⟨c, hc, k, hchain⟩
      · exact ⟨a, ha, k + 1, .cons hac hchain⟩
    · rintro ⟨a, ha, k, hchain⟩
      exact ⟨a, (he.mem_enlarge hs).2 (Or.inl ha), k, hchain⟩

/-- The loop comes to rest after at most one round more than the graph has symbols. -/
theorem Expands.grow_settles (hs : s.Sound g) :
    ∃ n ≤ g.symbolCount + 1, Settles relation n s.clone (s.reflexiveClosure relation) := by
  obtain ⟨n, hn, hsettles⟩ := he.grows.settles hs
  exact ⟨n, Nat.le_trans (Nat.le_add_right n s.size) hn, hsettles⟩

/-- The reflexive closure of a set is what chains lead to from its members. -/
theorem Expands.mem_reflexiveClosure (hs : s.Sound g) {b : Symbol} :
    b ∈ (s.reflexiveClosure relation).toList ↔ ∃ a ∈ s.toList, ∃ n, Chain next n a b := by
  obtain ⟨n, -, hsettles⟩ := he.grow_settles hs
  exact he.mem_of_settles hsettles ((stable_sound g).clone s hs)

/-- The other closure is what chains with at least one step lead to. -/
theorem Expands.mem_transitiveClosure (hs : s.Sound g) {b : Symbol} :
    b ∈ (s.transitiveClosure relation).image.toList ↔
      ∃ a ∈ s.toList, ∃ n, Chain next (n + 1) a b := by
  have hseed := (he.keeps s hs).1
  rw [image_transitiveClosure, he.mem_reflexiveClosure hseed]
  constructor
  · rintro ⟨c, hc, n, hchain⟩
    obtain ⟨a, ha, hac⟩ := (he.mem_image s hs c).1 hc
    exact ⟨a, ha, n, .cons hac hchain⟩
  · rintro ⟨a, ha, n, hchain⟩
    cases hchain with
    | @cons _ _ c _ hac hrest => exact ⟨c, (he.mem_image s hs c).2 ⟨a, ha, hac⟩, n, hrest⟩

end Expands

/-! ## Calls -/

theorem mem_reflexiveCallees (hs : s.Sound g) {b : Symbol} :
    b ∈ (Relation.reflexiveCallees.apply s).image.toList ↔
      ∃ a ∈ s.toList, ∃ n, Chain g.Calls n a b := by
  simp only [Relation.apply]
  exact (expands_callees g).mem_reflexiveClosure hs

theorem mem_transitiveCallees (hs : s.Sound g) {b : Symbol} :
    b ∈ (Relation.transitiveCallees.apply s).image.toList ↔
      ∃ a ∈ s.toList, ∃ n, Chain g.Calls (n + 1) a b := by
  simp only [Relation.apply]
  exact (expands_callees g).mem_transitiveClosure hs

theorem mem_reflexiveCallers (hg : g.Finalised) (hs : s.Sound g) {a : Symbol} :
    a ∈ (Relation.reflexiveCallers.apply s).image.toList ↔
      ∃ b ∈ s.toList, ∃ n, Chain g.Calls n a b := by
  simp only [Relation.apply]
  rw [(expands_callers hg).mem_reflexiveClosure hs]
  simp only [Chain.reverse_iff]

theorem mem_transitiveCallers (hg : g.Finalised) (hs : s.Sound g) {a : Symbol} :
    a ∈ (Relation.transitiveCallers.apply s).image.toList ↔
      ∃ b ∈ s.toList, ∃ n, Chain g.Calls (n + 1) a b := by
  simp only [Relation.apply]
  rw [(expands_callers hg).mem_transitiveClosure hs]
  simp only [Chain.reverse_iff]

/-- The four closures of a set drawn from a finalised graph are what chains of calls reach from
its members, or reach them, with or without the empty chain; and each loop comes to rest, in
at most one round more than the graph has symbols. -/
theorem closures_exactly_reachable (hg : g.Finalised) (hs : s.DrawnFrom g) :
    (∀ b, b ∈ (Relation.reflexiveCallees.apply s).image.toList ↔
      ∃ a ∈ s.toList, ∃ n, Chain g.Calls n a b) ∧
    (∀ b, b ∈ (Relation.transitiveCallees.apply s).image.toList ↔
      ∃ a ∈ s.toList, ∃ n, Chain g.Calls (n + 1) a b) ∧
    (∀ a, a ∈ (Relation.reflexiveCallers.apply s).image.toList ↔
      ∃ b ∈ s.toList, ∃ n, Chain g.Calls n a b) ∧
    (∀ a, a ∈ (Relation.transitiveCallers.apply s).image.toList ↔
      ∃ b ∈ s.toList, ∃ n, Chain g.Calls (n + 1) a b) ∧
    (∃ n ≤ g.symbolCount + 1,
      Settles callees n s.clone (Relation.reflexiveCallees.apply s).image) ∧
    (∃ n ≤ g.symbolCount + 1,
      Settles callees n s.callees.image.clone (Relation.transitiveCallees.apply s).image) ∧
    (∃ n ≤ g.symbolCount + 1,
      Settles callers n s.clone (Relation.reflexiveCallers.apply s).image) ∧
    ∃ n ≤ g.symbolCount + 1,
      Settles callers n s.callers.image.clone (Relation.transitiveCallers.apply s).image := by
  have hsound := hs.sound
  have hcallees := expands_callees g
  have hcallers := expands_callers hg
  refine ⟨?_, ?_, ?_, ?_, ?_⟩
  · exact fun b => mem_reflexiveCallees hsound
  · exact fun b => mem_transitiveCallees hsound
  · exact fun a => mem_reflexiveCallers hg hsound
  · exact fun a => mem_transitiveCallers hg hsound
  · simp only [Relation.apply, image_transitiveClosure]
    exact ⟨hcallees.grow_settles hsound, hcallees.grow_settles (hcallees.keeps s hsound).1,
      hcallers.grow_settles hsound, hcallers.grow_settles (hcallers.keeps s hsound).1⟩

/-- Of two functions that call each other, the first reaches itself through the second. -/
theorem closures_exactly_reachable_mutualPair :
    (CallGraph.mutualPair .standard).Finalised ∧
      (whole (.mutualPair .standard)).DrawnFrom (.mutualPair .standard) ∧
        CallGraph.ping ∈
          (Relation.transitiveCallees.apply (whole (.mutualPair .standard))).image.toList := by
  have hg := CallGraph.finalised_mutualPair .standard
  have hforth : (CallGraph.mutualPair .standard).Calls CallGraph.ping CallGraph.pong := by
    decide +kernel
  have hback : (CallGraph.mutualPair .standard).Calls CallGraph.pong CallGraph.ping := by
    decide +kernel
  have hmem : CallGraph.ping ∈ (whole (.mutualPair .standard)).toList := by decide +kernel
  exact ⟨hg, .whole, ((closures_exactly_reachable hg .whole).2.1 _).2
    ⟨CallGraph.ping, hmem, 1, .cons hforth (.cons hback (.nil _))⟩⟩

end SymbolSet

end CallAtlas
