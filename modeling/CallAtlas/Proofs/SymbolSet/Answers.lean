/-
# `CallAtlas.Proofs.SymbolSet.Answers` — what a set keeps of its callees and callers

A set that keeps an answer keeps the right one: `UpToDate` says that what is
kept are the callees, or the callers, of the members as they are.  Nothing that
changes a set in place breaks this.  Where the number of members stays, the
members stay; where it does not, the answers are dropped; and sorting only
moves members.

So the callees of a set are the callees of its members, whether they were
asked for before or not.
-/
import CallAtlas.Predicate.Field
import CallAtlas.Proofs.Graph.Chain
import CallAtlas.Proofs.OrderedSet
import CallAtlas.SymbolSet.Closure

namespace CallAtlas

/-! ## Answers -/

/-- The members are the answers of some symbols that are asked. -/
def Members.Answers (ask : Symbol → List Symbol) (asked : List Symbol) (kept : Members) : Prop :=
  ∀ b, b ∈ kept.toList ↔ ∃ a ∈ asked, b ∈ ask a

theorem Members.Answers.congr {ask : Symbol → List Symbol} {asked asked' : List Symbol}
    {kept : Members} (h : Members.Answers ask asked kept) (hsame : ∀ a, a ∈ asked' ↔ a ∈ asked) :
    Members.Answers ask asked' kept := by
  intro b
  rw [h b]
  simp only [hsame]

theorem Members.answers_ofList {g : CallGraph} {ask : Symbol → List Symbol}
    (hask : ∀ a, ∀ b ∈ ask a, g.Has b) (asked : List Symbol) :
    Members.Answers ask asked (.ofList (asked.flatMap ask)) := by
  intro b
  have hall : ∀ b ∈ asked.flatMap ask, g.Has b := by
    intro b hb
    obtain ⟨a, -, hab⟩ := List.mem_flatMap.1 hb
    exact hask a b hab
  rw [OrderedSet.mem_ofList_iff (fun _ _ => CallGraph.Has.eq_of_id_eq) hall, List.mem_flatMap]

namespace CallGraph

variable {g : CallGraph}

theorem has_of_mem_calleesOf {a b : Symbol} (h : b ∈ g.calleesOf a) : g.Has b :=
  (mem_calleesOf.1 h).1

theorem has_of_mem_callersOf {a b : Symbol} (h : b ∈ g.callersOf a) : g.Has b := by
  unfold callersOf at h
  cases hrows : g.callers with
  | none =>
    rw [hrows] at h
    exact absurd h List.not_mem_nil
  | some rows =>
    rw [hrows] at h
    exact (mem_listed.1 h).1

end CallGraph

namespace SymbolSet

/-- What the set keeps of its callees and callers is so. -/
structure UpToDate (s : SymbolSet) : Prop where
  callees : ∀ kept, s.calleesCache = some kept → Members.Answers s.graph.calleesOf s.toList kept
  callers : ∀ kept, s.callersCache = some kept → Members.Answers s.graph.callersOf s.toList kept

variable {s t : SymbolSet}

/-! ## Changes in place -/

theorem upToDate_ofParts (g : CallGraph) (members : Members) (ambient : Option Members) :
    (ofParts g members ambient).UpToDate := by
  constructor <;> intro kept h <;> cases h

theorem upToDate_derive (s : SymbolSet) (members : Members) : (s.derive members).UpToDate :=
  upToDate_ofParts s.graph members s.ambient

theorem graph_replace (s : SymbolSet) (members : Members) : (s.replace members).graph = s.graph := by
  unfold replace
  split <;> rfl

theorem ambient_replace (s : SymbolSet) (members : Members) :
    (s.replace members).ambient = s.ambient := by
  unfold replace
  split <;> rfl

theorem members_replace (s : SymbolSet) (members : Members) :
    (s.replace members).members = members := by
  unfold replace
  split <;> rfl

theorem toList_replace (s : SymbolSet) (members : Members) :
    (s.replace members).toList = members.toList :=
  congrArg OrderedSet.toList (s.members_replace members)

theorem UpToDate.replace (h : s.UpToDate) {members : Members}
    (hsame : members.size = s.members.size → members.toList = s.members.toList) :
    (s.replace members).UpToDate := by
  unfold SymbolSet.replace
  split
  · rename_i hsize
    have hlist : ∀ a, a ∈ members.toList ↔ a ∈ s.toList := fun a => by rw [hsame hsize]; exact Iff.rfl
    exact ⟨fun kept hkept => (h.callees kept hkept).congr hlist,
      fun kept hkept => (h.callers kept hkept).congr hlist⟩
  · constructor <;> intro kept hkept <;> cases hkept

theorem UpToDate.unionWith (h : s.UpToDate) (t : SymbolSet) : (s.unionWith t).UpToDate :=
  h.replace OrderedSet.toList_extend_of_size_eq

theorem UpToDate.replace_retain (h : s.UpToDate) (p : Symbol → Bool) :
    (s.replace (s.members.retain p)).UpToDate :=
  h.replace OrderedSet.toList_retain_of_size_eq

theorem UpToDate.interWith (h : s.UpToDate) (t : SymbolSet) : (s.interWith t).UpToDate :=
  h.replace_retain t.contains

theorem UpToDate.subtract (h : s.UpToDate) (t : SymbolSet) : (s.subtract t).UpToDate :=
  h.replace_retain fun a => !t.contains a

theorem pop_cases {a : Symbol} {rest : SymbolSet} (h : s.pop = .ok (a, rest)) :
    ∃ members, s.members.pop? = some (a, members) ∧
      rest = { s with members := members, calleesCache := none, callersCache := none } := by
  unfold pop at h
  cases hpop : s.members.pop? with
  | none =>
    rw [hpop] at h
    cases h
  | some popped =>
    obtain ⟨b, members⟩ := popped
    rw [hpop] at h
    cases h
    exact ⟨members, rfl, rfl⟩

theorem upToDate_of_pop {a : Symbol} {rest : SymbolSet} (h : s.pop = .ok (a, rest)) :
    rest.UpToDate := by
  obtain ⟨members, -, rfl⟩ := pop_cases h
  constructor <;> intro kept hkept <;> cases hkept

theorem toList_sortBy (cmp : Symbol → Symbol → Ordering) (s : SymbolSet) :
    (s.sortBy cmp).toList = s.toList.mergeSort fun a b => cmp a b != .gt :=
  OrderedSet.toList_sort _ s.members

theorem mem_sortBy {cmp : Symbol → Symbol → Ordering} {a : Symbol} :
    a ∈ (s.sortBy cmp).toList ↔ a ∈ s.toList := by
  rw [toList_sortBy]
  exact List.mem_mergeSort

theorem UpToDate.sortBy (h : s.UpToDate) (cmp : Symbol → Symbol → Ordering) :
    (s.sortBy cmp).UpToDate where
  callees kept hkept := (h.callees kept hkept).congr fun _ => mem_sortBy
  callers kept hkept := (h.callers kept hkept).congr fun _ => mem_sortBy

/-! ## Asking -/

theorem answers_freshCallees (s : SymbolSet) :
    Members.Answers s.graph.calleesOf s.toList s.freshCallees :=
  Members.answers_ofList (fun _ _ => CallGraph.has_of_mem_calleesOf) s.toList

theorem answers_freshCallers (s : SymbolSet) :
    Members.Answers s.graph.callersOf s.toList s.freshCallers :=
  Members.answers_ofList (fun _ _ => CallGraph.has_of_mem_callersOf) s.toList

/-- What asking a set in itself for the answers of its members gives: the answers, and the set
as it was but for what it keeps. -/
structure Asked (ask : Symbol → List Symbol) (s : SymbolSet) (e : Expansion) : Prop where
  image : ∃ kept, e.image = s.derive kept ∧ Members.Answers ask s.toList kept
  source : e.source.members = s.members
  graph : e.source.graph = s.graph
  ambient : e.source.ambient = s.ambient
  upToDate : e.source.UpToDate

/-- What is answered are the answers of the members. -/
theorem Asked.mem_image {ask : Symbol → List Symbol} {e : Expansion} (he : Asked ask s e)
    {b : Symbol} : b ∈ e.image.toList ↔ ∃ a ∈ s.toList, b ∈ ask a := by
  obtain ⟨kept, himage, hanswers⟩ := he.image
  rw [himage]
  exact hanswers b

theorem UpToDate.asked_callees (h : s.UpToDate) : Asked s.graph.calleesOf s s.callees := by
  unfold SymbolSet.callees
  cases hcache : s.calleesCache with
  | some kept => exact ⟨⟨kept, rfl, h.callees kept hcache⟩, rfl, rfl, rfl, h⟩
  | none =>
    refine ⟨⟨s.freshCallees, rfl, s.answers_freshCallees⟩, rfl, rfl, rfl, ?_, h.callers⟩
    intro kept hkept
    obtain rfl : s.freshCallees = kept := Option.some.inj hkept
    exact s.answers_freshCallees

theorem UpToDate.asked_callers (h : s.UpToDate) : Asked s.graph.callersOf s s.callers := by
  unfold SymbolSet.callers
  cases hcache : s.callersCache with
  | some kept => exact ⟨⟨kept, rfl, h.callers kept hcache⟩, rfl, rfl, rfl, h⟩
  | none =>
    refine ⟨⟨s.freshCallers, rfl, s.answers_freshCallers⟩, rfl, rfl, rfl, h.callees, ?_⟩
    intro kept hkept
    obtain rfl : s.freshCallers = kept := Option.some.inj hkept
    exact s.answers_freshCallers

end SymbolSet

end CallAtlas
