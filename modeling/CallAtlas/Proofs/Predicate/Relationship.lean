/-
# `CallAtlas.Proofs.Predicate.Relationship` — relations asked symbol by symbol, and all at once

A relationship to a set of symbols can be asked of each symbol of the program:
does the relation lead from it into the set?  Or the set can be sent through
the relation in the other direction.  The one probes forwards from every
symbol, the other expands backwards once; they agree, because both are read off
the same relation between symbols.

`Relation.Leads` is that relation, said in chains of calls.  What a relation
makes of a set is where it leads from the members (`Relation.mem_apply`), and
the inverse of a relation leads the other way by definition
(`Relation.leads_inverse`); that the rows of callers are the rows of callees
read backwards has gone into `mem_apply` already, by way of the closures.

A predicate with a fixed set for its target notes nothing, so filtering by it
is filtering by one test.
-/
import CallAtlas.Proofs.SymbolSet.Reachability
import CallAtlas.Proofs.SymbolSet.Universe

namespace CallAtlas

/-! ## Where relations lead -/

/-- Calls do not lead out of the graph, nor into it. -/
theorem CallGraph.has_iff_of_chain {g : CallGraph} {n : Nat} {a b : Symbol}
    (h : Chain g.Calls n a b) : g.Has a ↔ g.Has b := by
  induction h with
  | nil a => exact Iff.rfl
  | cons hcall _ ih => exact ⟨fun _ => ih.1 hcall.2.1, fun _ => hcall.1⟩

namespace Relation

/-- The relation leads from the one symbol to the other. -/
def Leads (g : CallGraph) : Relation → Symbol → Symbol → Prop
  | .callees, a, b => g.Calls a b
  | .callers, a, b => g.Calls b a
  | .transitiveCallees, a, b => ∃ n, Chain g.Calls (n + 1) a b
  | .transitiveCallers, a, b => ∃ n, Chain g.Calls (n + 1) b a
  | .reflexiveCallees, a, b => ∃ n, Chain g.Calls n a b
  | .reflexiveCallers, a, b => ∃ n, Chain g.Calls n b a

variable {g : CallGraph} {s : SymbolSet} {r : Relation} {a b : Symbol}

theorem leads_inverse : r.inverse.Leads g a b ↔ r.Leads g b a := by
  cases r <;> exact Iff.rfl

/-- What a relation makes of a set is what it leads to from the members. -/
theorem mem_apply (hg : g.Finalised) (hs : s.Sound g) (r : Relation) :
    b ∈ (r.apply s).image.toList ↔ ∃ a ∈ s.toList, r.Leads g a b := by
  cases r with
  | callees => exact (SymbolSet.expands_callees g).mem_image s hs b
  | callers => exact (SymbolSet.expands_callers hg).mem_image s hs b
  | transitiveCallees => exact SymbolSet.mem_transitiveCallees hs
  | transitiveCallers => exact SymbolSet.mem_transitiveCallers hg hs
  | reflexiveCallees => exact SymbolSet.mem_reflexiveCallees hs
  | reflexiveCallers => exact SymbolSet.mem_reflexiveCallers hg hs

theorem mem_imageOf (hg : g.Finalised) (ha : g.Has a) (r : Relation) :
    b ∈ (r.imageOf g a).toList ↔ r.Leads g a b := by
  have hprobe : (SymbolSet.probe g a).toList = [a] :=
    OrderedSet.toList_ofList_of_nodup [a] (List.nodup_singleton a.id)
  unfold imageOf
  rw [mem_apply hg (SymbolSet.probe_sound ha) r, hprobe]
  simp

theorem imageOf_sound (ha : g.Has a) (r : Relation) : (r.imageOf g a).Sound g :=
  ((SymbolSet.stable_sound g).apply r _ (SymbolSet.probe_sound ha)).1

end Relation

/-! ## Fixed targets -/

namespace Predicate

variable {g : CallGraph} {t : SymbolSet} {a : Symbol}

/-- A symbol is related to itself where the relation leads back to it. -/
theorem holds_relatedToSelf_iff (hg : g.Finalised) (ha : g.Has a) (r : Relation) :
    (Predicate.relatedToSelf r).holds g (.symbol a) = true ↔ r.Leads g a a := by
  have himage := (Relation.imageOf_sound ha r).within.members
  show (r.imageOf g a).members.contains a = true ↔ _
  rw [OrderedSet.contains_iff_mem (fun _ _ => CallGraph.Has.eq_of_id_eq) himage ha]
  exact Relation.mem_imageOf hg ha r

theorem holds_ofSet (g : CallGraph) (r : Relation) (t : SymbolSet) (a : Symbol) :
    (Predicate.related r (.ofSet t)).holds g (.symbol a) =
      (t.graph.number == g.number && (r.imageOf g a).toList.any fun b =>
        (OrderedSet.ofList (t.toList.map (·.id)) : IdSet).hasKey b.id) :=
  rfl

/-- A relationship to a set of the graph holds where the relation leads into the set. -/
theorem holds_ofSet_iff (hg : g.Finalised) (ht : t.Within g) (ha : g.Has a) (r : Relation) :
    (Predicate.related r (.ofSet t)).holds g (.symbol a) = true ↔
      ∃ b ∈ t.toList, r.Leads g a b := by
  have hkey : ∀ b, (OrderedSet.ofList (t.toList.map (·.id)) : IdSet).hasKey b = true ↔
      ∃ c ∈ t.toList, c.id = b := by
    intro b
    rw [OrderedSet.hasKey_iff, OrderedSet.mem_keys_ofList, List.map_id', List.mem_map]
  rw [holds_ofSet, ht.graph, beq_self_eq_true, Bool.true_and, List.any_eq_true]
  constructor
  · rintro ⟨b, hb, hmem⟩
    obtain ⟨c, hc, hid⟩ := (hkey b.id).1 hmem
    have hhas : g.Has b := (Relation.imageOf_sound ha r).within.members b hb
    obtain rfl : c = b := (ht.members c hc).eq_of_id_eq hhas hid
    exact ⟨c, hc, (Relation.mem_imageOf hg ha r).1 hb⟩
  · rintro ⟨b, hb, hleads⟩
    exact ⟨b, (Relation.mem_imageOf hg ha r).2 hleads, (hkey b.id).2 ⟨b, hb, rfl⟩⟩

/-- A relationship to a set holds of no symbol of another graph. -/
theorem holds_ofSet_of_ne {h : CallGraph} (hne : t.graph.number ≠ h.number) (r : Relation)
    (a : Symbol) : (Predicate.related r (.ofSet t)).holds h (.symbol a) = false := by
  rw [holds_ofSet, beq_eq_false_iff_ne.2 hne, Bool.false_and]

end Predicate

namespace SymbolSet

variable {g : CallGraph} {t : SymbolSet}

theorem mem_whole {a : Symbol} : a ∈ (whole g).toList ↔ g.Has a := mem_universe

/-- Of the whole program a relationship to a set keeps the symbols from which the relation leads
into the set. -/
theorem mem_filter_related (hg : g.Finalised) (ht : t.Within g) (r : Relation) {a : Symbol} :
    a ∈ ((whole g).filter (.related r (.ofSet t))).1.toList ↔
      g.Has a ∧ ∃ b ∈ t.toList, r.Leads g a b := by
  have hkeep : ((Predicate.related r (.ofSet t)).keep g .symbol (whole g).toList).1 =
      (whole g).toList.filter fun a => (Predicate.related r (.ofSet t)).holds g (.symbol a) :=
    Predicate.keep_eq_filter (fun _ => rfl) _
  rw [toList_filter, show (whole g).graph = g from rfl, hkeep, List.mem_filter, mem_whole]
  exact and_congr_right fun ha => Predicate.holds_ofSet_iff hg ht ha r

/-- A relation leads into a set only from symbols of the graph. -/
theorem has_of_leads (ht : t.Within g) {r : Relation} {a b : Symbol} (hb : b ∈ t.toList)
    (h : r.Leads g a b) : g.Has a := by
  have hhas := ht.members b hb
  cases r with
  | callees => exact h.1
  | callers => exact h.2.1
  | transitiveCallees => exact h.elim fun _ hchain => (CallGraph.has_iff_of_chain hchain).2 hhas
  | transitiveCallers => exact h.elim fun _ hchain => (CallGraph.has_iff_of_chain hchain).1 hhas
  | reflexiveCallees => exact h.elim fun _ hchain => (CallGraph.has_iff_of_chain hchain).2 hhas
  | reflexiveCallers => exact h.elim fun _ hchain => (CallGraph.has_iff_of_chain hchain).1 hhas

/-- The whole program, filtered by a relationship to a set drawn from it, is what the inverse
relation makes of the set.  The two relationships of a symbol to itself hold where it calls
itself and where it lies on a cycle of calls.  And of the symbols of another graph a
relationship to the set holds nowhere. -/
theorem filter_related_eq_inverse_image (hg : g.Finalised) (ht : t.DrawnFrom g) :
    (∃ all, g.wholeProgram = .ok all ∧ ∀ (r : Relation) (a : Symbol),
      a ∈ (all.filter (.related r (.ofSet t))).1.toList ↔
        a ∈ (r.inverse.apply t).image.toList) ∧
    (∀ a, g.Has a → (Predicate.callsItself.holds g (.symbol a) = true ↔
      g.hasCall a.id a.id = true)) ∧
    (∀ a, g.Has a → (Predicate.reachesItself.holds g (.symbol a) = true ↔
      ∃ n, Chain g.Calls (n + 1) a a)) ∧
    ∀ h : CallGraph, h.number ≠ g.number → ∀ (r : Relation) (a : Symbol),
      (Predicate.related r (.ofSet t)).holds h (.symbol a) = false := by
  have hwithin := ht.within
  refine ⟨⟨whole g, if_pos hg.computed, ?_⟩, ?_, ?_, ?_⟩
  · intro r a
    rw [mem_filter_related hg hwithin r, Relation.mem_apply hg ht.sound r.inverse]
    simp only [Relation.leads_inverse]
    constructor
    · exact And.right
    · rintro ⟨b, hb, hleads⟩
      exact ⟨has_of_leads hwithin hb hleads, b, hb, hleads⟩
  · intro a ha
    refine (Predicate.holds_relatedToSelf_iff hg ha .callees).trans ?_
    exact ⟨fun hcalls => hcalls.2.2, fun hcall => ⟨ha, ha, hcall⟩⟩
  · exact fun a ha => Predicate.holds_relatedToSelf_iff hg ha .transitiveCallees
  · intro h hne r a
    exact Predicate.holds_ofSet_of_ne (hwithin.graph ▸ hne.symm) r a

/-- Of two functions that call each other, each is called by one of both and lies on a cycle;
and of a graph without them the predicate holds nowhere. -/
theorem filter_related_eq_inverse_image_mutualPair :
    (CallGraph.mutualPair .standard).Finalised ∧
      (whole (.mutualPair .standard)).DrawnFrom (.mutualPair .standard) ∧
        CallGraph.pong ∈ (Relation.callers.apply (whole (.mutualPair .standard))).image.toList ∧
          Predicate.reachesItself.holds (.mutualPair .standard) (.symbol CallGraph.pong) = true ∧
            (Predicate.related .callees (.ofSet (whole (.mutualPair .standard)))).holds
              (.new 1 .standard) (.symbol CallGraph.pong) = false := by
  have hg := CallGraph.finalised_mutualPair .standard
  have hdrawn : (whole (.mutualPair .standard)).DrawnFrom (.mutualPair .standard) := .whole
  have hforth : (CallGraph.mutualPair .standard).Calls CallGraph.pong CallGraph.ping := by
    decide +kernel
  have hback : (CallGraph.mutualPair .standard).Calls CallGraph.ping CallGraph.pong := by
    decide +kernel
  have hnumber : (CallGraph.new 1 .standard).number ≠ (CallGraph.mutualPair .standard).number := by
    decide +kernel
  have hcaller : CallGraph.ping ∈ (whole (.mutualPair .standard)).toList := mem_whole.2 hback.1
  obtain ⟨⟨all, hall, hinverse⟩, -, hself, hother⟩ := filter_related_eq_inverse_image hg hdrawn
  refine ⟨hg, hdrawn, ?_, ?_, ?_⟩
  · obtain rfl : whole (.mutualPair .standard) = all := Except.ok.inj ((if_pos rfl).symm.trans hall)
    refine (hinverse .callees _).1 ((mem_filter_related hg hdrawn.within .callees).2 ?_)
    exact ⟨hforth.1, CallGraph.ping, hcaller, hforth⟩
  · exact (hself _ hforth.1).2 ⟨1, .cons hforth (.cons hback (.nil _))⟩
  · exact hother _ hnumber .callees _

end SymbolSet

end CallAtlas
