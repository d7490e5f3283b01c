/-
# `CallAtlas.Proofs.SymbolSet.Documents` — closures and paths stay in their documents

Where calls do not lead from one label to another, nothing does that follows calls.
Asking a set for callees or callers, filtering it, and adding one set to another keep
each member under a label that some symbol had at the start (`stable_confined`), and
so do the closures that are made of these steps.  The symbols of a path follow one
another by calls, so all have one label.

With the documents that a graph was loaded from for labels this completes what is
said of the disjoint union.
-/
import CallAtlas.Proofs.Graph.DisjointUnion
import CallAtlas.Proofs.Graph.RoundTrip
import CallAtlas.Proofs.Json.Lossless
import CallAtlas.Proofs.SymbolSet.Algebra
import CallAtlas.Proofs.SymbolSet.Reachability

namespace CallAtlas

/-! ## Labels -/

/-- Calls do not lead from one label to another. -/
def CallGraph.Separates (g : CallGraph) (label : Symbol → Nat) : Prop :=
  ∀ a b, g.Calls a b → label a = label b

namespace SymbolSet

variable {g : CallGraph} {label : Symbol → Nat} {s t : SymbolSet}

/-- Every member of the second set has the label of some member of the first. -/
def Confined (s : SymbolSet) (label : Symbol → Nat) (t : SymbolSet) : Prop :=
  ∀ b ∈ t.toList, ∃ a ∈ s.toList, label a = label b

/-- A relation that follows steps within labels does not lead out of the labels at the start. -/
theorem Expands.confined {next : Symbol → Symbol → Prop} {relation : SymbolSet → Expansion}
    (he : Expands g next relation) (hnext : ∀ a b, next a b → label a = label b) :
    Keeps (fun t => t.Sound g ∧ s.Confined label t) relation := by
  rintro t ⟨hsound, ht⟩
  obtain ⟨himage, hsource⟩ := he.keeps t hsound
  refine ⟨⟨himage, ?_⟩, hsource, ?_⟩
  · intro c hc
    obtain ⟨b, hb, hbc⟩ := (he.mem_image t hsound c).1 hc
    obtain ⟨a, ha, hab⟩ := ht b hb
    exact ⟨a, ha, hab.trans (hnext b c hbc)⟩
  · intro b hb
    unfold toList at hb
    rw [he.source t hsound] at hb
    exact ht b hb

theorem stable_confined (hg : g.Finalised) (hlabel : g.Separates label) (s : SymbolSet) :
    Stable fun t => t.Sound g ∧ s.Confined label t where
  clone t h := ⟨(stable_sound g).clone t h.1, h.2⟩
  filter t p h := ⟨(stable_sound g).filter t p h.1, fun b hb => h.2 b (mem_of_mem_filter hb)⟩
  unionWith t u ht hu := by
    refine ⟨(stable_sound g).unionWith t u ht.1 hu.1, ?_⟩
    intro b hb
    unfold unionWith at hb
    rw [toList_replace] at hb
    exact (OrderedSet.mem_extend_cases hb).elim (ht.2 b) (hu.2 b)
  callees := (expands_callees g).confined hlabel
  callers := (expands_callers hg).confined fun a b hcall => (hlabel b a hcall).symm

/-- Neither the relations nor the closures of composite relations lead out of the labels of the
members. -/
theorem confined_closures (hg : g.Finalised) (hlabel : g.Separates label) (hs : s.Sound g) :
    (∀ r : Relation, s.Confined label (r.apply s).image) ∧
      ∀ (via : List Relation) (p : Predicate),
        s.Confined label (s.reflexiveClosure (Relation.composite via p)) ∧
          s.Confined label (s.transitiveClosure (Relation.composite via p)).image := by
  have hstable := stable_confined hg hlabel s
  have hstart : s.Sound g ∧ s.Confined label s := ⟨hs, fun a ha => ⟨a, ha, rfl⟩⟩
  refine ⟨fun r => (hstable.apply r s hstart).1.2, ?_⟩
  intro via p
  have hrelation := hstable.composite via p
  exact ⟨(hstable.reflexiveClosure hrelation hstart).2,
    (hstable.transitiveClosure hrelation s hstart).1.2⟩

end SymbolSet

/-- All symbols of a path have one label. -/
theorem CallPath.Simple.label_eq {g : CallGraph} {label : Symbol → Nat} {p : CallPath}
    (hp : p.Simple g) (hlabel : g.Separates label) :
    ∀ a ∈ p.symbols, ∀ b ∈ p.symbols, label a = label b := by
  have hchain : p.symbols.IsChain fun a b => label a = label b :=
    hp.isChain_calls.imp fun a b hcall => hlabel a b hcall
  have hlabels : (p.symbols.map label).Pairwise Eq :=
    List.isChain_iff_pairwise.1 ((List.isChain_map label).2 hchain)
  have hall := hlabels.forall_of_forall fun _ _ => rfl
  exact fun a ha b hb => hall (List.mem_map_of_mem ha) (List.mem_map_of_mem hb)

namespace CallGraph

theorem UnionOf.separates {docs : List GraphSnapshot} {g : CallGraph} (hu : UnionOf docs g)
    (hdocs : ∀ s ∈ docs, s.InRange) : g.Separates fun a => documentOf docs a.id :=
  fun _ _ hcall => hu.documentOf_eq_of_calls hdocs hcall

/-! ## Files -/

/-- A name that leads from the top of a folder to a file there. -/
def TopLevel (name : String) : Prop :=
  name.toList.contains '\x00' = false ∧ name ≠ "" ∧ name ≠ ".." ∧
    name.utf8ByteSize ≤ Folder.nameLimit ∧ Folder.isIdle name = false ∧
    name.toList.head? ≠ some '/' ∧ Folder.steps name = [name]

instance (name : String) : Decidable (TopLevel name) := inferInstanceAs (Decidable (_ ∧ _))

/-- A file at the top of a folder is read from there. -/
theorem text_of_find? {folder : Folder} {name text : String} (hname : TopLevel name)
    (hfind : folder.find? [name] = some (.bytes text.toUTF8)) : folder.text name = .ok text := by
  obtain ⟨hnull, hempty, hup, hsize, hidle, hslash, hsteps⟩ := hname
  have hlimit : ¬name.utf8ByteSize > Folder.pathLimit :=
    Nat.not_lt.2 (Nat.le_trans hsize (by decide))
  have hwalk : folder.walk (some []) [name] = .ok (.bytes text.toUTF8) := by
    rw [Folder.walk, hidle, if_neg Bool.false_ne_true, if_neg (Nat.not_lt.2 hsize), if_neg hup]
    · simp only [List.nil_append, hfind]
      rfl
    · intro _ _ h
      cases h
  have hread : String.fromUTF8? text.toUTF8 = some text := dif_pos text.isValidUTF8
  rw [Folder.text, hnull, if_neg Bool.false_ne_true, if_neg hempty, if_neg hlimit, if_neg hslash,
    hsteps, hwalk]
  simp only [hread]

/-- A snapshot that was written to a file is the document that the file holds. -/
theorem holdsDocument_of_find? {folder : Folder} {name : String} {s : GraphSnapshot}
    (hname : TopLevel name) (hfits : s.Fits) (hs : s.InRange)
    (hfind : folder.find? [name] = some (.bytes s.toText.toUTF8)) :
    HoldsDocument folder name s := by
  refine ⟨s.toText, ?_, GraphSnapshot.ofText_toText hfits, hs⟩
  unfold Folder.read
  rw [text_of_find? hname hfind]
  rfl

/-! ## Disjoint unions -/

/-- A graph takes in a snapshot exactly if its calls are between its symbols.  The symbols then
stand behind those of the graph, in their order, with their attributes and calls; what was there is
left as it is, and no call is added between both.  So files that hold such snapshots are loaded
into a finalised graph that has the snapshots one behind the other and nothing else, and
no relation or closure of a relation, and no path, leads from one of them to another. -/
theorem snapshots_form_disjoint_union :
    (∀ (g : CallGraph) (s : GraphSnapshot), g.Built →
      ((∃ ids, (g.includeSnapshot s).2 = .ok ids) ↔ s.InRange) ∧
      (s.InRange →
        (g.includeSnapshot s).2 = .ok (List.range' g.symbolCount s.symbols.length) ∧
        (g.includeSnapshot s).1.symbolCount = g.symbolCount + s.symbols.length ∧
        g.Extends (g.includeSnapshot s).1 ∧
        (g.includeSnapshot s).1.Placed g.symbolCount s ∧
        ∀ a b, (g.includeSnapshot s).1.Calls a b →
          (a.id < g.symbolCount ↔ b.id < g.symbolCount))) ∧
    ∀ (number : Nat) (folder : Folder) (names : List String) (docs : List GraphSnapshot),
      List.Forall₂ (HoldsDocument folder) names docs →
      ∃ g, load number folder names = .ok g ∧ g.Finalised ∧ UnionOf docs g ∧
        (∀ s : SymbolSet, s.DrawnFrom g →
          (∀ r : Relation, s.Confined (fun a => documentOf docs a.id) (r.apply s).image) ∧
          ∀ (via : List Relation) (p : Predicate),
            s.Confined (fun a => documentOf docs a.id)
              (s.reflexiveClosure (Relation.composite via p)) ∧
            s.Confined (fun a => documentOf docs a.id)
              (s.transitiveClosure (Relation.composite via p)).image) ∧
        ∀ s : PathSet, s.DrawnFrom g → ∀ p ∈ s.toList, ∀ a ∈ p.symbols, ∀ b ∈ p.symbols,
          documentOf docs a.id = documentOf docs b.id := by
  refine ⟨?_, ?_⟩
  · intro g s hg
    refine ⟨⟨?_, ?_⟩, ?_⟩
    · rintro ⟨ids, hok⟩
      exact hg.inRange_of_includeSnapshot hok
    · exact fun hs => ⟨_, congrArg Prod.snd (hg.includeSnapshot_eq hs)⟩
    · intro hs
      exact ⟨congrArg Prod.snd (hg.includeSnapshot_eq hs), g.symbolCount_includeSnapshot s,
        hg.extends_includeSnapshot hs, hg.placed_includeSnapshot hs,
        fun a b => hg.not_calls_across hs⟩
  · intro number folder names docs hfiles
    obtain ⟨g, hload, hg, hunion⟩ := exists_load hfiles number
    have hlabel := hunion.separates (inRange_of_holdsDocument hfiles)
    refine ⟨g, hload, hg, hunion, ?_, ?_⟩
    · exact fun s hs => SymbolSet.confined_closures hg hlabel hs.sound
    · exact fun s hs p hp => (hs.within.paths p hp).1.label_eq hlabel

/-- A file with two functions that call each other, and one with tangled calls. -/
def shelf : Folder := [
  ("pair.json", .bytes (mutualPair .standard).toSnapshot.toText.toUTF8),
  ("tangle.json", .bytes tangle.toText.toUTF8)]

theorem shelf_holds_pair : HoldsDocument shelf "pair.json" (mutualPair .standard).toSnapshot := by
  have hpair : Folder.trail "pair.json" = ["pair.json"] := by decide +kernel
  have htangle : Folder.trail "tangle.json" = ["tangle.json"] := by decide +kernel
  have hfits : (mutualPair .standard).toSnapshot.Fits := ⟨by decide +kernel, by decide +kernel⟩
  refine holdsDocument_of_find? (by decide +kernel) hfits ?_ ?_
  · exact (finalised_mutualPair .standard).built.inRange_toSnapshot
  · simp [Folder.find?, shelf, hpair, htangle]

theorem shelf_holds_tangle : HoldsDocument shelf "tangle.json" tangle := by
  have htangle : Folder.trail "tangle.json" = ["tangle.json"] := by decide +kernel
  refine holdsDocument_of_find? (by decide +kernel) ⟨by decide, by decide⟩ ?_ ?_
  · unfold GraphSnapshot.InRange
    decide
  · simp [Folder.find?, shelf, htangle]

/-- Tangled calls are taken in behind the two functions, and both files are loaded, one of them
twice. -/
theorem snapshots_form_disjoint_union_shelf :
    (mutualPair .standard).Built ∧ tangle.InRange ∧
      ((mutualPair .standard).includeSnapshot tangle).2 = .ok [2, 3, 4] ∧
      List.Forall₂ (HoldsDocument shelf) ["tangle.json", "pair.json", "tangle.json"]
        [tangle, (mutualPair .standard).toSnapshot, tangle] ∧
      ∃ g, load 7 shelf ["tangle.json", "pair.json", "tangle.json"] = .ok g ∧ g.symbolCount = 8 := by
  have hbuilt : (mutualPair .standard).Built := (finalised_mutualPair .standard).built
  have htangle : tangle.InRange := shelf_holds_tangle.inRange
  have hfiles : List.Forall₂ (HoldsDocument shelf) ["tangle.json", "pair.json", "tangle.json"]
      [tangle, (mutualPair .standard).toSnapshot, tangle] :=
    .cons shelf_holds_tangle (.cons shelf_holds_pair (.cons shelf_holds_tangle .nil))
  obtain ⟨hinclude, hload⟩ := snapshots_form_disjoint_union
  obtain ⟨-, hresult⟩ := hinclude (mutualPair .standard) tangle hbuilt
  obtain ⟨g, hg, -, hunion, -⟩ := hload 7 shelf _ _ hfiles
  exact ⟨hbuilt, htangle, (hresult htangle).1, hfiles, g, hg, hunion.symbolCount⟩

end CallGraph

end CallAtlas
