/-
# `CallAtlas.Proofs.Graph.DisjointUnion` — documents side by side in a graph

A snapshot that a graph takes in stands behind what was there before (`Placed`): its
symbols have the identities from the old number of symbols on, and they call each
other as the snapshot says.  What was there before is left as it is (`Extends`), so a
snapshot that stands somewhere stands there still when more are taken in.

A graph loaded from documents therefore has all of them, one behind the other, and
nothing else (`UnionOf`).  `documentOf` counts to the document that an identity
belongs to, and a call never leads from one document to another
(`UnionOf.documentOf_eq_of_calls`).
-/
import CallAtlas.Proofs.Graph.Inclusion

namespace CallAtlas

namespace CallGraph

variable {g h : CallGraph} {s : GraphSnapshot} {docs : List GraphSnapshot}

/-! ## One snapshot -/

/-- The symbols of the one graph are in the other, and call there what they call here. -/
structure Extends (g h : CallGraph) : Prop where
  symbol? : ∀ id < g.symbolCount, h.symbol? id = g.symbol? id
  calleesOf : ∀ a, g.Has a → h.calleesOf a = g.calleesOf a

/-- The symbols of a snapshot have the identities from an offset on, and call what they call in
the snapshot, each callee where it is called first. -/
structure Placed (g : CallGraph) (offset : Nat) (s : GraphSnapshot) : Prop where
  symbol? : ∀ i d, s.symbols[i]? = some d →
    g.symbol? (offset + i) = some { toSymbolDecl := d, id := offset + i }
  calleesOf : ∀ i a, i < s.symbols.length → g.symbol? (offset + i) = some a →
    (g.calleesOf a).map Symbol.id = (calleesIn s.calls i).eraseDups.map (offset + ·)

/-- The identities of what a symbol calls are its row. -/
theorem Coherent.map_id_calleesOf (hg : g.Coherent) (a : Symbol) :
    (g.calleesOf a).map Symbol.id = idsAt g.callees a.id := by
  rw [calleesOf_eq, map_id_filterMap_symbol?, List.filter_eq_self]
  exact fun j hj => decide_eq_true (hg.known a.id j hj)

/-- A snapshot that is taken in leaves what was there. -/
theorem Built.extends_includeSnapshot (hg : g.Built) (hs : s.InRange) :
    g.Extends (g.includeSnapshot s).1 where
  symbol? _ hid := symbol?_includeSnapshot hid s
  calleesOf a ha := by
    rw [calleesOf_eq, calleesOf_eq, hg.idsAt_includeSnapshot hs ha.id_lt]
    exact List.filterMap_congr fun j hj =>
      symbol?_includeSnapshot (hg.coherent.known a.id j hj) s

/-- A snapshot that is taken in stands behind what was there. -/
theorem Built.placed_includeSnapshot (hg : g.Built) (hs : s.InRange) :
    (g.includeSnapshot s).1.Placed g.symbolCount s where
  symbol? i d hd := by
    rw [symbol?_includeSnapshot_add, hd]
    rfl
  calleesOf i a _ ha := by
    rw [(hg.includeSnapshot s).coherent.map_id_calleesOf, id_of_symbol? ha]
    exact hg.idsAt_includeSnapshot_add hs i

theorem Placed.extends {offset : Nat} (hp : g.Placed offset s)
    (hle : offset + s.symbols.length ≤ g.symbolCount) (he : g.Extends h) : h.Placed offset s where
  symbol? i d hd := by
    have hi : i < s.symbols.length := (List.getElem?_eq_some_iff.1 hd).1
    rw [he.symbol? _ (by omega)]
    exact hp.symbol? i d hd
  calleesOf i a hi ha := by
    rw [he.symbol? _ (by omega)] at ha
    rw [he.calleesOf a (has_of_symbol? ha)]
    exact hp.calleesOf i a hi ha

/-- A symbol behind an offset where a snapshot stands calls symbols of the snapshot. -/
theorem Placed.exists_of_calls {offset i : Nat} (hp : g.Placed offset s) (hs : s.InRange)
    {a b : Symbol} (hid : a.id = offset + i) (hi : i < s.symbols.length) (hcall : g.Calls a b) :
    ∃ j < s.symbols.length, b.id = offset + j := by
  have ha : g.symbol? (offset + i) = some a := hid ▸ hcall.1
  have hmem : b.id ∈ (g.calleesOf a).map Symbol.id :=
    List.mem_map_of_mem ((calls_iff hcall.1).1 hcall)
  rw [hp.calleesOf i a hi ha] at hmem
  obtain ⟨j, hj, hbj⟩ := List.mem_map.1 hmem
  obtain ⟨c, hc, rfl⟩ := List.mem_map.1 (List.mem_eraseDups.1 hj)
  exact ⟨c.2, (hs c (List.mem_filter.1 hc).1).2, hbj.symm⟩

/-- Earlier and new symbols do not call each other. -/
theorem Built.not_calls_across (hg : g.Built) (hs : s.InRange) {a b : Symbol}
    (hcall : (g.includeSnapshot s).1.Calls a b) : a.id < g.symbolCount ↔ b.id < g.symbolCount := by
  have hextends := hg.extends_includeSnapshot hs
  by_cases hold : a.id < g.symbolCount
  · have ha : g.Has a := (hextends.symbol? a.id hold).symm.trans hcall.1
    have hb : b ∈ g.calleesOf a := hextends.calleesOf a ha ▸ (calls_iff hcall.1).1 hcall
    exact iff_of_true hold (id_lt_of_mem_calleesOf hb)
  · have hcount := g.symbolCount_includeSnapshot s
    have ha := hcall.1.id_lt
    obtain ⟨j, -, hj⟩ := (hg.placed_includeSnapshot hs).exists_of_calls hs (i := a.id - g.symbolCount)
      (by omega) (by omega) hcall
    exact iff_of_false hold (by omega)

/-! ## Several documents -/

/-- The number of symbols of some documents. -/
def total : List GraphSnapshot → Nat
  | [] => 0
  | s :: docs => s.symbols.length + total docs

@[simp] theorem total_nil : total [] = 0 := rfl

@[simp] theorem total_cons (s : GraphSnapshot) (docs : List GraphSnapshot) :
    total (s :: docs) = s.symbols.length + total docs := rfl

@[simp] theorem total_append (docs more : List GraphSnapshot) :
    total (docs ++ more) = total docs + total more := by
  induction docs with
  | nil => exact (Nat.zero_add _).symm
  | cons s docs ih => rw [List.cons_append, total_cons, total_cons, ih, Nat.add_assoc]

/-- The graph has the symbols of some documents, those of each behind those of the documents
before it, and no others. -/
structure UnionOf (docs : List GraphSnapshot) (g : CallGraph) : Prop where
  symbolCount : g.symbolCount = total docs
  placed : ∀ before s after, docs = before ++ s :: after → g.Placed (total before) s

/-- One more document is taken in. -/
theorem UnionOf.concat (hu : UnionOf docs g) (hg : g.Built) (hs : s.InRange) :
    UnionOf (docs ++ [s]) (g.includeSnapshot s).1 where
  symbolCount := by
    rw [symbolCount_includeSnapshot, hu.symbolCount]
    simp
  placed before t after hsplit := by
    rcases List.eq_nil_or_concat after with rfl | ⟨front, last, rfl⟩
    · obtain ⟨rfl, hlast⟩ := List.append_inj' hsplit rfl
      obtain rfl : s = t := List.singleton_inj.1 hlast
      rw [← hu.symbolCount]
      exact hg.placed_includeSnapshot hs
    · have hfront : docs = before ++ t :: front := by
        rw [List.concat_eq_append, ← List.cons_append, ← List.append_assoc] at hsplit
        exact (List.append_inj' hsplit rfl).1
      have hle : total before + t.symbols.length ≤ g.symbolCount := by
        rw [hu.symbolCount, hfront, total_append, total_cons]
        omega
      exact (hu.placed before t front hfront).extends hle (hg.extends_includeSnapshot hs)

/-- Computing the callers leaves the documents where they are. -/
theorem UnionOf.computeCallers (hu : UnionOf docs g) : UnionOf docs g.computeCallers where
  symbolCount := hu.symbolCount
  placed before s after hsplit :=
    (hu.placed before s after hsplit).extends
      (by rw [hu.symbolCount, hsplit, total_append, total_cons]; omega)
      ⟨fun _ _ => rfl, fun _ _ => rfl⟩

theorem unionOf_new (number : Nat) (config : QueryConfig) : UnionOf [] (new number config) where
  symbolCount := rfl
  placed before s after hsplit := absurd hsplit (by simp)

/-! ## Loading -/

/-- The file of a folder holds a snapshot whose calls are between its symbols. -/
def HoldsDocument (folder : Folder) (name : String) (s : GraphSnapshot) : Prop :=
  ∃ text, folder.read name = .ok text ∧ GraphSnapshot.ofText text = .ok s ∧ s.InRange

theorem HoldsDocument.inRange {folder : Folder} {name : String}
    (hfile : HoldsDocument folder name s) : s.InRange :=
  hfile.elim fun _ h => h.2.2

theorem inRange_of_holdsDocument {folder : Folder} {names : List String}
    (hfiles : List.Forall₂ (HoldsDocument folder) names docs) : ∀ s ∈ docs, s.InRange := by
  induction hfiles with
  | nil => exact fun s hs => absurd hs List.not_mem_nil
  | cons hfile _ ih => exact List.forall_mem_cons.2 ⟨hfile.inRange, ih⟩

theorem includeFile_eq {folder : Folder} {name : String} (hfile : HoldsDocument folder name s)
    (g : CallGraph) : g.includeFile folder name = g.includeSnapshot s := by
  obtain ⟨text, hread, htext, -⟩ := hfile
  unfold includeFile includeText
  rw [hread]
  simp only
  rw [htext]

/-- Files that hold documents are taken in one after the other. -/
theorem exists_includeFiles {folder : Folder} {names : List String} {more : List GraphSnapshot}
    (hfiles : List.Forall₂ (HoldsDocument folder) names more) (hu : UnionOf docs g)
    (hg : g.Built) : ∃ h, g.includeFiles folder names = .ok h ∧ UnionOf (docs ++ more) h := by
  induction hfiles generalizing g docs with
  | nil => exact ⟨g, rfl, (List.append_nil docs).symm ▸ hu⟩
  | @cons name s names more hfile _ ih =>
    have hs := hfile.inRange
    obtain ⟨h, hrest, hunion⟩ := ih (hu.concat hg hs) (hg.includeSnapshot s)
    refine ⟨h, ?_, ?_⟩
    · unfold includeFiles
      rw [includeFile_eq hfile, hg.includeSnapshot_eq hs]
      rw [hg.includeSnapshot_eq hs] at hrest
      exact hrest
    · rw [List.append_assoc] at hunion
      exact hunion

/-- Documents are loaded into a finalised graph that is their union. -/
theorem exists_load {folder : Folder} {names : List String}
    (hfiles : List.Forall₂ (HoldsDocument folder) names docs) (number : Nat) :
    ∃ g, load number folder names = .ok g ∧ g.Finalised ∧ UnionOf docs g := by
  obtain ⟨h, hincluded, hunion⟩ :=
    exists_includeFiles hfiles (unionOf_new number .standard) ⟨number, .standard, [], rfl⟩
  have hload : load number folder names = .ok h.computeCallers := by
    unfold load
    rw [hincluded]
    rfl
  exact ⟨h.computeCallers, hload, finalised_of_load hload, hunion.computeCallers⟩

/-! ## Calls stay in their documents -/

/-- The position of the document that an identity belongs to. -/
def documentOf : List GraphSnapshot → Nat → Nat
  | [], _ => 0
  | s :: docs, id =>
      if id < s.symbols.length then 0 else documentOf docs (id - s.symbols.length) + 1

theorem documentOf_total_add (before after : List GraphSnapshot) {i : Nat}
    (hi : i < s.symbols.length) :
    documentOf (before ++ s :: after) (total before + i) = before.length := by
  induction before with
  | nil =>
    rw [List.nil_append, total_nil, Nat.zero_add, documentOf, if_pos hi]
    rfl
  | cons t before ih =>
    have hbehind : ¬total (t :: before) + i < t.symbols.length := by
      rw [total_cons]
      omega
    have hrest : total (t :: before) + i - t.symbols.length = total before + i := by
      rw [total_cons]
      omega
    rw [List.cons_append, documentOf, if_neg hbehind, hrest, ih, List.length_cons]

/-- An identity below the number of symbols is that of a symbol of some document. -/
theorem exists_split_of_lt_total {id : Nat} (h : id < total docs) :
    ∃ before s after i, docs = before ++ s :: after ∧ i < s.symbols.length ∧
      id = total before + i := by
  induction docs generalizing id with
  | nil => exact absurd h (Nat.not_lt_zero id)
  | cons s docs ih =>
    by_cases hfirst : id < s.symbols.length
    · exact ⟨[], s, docs, id, rfl, hfirst, (Nat.zero_add id).symm⟩
    · rw [total_cons] at h
      have hrest : id - s.symbols.length < total docs := by omega
      obtain ⟨before, t, after, i, rfl, hi, hid⟩ := ih hrest
      refine ⟨s :: before, t, after, i, rfl, hi, ?_⟩
      rw [total_cons]
      omega

/-- A symbol calls symbols of its own document. -/
theorem UnionOf.documentOf_eq_of_calls (hu : UnionOf docs g) (hdocs : ∀ s ∈ docs, s.InRange)
    {a b : Symbol} (hcall : g.Calls a b) : documentOf docs a.id = documentOf docs b.id := by
  obtain ⟨before, s, after, i, rfl, hi, ha⟩ :=
    exists_split_of_lt_total (hu.symbolCount ▸ hcall.1.id_lt)
  have hs : s.InRange := hdocs s (List.mem_append_right before List.mem_cons_self)
  obtain ⟨j, hj, hb⟩ := (hu.placed before s after rfl).exists_of_calls hs ha hi hcall
  rw [ha, hb, documentOf_total_add before after hi, documentOf_total_add before after hj]

end CallGraph

end CallAtlas
