/-
# `CallAtlas.Proofs.Json.Lossless` — records come back from their text

Two things can be lost on the way to text and back: a value may be read as
another one, and a field of a record may be taken for another or refused.  The
first is the matter of `CallAtlas.Proofs.Json.Layout`.  The second is settled
here: a record that is written as an object with its own keys has each field
found by its key (`fields?_keyed`), and each field reads what it wrote.

Numbers are the only fields with a limit when they are read, so a snapshot comes
back if its lines and positions are machine integers (`GraphSnapshot.Fits`).
-/
import CallAtlas.Graph.Snapshot
import CallAtlas.Proofs.Json.Layout

namespace CallAtlas

namespace Json

/-! ## Fields -/

/-- A computation that succeeds on each item of a list succeeds on the list. -/
theorem mapM_eq_some {α β : Type} {f : α → Option β} {g : α → β} {l : List α}
    (h : ∀ a ∈ l, f a = some (g a)) : l.mapM f = some (l.map g) := by
  induction l with
  | nil => rfl
  | cons a l ih =>
    rw [List.mapM_cons, h a List.mem_cons_self, ih fun b hb => h b (List.mem_cons_of_mem a hb)]
    rfl

theorem digitsValue_toDigits (n : Nat) : digitsValue (Nat.toDigits 10 n) = n :=
  Nat.ofDigitChars_toDigits (by decide) (by decide)

theorem nat?_ofNat {n limit : Nat} (h : n ≤ limit) : nat? limit (.ofNat n) = some n := by
  have hdigits : (Nat.toDigits 10 n).all isDigit = true :=
    List.all_eq_true.2 (numeral_toDigits n).digits
  unfold nat? ofNat
  simp only [digitsValue_toDigits]
  exact if_pos ⟨(numeral_toDigits n).ne_nil, hdigits, h⟩

theorem list?_map {α : Type} {read : Json → Option α} {write : α → Json} {l : List α}
    (h : ∀ a ∈ l, read (write a) = some a) : list? read (.array (l.map write)) = some l := by
  refine (List.mapM_map).trans ?_
  exact (mapM_eq_some h).trans (congrArg some (List.map_id l))

/-- Of members whose keys differ each is found by its key. -/
theorem filter_key_eq {ms : List (String × Json)} (h : (ms.map Prod.fst).Nodup)
    {m : String × Json} (hm : m ∈ ms) : (ms.filter fun n => n.1 = m.1) = [m] := by
  induction ms with
  | nil => exact absurd hm List.not_mem_nil
  | cons n ms ih =>
    obtain ⟨hfirst, hrest⟩ := List.nodup_cons.1 h
    rcases List.mem_cons.1 hm with rfl | hm
    · have hnone : (ms.filter fun n => n.1 = m.1) = [] := by
        rw [List.filter_eq_nil_iff]
        intro n hn heq
        exact hfirst (of_decide_eq_true heq ▸ List.mem_map_of_mem hn)
      rw [List.filter_cons, hnone]
      exact if_pos (decide_eq_true rfl)
    · have hne : n.1 ≠ m.1 := by
        intro heq
        exact hfirst (heq ▸ List.mem_map_of_mem hm)
      rw [List.filter_cons_of_neg (by simpa using hne), ih hrest hm]

/-- An object with the keys of a record, each once, has its values as the fields. -/
theorem fields?_keyed (ms : List (String × Json)) (keys : List String)
    (hkeys : keys = ms.map Prod.fst) (hnodup : keys.Nodup) :
    (Json.object (keyed ms)).fields? keys = some (ms.map fun m => some m.2) := by
  subst hkeys
  have hnamed : (keyed ms).mapM (fun m => m.1.map fun k => (k, m.2)) = some ms := by
    unfold keyed
    rw [List.mapM_map]
    exact (mapM_eq_some fun _ _ => rfl).trans (congrArg some (List.map_id ms))
  unfold fields? pick?
  simp only [hnamed, Option.bind_eq_bind, Option.bind_some]
  rw [List.mapM_map]
  refine mapM_eq_some fun m hm => ?_
  simp only [Function.comp_apply, filter_key_eq hnodup hm]

end Json

/-! ## Declarations -/

namespace SymbolDecl

/-- The fields of a declaration with their values. -/
def members (d : SymbolDecl) : List (String × Json) := [
  ("name", .ofString d.name),
  ("file", .ofString d.file),
  ("line", .ofNat d.line),
  ("is_variable", .bool d.isVariable),
  ("is_static", .bool d.isStatic),
  ("is_declaration", .bool d.isDeclaration)]

theorem toJson_eq (d : SymbolDecl) : d.toJson = .object (Json.keyed d.members) := rfl

theorem plain_toJson (d : SymbolDecl) : d.toJson.Plain := by
  rw [toJson_eq]
  refine .object ?_
  simp only [members, List.forall_mem_cons]
  exact ⟨.string d.name, .string d.file, Json.plain_ofNat d.line, .bool d.isVariable,
    .bool d.isStatic, .bool d.isDeclaration, List.forall_mem_nil _⟩

theorem ofJson?_toJson {d : SymbolDecl} (h : d.line ≤ largestLine) :
    ofJson? d.toJson = some d := by
  have hfields := Json.fields?_keyed d.members fieldNames rfl (by decide)
  unfold ofJson?
  rw [toJson_eq, hfields]
  simp only [members, List.map_cons, List.map_nil, Option.bind_eq_bind, Option.bind_some,
    Json.required, Json.optional, Json.nat?_ofNat h]
  rfl

end SymbolDecl

/-! ## Snapshots -/

namespace GraphSnapshot

/-- The fields of a snapshot with their values. -/
def members (s : GraphSnapshot) : List (String × Json) := [
  ("symbols", .array (s.symbols.map SymbolDecl.toJson)),
  ("calls", .array (s.calls.map fun c => .array [.ofNat c.1, .ofNat c.2]))]

theorem toJson_eq (s : GraphSnapshot) : s.toJson = .object (Json.keyed s.members) := rfl

/-- The lines of a snapshot are numbers of 32 bits, and its positions are numbers of 64 bits. -/
structure Fits (s : GraphSnapshot) : Prop where
  lines : ∀ d ∈ s.symbols, d.line < UInt32.size
  calls : ∀ c ∈ s.calls, c.1 < UInt64.size ∧ c.2 < UInt64.size

theorem plain_toJson (s : GraphSnapshot) : s.toJson.Plain := by
  have hsymbols : ∀ v ∈ s.symbols.map SymbolDecl.toJson, v.Plain := by
    intro v hv
    obtain ⟨d, -, rfl⟩ := List.mem_map.1 hv
    exact d.plain_toJson
  have hcalls : ∀ v ∈ s.calls.map (fun c => Json.array [.ofNat c.1, .ofNat c.2]), v.Plain := by
    intro v hv
    obtain ⟨c, -, rfl⟩ := List.mem_map.1 hv
    refine .array ?_
    simp only [List.forall_mem_cons]
    exact ⟨Json.plain_ofNat c.1, Json.plain_ofNat c.2, List.forall_mem_nil _⟩
  rw [toJson_eq]
  refine .object ?_
  simp only [members, List.forall_mem_cons]
  exact ⟨.array hsymbols, .array hcalls, List.forall_mem_nil _⟩

theorem ofJson?_toJson {s : GraphSnapshot} (h : s.Fits) : ofJson? s.toJson = some s := by
  have hsymbols : Json.list? SymbolDecl.ofJson? (.array (s.symbols.map SymbolDecl.toJson)) =
      some s.symbols :=
    Json.list?_map fun d hd => SymbolDecl.ofJson?_toJson (Nat.le_of_lt_succ (h.lines d hd))
  have hcalls : Json.list? (Json.pair? (Json.nat? QueryConfig.largestIndex))
      (.array (s.calls.map fun c => .array [.ofNat c.1, .ofNat c.2])) = some s.calls := by
    refine Json.list?_map fun c hc => ?_
    obtain ⟨hcaller, hcallee⟩ := h.calls c hc
    have hfirst : Json.nat? QueryConfig.largestIndex (.ofNat c.1) = some c.1 :=
      Json.nat?_ofNat (Nat.le_of_lt_succ hcaller)
    have hsecond : Json.nat? QueryConfig.largestIndex (.ofNat c.2) = some c.2 :=
      Json.nat?_ofNat (Nat.le_of_lt_succ hcallee)
    unfold Json.pair?
    simp only [hfirst, hsecond, Option.bind_eq_bind, Option.bind_some]
  have hfields := Json.fields?_keyed s.members ["symbols", "calls"] rfl (by decide)
  unfold ofJson?
  rw [toJson_eq, hfields]
  simp only [members, List.map_cons, List.map_nil, Option.bind_eq_bind, Option.bind_some,
    Json.required, Json.optional, hsymbols, hcalls]

theorem ofText_toText {s : GraphSnapshot} (h : s.Fits) : ofText s.toText = .ok s := by
  unfold ofText toText
  rw [Json.parse?_toPretty s.plain_toJson, Option.bind_some, ofJson?_toJson h]

end GraphSnapshot

/-! ## Settings -/

namespace QueryConfig

/-- The fields of settings with their values. -/
def members (c : QueryConfig) : List (String × Json) := [
  ("max_path_length", c.maxPathLength.elim .null Json.ofNat),
  ("tie_break", .ofString c.tieBreak.name)]

theorem toJson_eq (c : QueryConfig) : c.toJson = .object (Json.keyed c.members) := rfl

theorem plain_toJson (c : QueryConfig) : c.toJson.Plain := by
  have hlength : (c.maxPathLength.elim .null Json.ofNat).Plain := by
    cases c.maxPathLength with
    | none => exact .null
    | some n => exact Json.plain_ofNat n
  rw [toJson_eq]
  refine .object ?_
  simp only [members, List.forall_mem_cons]
  exact ⟨hlength, .string c.tieBreak.name, List.forall_mem_nil _⟩

theorem lengthOfJson?_elim {length : Option Nat} (h : ∀ n, length = some n → n < UInt64.size) :
    lengthOfJson? (length.elim .null Json.ofNat) = some length := by
  cases length with
  | none => rfl
  | some n => exact congrArg (·.map some) (Json.nat?_ofNat (Nat.le_of_lt_succ (h n rfl)))

theorem ofJson?_toJson {c : QueryConfig} (h : ∀ n, c.maxPathLength = some n → n < UInt64.size) :
    ofJson? c.toJson = some c := by
  have hfields := Json.fields?_keyed c.members ["max_path_length", "tie_break"] rfl (by decide)
  have htie : TieBreak.ofJson? (.ofString c.tieBreak.name) = some c.tieBreak := by
    cases c.tieBreak <;> rfl
  unfold ofJson?
  rw [toJson_eq, hfields]
  simp only [members, List.map_cons, List.map_nil, Option.bind_eq_bind, Option.bind_some,
    Json.optional, lengthOfJson?_elim h, htie]

theorem ofText_toCompact {c : QueryConfig} (h : ∀ n, c.maxPathLength = some n → n < UInt64.size) :
    ofText c.toJson.toCompact = .ok c := by
  unfold ofText
  rw [Json.parse?_toCompact c.plain_toJson, Option.bind_some, ofJson?_toJson h]

end QueryConfig

/-! ## Both formats -/

/-- Snapshots of machine-size numbers come back from their text, whatever characters their names
and files are made of, and so do settings, with or without a greatest path length. -/
theorem Json.formats_lossless :
    (∀ s : GraphSnapshot, s.Fits → GraphSnapshot.ofText s.toText = .ok s) ∧
      ∀ c : QueryConfig, (∀ n, c.maxPathLength = some n → n < UInt64.size) →
        QueryConfig.ofText c.toJson.toCompact = .ok c :=
  ⟨fun _ => GraphSnapshot.ofText_toText, fun _ => QueryConfig.ofText_toCompact⟩

/-- Texts with characters of each kind that is written as an escape and of some that are not, and
the largest numbers. -/
def GraphSnapshot.awkward : GraphSnapshot where
  symbols := [{
    name := "say \"\\u0041\" \x00\x1f\x7f\n"
    file := "C:\\tmp\t/é\r😀.c"
    line := 4294967295
    isVariable := true
    isStatic := false
    isDeclaration := true }]
  calls := [(0, 18446744073709551615), (0, 0), (0, 0)]

/-- Awkward texts and the largest numbers come back. -/
theorem Json.formats_lossless_awkward :
    GraphSnapshot.awkward.Fits ∧
      GraphSnapshot.ofText GraphSnapshot.awkward.toText = .ok GraphSnapshot.awkward ∧
        QueryConfig.ofText (QueryConfig.toJson ⟨some 18446744073709551615, .lastSeen⟩).toCompact =
          .ok ⟨some 18446744073709551615, .lastSeen⟩ := by
  have hfits : GraphSnapshot.awkward.Fits := by
    constructor
    · decide
    · decide
  refine ⟨hfits, Json.formats_lossless.1 GraphSnapshot.awkward hfits,
    Json.formats_lossless.2 _ ?_⟩
  rintro n ⟨⟩
  decide

end CallAtlas
