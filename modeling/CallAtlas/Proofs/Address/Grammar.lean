/-
# `CallAtlas.Proofs.Address.Grammar` — which texts are addresses, and of what

The grammar is given by what a text is put together from: parts between colons
(`Parts`), a line part that is open, one number or several with commas between them
(`WritesLines`), a number as a numeral with white space around it (`WritesNumber`).
A text is read as an address exactly if the grammar derives it, and then as the
address that is built from the same parts (`ofText_eq_ok_iff`); it is refused for its
colons or else for its line part (`ofText_eq_error_iff`).
-/
import CallAtlas.Address
import CallAtlas.Proofs.Text.Fields
import Mathlib.Data.List.Forall2

namespace CallAtlas.Address

open Text (AllWhite Trimmed fields joinFields)

/-! ## The grammar -/

/-- Decimal digits, perhaps behind a plus sign, of a value that a line may have. -/
inductive Numeral : List Char → Nat → Prop
  | mk {sign digits : List Char} (hsign : sign = [] ∨ sign = ['+']) (hne : digits ≠ [])
      (hdigits : ∀ c ∈ digits, c.isDigit = true)
      (hlimit : Nat.ofDigitChars 10 digits 0 ≤ 4294967295) :
      Numeral (sign ++ digits) (Nat.ofDigitChars 10 digits 0)

/-- A line number as it may be written, perhaps with white space around it. -/
inductive WritesNumber : List Char → Nat → Prop
  | mk {before numeral after : List Char} {n : Nat} (hbefore : AllWhite before)
      (hnumeral : Numeral numeral n) (hafter : AllWhite after) :
      WritesNumber (before ++ numeral ++ after) n

/-- A part that says nothing. -/
def IsOpen (part : List Char) : Prop := part = [] ∨ part = ['*']

/-- A line part and the lines that it stands for. -/
inductive WritesLines : List Char → LineSelector → Prop
  | any {part : List Char} (hopen : IsOpen part) : WritesLines part .any
  | exact {entry : List Char} {n : Nat} (hcomma : ',' ∉ entry) (hentry : WritesNumber entry n) :
      WritesLines entry (.exact n)
  | oneOf {entries : List (List Char)} {ns : List Nat} (hseveral : 2 ≤ entries.length)
      (hcomma : ∀ entry ∈ entries, ',' ∉ entry)
      (hentries : List.Forall₂ WritesNumber entries ns) :
      WritesLines (joinFields ',' entries) (.oneOf ns)

/-- A text, and the file, the line and the name that stand in it between colons.  What does not
stand in it is empty. -/
inductive Parts : List Char → List Char → List Char → List Char → Prop
  | name {name : List Char} (hname : ':' ∉ name) : Parts name [] [] name
  | file {file name : List Char} (hfile : ':' ∉ file) (hname : ':' ∉ name) :
      Parts (file ++ ':' :: name) file [] name
  | line {file line name : List Char} (hfile : ':' ∉ file) (hline : ':' ∉ line)
      (hname : ':' ∉ name) : Parts (file ++ ':' :: (line ++ ':' :: name)) file line name

/-- The address that is built from three parts. -/
def built (file : List Char) (lines : LineSelector) (name : List Char) : Address :=
  ((any.withFile (String.ofList file)).withLine lines).withName (String.ofList name)

/-- What an address keeps of a part: nothing, if it is open. -/
def Keeps (kept : Option String) (part : List Char) : Prop :=
  kept = none ∧ IsOpen part ∨ kept = some (String.ofList part) ∧ ¬IsOpen part

/-- An address that restricts just what three parts say. -/
structure Says (a : Address) (file : List Char) (lines : LineSelector) (name : List Char) :
    Prop where
  file : Keeps a.file file
  line : a.line = lines
  name : Keeps a.name name

/-! ## Builders -/

theorem keeps_iff {kept : Option String} {part : List Char} :
    Keeps kept part ↔ kept = restriction (String.ofList part) := by
  have hopen : (String.ofList part = "" ∨ String.ofList part = "*") ↔ IsOpen part := by
    rw [← String.toList_inj, ← String.toList_inj, String.toList_ofList]
    rfl
  rw [Keeps, restriction]
  by_cases h : IsOpen part
  · rw [if_pos (hopen.2 h)]
    simp [h]
  · rw [if_neg fun h' => h (hopen.1 h')]
    simp [h]

/-- The builders restrict just what their arguments say. -/
theorem says_iff {a : Address} {file : List Char} {lines : LineSelector} {name : List Char} :
    a.Says file lines name ↔ a = built file lines name := by
  obtain ⟨file', lines', name'⟩ := a
  constructor
  · rintro ⟨hfile, rfl, hname⟩
    obtain rfl := keeps_iff.1 hfile
    obtain rfl := keeps_iff.1 hname
    rfl
  · intro h
    cases h
    exact ⟨keeps_iff.2 rfl, rfl, keeps_iff.2 rfl⟩

/-! ## Numbers -/

theorem not_white_of_isDigit {c : Char} (h : c.isDigit = true) :
    Unicode.whiteSpace.contains c = false := by
  obtain ⟨hlow, hhigh⟩ : 48 ≤ c.toNat ∧ c.toNat ≤ 57 := Char.isDigit_iff_toNat.1 h
  simp only [Unicode.whiteSpace, CharSet.contains, CharSet.hasCode, List.any_eq_false]
  simp only [List.forall_mem_cons, Bool.and_eq_true, decide_eq_true_eq, not_and, Nat.not_le]
  refine ⟨?_, ?_, ?_, ?_, ?_, ?_, ?_, ?_, ?_, ?_, List.forall_mem_nil _⟩ <;> omega

theorem Numeral.not_white {cs : List Char} {n : Nat} (h : Numeral cs n) :
    ∀ c ∈ cs, Unicode.whiteSpace.contains c = false := by
  obtain ⟨hsign, -, hdigits, -⟩ := h
  intro c hc
  rcases List.mem_append.1 hc with hc | hc
  · rcases hsign with rfl | rfl
    · exact absurd hc List.not_mem_nil
    · obtain rfl := List.mem_singleton.1 hc
      decide
  · exact not_white_of_isDigit (hdigits c hc)

theorem Numeral.trimmed {cs : List Char} {n : Nat} (h : Numeral cs n) : Trimmed cs where
  start _ hc := h.not_white _ (List.mem_of_mem_head? hc)
  finish _ hc := h.not_white _ (List.mem_of_mem_getLast? hc)

/-- What a plus sign may stand before. -/
def unsigned (cs : List Char) : List Char :=
  match cs with
  | '+' :: rest => rest
  | _ => cs

theorem exists_sign (cs : List Char) :
    ∃ sign, (sign = [] ∨ sign = ['+']) ∧ cs = sign ++ unsigned cs := by
  unfold unsigned
  split
  · exact ⟨['+'], Or.inr rfl, rfl⟩
  · exact ⟨[], Or.inl rfl, rfl⟩

theorem unsigned_append {sign digits : List Char} (hsign : sign = [] ∨ sign = ['+'])
    (hdigits : ∀ c ∈ digits, c.isDigit = true) : unsigned (sign ++ digits) = digits := by
  rcases hsign with rfl | rfl
  · show unsigned digits = digits
    unfold unsigned
    split
    · exact absurd (hdigits '+' List.mem_cons_self) (by decide)
    · rfl
  · rfl

theorem lineNumber?_eq (cs : List Char) :
    lineNumber? cs =
      if unsigned cs ≠ [] ∧ (unsigned cs).all Char.isDigit ∧
          Nat.ofDigitChars 10 (unsigned cs) 0 ≤ 4294967295 then
        some (Nat.ofDigitChars 10 (unsigned cs) 0)
      else none :=
  rfl

theorem lineNumber?_eq_some_iff {cs : List Char} {n : Nat} :
    lineNumber? cs = some n ↔ Numeral cs n := by
  rw [lineNumber?_eq, Option.ite_none_right_eq_some, Option.some.injEq]
  constructor
  · rintro ⟨⟨hne, hdigits, hlimit⟩, rfl⟩
    obtain ⟨sign, hsign, hcs⟩ := exists_sign cs
    have hnumeral : Numeral (sign ++ unsigned cs) _ :=
      .mk hsign hne (List.all_eq_true.1 hdigits) hlimit
    rwa [← hcs] at hnumeral
  · rintro ⟨hsign, hne, hdigits, hlimit⟩
    rw [unsigned_append hsign hdigits]
    exact ⟨⟨hne, List.all_eq_true.2 hdigits, hlimit⟩, rfl⟩

/-- Trimming an entry takes off just the white space that may stand around its number. -/
theorem lineNumber?_trim_eq_some_iff {entry : List Char} {n : Nat} :
    lineNumber? (Text.trim entry) = some n ↔ WritesNumber entry n := by
  rw [lineNumber?_eq_some_iff]
  constructor
  · intro h
    obtain ⟨-, before, after, hentry, hbefore, hafter⟩ :=
      Text.trim_eq_iff.1 (Eq.refl (Text.trim entry))
    rw [hentry]
    exact .mk hbefore h hafter
  · rintro ⟨hbefore, hnumeral, hafter⟩
    rwa [Text.trim_eq_iff.2 ⟨hnumeral.trimmed, _, _, rfl, hbefore, hafter⟩]

/-! ## Line parts -/

theorem mapM_eq_some_iff_forall₂ {α β : Type} {f : α → Option β} {as : List α} {bs : List β} :
    as.mapM f = some bs ↔ List.Forall₂ (fun a b => f a = some b) as bs := by
  induction as generalizing bs with
  | nil => simp [eq_comm]
  | cons a as ih =>
    simp only [List.mapM_cons, Option.bind_eq_bind, Option.bind_eq_some_iff,
      List.forall₂_cons_left_iff, ih]
    constructor
    · rintro ⟨b, hb, rest, hrest, h⟩
      cases h
      exact ⟨b, rest, hb, hrest, rfl⟩
    · rintro ⟨b, rest, hb, hrest, rfl⟩
      exact ⟨b, hb, rest, hrest, rfl⟩

theorem exists_forall₂_iff {α β : Type} {R : α → β → Prop} {as : List α} :
    (∃ bs, List.Forall₂ R as bs) ↔ ∀ a ∈ as, ∃ b, R a b := by
  induction as with
  | nil => simp
  | cons a as ih =>
    simp only [List.forall₂_cons_left_iff, List.forall_mem_cons, ← ih]
    constructor
    · rintro ⟨_, b, rest, hb, hrest, -⟩
      exact ⟨⟨b, hb⟩, rest, hrest⟩
    · rintro ⟨⟨b, hb⟩, rest, hrest⟩
      exact ⟨b :: rest, b, rest, hb, hrest, rfl⟩

theorem ne_nil_of_two_le {α : Type} {as : List α} (h : 2 ≤ as.length) : as ≠ [] :=
  List.ne_nil_of_length_pos (Nat.lt_of_lt_of_le Nat.zero_lt_two h)

theorem lineList?_eq_some_iff {part : List Char} {ns : List Nat} :
    lineList? part = some ns ↔ List.Forall₂ WritesNumber (fields ',' part) ns := by
  simp only [lineList?, mapM_eq_some_iff_forall₂, lineNumber?_trim_eq_some_iff]

/-- An open line part is no list of numbers. -/
theorem not_open_of_lineList? {part : List Char} {ns : List Nat} (h : lineList? part = some ns) :
    ¬IsOpen part := by
  rintro (rfl | rfl)
  · cases h
  · cases h

/-- A list of one number has one entry. -/
theorem writesLines_of_lineList?_singleton {part : List Char} {n : Nat}
    (h : lineList? part = some [n]) : WritesLines part (.exact n) := by
  obtain ⟨entry, rest, hentry, hrest, hfields⟩ :=
    List.forall₂_cons_right_iff.1 (lineList?_eq_some_iff.1 h)
  obtain rfl := List.forall₂_nil_right_iff.1 hrest
  obtain ⟨-, hcomma, hjoin⟩ := Text.fields_eq_iff.1 hfields
  cases hjoin
  exact .exact (hcomma entry List.mem_cons_self) hentry

/-- There are several entries where there is not one number. -/
theorem writesLines_of_lineList? {part : List Char} {ns : List Nat} (h : lineList? part = some ns)
    (hns : ∀ n, ns ≠ [n]) : WritesLines part (.oneOf ns) := by
  have hentries := lineList?_eq_some_iff.1 h
  have hlength : (fields ',' part).length = ns.length := hentries.length_eq
  have hpos : 0 < (fields ',' part).length :=
    List.length_pos_of_ne_nil (Text.fields_ne_nil ',' part)
  have hone : ns.length ≠ 1 := fun heq => by
    obtain ⟨n, hn⟩ := List.length_eq_one_iff.1 heq
    exact hns n hn
  have hlines : WritesLines (joinFields ',' (fields ',' part)) (.oneOf ns) :=
    .oneOf (by omega) (Text.not_mem_of_mem_fields part) hentries
  rwa [Text.joinFields_fields] at hlines

theorem exists_writesLines_of_lineList? {part : List Char} {ns : List Nat}
    (h : lineList? part = some ns) : ∃ lines, WritesLines part lines := by
  by_cases hone : ∃ n, ns = [n]
  · obtain ⟨n, rfl⟩ := hone
    exact ⟨_, writesLines_of_lineList?_singleton h⟩
  · exact ⟨_, writesLines_of_lineList? h (not_exists.1 hone)⟩

theorem lineSelector?_of_not_open {part : List Char} (h : ¬IsOpen part) :
    lineSelector? part =
      match lineList? part with
      | some [line] => some (.exact line)
      | some lines => some (.oneOf lines)
      | none => none :=
  if_neg h

theorem lineSelector?_of_lineList? {part : List Char} {ns : List Nat}
    (h : lineList? part = some ns) (hns : ∀ n, ns ≠ [n]) :
    lineSelector? part = some (.oneOf ns) := by
  rw [lineSelector?_of_not_open (not_open_of_lineList? h), h]
  rcases ns with _ | ⟨n, _ | ⟨n', ns⟩⟩
  · rfl
  · exact absurd rfl (hns n)
  · rfl

theorem lineSelector?_eq_some_iff {part : List Char} {lines : LineSelector} :
    lineSelector? part = some lines ↔ WritesLines part lines := by
  constructor
  · intro h
    unfold lineSelector? at h
    split at h
    case isTrue hopen =>
      cases h
      exact .any hopen
    case isFalse =>
      split at h
      case h_1 n hlist =>
        cases h
        exact writesLines_of_lineList?_singleton hlist
      case h_2 ns hns hlist =>
        cases h
        exact writesLines_of_lineList? hlist hns
      case h_3 => cases h
  · intro h
    cases h with
    | any hopen => exact if_pos hopen
    | @exact _ n hcomma hentry =>
      have hlist : lineList? part = some [n] := by
        rw [lineList?_eq_some_iff, Text.fields_of_not_mem hcomma]
        exact .cons hentry .nil
      rw [lineSelector?_of_not_open (not_open_of_lineList? hlist), hlist]
    | @oneOf entries ns hseveral hcomma hentries =>
      have hlist : lineList? (joinFields ',' entries) = some ns := by
        rwa [lineList?_eq_some_iff, Text.fields_joinFields (ne_nil_of_two_le hseveral) hcomma]
      have hns : ∀ n, ns ≠ [n] := by
        rintro n rfl
        have hlength : entries.length = 1 := hentries.length_eq
        omega
      exact lineSelector?_of_lineList? hlist hns

/-- A line part stands for lines if it is open or each of its entries is a number. -/
theorem exists_writesLines_iff {part : List Char} :
    (∃ lines, WritesLines part lines) ↔
      IsOpen part ∨ ∀ entry ∈ fields ',' part, ∃ n, WritesNumber entry n := by
  rw [← exists_forall₂_iff]
  constructor
  · rintro ⟨lines, hlines⟩
    cases hlines with
    | any hopen => exact Or.inl hopen
    | exact hcomma hentry =>
      rw [Text.fields_of_not_mem hcomma]
      exact Or.inr ⟨_, .cons hentry .nil⟩
    | oneOf hseveral hcomma hentries =>
      rw [Text.fields_joinFields (ne_nil_of_two_le hseveral) hcomma]
      exact Or.inr ⟨_, hentries⟩
  · rintro (hopen | ⟨ns, hentries⟩)
    · exact ⟨.any, .any hopen⟩
    · exact exists_writesLines_of_lineList? (lineList?_eq_some_iff.2 hentries)

/-! ## Parts -/

theorem parts?_eq_some_iff {text file line name : List Char} :
    parts? text = some (file, line, name) ↔ Parts text file line name := by
  constructor
  · intro h
    unfold parts? at h
    split at h
    · rename_i hfields
      cases h
      obtain ⟨-, hcolon, rfl⟩ := Text.fields_eq_iff.1 hfields
      exact .name (hcolon name (by simp))
    · rename_i hfields
      cases h
      obtain ⟨-, hcolon, rfl⟩ := Text.fields_eq_iff.1 hfields
      exact .file (hcolon file (by simp)) (hcolon name (by simp))
    · rename_i hfields
      cases h
      obtain ⟨-, hcolon, rfl⟩ := Text.fields_eq_iff.1 hfields
      exact .line (hcolon file (by simp)) (hcolon line (by simp)) (hcolon name (by simp))
    · cases h
  · intro h
    unfold parts?
    cases h with
    | name hname => rw [Text.fields_of_not_mem hname]
    | file hfile hname => rw [Text.fields_append_sep hfile, Text.fields_of_not_mem hname]
    | line hfile hline hname =>
      rw [Text.fields_append_sep hfile, Text.fields_append_sep hline, Text.fields_of_not_mem hname]

/-- A text has parts exactly if it has at most two colons. -/
theorem parts?_eq_none_iff {text : List Char} : parts? text = none ↔ 2 < text.count ':' := by
  have hlength : (fields ':' text).length = text.count ':' + 1 := Text.length_fields text
  rcases hfields : fields ':' text with _ | ⟨file, _ | ⟨line, _ | ⟨name, _ | ⟨rest, ws⟩⟩⟩⟩
  · exact absurd hfields (Text.fields_ne_nil ':' text)
  all_goals
    simp only [hfields, List.length_cons, List.length_nil] at hlength
    simp only [parts?, hfields, reduceCtorEq, false_iff, true_iff]
    omega

/-- The parts of a text that has two colons are what stands around these. -/
theorem parts_of_two_colons {file line name : List Char}
    (h : (file ++ ':' :: (line ++ ':' :: name)).count ':' ≤ 2) :
    Parts (file ++ ':' :: (line ++ ':' :: name)) file line name := by
  simp only [List.count_append, List.count_cons_self] at h
  refine .line ?_ ?_ ?_ <;> rw [← List.count_eq_zero] <;> omega

/-! ## Texts -/

variable {text : String}

section Reading

variable {file line name : List Char}

theorem ofText_of_parts {lines : LineSelector}
    (hparts : parts? text.toList = some (file, line, name))
    (hlines : lineSelector? line = some lines) : ofText text = .ok (built file lines name) := by
  rw [ofText, hparts]
  dsimp only
  rw [hlines]
  rfl

theorem ofText_of_no_lines (hparts : parts? text.toList = some (file, line, name))
    (hlines : lineSelector? line = none) :
    ofText text =
      .error (.invalidAddress text "line must be a number or a comma-separated list") := by
  rw [ofText, hparts]
  dsimp only
  rw [hlines]

theorem ofText_of_no_parts (hparts : parts? text.toList = none) :
    ofText text = .error (.invalidAddress text "expected name, file:name or file:line:name") := by
  rw [ofText, hparts]

end Reading

/-- A text is read as an address exactly if the grammar derives it, and then as the address
that the builders make of the same parts. -/
theorem ofText_eq_ok_iff {a : Address} :
    ofText text = .ok a ↔ ∃ file line name lines, Parts text.toList file line name ∧
      WritesLines line lines ∧ a = built file lines name := by
  simp only [← parts?_eq_some_iff, ← lineSelector?_eq_some_iff]
  constructor
  · intro h
    rcases hparts : parts? text.toList with _ | ⟨file, line, name⟩
    · rw [ofText_of_no_parts hparts] at h
      cases h
    · rcases hlines : lineSelector? line with _ | lines
      · rw [ofText_of_no_lines hparts hlines] at h
        cases h
      · rw [ofText_of_parts hparts hlines] at h
        cases h
        exact ⟨file, line, name, lines, rfl, hlines, rfl⟩
  · rintro ⟨file, line, name, lines, hparts, hlines, rfl⟩
    exact ofText_of_parts hparts hlines

/-- A text is refused for its colons, or else for its line part. -/
theorem ofText_eq_error_iff {e : QueryError} :
    ofText text = .error e ↔
      (2 < text.toList.count ':' ∧
        e = .invalidAddress text "expected name, file:name or file:line:name") ∨
      ∃ file line name, Parts text.toList file line name ∧ (∀ lines, ¬WritesLines line lines) ∧
        e = .invalidAddress text "line must be a number or a comma-separated list" := by
  simp only [← parts?_eq_some_iff, ← parts?_eq_none_iff, ← lineSelector?_eq_some_iff,
    ← Option.eq_none_iff_forall_ne_some]
  constructor
  · intro h
    rcases hparts : parts? text.toList with _ | ⟨file, line, name⟩
    · rw [ofText_of_no_parts hparts] at h
      cases h
      exact Or.inl ⟨rfl, rfl⟩
    · rcases hlines : lineSelector? line with _ | lines
      · rw [ofText_of_no_lines hparts hlines] at h
        cases h
        exact Or.inr ⟨file, line, name, rfl, hlines, rfl⟩
      · rw [ofText_of_parts hparts hlines] at h
        cases h
  · rintro (⟨hparts, rfl⟩ | ⟨file, line, name, hparts, hlines, rfl⟩)
    · exact ofText_of_no_parts hparts
    · exact ofText_of_no_lines hparts hlines

/-- A text is read unless it has more than two colons, or two with something between them that
is neither open nor a list of numbers. -/
theorem exists_ofText_iff :
    (∃ a, ofText text = .ok a) ↔ text.toList.count ':' ≤ 2 ∧
      ∀ file line name, text.toList = file ++ ':' :: (line ++ ':' :: name) →
        IsOpen line ∨ ∀ entry ∈ fields ',' line, ∃ n, WritesNumber entry n := by
  simp only [ofText_eq_ok_iff, ← exists_writesLines_iff]
  constructor
  · rintro ⟨a, file, line, name, lines, hparts, hlines, -⟩
    have hcolons : text.toList.count ':' ≤ 2 := by
      rw [← Nat.not_lt, ← parts?_eq_none_iff, parts?_eq_some_iff.2 hparts]
      exact Option.some_ne_none _
    refine ⟨hcolons, fun file' line' name' htext => ?_⟩
    rw [htext] at hcolons hparts
    -- a text has its parts in one way only
    have hsame := (parts?_eq_some_iff.2 hparts).symm.trans
      (parts?_eq_some_iff.2 (parts_of_two_colons hcolons))
    cases hsame
    exact ⟨lines, hlines⟩
  · rintro ⟨hcolons, hmiddle⟩
    rcases hparts : parts? text.toList with _ | ⟨file, line, name⟩
    · exact absurd (parts?_eq_none_iff.1 hparts) (Nat.not_lt.2 hcolons)
    · have hparts := parts?_eq_some_iff.1 hparts
      have hlines : ∃ lines, WritesLines line lines := by
        generalize htext : text.toList = chars at hparts
        cases hparts with
        | name => exact ⟨.any, .any (Or.inl rfl)⟩
        | file => exact ⟨.any, .any (Or.inl rfl)⟩
        | line => exact hmiddle _ _ _ htext
      obtain ⟨lines, hlines⟩ := hlines
      exact ⟨_, file, line, name, lines, hparts, hlines, rfl⟩

/-- Written addresses follow the grammar: which texts are read, what is said of the others, and
which address is read. -/
structure ReadsByGrammar (text : String) : Prop where
  accepted : (∃ a, ofText text = .ok a) ↔ text.toList.count ':' ≤ 2 ∧
    ∀ file line name, text.toList = file ++ ':' :: (line ++ ':' :: name) →
      IsOpen line ∨ ∀ entry ∈ fields ',' line, ∃ n, WritesNumber entry n
  refused : ∀ e, ofText text = .error e ↔
    (2 < text.toList.count ':' ∧
      e = .invalidAddress text "expected name, file:name or file:line:name") ∨
    ∃ file line name, Parts text.toList file line name ∧ (∀ lines, ¬WritesLines line lines) ∧
      e = .invalidAddress text "line must be a number or a comma-separated list"
  read : ∀ a, ofText text = .ok a ↔ ∃ file line name lines, Parts text.toList file line name ∧
    WritesLines line lines ∧ a = built file lines name
  built : ∀ file lines name, (built file lines name).Says file lines name

theorem readsByGrammar (text : String) : ReadsByGrammar text where
  accepted := exists_ofText_iff
  refused _ := ofText_eq_error_iff
  read _ := ofText_eq_ok_iff
  built _ _ _ := says_iff.2 rfl

/-- An entry may have white space around it, and a plus sign. -/
example : ofText "a.c: +7 , 12:*" = .ok ⟨some "a.c", .oneOf [7, 12], none⟩ := by rfl

end CallAtlas.Address
