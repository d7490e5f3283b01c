/-
# `CallAtlas.Regex.Scan` — the small parts of a pattern

What the reading of expressions and of brackets shares: the flags, what is
skipped in verbose mode, numbers, and escapes.  Every function takes the rest
of the pattern and gives back what it leaves of it.
-/
import CallAtlas.Regex.Expr
import CallAtlas.Regex.Property
import CallAtlas.Unicode.CaseFolding

namespace CallAtlas.Regex

/-- Why a text is no pattern. -/
inductive SyntaxError
  | groupUnclosed
  | groupUnopened
  | groupName
  | groupNameTaken
  | lookaround
  | flags
  | nothingToRepeat
  | repeatCount
  | escape
  | codePoint
  | unknownProperty
  | bracketUnclosed
  | bracketItem
  | bracketRange
  | notOfBytes
  | nestedTooDeep
  | tooLarge
deriving Repr, DecidableEq

/-- The modes in which a pattern is read. -/
inductive Flag
  | caseInsensitive
  | multiLine
  | dotMatchesNewline
  | swapGreed
  | unicode
  | crlf
  | verbose
deriving Repr, DecidableEq

/-- The flag of a letter. -/
def Flag.ofLetter? : Char → Option Flag
  | 'i' => some .caseInsensitive
  | 'm' => some .multiLine
  | 's' => some .dotMatchesNewline
  | 'U' => some .swapGreed
  | 'u' => some .unicode
  | 'R' => some .crlf
  | 'x' => some .verbose
  | _ => none

/-- The flags that are set. -/
abbrev Flags := List Flag

namespace Flags

/-- The flags at the start of a pattern. -/
def initial : Flags := [.unicode]

/-- Whether a flag is set. -/
def has (fs : Flags) (f : Flag) : Bool := fs.contains f

/-- Sets or clears a flag. -/
def put (fs : Flags) (f : Flag) (on : Bool) : Flags :=
  let others := fs.filter (· ≠ f)
  if on then f :: others else others

/-- Follows the flag items of a group, in their order. -/
def follow (fs : Flags) (items : List (Flag × Bool)) : Flags :=
  items.foldl (fun fs item => fs.put item.1 item.2) fs

end Flags

/-- Whether a character is white space. -/
def isBlank (c : Char) : Bool := Unicode.whiteSpace.contains c

/-- Skips white space and comments; a comment runs from its sign to the end of the line. -/
def skipBlanks (inComment : Bool) : List Char → List Char
  | [] => []
  | c :: rest =>
      if inComment then skipBlanks (c ≠ '\n') rest
      else if isBlank c then skipBlanks false rest
      else if c = '#' then skipBlanks true rest
      else c :: rest

/-- Skips what does not count: in verbose mode white space and comments, else nothing. -/
def skip (fs : Flags) (cs : List Char) : List Char :=
  if fs.has .verbose then skipBlanks false cs else cs

/-- Takes characters of a kind.  Before each, blanks are skipped where `spaced` says so, and
the rest of a comment where `inComment` does; after each, what the flags let be skipped. -/
def takeSpacedFrom (fs : Flags) (kind : Char → Bool) (spaced inComment : Bool) :
    List Char → List Char × List Char
  | [] => ([], [])
  | c :: rest =>
      if inComment then takeSpacedFrom fs kind true (c ≠ '\n') rest
      else if spaced && isBlank c then takeSpacedFrom fs kind true false rest
      else if spaced && c = '#' then takeSpacedFrom fs kind true true rest
      else if kind c then
        let (taken, left) := takeSpacedFrom fs kind (fs.has .verbose) false rest
        (c :: taken, left)
      else ([], c :: rest)

/-- Takes characters of a kind, skipping after each. -/
def takeSpaced (fs : Flags) (kind : Char → Bool) (cs : List Char) : List Char × List Char :=
  takeSpacedFrom fs kind false false cs

/-- Whether a character is a decimal digit. -/
def isDecimal (c : Char) : Bool := '0' ≤ c && c ≤ '9'

/-- Whether a character is a hexadecimal digit. -/
def isHex (c : Char) : Bool := isDecimal c || ('a' ≤ c && c ≤ 'f') || ('A' ≤ c && c ≤ 'F')

/-- The largest bound of a repetition. -/
def largestCount : Nat := 4294967295

/-- The number that decimal digits stand for. -/
def decimalValue (digits : List Char) : Nat :=
  digits.foldl (fun n c => 10 * n + (c.toNat - '0'.toNat)) 0

/-- Takes a count with the white space around it; there is none if the digits are missing or
the number is too large. -/
def takeCount (fs : Flags) (cs : List Char) : Option Nat × List Char :=
  let (digits, rest) := takeSpaced fs isDecimal (cs.dropWhile isBlank)
  let value := decimalValue digits
  let count := if digits = [] ∨ value > largestCount then none else some value
  (count, skip fs (rest.dropWhile isBlank))

/-- A character by its code, if the code is one of a character. -/
def charOfCode? (n : Nat) : Option Char :=
  if h : n.isValidChar then some (Char.ofNatAux n h) else none

/-- The value of hexadecimal digits. -/
def hexOf (digits : List Char) : Nat := digits.foldl (fun n c => 16 * n + CharSet.hexValue c) 0

/-- Takes exactly `n` hexadecimal digits, with a skip between each two. -/
def takeHexDigits (fs : Flags) : Nat → List Char → Except SyntaxError (List Char × List Char)
  | 0, cs => .ok ([], cs)
  | _ + 1, [] => .error .escape
  | n + 1, c :: rest =>
      if isHex c then do
        let (digits, left) ← takeHexDigits fs n (skip fs rest)
        .ok (c :: digits, left)
      else .error .codePoint

/-- What an escape, or a plain character, stands for. -/
inductive Primitive
  /-- a character; `byte` if it was written as a byte of two hexadecimal digits -/
  | literal (c : Char) (byte : Bool)
  /-- a class of characters -/
  | set (s : CharSet)
  /-- a condition on the position -/
  | look (l : Look)
deriving Repr

/-- The character of a code in hexadecimal digits. -/
def literalOfHex (digits : List Char) (byte : Bool) : Except SyntaxError Primitive :=
  match charOfCode? (hexOf digits) with
  | some c => .ok (.literal c byte)
  | none => .error .codePoint

/-- A code after its letter: digits between braces, or as many as the letter asks for. -/
def scanCode (fs : Flags) (letter : Char) (cs : List Char) :
    Except SyntaxError (Primitive × List Char) :=
  match skip fs cs with
  | [] => .error .escape
  | '\x7b' :: rest =>
      let inner := skip fs rest
      match takeSpaced fs isHex inner with
      | (digits, '\x7d' :: left) =>
          if digits = [] then .error .codePoint
          else do .ok (← literalOfHex digits false, skip fs left)
      | _ => .error .codePoint
  | rest => do
      let width := if letter = 'x' then 2 else if letter = 'u' then 4 else 8
      let (digits, left) ← takeHexDigits fs width rest
      .ok (← literalOfHex digits (letter = 'x'), left)

/-- Letters in both cases, where the flags ask for it. -/
def foldCase (fs : Flags) (s : CharSet) : CharSet :=
  if !fs.has .caseInsensitive then s
  else if fs.has .unicode then Unicode.foldClosure s
  else
    let letters (lo hi : Nat) (shift : Int) : List (Nat × Nat) :=
      ((List.range (hi - lo + 1)).filter fun i => s.hasCode (lo + i)).map fun i =>
        let n := ((lo + i : Nat) + shift).toNat
        (n, n)
    s.union (.ofRanges (letters 65 90 32 ++ letters 97 122 (-32)))

/-- A class, negated if asked for.  Where characters are bytes no class may be negated: its
complement would hold bytes that are no characters. -/
def negateIf (fs : Flags) (negated : Bool) (s : CharSet) : Except SyntaxError CharSet :=
  if !negated then .ok s
  else if fs.has .unicode then .ok s.compl
  else .error .notOfBytes

/-- The class of a property, folded and negated. -/
def classOf (fs : Flags) (negated : Bool) (s : Option CharSet) : Except SyntaxError Primitive :=
  match s with
  | none => .error .unknownProperty
  | some s => do .ok (.set (← negateIf fs negated (foldCase fs s)))

/-- Cuts a text before and after the first occurrence of a pair of characters. -/
def cutAtPair (a b : Char) : List Char → Option (List Char × List Char)
  | x :: y :: rest =>
      if x = a ∧ y = b then some ([], rest)
      else (cutAtPair a b (y :: rest)).map fun p => (x :: p.1, p.2)
  | _ => none

theorem cutAtPair_cons_of_ne {a c : Char} (b : Char) (h : c ≠ a) (cs : List Char) :
    cutAtPair a b (c :: cs) = (cutAtPair a b cs).map fun p => (c :: p.1, p.2) := by
  cases cs with
  | nil => rfl
  | cons d cs => rw [cutAtPair, if_neg fun hpair => h hpair.1]

theorem cutAtPair_append {a : Char} (b : Char) {front : List Char} (h : a ∉ front)
    (rest : List Char) : cutAtPair a b (front ++ a :: b :: rest) = some (front, rest) := by
  induction front with
  | nil => rw [List.nil_append, cutAtPair, if_pos ⟨rfl, rfl⟩]
  | cons c front ih =>
    obtain ⟨hne, hrest⟩ := not_or.1 (mt List.mem_cons.2 h)
    rw [List.cons_append, cutAtPair_cons_of_ne b (Ne.symm hne), ih hrest, Option.map_some]

theorem cutAtPair_eq_none {a : Char} (b : Char) {cs : List Char} (h : a ∉ cs) :
    cutAtPair a b cs = none := by
  induction cs with
  | nil => rfl
  | cons c cs ih =>
    obtain ⟨hne, hrest⟩ := not_or.1 (mt List.mem_cons.2 h)
    rw [cutAtPair_cons_of_ne b (Ne.symm hne), ih hrest, Option.map_none]

/-- Cuts a text before and after the first occurrence of a character. -/
def cutAt (a : Char) : List Char → Option (List Char × List Char)
  | x :: rest => if x = a then some ([], rest) else (cutAt a rest).map fun p => (x :: p.1, p.2)
  | [] => none

theorem cutAt_append {a : Char} {front : List Char} (h : a ∉ front) (rest : List Char) :
    cutAt a (front ++ a :: rest) = some (front, rest) := by
  induction front with
  | nil => rw [List.nil_append, cutAt, if_pos rfl]
  | cons c front ih =>
    obtain ⟨hne, hrest⟩ := not_or.1 (mt List.mem_cons.2 h)
    rw [List.cons_append, cutAt, if_neg (Ne.symm hne), ih hrest, Option.map_some]

theorem cutAt_eq_none {a : Char} {cs : List Char} (h : a ∉ cs) : cutAt a cs = none := by
  induction cs with
  | nil => rfl
  | cons c cs ih =>
    obtain ⟨hne, hrest⟩ := not_or.1 (mt List.mem_cons.2 h)
    rw [cutAt, if_neg (Ne.symm hne), ih hrest, Option.map_none]

/-- The class of a property query: a name, or a name and a value with `!=`, `:` or `=`
between them.  To write `!=` is to negate the class, just as to write a capital letter is, and
to do both is to do neither: `wb!=NU` leaves out the digits, and with a capital letter
`scx!=Arabic` takes in what is Arabic and nothing else. -/
def queryClass (fs : Flags) (negated : Bool) (query : List Char) : Except SyntaxError Primitive :=
  let valued (negated : Bool) (p : List Char × List Char) :=
    classOf fs negated (valuedProperty? (String.ofList p.1) (String.ofList p.2))
  match cutAtPair '!' '=' query, cutAt ':' query, cutAt '=' query with
  | some p, _, _ => valued (!negated) p
  | none, some p, _ => valued negated p
  | none, none, some p => valued negated p
  | none, none, none => classOf fs negated (namedProperty? (String.ofList query))

/-- A query with `!=` is the query with `=`, negated once more. -/
theorem queryClass_unequal (fs : Flags) (negated : Bool) {name value : List Char}
    (hname : '=' ∉ name) (hmark : '!' ∉ name ++ '=' :: value)
    (hcolon : ':' ∉ name ++ '=' :: value) :
    queryClass fs negated (name ++ '!' :: '=' :: value) =
      queryClass fs (!negated) (name ++ '=' :: value) := by
  have hfront : '!' ∉ name := fun h => hmark (List.mem_append_left _ h)
  unfold queryClass
  rw [cutAtPair_append '=' hfront, cutAtPair_eq_none '=' hmark, cutAt_eq_none hcolon,
    cutAt_append hname]

/-- Two negations. -/
example (fs : Flags) :
    queryClass fs true "scx!=Arabic".toList = queryClass fs false "scx=Arabic".toList :=
  rfl

/-- A property class after its letter: one letter, or a query between braces. -/
def scanProperty (fs : Flags) (negated : Bool) (cs : List Char) :
    Except SyntaxError (Primitive × List Char) :=
  match skip fs cs with
  | [] => .error .escape
  | '\x7b' :: rest =>
      let inner := skip fs rest
      match takeSpaced fs (· ≠ '\x7d') inner with
      | (query, '\x7d' :: left) =>
          if fs.has .unicode then do .ok (← queryClass fs negated query, left)
          else .error .notOfBytes
      | _ => .error .escape
  | c :: rest =>
      if c = '\\' then .error .unknownProperty
      else if fs.has .unicode then do
        .ok (← classOf fs negated (namedProperty? (String.singleton c)), skip fs rest)
      else .error .notOfBytes

/-- The digits of ASCII. -/
def asciiDigit : CharSet := ⟨[(48, 57)]⟩

/-- The white space of ASCII. -/
def asciiSpace : CharSet := ⟨[(9, 13), (32, 32)]⟩

/-- The class of a letter for digits, white space or word characters. -/
def shortClass (fs : Flags) (letter : Char) : Except SyntaxError Primitive :=
  let u := fs.has .unicode
  let base :=
    match letter.toLower with
    | 'd' => if u then Unicode.decimalDigit else asciiDigit
    | 's' => if u then Unicode.whiteSpace else asciiSpace
    | _ => if u then Unicode.word else asciiWord
  do .ok (.set (← negateIf fs letter.isUpper base))

/-- The condition on words that a name between braces stands for. -/
def wordLookNamed? (name : List Char) : Option WordLook :=
  if name = "start".toList then some .opening
  else if name = "end".toList then some .closing
  else if name = "start-half".toList then some .openingHalf
  else if name = "end-half".toList then some .closingHalf
  else none

/-- Whether a character may stand in the name of a condition on words. -/
def isWordLookChar (c : Char) : Bool :=
  ('A' ≤ c && c ≤ 'Z') || ('a' ≤ c && c ≤ 'z') || c == '-'

/-- The condition on words after its letter.  An opening brace starts the name of a
condition if what follows can be one, and else it is left for a count. -/
def scanWordLook (fs : Flags) (cs : List Char) : Except SyntaxError (Primitive × List Char) :=
  let u := fs.has .unicode
  match cs with
  | '\x7b' :: rest =>
      match skip fs rest with
      | [] => .error .escape
      | c :: more =>
          if isWordLookChar c then
            match takeSpaced fs isWordLookChar (c :: more) with
            | (name, '\x7d' :: left) =>
                match wordLookNamed? name with
                | some kind => .ok (.look (.word kind u), left)
                | none => .error .escape
            | _ => .error .escape
          else .ok (.look (.word .boundary u), cs)
  | _ => .ok (.look (.word .boundary u), cs)

/-- The characters that mean something of their own in a pattern. -/
def isMeta (c : Char) : Bool := "\\.+*?()|[]\x7b\x7d^$#&-~".toList.contains c

/-- Whether a character may be escaped to stand for itself: those with a meaning, and
all others of ASCII but letters, digits and the angle brackets. -/
def isEscapable (c : Char) : Bool :=
  isMeta c || (c.toNat < 128 && !c.isAlphanum && c != '<' && c != '>')

/-- The control character of an escape letter. -/
def controlOf? : Char → Option Char
  | 'a' => some '\x07'
  | 'f' => some '\x0c'
  | 't' => some '\t'
  | 'n' => some '\n'
  | 'r' => some '\r'
  | 'v' => some '\x0b'
  | _ => none

/-- The condition of an escape letter, other than the one that may have a name. -/
def lookOf? (unicode : Bool) : Char → Option Look
  | 'A' => some .textStart
  | 'z' => some .textEnd
  | 'B' => some (.word .interior unicode)
  | '<' => some (.word .opening unicode)
  | '>' => some (.word .closing unicode)
  | _ => none

/-- An escape, after its backslash. -/
def scanEscape (fs : Flags) : List Char → Except SyntaxError (Primitive × List Char)
  | [] => .error .escape
  | c :: rest =>
      if c = 'x' ∨ c = 'u' ∨ c = 'U' then scanCode fs c rest
      else if c = 'p' ∨ c = 'P' then scanProperty fs (c = 'P') rest
      else if "dswDSW".toList.contains c then do .ok (← shortClass fs c, rest)
      else if c = 'b' then scanWordLook fs rest
      else if isEscapable c then .ok (.literal c false, rest)
      else
        match controlOf? c, lookOf? (fs.has .unicode) c with
        | some d, _ => .ok (.literal d false, rest)
        | none, some l => .ok (.look l, rest)
        | none, none => .error .escape

end CallAtlas.Regex
