/-
# `CallAtlas.Text.Fields` — text cut at a separator

Fields are what a separator leaves between its occurrences: always at least
one, and one more than there are separators.
-/
import CallAtlas.Unicode.Property

namespace CallAtlas.Text

/-- The fields between the occurrences of a separator. -/
def fields (sep : Char) : List Char → List (List Char)
  | [] => [[]]
  | c :: rest =>
      match fields sep rest with
      | [] => [[c]]
      | w :: ws => if c = sep then [] :: w :: ws else (c :: w) :: ws

/-- Fields put together again, with a separator between each two. -/
def joinFields (sep : Char) : List (List Char) → List Char
  | [] => []
  | [w] => w
  | w :: ws => w ++ sep :: joinFields sep ws

/-- There is a field even in empty text. -/
theorem fields_ne_nil (sep : Char) (cs : List Char) : fields sep cs ≠ [] := by
  cases cs with
  | nil => simp [fields]
  | cons c rest =>
    unfold fields
    split
    · simp
    · split <;> simp

/-- Cutting loses nothing: the fields joined again are the text. -/
theorem joinFields_fields (sep : Char) (cs : List Char) : joinFields sep (fields sep cs) = cs := by
  induction cs with
  | nil => rfl
  | cons c rest ih =>
    cases h : fields sep rest with
    | nil => exact absurd h (fields_ne_nil sep rest)
    | cons w ws =>
      rw [h] at ih
      by_cases hc : c = sep
      · simp [fields, h, hc, joinFields, ih]
      · cases ws with
        | nil => simpa [fields, h, hc, joinFields] using ih
        | cons v vs => simpa [fields, h, hc, joinFields] using ih

/-- Text without white space at its ends. -/
def trim (cs : List Char) : List Char :=
  ((cs.dropWhile Unicode.whiteSpace.contains).reverse.dropWhile
    Unicode.whiteSpace.contains).reverse

end CallAtlas.Text
