/-
# `CallAtlas.Proofs.Outcome` — computations that may fail

A computation in steps succeeds if all its steps do.  These lemmas take such a
computation apart, so that no proof splits on the errors that it could have
ended in.
-/
import CallAtlas.QueryError

namespace CallAtlas.Outcome

variable {ε α β : Type}

theorem bind_eq_ok {x : Except ε α} {f : α → Except ε β} {b : β} :
    (x >>= f) = .ok b ↔ ∃ a, x = .ok a ∧ f a = .ok b := by
  cases x with
  | error e =>
    constructor
    · intro h
      cases h
    · rintro ⟨a, h, -⟩
      cases h
  | ok a =>
    constructor
    · intro h
      exact ⟨a, rfl, h⟩
    · rintro ⟨a', h, hb⟩
      cases h
      exact hb

theorem bind_eq_error {x : Except ε α} {f : α → Except ε β} {e : ε} :
    (x >>= f) = .error e ↔ x = .error e ∨ ∃ a, x = .ok a ∧ f a = .error e := by
  cases x with
  | error e' =>
    constructor
    · intro h
      cases h
      exact Or.inl rfl
    · rintro (h | ⟨a, h, -⟩) <;> cases h
      rfl
  | ok a =>
    constructor
    · intro h
      exact Or.inr ⟨a, rfl, h⟩
    · rintro (h | ⟨a', h, he⟩) <;> cases h
      exact he

/-- What does not succeed fails. -/
theorem exists_error_iff {x : Except ε α} : (∃ e, x = .error e) ↔ ∀ a, x ≠ .ok a := by
  cases x <;> simp

/-- How two computations go on only matters where their common beginning succeeds. -/
theorem bind_congr_of_ok {x : Except ε α} {f g : α → Except ε β}
    (h : ∀ a, x = .ok a → f a = g a) : x >>= f = x >>= g := by
  cases x with
  | error e => rfl
  | ok a => exact h a rfl

theorem eq_ok_of_toOption_eq_some {x : Except ε α} {a : α} (h : x.toOption = some a) : x = .ok a := by
  cases x with
  | error e => cases h
  | ok b =>
    cases h
    rfl

/-- What a computation on all items of a list yields, it yields for one of them. -/
theorem exists_of_mem_mapM {f : α → Except ε β} {as : List α} {bs : List β}
    (h : as.mapM f = .ok bs) {b : β} (hb : b ∈ bs) : ∃ a ∈ as, f a = .ok b := by
  induction as generalizing bs with
  | nil =>
    cases h
    exact absurd hb List.not_mem_nil
  | cons a as ih =>
    rw [List.mapM_cons] at h
    obtain ⟨c, hhead, h⟩ := bind_eq_ok.1 h
    obtain ⟨cs, htail, h⟩ := bind_eq_ok.1 h
    cases h
    rcases List.mem_cons.1 hb with rfl | hb
    · exact ⟨a, List.mem_cons_self, hhead⟩
    · obtain ⟨d, hd, heq⟩ := ih htail hb
      exact ⟨d, List.mem_cons_of_mem a hd, heq⟩

/-- A computation on all items of a list yields what it yields for each. -/
theorem mapM_eq_ok_of_forall {f : α → Except ε β} {g : α → β} {as : List α}
    (h : ∀ a ∈ as, f a = .ok (g a)) : as.mapM f = .ok (as.map g) := by
  induction as with
  | nil => rfl
  | cons a as ih =>
    rw [List.mapM_cons, h a List.mem_cons_self, ih fun b hb => h b (List.mem_cons_of_mem a hb)]
    rfl

/-- It succeeds if it does for each. -/
theorem exists_mapM_eq_ok_iff {f : α → Except ε β} {as : List α} :
    (∃ bs, as.mapM f = .ok bs) ↔ ∀ a ∈ as, ∃ b, f a = .ok b := by
  induction as with
  | nil => exact ⟨fun _ => by simp, fun _ => ⟨[], rfl⟩⟩
  | cons a as ih =>
    rw [List.mapM_cons, List.forall_mem_cons, ← ih]
    constructor
    · rintro ⟨bs, h⟩
      obtain ⟨b, hhead, h⟩ := bind_eq_ok.1 h
      obtain ⟨rest, htail, -⟩ := bind_eq_ok.1 h
      exact ⟨⟨b, hhead⟩, rest, htail⟩
    · rintro ⟨⟨b, hhead⟩, rest, htail⟩
      exact ⟨b :: rest, by rw [hhead, htail]; rfl⟩

/-- A computation on all items of a list ends with the first item for which it fails. -/
theorem mapM_eq_error_iff {f : α → Except ε β} {as : List α} {e : ε} :
    as.mapM f = .error e ↔ ∃ before a after, as = before ++ a :: after ∧
      (∀ b ∈ before, ∃ c, f b = .ok c) ∧ f a = .error e := by
  induction as with
  | nil =>
    constructor
    · intro h
      cases h
    · rintro ⟨before, a, after, h, -, -⟩
      simp at h
  | cons a as ih =>
    rw [List.mapM_cons, bind_eq_error]
    constructor
    · rintro (hhead | ⟨c, hhead, h⟩)
      · exact ⟨[], a, as, rfl, by simp, hhead⟩
      · rcases bind_eq_error.1 h with htail | ⟨cs, -, h⟩
        · obtain ⟨before, b, after, rfl, hbefore, hb⟩ := ih.1 htail
          exact ⟨a :: before, b, after, rfl, List.forall_mem_cons.2 ⟨⟨c, hhead⟩, hbefore⟩, hb⟩
        · cases h
    · rintro ⟨before, b, after, hsplit, hbefore, hb⟩
      cases before with
      | nil =>
        cases hsplit
        exact Or.inl hb
      | cons d before =>
        cases hsplit
        obtain ⟨⟨c, hhead⟩, hbefore⟩ := List.forall_mem_cons.1 hbefore
        have htail := ih.2 ⟨before, b, after, rfl, hbefore, hb⟩
        exact Or.inr ⟨c, hhead, bind_eq_error.2 (Or.inl htail)⟩

end CallAtlas.Outcome
