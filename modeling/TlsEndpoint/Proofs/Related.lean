import Mathlib.Data.List.Forall2

/-! # Related answers

Answers that may be missing or failures: a relation between values carried over to them, and what a
sequence of them succeeds with. -/
namespace TlsEndpoint

section Option

variable {α β : Type} {R S : α → β → Prop} {x : Option α} {y : Option β}

theorem option_rel_mono (hRS : ∀ a b, R a b → S a b) (h : Option.Rel R x y) : Option.Rel S x y := by
  cases h with
  | none => exact .none
  | some hr => exact .some (hRS _ _ hr)

theorem option_rel_or {x' : Option α} {y' : Option β} (h : Option.Rel R x y)
    (h' : Option.Rel R x' y') : Option.Rel R (x.or x') (y.or y') := by
  cases h with
  | none => exact h'
  | some hr => exact .some hr

theorem option_rel_some (h : Option.Rel R x y) {b : β} (hy : y = some b) :
    ∃ a, x = some a ∧ R a b := by
  cases h with
  | none => cases hy
  | some hr =>
    cases hy
    exact ⟨_, rfl, hr⟩

end Option

theorem option_rel_of_beq {α : Type} [BEq α] {P : α → α → Prop} {x y : Option α}
    (h : (x == y) = true) (hP : ∀ a ∈ x, ∀ b ∈ y, P a b) : Option.Rel P x y := by
  cases x with
  | none =>
    cases y with
    | none => exact .none
    | some b => cases h
  | some a =>
    cases y with
    | none => cases h
    | some b => exact .some (hP a rfl b rfl)

theorem except_bind_ok_iff {ε α β : Type} {x : Except ε α} {f : α → Except ε β} {b : β} :
    (x >>= f) = .ok b ↔ ∃ a, x = .ok a ∧ f a = .ok b := by
  cases x with
  | error e =>
    constructor
    · intro h
      cases h
    · rintro ⟨_, h, -⟩
      cases h
  | ok a =>
    constructor
    · intro h
      exact ⟨a, rfl, h⟩
    · rintro ⟨_, ha, h⟩
      cases ha
      exact h

theorem except_bind_error_iff {ε α β : Type} {x : Except ε α} {f : α → Except ε β} {e : ε} :
    (x >>= f) = .error e ↔ x = .error e ∨ ∃ a, x = .ok a ∧ f a = .error e := by
  cases x with
  | error e' =>
    constructor
    · intro h
      cases h
      exact Or.inl rfl
    · rintro (h | ⟨_, h, -⟩)
      · cases h
        rfl
      · cases h
  | ok a =>
    constructor
    · intro h
      exact Or.inr ⟨a, rfl, h⟩
    · rintro (h | ⟨_, ha, h⟩)
      · cases h
      · cases ha
        exact h

theorem except_map_error_ok_iff {ε ε' α : Type} {x : Except ε α} {f : ε → ε'} {a : α} :
    x.mapError f = .ok a ↔ x = .ok a := by
  cases x with
  | error e =>
    constructor
    · intro h
      cases h
    · intro h
      cases h
  | ok b =>
    show (Except.ok b : Except ε' α) = .ok a ↔ _
    rw [Except.ok.injEq, Except.ok.injEq]

theorem except_ok_of_to_option {ε α : Type} {x : Except ε α} {a : α} (h : x.toOption = some a) :
    x = .ok a := by
  cases x with
  | error e => cases h
  | ok b =>
    cases h
    rfl

section Sequence

variable {ε α β : Type} {f : α → Except ε β}

theorem map_m_ok_iff {l : List α} {bs : List β} :
    l.mapM f = .ok bs ↔ List.Forall₂ (fun a b => f a = .ok b) l bs := by
  induction l generalizing bs with
  | nil =>
    rw [List.mapM_nil, List.forall₂_nil_left_iff]
    constructor
    · intro h
      cases h
      rfl
    · rintro rfl
      rfl
  | cons a l ih =>
    rw [List.mapM_cons, except_bind_ok_iff, List.forall₂_cons_left_iff]
    constructor
    · rintro ⟨b, hb, h⟩
      obtain ⟨rest, hr, h⟩ := except_bind_ok_iff.mp h
      cases h
      exact ⟨b, rest, hb, ih.mp hr, rfl⟩
    · rintro ⟨b, rest, hb, hr, rfl⟩
      refine ⟨b, hb, except_bind_ok_iff.mpr ⟨rest, ih.mpr hr, rfl⟩⟩

/-- It fails with the first failure among them, whatever comes after that. -/
theorem map_m_error_iff {l : List α} {e : ε} :
    l.mapM f = .error e ↔ ∃ before a after, l = before ++ a :: after ∧
      (∀ x ∈ before, ∃ b, f x = .ok b) ∧ f a = .error e := by
  induction l with
  | nil =>
    constructor
    · intro h
      cases h
    · rintro ⟨before, a, after, h, -⟩
      cases before <;> cases h
  | cons y l ih =>
    rw [List.mapM_cons, except_bind_error_iff]
    constructor
    · rintro (h | ⟨b, hb, h⟩)
      · exact ⟨[], y, l, rfl, nofun, h⟩
      · rcases except_bind_error_iff.mp h with h | ⟨_, -, h⟩
        · obtain ⟨before, a, after, rfl, passed, failed⟩ := ih.mp h
          exact ⟨y :: before, a, after, rfl, List.forall_mem_cons.mpr ⟨⟨b, hb⟩, passed⟩, failed⟩
        · cases h
    · rintro ⟨before, a, after, h, passed, failed⟩
      cases before with
      | nil =>
        cases h
        exact Or.inl failed
      | cons x before =>
        cases h
        obtain ⟨⟨b, hb⟩, passed⟩ := List.forall_mem_cons.mp passed
        have rest_fails := ih.mpr ⟨before, a, after, rfl, passed, failed⟩
        exact Or.inr ⟨b, hb, except_bind_error_iff.mpr (Or.inl rest_fails)⟩

end Sequence

inductive ExceptRel {ε α : Type} (failure : ε → ε → Prop) (value : α → α → Prop) :
    Except ε α → Except ε α → Prop where
  | ok {a b : α} (h : value a b) : ExceptRel failure value (.ok a) (.ok b)
  | error {e e' : ε} (h : failure e e') : ExceptRel failure value (.error e) (.error e')

namespace ExceptRel

variable {ε α : Type} {failure : ε → ε → Prop} {value : α → α → Prop} {x y : Except ε α}

theorem map {β : Type} {image : β → β → Prop} {f g : α → β} (h : ExceptRel failure value x y)
    (hf : ∀ {a b}, value a b → image (f a) (g b)) :
    ExceptRel failure image (x.map f) (y.map g) := by
  cases h with
  | ok hv => exact .ok (hf hv)
  | error he => exact .error he

theorem mapError {ε' : Type} {image : ε' → ε' → Prop} {f g : ε → ε'}
    (h : ExceptRel failure value x y) (hf : ∀ {e e'}, failure e e' → image (f e) (g e')) :
    ExceptRel image value (x.mapError f) (y.mapError g) := by
  cases h with
  | ok hv => exact .ok hv
  | error he => exact .error (hf he)

theorem split (h : ExceptRel failure value x y) :
    (∃ a b, x = .ok a ∧ y = .ok b ∧ value a b) ∨
      ∃ e e', x = .error e ∧ y = .error e' ∧ failure e e' := by
  cases h with
  | ok hv => exact Or.inl ⟨_, _, rfl, rfl, hv⟩
  | error he => exact Or.inr ⟨_, _, rfl, rfl, he⟩

end ExceptRel

end TlsEndpoint
