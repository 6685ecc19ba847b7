import Mathlib.Data.List.Basic
import Mathlib.Data.List.Forall2

/-! # Computations that can fail

A chain of computations succeeds if each of them does, and otherwise fails with
the error of the first one that does not.
-/

namespace ApiGateway.Except

variable {ε ε' α β γ : Type} {a : α} {b : β}

theorem bind_eq_ok_iff {x : Except ε α} {f : α → Except ε β} :
    x >>= f = .ok b ↔ ∃ a, x = .ok a ∧ f a = .ok b := by
  cases x <;> simp [bind, Except.bind]

theorem map_eq_ok_iff {x : Except ε α} {f : α → β} :
    x.map f = .ok b ↔ ∃ a, x = .ok a ∧ f a = b := by
  cases x <;> simp [Except.map]

theorem mapError_eq_ok_iff {x : Except ε α} {f : ε → ε'} : x.mapError f = .ok a ↔ x = .ok a := by
  cases x <;> simp [Except.mapError]

theorem bind_eq_error_iff {x : Except ε α} {f : α → Except ε β} {e : ε} :
    x >>= f = .error e ↔ x = .error e ∨ ∃ a, x = .ok a ∧ f a = .error e := by
  cases x <;> simp [bind, Except.bind]

theorem map_eq_error_iff {x : Except ε α} {f : α → β} {e : ε} :
    x.map f = .error e ↔ x = .error e := by
  cases x <;> simp [Except.map]

theorem mapError_eq_error_iff {x : Except ε α} {f : ε → ε'} {e : ε'} :
    x.mapError f = .error e ↔ ∃ cause, x = .error cause ∧ f cause = e := by
  cases x <;> simp [Except.mapError]

def error? : Except ε α → Option ε
  | .error e => some e
  | .ok _ => none

theorem error?_eq_some_iff {x : Except ε α} {e : ε} : error? x = some e ↔ x = .error e := by
  cases x <;> simp [error?]

theorem error?_map {x : Except ε α} {f : α → β} : error? (x.map f) = error? x := by
  cases x <;> rfl

theorem toOption_eq_some_iff {x : Except ε α} : x.toOption = some a ↔ x = .ok a := by
  cases x <;> simp [Except.toOption]

theorem foldlM_preserves {P : β → Prop} {f : β → α → Except ε β}
    (hf : ∀ b a b', P b → f b a = .ok b' → P b') {items : List α} {b result : β} (hb : P b)
    (h : items.foldlM f b = .ok result) : P result := by
  induction items generalizing b with
  | nil => cases h; exact hb
  | cons a items ih =>
    rw [List.foldlM_cons] at h
    obtain ⟨b', hs, hr⟩ := bind_eq_ok_iff.mp h
    exact ih (hf b a b' hb hs) hr

theorem mapM_eq_ok_iff {f : α → Except ε β} {items : List α} {results : List β} :
    items.mapM f = .ok results ↔ List.Forall₂ (fun a b => f a = .ok b) items results := by
  induction items generalizing results with
  | nil =>
    rw [List.mapM_nil, List.forall₂_nil_left_iff]
    exact ⟨fun h => by cases h; rfl, fun h => by rw [h]; rfl⟩
  | cons a items ih =>
    rw [List.mapM_cons, List.forall₂_cons_left_iff, bind_eq_ok_iff]
    constructor
    · rintro ⟨b, hb, h⟩
      obtain ⟨rest, hr, he⟩ := bind_eq_ok_iff.mp h
      cases he
      exact ⟨b, rest, hb, ih.mp hr, rfl⟩
    · rintro ⟨b, rest, hb, hr, rfl⟩
      exact ⟨b, hb, bind_eq_ok_iff.mpr ⟨rest, ih.mpr hr, rfl⟩⟩

theorem exists_mapM_eq_ok_iff {f : α → Except ε β} {items : List α} :
    (∃ results, items.mapM f = .ok results) ↔ ∀ a ∈ items, ∃ b, f a = .ok b := by
  simp only [mapM_eq_ok_iff]
  induction items with
  | nil => simp
  | cons a items ih =>
    simp only [List.forall₂_cons_left_iff, List.forall_mem_cons, ← ih]
    constructor
    · rintro ⟨_, b, rest, hb, hr, -⟩; exact ⟨⟨b, hb⟩, rest, hr⟩
    · rintro ⟨⟨b, hb⟩, rest, hr⟩; exact ⟨_, b, rest, hb, hr, rfl⟩

/-- The error of a fold is that of its first item that fails, if each fails whatever there is. -/
theorem error?_foldlM {f : β → α → Except ε β} {fault? : α → Option ε}
    (hf : ∀ b a, error? (f b a) = fault? a) {items : List α} {start : β} :
    error? (items.foldlM f start) = items.findSome? fault? := by
  induction items generalizing start with
  | nil => rfl
  | cons a items ih =>
    rw [List.foldlM_cons, List.findSome?_cons, ← hf start a]
    cases f start a with
    | error e => rfl
    | ok b => exact ih

theorem error?_mapM {f : α → Except ε β} {items : List α} :
    error? (items.mapM f) = items.findSome? fun a => error? (f a) := by
  induction items with
  | nil => rfl
  | cons a items ih =>
    rw [List.mapM_cons, List.findSome?_cons, ← ih]
    cases f a with
    | error e => rfl
    | ok b => cases items.mapM f <;> rfl

/-- A fold whose steps compute a value from an item and then put it to what there is computes all
values first. -/
theorem foldlM_eq_ok_iff {f : β → α → Except ε β} {g : α → Except ε' γ} {put : β → γ → β}
    (hf : ∀ b a b', f b a = .ok b' ↔ ∃ c, g a = .ok c ∧ put b c = b') {items : List α}
    {start result : β} :
    items.foldlM f start = .ok result ↔
      ∃ values, items.mapM g = .ok values ∧ values.foldl put start = result := by
  simp only [mapM_eq_ok_iff]
  induction items generalizing start with
  | nil =>
    simp only [List.forall₂_nil_left_iff, exists_eq_left, List.foldl_nil]
    exact ⟨fun h => by cases h; rfl, fun h => by rw [h]; rfl⟩
  | cons a items ih =>
    simp only [List.foldlM_cons, bind_eq_ok_iff, hf, ih, List.forall₂_cons_left_iff]
    constructor
    · rintro ⟨_, ⟨c, hc, rfl⟩, values, hv, hr⟩
      exact ⟨c :: values, ⟨c, values, hc, hv, rfl⟩, hr⟩
    · rintro ⟨_, ⟨c, values, hc, hv, rfl⟩, hr⟩
      exact ⟨_, ⟨c, hc, rfl⟩, values, hv, hr⟩

end ApiGateway.Except
