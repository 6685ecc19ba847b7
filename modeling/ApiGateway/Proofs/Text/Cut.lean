import ApiGateway.Text
import Mathlib.Data.List.Basic

/-! # Cutting text

What it means that a text is cut in two: the parts are the text again, and the
sign that it is cut at does not occur on the side that is searched first.
-/

namespace ApiGateway.Text

theorem isPrefixOf?_eq_some_iff {s t rest : Text} :
    s.isPrefixOf? t = some rest ↔ t = s ++ rest := by
  induction s generalizing t with
  | nil => simp [List.isPrefixOf?, eq_comm]
  | cons c s ih =>
    cases t with
    | nil => simp [List.isPrefixOf?]
    | cons d t =>
      by_cases h : c = d
      · simp [List.isPrefixOf?, h, ih]
      · simp [List.isPrefixOf?, h, Ne.symm h]

theorem cutFirst_eq_none_iff {sep : Char} {s : Text} : cutFirst sep s = none ↔ sep ∉ s := by
  induction s with
  | nil => simp [cutFirst]
  | cons c s ih =>
    by_cases hc : c = sep
    · simp [cutFirst, hc]
    · simp [cutFirst, hc, ih, Ne.symm hc]

theorem cutFirst_append {sep : Char} {front s : Text} (h : sep ∉ front) :
    cutFirst sep (front ++ s) =
      (cutFirst sep s).map fun (left, right) => (front ++ left, right) := by
  induction front with
  | nil => simp
  | cons c front ih =>
    rw [List.mem_cons, not_or] at h
    rw [List.cons_append, cutFirst, if_neg (Ne.symm h.1), ih h.2, Option.map_map]
    rfl

theorem cutLast_eq_none_iff {sep : Char} {s : Text} : cutLast sep s = none ↔ sep ∉ s := by
  induction s with
  | nil => simp [cutLast]
  | cons c s ih =>
    cases h : cutLast sep s with
    | none =>
      have hs := ih.mp h
      by_cases hc : c = sep
      · simp [cutLast, h, hc]
      · simp [cutLast, h, hc, hs, Ne.symm hc]
    | some parts =>
      have hs : sep ∈ s := by
        by_contra hn
        simp [ih.mpr hn] at h
      simp [cutLast, h, hs]

/-- The cut is at the last occurrence: the right part has none. -/
theorem cutLast_eq_some_iff {sep : Char} {s left right : Text} :
    cutLast sep s = some (left, right) ↔ s = left ++ sep :: right ∧ sep ∉ right := by
  induction s generalizing left with
  | nil => simp [cutLast]
  | cons c s ih =>
    constructor
    · intro h
      unfold cutLast at h
      split at h
      · next l r hs =>
        obtain ⟨rfl, rfl⟩ : c :: l = left ∧ r = right := by simpa using h
        obtain ⟨rfl, hr⟩ := ih.mp hs
        exact ⟨rfl, hr⟩
      · next hs =>
        split at h
        · next hc =>
          obtain ⟨rfl, rfl⟩ : [] = left ∧ s = right := by simpa using h
          exact ⟨by simp [hc], cutLast_eq_none_iff.mp hs⟩
        · cases h
    · rintro ⟨he, hr⟩
      cases left with
      | nil =>
        obtain ⟨rfl, rfl⟩ : c = sep ∧ s = right := by simpa using he
        simp [cutLast, cutLast_eq_none_iff.mpr hr]
      | cons d left =>
        obtain ⟨rfl, hs⟩ : c = d ∧ s = left ++ sep :: right := by simpa using he
        simp [cutLast, ih.mpr ⟨hs, hr⟩]

end ApiGateway.Text
