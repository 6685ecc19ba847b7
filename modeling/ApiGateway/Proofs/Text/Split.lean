import ApiGateway.Text.Blank
import Mathlib.Data.List.TakeWhile

/-! # Splitting and trimming

Which characters are left when a text is split at a separator or loses what is
around it. Nothing else is lost, so a text of which nothing is left consisted of
separators and blanks.
-/

namespace ApiGateway.Text

variable {sep : Char} {p : Char → Bool} {P : Char → Prop} {s t : Text}

theorem forall_mem_split_iff :
    (∀ piece ∈ split sep s, ∀ c ∈ piece, P c) ↔ ∀ c ∈ s, c = sep ∨ P c := by
  induction s with
  | nil => simp [split]
  | cons c s ih =>
    by_cases hc : c = sep
    · simp [split, hc, ih]
    · obtain ⟨piece, pieces, hs⟩ := List.exists_cons_of_ne_nil (split_ne_nil sep s)
      simp only [hs, List.forall_mem_cons] at ih
      simp [split, hc, hs, ← ih, and_assoc]

theorem split_of_not_mem (h : sep ∉ s) : split sep s = [s] := by
  induction s with
  | nil => rfl
  | cons c s ih =>
    rw [List.mem_cons, not_or] at h
    rw [split, if_neg (Ne.symm h.1), ih h.2]

theorem split_append_cons : split sep (s ++ sep :: t) = split sep s ++ split sep t := by
  induction s with
  | nil => simp [split]
  | cons c s ih =>
    by_cases hc : c = sep
    · simp [split, hc, ih]
    · obtain ⟨piece, pieces, hs⟩ := List.exists_cons_of_ne_nil (split_ne_nil sep s)
      simp [split, hc, ih, hs]

theorem mem_join {c : Char} {parts : List Text} (h : c ∈ join s parts) :
    c ∈ s ∨ ∃ part ∈ parts, c ∈ part := by
  induction parts with
  | nil => cases h
  | cons part parts ih =>
    cases parts with
    | nil => exact .inr ⟨part, List.mem_cons_self, h⟩
    | cons next parts =>
      simp only [join, List.mem_append] at h
      rcases h with (h | h) | h
      · exact .inr ⟨part, List.mem_cons_self, h⟩
      · exact .inl h
      · exact (ih h).imp_right fun ⟨q, hq, hc⟩ => ⟨q, List.mem_cons_of_mem _ hq, hc⟩

theorem forall_mem_join {parts : List Text} (hs : ∀ c ∈ s, P c)
    (h : ∀ part ∈ parts, ∀ c ∈ part, P c) : ∀ c ∈ join s parts, P c := by
  intro c hc
  rcases mem_join hc with hc | ⟨part, hp, hc⟩
  · exact hs c hc
  · exact h part hp c hc

theorem join_concat {parts : List Text} (h : parts ≠ []) (last : Text) :
    join s (parts ++ [last]) = join s parts ++ s ++ last := by
  induction parts with
  | nil => exact absurd rfl h
  | cons part parts ih =>
    cases parts with
    | nil => rfl
    | cons next parts =>
      calc join s (part :: (next :: parts ++ [last]))
          = part ++ s ++ join s (next :: parts ++ [last]) := rfl
        _ = part ++ s ++ (join s (next :: parts) ++ s ++ last) := by
          rw [ih (List.cons_ne_nil _ _)]
        _ = join s (part :: next :: parts) ++ s ++ last := by simp only [join, List.append_assoc]

theorem not_mem_of_mem_split {piece : Text} (h : piece ∈ split sep s) : sep ∉ piece := by
  have hs : ∀ piece ∈ split sep s, ∀ c ∈ piece, c ≠ sep :=
    forall_mem_split_iff.mpr fun c _ => em (c = sep)
  exact fun hc => hs piece h sep hc rfl

theorem join_split : join [sep] (split sep s) = s := by
  induction s with
  | nil => rfl
  | cons c s ih =>
    obtain ⟨piece, pieces, hs⟩ := List.exists_cons_of_ne_nil (split_ne_nil sep s)
    rw [hs] at ih
    by_cases hc : c = sep
    · simp [split, hc, hs, join, ih]
    · cases pieces with
      | nil => simpa [split, hc, hs, join] using ih
      | cons next pieces => simpa [split, hc, hs, join] using ih

theorem split_join {parts : List Text} (hne : parts ≠ []) (h : ∀ part ∈ parts, sep ∉ part) :
    split sep (join [sep] parts) = parts := by
  induction parts with
  | nil => exact absurd rfl hne
  | cons part parts ih =>
    obtain ⟨hpart, hparts⟩ := List.forall_mem_cons.mp h
    cases parts with
    | nil => exact split_of_not_mem hpart
    | cons next parts =>
      have hjoin : join [sep] (part :: next :: parts) =
          part ++ sep :: join [sep] (next :: parts) := by simp [join]
      rw [hjoin, split_append_cons, split_of_not_mem hpart, ih (List.cons_ne_nil _ _) hparts]
      rfl

theorem trimEnd_eq_nil_iff : trimEnd p s = [] ↔ ∀ c ∈ s, p c := by
  simp [trimEnd, List.dropWhile_eq_nil_iff]

theorem forall_mem_dropWhile_iff {α : Type} {p : α → Bool} {items : List α} :
    (∀ a ∈ items.dropWhile p, p a) ↔ ∀ a ∈ items, p a := by
  constructor
  · intro h
    rw [← List.dropWhile_eq_nil_iff]
    by_contra hn
    have hhead := List.head_dropWhile_not p hn
    rw [h _ (List.head_mem hn)] at hhead
    cases hhead
  · intro h a ha
    exact h a ((List.dropWhile_sublist p).subset ha)

theorem trimBoth_eq_nil_iff : trimBoth p s = [] ↔ ∀ c ∈ s, p c := by
  rw [trimBoth, trimEnd_eq_nil_iff, forall_mem_dropWhile_iff]

theorem trim_eq_nil_iff : s.trim = [] ↔ ∀ c ∈ s, isBlank c :=
  trimBoth_eq_nil_iff

theorem takeWhile_append (hs : ∀ c ∈ s, p c) (ht : ∀ c ∈ t.head?, p c = false) :
    (s ++ t).takeWhile p = s := by
  rw [List.takeWhile_append_of_pos hs]
  cases t with
  | nil => simp
  | cons c t => simp [ht c rfl]

theorem dropWhile_append (hs : ∀ c ∈ s, p c) (ht : ∀ c ∈ t.head?, p c = false) :
    (s ++ t).dropWhile p = t := by
  rw [List.dropWhile_append_of_pos hs]
  cases t with
  | nil => rfl
  | cons c t => rw [List.dropWhile_cons, ht c rfl]; rfl

theorem dropWhile_eq_self (h : ∀ c ∈ s, p c = false) : s.dropWhile p = s :=
  dropWhile_append (s := []) (by simp) fun c hc => h c (List.mem_of_mem_head? hc)

theorem trimEnd_append (hs : ∀ c ∈ s.getLast?, p c = false) (ht : ∀ c ∈ t, p c) :
    trimEnd p (s ++ t) = s := by
  rw [trimEnd, List.reverse_append, dropWhile_append (by simpa using ht) (by simpa using hs),
    List.reverse_reverse]

theorem trimEnd_append_cons {c : Char} (h : p c = false) (s t : Text) :
    trimEnd p (s ++ c :: t) = s ++ c :: trimEnd p t := by
  rw [trimEnd, List.reverse_append, List.reverse_cons, List.append_assoc, List.dropWhile_append]
  split
  · next ht =>
    rw [List.isEmpty_iff] at ht
    rw [trimEnd, ht, List.singleton_append, List.dropWhile_cons, h]
    simp
  · simp [trimEnd]

theorem trimBoth_cons_append_cons {c d : Char} (hc : p c = false) (hd : p d = false)
    (s t : Text) : trimBoth p (c :: s ++ d :: t) = c :: s ++ d :: trimEnd p t := by
  have hfront : (c :: s ++ d :: t).dropWhile p = c :: s ++ d :: t := by simp [hc]
  rw [trimBoth, hfront, trimEnd_append_cons hd]

theorem dropWhile_congr {q : Char → Bool} (h : ∀ c ∈ s, p c = q c) :
    s.dropWhile p = s.dropWhile q := by
  induction s with
  | nil => rfl
  | cons c s ih =>
    rw [List.forall_mem_cons] at h
    rw [List.dropWhile_cons, List.dropWhile_cons, h.1, ih h.2]

theorem trimBoth_congr {q : Char → Bool} (h : ∀ c ∈ s, p c = q c) :
    trimBoth p s = trimBoth q s := by
  have hrest : ∀ c ∈ (s.dropWhile q).reverse, p c = q c := fun c hc =>
    h c ((List.dropWhile_sublist q).subset (List.mem_reverse.mp hc))
  rw [trimBoth, trimBoth, dropWhile_congr h, trimEnd, trimEnd, dropWhile_congr hrest]

theorem trimEnd_eq_self (h : ∀ c ∈ s, p c = false) : trimEnd p s = s := by
  have hreverse : ∀ c ∈ s.reverse, p c = false := by simpa using h
  rw [trimEnd, dropWhile_eq_self hreverse, List.reverse_reverse]

theorem trim_eq_self (h : ∀ c ∈ s, isBlank c = false) : s.trim = s := by
  rw [trim, trimBoth, dropWhile_eq_self h, trimEnd_eq_self h]

theorem isBlank_eq_false {c : Char} (h : 0x20 < c.toNat ∧ c.toNat < 0x7F) : isBlank c = false := by
  simp only [isBlank, Bool.or_eq_false_iff, Bool.and_eq_false_iff, decide_eq_false_iff_not,
    beq_eq_false_iff_ne]
  omega

theorem trim_cons {c : Char} (h : isBlank c = true) : trim (c :: s) = s.trim := by
  rw [trim, trimBoth, List.dropWhile_cons, if_pos h]
  rfl

end ApiGateway.Text
