import ApiGateway.Route.Path
import ApiGateway.Text.Utf8
import Mathlib.Data.List.Basic

/-! # The seam of joined paths

Joining puts one slash between two paths. It takes the place of the slash that
either of them has at the seam already, and nothing else changes. The bytes of
the paths are joined in the same way, as the slash is the only character with
its byte. In which order nested paths are joined makes no difference.
-/

namespace ApiGateway

namespace Text

/-- A character below 0x80 is one byte with its number. No byte of any other is below 0x80. -/
theorem utf8Char_cases (c : Char) :
    utf8Char c = [UInt8.ofNat c.toNat] ∧ c.toNat < 0x80 ∨
      ∀ b ∈ utf8Char c, 0x80 ≤ b.toNat := by
  have hmax : c.toNat < 0x110000 := by
    rcases c.valid with h | h
    · exact Nat.lt_trans h (by decide)
    · exact h.2
  have hbyte : ∀ n : ℕ, 0x80 ≤ n → n < 0x100 → 0x80 ≤ (UInt8.ofNat n).toNat := by
    intro n hle hlt
    rwa [UInt8.toNat_ofNat_of_lt' hlt]
  unfold utf8Char
  simp only
  split_ifs with h1 h2 h3
  · exact .inl ⟨rfl, h1⟩
  all_goals
    right
    simp only [List.forall_mem_cons, List.not_mem_nil, false_imp_iff, implies_true, and_true]
  · exact ⟨hbyte _ (by omega) (by omega), hbyte _ (by omega) (by omega)⟩
  · exact ⟨hbyte _ (by omega) (by omega), hbyte _ (by omega) (by omega),
      hbyte _ (by omega) (by omega)⟩
  · exact ⟨hbyte _ (by omega) (by omega), hbyte _ (by omega) (by omega),
      hbyte _ (by omega) (by omega), hbyte _ (by omega) (by omega)⟩

theorem eq_slash_of_mem_utf8Char {c : Char} (h : 0x2F ∈ utf8Char c) : c = '/' := by
  rcases utf8Char_cases c with ⟨hc, hlt⟩ | hc
  · rw [hc, List.mem_singleton] at h
    have hn := congrArg UInt8.toNat h
    rw [UInt8.toNat_ofNat_of_lt' (Nat.lt_trans hlt (by decide))] at hn
    rw [← Char.ofNat_toNat c, ← hn]
    rfl
  · exact absurd (hc _ h) (by decide)

end Text

namespace Path

section Seam

variable {α : Type} [DecidableEq α] {x : α} {s front back : List α}

def dropHead (x : α) (s : List α) : List α := if s.head? = some x then s.tail else s

def dropEnd (x : α) (s : List α) : List α := if s.getLast? = some x then s.dropLast else s

/-- Two lists with one `x` between them, and no second one brought along by either. -/
def seam (x : α) (front back : List α) : List α := dropEnd x front ++ x :: dropHead x back

@[simp] theorem dropHead_cons_self : dropHead x (x :: s) = s := by simp [dropHead]

theorem dropHead_of_ne (h : s.head? ≠ some x) : dropHead x s = s := if_neg h

@[simp] theorem dropEnd_concat_self : dropEnd x (s ++ [x]) = s := by simp [dropEnd]

theorem dropEnd_of_ne (h : s.getLast? ≠ some x) : dropEnd x s = s := if_neg h

theorem dropHead_eq_nil_iff : dropHead x s = [] ↔ s = [] ∨ s = [x] := by
  by_cases h : s.head? = some x
  · obtain ⟨rest, rfl⟩ := List.head?_eq_some_iff.mp h
    simp
  · rw [dropHead_of_ne h]
    refine ⟨.inl, fun hs => hs.resolve_right ?_⟩
    rintro rfl
    exact h rfl

theorem dropEnd_eq_nil_iff : dropEnd x s = [] ↔ s = [] ∨ s = [x] := by
  by_cases h : s.getLast? = some x
  · obtain ⟨rest, rfl⟩ := List.getLast?_eq_some_iff.mp h
    simp
  · rw [dropEnd_of_ne h]
    refine ⟨.inl, fun hs => hs.resolve_right ?_⟩
    rintro rfl
    exact h rfl

theorem dropHead_append (h : front ≠ []) :
    dropHead x (front ++ back) = dropHead x front ++ back := by
  obtain ⟨c, front, rfl⟩ := List.exists_cons_of_ne_nil h
  by_cases hc : c = x
  · simp [hc]
  · simp [dropHead, hc]

theorem dropEnd_append (h : back ≠ []) :
    dropEnd x (front ++ back) = front ++ dropEnd x back := by
  obtain ⟨back, c, rfl⟩ := (List.eq_nil_or_concat' back).resolve_left h
  by_cases hc : c = x
  · rw [hc, ← List.append_assoc, dropEnd_concat_self, dropEnd_concat_self]
  · simp [dropEnd, hc]

theorem dropEnd_cons (h : s ≠ []) (c : α) : dropEnd x (c :: s) = c :: dropEnd x s := by
  rw [← List.singleton_append, dropEnd_append h, List.singleton_append]

theorem dropEnd_dropHead : dropEnd x (dropHead x s) = dropHead x (dropEnd x s) := by
  by_cases h : s.head? = some x
  · obtain ⟨rest, rfl⟩ := List.head?_eq_some_iff.mp h
    by_cases hr : rest = []
    · simp [hr, dropEnd, dropHead]
    · rw [dropEnd_cons hr, dropHead_cons_self, dropHead_cons_self]
  · rw [dropHead_of_ne h]
    by_cases hl : s.getLast? = some x
    · obtain ⟨rest, rfl⟩ := List.getLast?_eq_some_iff.mp hl
      rw [dropEnd_concat_self, dropHead_of_ne]
      exact fun hr => h (by simp [List.head?_append, hr])
    · rw [dropEnd_of_ne hl, dropHead_of_ne h]

/-- A middle part that is empty, or all of it at both seams, leaves one `x` between its
neighbours. Any other keeps what is between its own ends. -/
theorem seam_assoc (x : α) (a b c : List α) : seam x (seam x a b) c = seam x a (seam x b c) := by
  by_cases hb : dropHead x b = []
  · have hb' : dropEnd x b = [] := dropEnd_eq_nil_iff.mpr (dropHead_eq_nil_iff.mp hb)
    simp [seam, hb, hb']
  · have hb' : dropEnd x b ≠ [] := fun h => hb (dropHead_eq_nil_iff.mpr (dropEnd_eq_nil_iff.mp h))
    have hleft : dropEnd x (dropEnd x a ++ x :: dropHead x b) =
        dropEnd x a ++ x :: dropEnd x (dropHead x b) := by
      rw [dropEnd_append (List.cons_ne_nil _ _), dropEnd_cons hb]
    have hright : dropHead x (dropEnd x b ++ x :: dropHead x c) =
        dropHead x (dropEnd x b) ++ x :: dropHead x c := dropHead_append hb'
    rw [seam, seam, seam, seam, hleft, hright, dropEnd_dropHead]
    simp

end Seam

theorem join_eq_seam (a b : Text) : join a b = seam '/' a b := by
  have hne : ∀ s : Text, (∀ rest, s = '/' :: rest → False) → s.head? ≠ some '/' := by
    intro s hs h
    obtain ⟨rest, hr⟩ := List.head?_eq_some_iff.mp h
    exact hs rest hr
  unfold join
  split
  · next rest ha =>
    obtain ⟨front, rfl⟩ := List.getLast?_eq_some_iff.mp ha
    simp [seam]
  · next b _ _ ha hb =>
    obtain ⟨front, rfl⟩ := List.getLast?_eq_some_iff.mp ha
    simp [seam, dropHead_of_ne (hne b hb)]
  · next rest ha => simp [seam, dropEnd_of_ne ha]
  · next b _ _ hb ha _ => simp [seam, dropEnd_of_ne ha, dropHead_of_ne (hne b hb)]

theorem utf8_dropHead (b : Text) : Text.utf8 (dropHead '/' b) = dropHead 0x2F (Text.utf8 b) := by
  cases b with
  | nil => rfl
  | cons c b =>
    rw [Text.utf8, Text.utf8, List.flatMap_cons]
    by_cases hc : c = '/'
    · subst hc
      rw [dropHead_cons_self]
      exact dropHead_cons_self.symm
    · have hbytes : (Text.utf8Char c).head? ≠ some 0x2F := fun h =>
        hc (Text.eq_slash_of_mem_utf8Char (List.mem_of_mem_head? h))
      rw [dropHead_append (Text.utf8Char_ne_nil c), dropHead_of_ne hbytes,
        dropHead_of_ne (by simpa using hc), List.flatMap_cons]

theorem utf8_dropEnd (a : Text) : Text.utf8 (dropEnd '/' a) = dropEnd 0x2F (Text.utf8 a) := by
  rcases List.eq_nil_or_concat' a with rfl | ⟨a, c, rfl⟩
  · rfl
  · have hutf8 : ∀ s : Text, Text.utf8 (s ++ [c]) = Text.utf8 s ++ Text.utf8Char c := by
      simp [Text.utf8]
    rw [hutf8, dropEnd_append (Text.utf8Char_ne_nil c)]
    by_cases hc : c = '/'
    · subst hc
      rw [dropEnd_concat_self]
      exact (List.append_nil _).symm
    · have hbytes : (Text.utf8Char c).getLast? ≠ some 0x2F := fun h =>
        hc (Text.eq_slash_of_mem_utf8Char (List.mem_of_getLast? h))
      rw [dropEnd_of_ne hbytes, dropEnd_of_ne (by simpa using hc), hutf8]

theorem utf8_seam (a b : Text) :
    Text.utf8 (seam '/' a b) = seam 0x2F (Text.utf8 a) (Text.utf8 b) := by
  rw [seam, seam, ← utf8_dropHead, ← utf8_dropEnd]
  simp only [Text.utf8, List.flatMap_append, List.flatMap_cons]
  rfl

theorem join_join (a b c : Text) : join (join a b) c = join a (join b c) := by
  simp only [join_eq_seam, seam_assoc]

/-- Mount points below each other are joined from the outside in or from the inside out. -/
theorem join_foldl (base path : Text) (mounts : List Text) :
    join (mounts.foldl join base) path = join base (mounts.foldr join path) := by
  induction mounts generalizing base with
  | nil => rfl
  | cons mount mounts ih => rw [List.foldl_cons, ih, join_join, List.foldr_cons]

/-- Joined paths are the first without one slash at its end, a slash, and the second without one
slash at its beginning, as texts and as bytes. The order of joining makes no difference, however
many paths are nested. -/
theorem join_at_seam (a b c : Text) :
    join a b = seam '/' a b ∧
      Text.utf8 (join a b) = seam 0x2F (Text.utf8 a) (Text.utf8 b) ∧
      join (join a b) c = join a (join b c) ∧
      ∀ mounts : List Text, join (mounts.foldl join a) c = join a (mounts.foldr join c) :=
  ⟨join_eq_seam a b, by rw [join_eq_seam, utf8_seam], join_join a b c, join_foldl a c⟩

/-- A middle path that is a single slash has it at both seams. -/
example : join (join "/svc/" "/") "/items" = "/svc/items" ∧
    join "/svc/" (join "/" "/items") = "/svc/items" := by decide

end Path

end ApiGateway
