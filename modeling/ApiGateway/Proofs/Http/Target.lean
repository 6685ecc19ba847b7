import ApiGateway.Http.Target
import ApiGateway.Proofs.Http.Value
import ApiGateway.Proofs.Text.Cut

/-! # Queries and authorities of request targets

A target keeps its query as it is written, whatever form it has. Only some
characters can occur there, and only visible ones in an authority.
-/

namespace ApiGateway.Target

variable {s front rest path : Text} {found : Option Text} {target : Target}

/-- What is written between the first question mark and the fragment. -/
def writtenQuery? (s : Text) : Option Text :=
  (Text.cutFirst '?' (s.takeWhile (· ≠ '#'))).map (·.2)

theorem writtenQuery?_append (h : ∀ c ∈ front, c ≠ '?' ∧ c ≠ '#') :
    writtenQuery? (front ++ rest) = writtenQuery? rest := by
  have hhash : ∀ c ∈ front, decide (c ≠ '#') = true := fun c hc => by simpa using (h c hc).2
  rw [writtenQuery?, writtenQuery?, List.takeWhile_append_of_pos hhash,
    Text.cutFirst_append fun hc => (h _ hc).1 rfl, Option.map_map]
  rfl

theorem writtenQuery?_dropWhile {p : Char → Bool} (hp : ∀ c, p c = true → c ≠ '?' ∧ c ≠ '#') :
    writtenQuery? (s.dropWhile p) = writtenQuery? s := by
  conv_rhs => rw [← List.takeWhile_append_dropWhile (p := p) (l := s)]
  exact (writtenQuery?_append fun c hc => hp c (List.all_eq_true.mp List.all_takeWhile c hc)).symm

theorem query_of_pathAndQuery? (h : pathAndQuery? s = some (path, found)) :
    found = writtenQuery? s ∧ ∀ query, found = some query → ∀ c ∈ query, isQueryChar c = true := by
  unfold pathAndQuery? at h
  dsimp only at h
  rw [Option.ite_none_right_eq_some] at h
  obtain ⟨⟨-, hall⟩, h⟩ := h
  have hfound := congrArg Prod.snd (Option.some.inj h)
  dsimp only at hfound
  rw [hfound] at hall
  constructor
  · rw [← hfound, writtenQuery?]
    cases Text.cutFirst '?' (s.takeWhile (· ≠ '#')) <;> rfl
  · rintro query rfl
    exact List.all_eq_true.mp hall

theorem writtenQuery?_of_not_mem (h : '?' ∉ s) : writtenQuery? s = none := by
  have hcut : Text.cutFirst '?' (s.takeWhile (· ≠ '#')) = none :=
    Text.cutFirst_eq_none_iff.mpr fun hm => h ((List.takeWhile_sublist _).subset hm)
  rw [writtenQuery?, hcut, Option.map_none]

theorem exists_front_of_cutScheme {scheme : Text} (h : cutScheme s = some (scheme, rest)) :
    ∃ front, s = front ++ rest ∧ ∀ c ∈ front, c ≠ '?' ∧ c ≠ '#' := by
  unfold cutScheme at h
  dsimp only at h
  split at h
  · next more hdrop =>
    split at h <;> cases h
    refine ⟨s.takeWhile isSchemeChar ++ [':', '/', '/'], ?_, fun c hc => ?_⟩
    · rw [List.append_assoc]
      exact List.takeWhile_append_dropWhile.symm.trans (congrArg _ hdrop)
    · rcases List.mem_append.mp hc with hc | hc
      · have hscheme := List.all_eq_true.mp List.all_takeWhile c hc
        constructor <;> rintro rfl <;> cases hscheme
      · simp only [List.mem_cons, List.not_mem_nil, or_false] at hc
        rcases hc with rfl | rfl | rfl <;> decide
  · cases h

theorem isAuthorityChar_of_foldlM_step {scan scan' : AuthorityScan}
    (h : s.foldlM AuthorityScan.step scan = some scan') :
    ∀ c ∈ s, isAuthorityChar c = true ∨ c = '%' := by
  induction s generalizing scan with
  | nil => simp
  | cons c s ih =>
    obtain ⟨next, hstep, hrest⟩ := Option.bind_eq_some_iff.mp h
    refine List.forall_mem_cons.mpr ⟨?_, ih hrest⟩
    unfold AuthorityScan.step at hstep
    split at hstep
    · next hc => exact .inl (by rw [hc]; decide)
    · split at hstep
      · next hc => exact .inl (by rw [hc]; decide)
      · split at hstep
        · next hc => exact .inl (by rw [hc]; decide)
        · split at hstep
          · next hc => exact .inl (by rw [hc]; decide)
          · split at hstep
            · next hc => exact .inr hc
            · rw [Option.ite_none_right_eq_some] at hstep
              exact .inl hstep.1

theorem isAuthorityChar_of_isAuthority (h : isAuthority s = true) :
    ∀ c ∈ s, isAuthorityChar c = true ∨ c = '%' := by
  unfold isAuthority at h
  split at h
  · next scan hs => exact isAuthorityChar_of_foldlM_step hs
  · cases h

theorem visible_of_isAuthority (h : isAuthority s = true) : s.Visible := by
  intro c hc
  rcases isAuthorityChar_of_isAuthority h c hc with hc | rfl
  · simp only [isAuthorityChar, Bool.or_eq_true] at hc
    rcases hc with hc | hc
    · unfold Char.isAlphanum Char.isAlpha Char.isUpper Char.isLower Char.isDigit at hc
      simp only [Bool.or_eq_true, Bool.and_eq_true, decide_eq_true_eq,
        UInt32.le_iff_toNat_le] at hc
      simp only [Char.toNat]
      simp only [Char.reduceVal, UInt32.reduceToNat] at hc
      omega
    · have hmarks : Text.Visible "!$&'()*+,-.:;=@[]_~".toList := by decide
      exact hmarks c (List.contains_iff_mem.mp hc)
  · decide

theorem not_mem_of_isAuthority (h : isAuthority s = true) : '?' ∉ s := by
  intro hm
  rcases isAuthorityChar_of_isAuthority h _ hm with hc | hc <;> cases hc

theorem query_of_ofText? (h : ofText? s = some target) :
    target.query = writtenQuery? s ∧
      ∀ query, target.query = some query → ∀ c ∈ query, isQueryChar c = true := by
  unfold ofText? at h
  split at h
  · cases h
  · split at h
    · cases h
    · cases h
      exact ⟨by decide, fun query hq => by cases hq⟩
    · obtain ⟨⟨path, found⟩, hp, rfl⟩ := Option.map_eq_some_iff.mp h
      exact query_of_pathAndQuery? hp
    · split at h
      · split at h <;> cases h
        next ha =>
        exact ⟨(writtenQuery?_of_not_mem (not_mem_of_isAuthority ha)).symm,
          fun query hq => by cases hq⟩
      · next scheme rest hs =>
        dsimp only at h
        obtain ⟨⟨path, found⟩, hp, h⟩ := Option.bind_eq_some_iff.mp h
        split at h <;> cases h
        obtain ⟨hfound, hchars⟩ := query_of_pathAndQuery? hp
        obtain ⟨front, rfl, hfront⟩ := exists_front_of_cutScheme hs
        rw [writtenQuery?_append hfront]
        refine ⟨hfound.trans (writtenQuery?_dropWhile fun c hc => ?_), hchars⟩
        have hend : (c ≠ '/' ∧ c ≠ '?') ∧ c ≠ '#' := by simpa using hc
        exact ⟨hend.1.2, hend.2⟩

theorem visible_authority_of_ofText? {authority : Text} (h : ofText? s = some target)
    (ha : target.authority = some authority) : authority.Visible := by
  unfold ofText? at h
  split at h
  · cases h
  · split at h
    · cases h
    · cases h
      cases ha
    · obtain ⟨_, -, rfl⟩ := Option.map_eq_some_iff.mp h
      cases ha
    · split at h
      · split at h <;> cases h
        next hs =>
        cases ha
        exact visible_of_isAuthority hs
      · dsimp only at h
        obtain ⟨⟨path, found⟩, -, h⟩ := Option.bind_eq_some_iff.mp h
        split at h <;> cases h
        next hs =>
        cases ha
        exact visible_of_isAuthority hs.2

end ApiGateway.Target
