import ApiGateway.Proofs.Config.Environment
import Mathlib.Data.List.DropRight

/-! # Lists of backends

What reading a list leaves of the pieces between its commas. Blanks around a
piece are removed before slashes at its end, so slashes that stand alone there
leave an entry that is empty or blank at its end. Every other list is read in a
normal form: its entries are read again as they are.
-/

namespace ApiGateway

namespace Text

variable {p : Char → Bool} {s t : Text}

instance : DecidablePred Blank := fun s => inferInstanceAs (Decidable (∀ c ∈ s, isBlank c))

/-- Some text without blanks around it. -/
structure Tight (s : Text) : Prop where
  ne_nil : s ≠ []
  head_not_blank : ∀ c ∈ s.head?, isBlank c = false
  last_not_blank : ∀ c ∈ s.getLast?, isBlank c = false

theorem not_of_mem_getLast?_trimEnd {c : Char} (h : c ∈ (trimEnd p s).getLast?) : p c = false := by
  obtain ⟨front, hs⟩ : ∃ front, s.rdropWhile p = front ++ [c] := List.getLast?_eq_some_iff.mp h
  have hlast := List.rdropWhile_last_not p s (by simp [hs])
  simpa [hs] using hlast

theorem not_of_mem_head?_dropWhile {c : Char} (h : c ∈ (s.dropWhile p).head?) : p c = false := by
  have hc := List.head?_dropWhile_not p s
  rw [Option.mem_def.mp h] at hc
  simpa using hc

theorem mem_getLast?_of_dropWhile {c : Char} (h : c ∈ (s.dropWhile p).getLast?) :
    c ∈ s.getLast? := by
  obtain ⟨rest, hr⟩ := List.getLast?_eq_some_iff.mp h
  rw [← List.takeWhile_append_dropWhile (p := p) (l := s), hr]
  simp

theorem exists_trim (s : Text) :
    ∃ before after : Text, s = before ++ s.trim ++ after ∧ Blank before ∧ Blank after := by
  refine ⟨s.takeWhile isBlank, (s.dropWhile isBlank).rtakeWhile isBlank, ?_, ?_, ?_⟩
  · have hback : s.trim ++ (s.dropWhile isBlank).rtakeWhile isBlank = s.dropWhile isBlank :=
      List.rdropWhile_append_rtakeWhile
    rw [List.append_assoc, hback, List.takeWhile_append_dropWhile]
  · exact fun c hc => List.mem_takeWhile_imp hc
  · exact fun c hc => List.mem_rtakeWhile_imp hc

theorem tight_trim (h : ¬ Blank s) : Tight s.trim where
  ne_nil := mt trim_eq_nil_iff.mp h
  head_not_blank c hc := by
    obtain ⟨rest, hr⟩ : s.trim <+: s.dropWhile isBlank := List.rdropWhile_prefix _ _
    refine not_of_mem_head?_dropWhile (s := s) ?_
    rwa [← hr, List.head?_append_of_ne_nil _ (mt trim_eq_nil_iff.mp h)]
  last_not_blank c hc := not_of_mem_getLast?_trimEnd hc

theorem trim_append {before after : Text} (hb : Blank before) (ha : Blank after) (hs : Tight s) :
    trim (before ++ s ++ after) = s := by
  have hfront : (before ++ (s ++ after)).dropWhile isBlank = s ++ after := by
    refine dropWhile_append hb fun c hc => hs.head_not_blank c ?_
    rwa [List.head?_append_of_ne_nil _ hs.ne_nil] at hc
  rw [trim, trimBoth, List.append_assoc, hfront, trimEnd_append hs.last_not_blank ha]

theorem tight_iff : Tight s ↔ s ≠ [] ∧ s.trim = s := by
  constructor
  · intro h
    have hnil : Blank [] := by simp [Blank]
    exact ⟨h.ne_nil, by simpa using trim_append hnil hnil h⟩
  · rintro ⟨hne, hs⟩
    have hb : ¬ Blank s := fun hb => hne (hs ▸ trim_eq_nil_iff.mpr hb)
    exact hs ▸ tight_trim hb

/-- Slashes with nothing but blanks behind them, and a blank or nothing in front. -/
def LooseSlashes (s : Text) : Prop :=
  ∃ before slashes after : Text, s = before ++ slashes ++ after ∧ slashes ≠ [] ∧
    (∀ c ∈ slashes, c = '/') ∧ (∀ c ∈ before.getLast?, isBlank c) ∧ Blank after

theorem LooseSlashes.not_blank (h : LooseSlashes s) : ¬ Blank s := by
  obtain ⟨before, slashes, after, rfl, hne, hslashes, -, -⟩ := h
  obtain ⟨c, slashes, rfl⟩ := List.exists_cons_of_ne_nil hne
  obtain rfl := hslashes c List.mem_cons_self
  intro hb
  exact absurd (hb '/' (by simp)) (by decide)

end Text

namespace Config

open Text (Blank Tight LooseSlashes)

variable {raw piece entry : Text} {entries : List Text}

structure Tidy (entry : Text) : Prop extends Tight entry where
  no_comma : ',' ∉ entry
  no_slash : entry.getLast? ≠ some '/'

/-- What is left of a piece without the blanks around it and without the slashes that are at its
end then. -/
inductive Cleaned : Text → Text → Prop

  | intro {before entry slashes after : Text} : Blank before → Blank after →
      Tight (entry ++ slashes) → (∀ c ∈ slashes, c = '/') → entry.getLast? ≠ some '/' →
      Cleaned (before ++ (entry ++ slashes) ++ after) entry

def cleanEntry (piece : Text) : Text := Text.trimEnd (· = '/') piece.trim

theorem backendList_eq (raw : Text) :
    backendList raw = ((raw.split ',').filter (¬ Blank ·)).map cleanEntry := by
  rw [backendList, List.filter_map, List.map_map]
  refine congrArg (List.map _) (List.filter_congr fun piece _ => ?_)
  exact decide_eq_decide.mpr (not_congr Text.trim_eq_nil_iff)

theorem mem_backendList_iff :
    entry ∈ backendList raw ↔
      ∃ piece ∈ raw.split ',', ¬ Blank piece ∧ cleanEntry piece = entry := by
  simp [backendList_eq, and_assoc]

theorem forall₂_backendList {R : Text → Text → Prop}
    (h : ∀ piece ∈ raw.split ',', ¬ Blank piece → R piece (cleanEntry piece)) :
    List.Forall₂ R ((raw.split ',').filter (¬ Blank ·)) (backendList raw) := by
  rw [backendList_eq, List.forall₂_map_right_iff, List.forall₂_same]
  intro piece hm
  obtain ⟨hm, hb⟩ := List.mem_filter.mp hm
  exact h piece hm (of_decide_eq_true hb)

theorem exists_slashes (piece : Text) :
    ∃ slashes : Text, piece.trim = cleanEntry piece ++ slashes ∧ ∀ c ∈ slashes, c = '/' := by
  refine ⟨piece.trim.rtakeWhile (· = '/'), List.rdropWhile_append_rtakeWhile.symm, ?_⟩
  intro c hc
  simpa using List.mem_rtakeWhile_imp hc

theorem getLast?_cleanEntry (piece : Text) : (cleanEntry piece).getLast? ≠ some '/' := by
  intro h
  have hslash := Text.not_of_mem_getLast?_trimEnd (p := (· = '/')) h
  simp at hslash

theorem cleaned_cleanEntry (h : ¬ Blank piece) : Cleaned piece (cleanEntry piece) := by
  obtain ⟨before, after, hpiece, hb, ha⟩ := Text.exists_trim piece
  obtain ⟨slashes, htrim, hslashes⟩ := exists_slashes piece
  have htight := Text.tight_trim h
  rw [htrim] at hpiece htight
  have hc := Cleaned.intro hb ha htight hslashes (getLast?_cleanEntry piece)
  rwa [← hpiece] at hc

theorem Cleaned.head_not_blank (h : Cleaned piece entry) :
    ∀ c ∈ entry.head?, Text.isBlank c = false := by
  cases h with
  | intro _ _ htight _ _ =>
    intro c hc
    refine htight.head_not_blank c ?_
    rw [List.head?_append, Option.mem_def.mp hc]
    rfl

theorem Cleaned.subset (h : Cleaned piece entry) : entry ⊆ piece := by
  cases h with
  | intro =>
    intro c hc
    simp [hc]

/-- In front of loose slashes nothing is removed but the blanks at the beginning. -/
theorem cleanEntry_of_loose {before slashes after : Text} (hne : slashes ≠ [])
    (hs : ∀ c ∈ slashes, c = '/') (hb : ∀ c ∈ before.getLast?, Text.isBlank c) (ha : Blank after) :
    cleanEntry (before ++ slashes ++ after) = before.dropWhile Text.isBlank := by
  have hslash : ∀ c ∈ slashes, Text.isBlank c = false := by
    intro c hc
    rw [hs c hc]
    decide
  have htight : Tight (before.dropWhile Text.isBlank ++ slashes) := by
    refine ⟨List.append_ne_nil_of_right_ne_nil _ hne, fun c hc => ?_, fun c hc => ?_⟩
    · rw [List.head?_append, Option.mem_def, Option.or_eq_some_iff] at hc
      rcases hc with hc | ⟨-, hc⟩
      · exact Text.not_of_mem_head?_dropWhile hc
      · exact hslash c (List.mem_of_mem_head? hc)
    · rw [List.getLast?_append_of_ne_nil _ hne] at hc
      exact hslash c (List.mem_of_getLast? hc)
  have hfront : Blank (before.takeWhile Text.isBlank) := fun c hc => List.mem_takeWhile_imp hc
  have hlast : ∀ c ∈ (before.dropWhile Text.isBlank).getLast?, decide (c = '/') = false := by
    intro c hc
    have hblank := hb c (Text.mem_getLast?_of_dropWhile hc)
    rw [decide_eq_false_iff_not]
    rintro rfl
    exact absurd hblank (by decide)
  conv_lhs => rw [← List.takeWhile_append_dropWhile (p := Text.isBlank) (l := before),
    List.append_assoc _ _ slashes]
  rw [cleanEntry, Text.trim_append hfront ha htight]
  exact Text.trimEnd_append hlast fun c hc => by simpa using hs c hc

theorem tight_cleanEntry_iff (h : ¬ Blank piece) :
    Tight (cleanEntry piece) ↔ ¬ LooseSlashes piece := by
  constructor
  · rintro ht ⟨before, slashes, after, rfl, hne, hs, hb, ha⟩
    rw [cleanEntry_of_loose hne hs hb ha] at ht
    obtain ⟨front, last, hlast⟩ := (List.eq_nil_or_concat' _).resolve_left ht.ne_nil
    have hmem : last ∈ (before.dropWhile Text.isBlank).getLast? := by simp [hlast]
    have hblank := ht.last_not_blank last hmem
    rw [hb last (Text.mem_getLast?_of_dropWhile hmem)] at hblank
    cases hblank
  · intro hl
    obtain ⟨before, after, hpiece, hb, ha⟩ := Text.exists_trim piece
    obtain ⟨slashes, htrim, hslashes⟩ := exists_slashes piece
    by_cases hs : slashes = []
    · have htight := Text.tight_trim h
      rwa [htrim, hs, List.append_nil] at htight
    · obtain ⟨last, hlast, hblank⟩ :
          ∃ c ∈ (cleanEntry piece).getLast?, Text.isBlank c = false := by
        by_contra hno
        refine hl ⟨before ++ cleanEntry piece, slashes, after, ?_, hs, hslashes, ?_, ha⟩
        · rwa [htrim, ← List.append_assoc] at hpiece
        · intro c hc
          rw [List.getLast?_append, Option.mem_def, Option.or_eq_some_iff] at hc
          rcases hc with hc | ⟨-, hc⟩
          · by_contra hn
            exact hno ⟨c, hc, Bool.eq_false_iff.mpr hn⟩
          · exact hb c (List.mem_of_getLast? hc)
      refine ⟨?_, (cleaned_cleanEntry h).head_not_blank, fun c hc => ?_⟩
      · intro hnil
        rw [hnil] at hlast
        cases hlast
      · obtain rfl := Option.mem_unique hlast hc
        exact hblank

theorem tidy_cleanEntry_iff (h : ¬ Blank piece) (hc : ',' ∉ piece) :
    Tidy (cleanEntry piece) ↔ ¬ LooseSlashes piece := by
  rw [← tight_cleanEntry_iff h]
  refine ⟨Tidy.toTight, fun ht => ⟨ht, fun hm => hc ?_, getLast?_cleanEntry piece⟩⟩
  exact (cleaned_cleanEntry h).subset hm

theorem tidy_iff (hc : ',' ∉ entry) : Tidy entry ↔ ¬ Blank entry ∧ cleanEntry entry = entry := by
  constructor
  · intro h
    obtain ⟨hne, htrim⟩ := Text.tight_iff.mp h.toTight
    have hlast : ∀ c ∈ entry.getLast?, decide (c = '/') = false := by
      intro c hm
      rw [decide_eq_false_iff_not]
      rintro rfl
      exact h.no_slash hm
    refine ⟨fun hb => hne (htrim ▸ Text.trim_eq_nil_iff.mpr hb), ?_⟩
    rw [cleanEntry, htrim]
    simpa using Text.trimEnd_append (t := []) hlast (by simp)
  · rintro ⟨hb, hclean⟩
    obtain ⟨before, after, hentry, -, -⟩ := Text.exists_trim entry
    obtain ⟨slashes, htrim, -⟩ := exists_slashes entry
    have hlength := congrArg List.length hentry
    rw [htrim, hclean] at hlength
    simp only [List.length_append] at hlength
    have hs : slashes = [] := List.length_eq_zero_iff.mp (by omega)
    rw [hs, List.append_nil, hclean] at htrim
    refine ⟨htrim ▸ Text.tight_trim hb, hc, ?_⟩
    rw [← hclean]
    exact getLast?_cleanEntry entry

theorem backendList_join (h : ∀ entry ∈ entries, ',' ∉ entry) :
    backendList (Text.join "," entries) = (entries.filter (¬ Blank ·)).map cleanEntry := by
  by_cases hn : entries = []
  · subst hn
    decide
  · rw [backendList_eq]
    exact congrArg _ (congrArg _ (Text.split_join hn h))

theorem backendList_join_eq_self_iff (h : ∀ entry ∈ entries, ',' ∉ entry) :
    backendList (Text.join "," entries) = entries ↔ ∀ entry ∈ entries, Tidy entry := by
  have htidy : (∀ entry ∈ entries, Tidy entry) ↔
      (∀ entry ∈ entries, ¬ Blank entry) ∧ ∀ entry ∈ entries, cleanEntry entry = entry := by
    rw [← forall₂_and]
    exact forall₂_congr fun entry hm => tidy_iff (h entry hm)
  rw [backendList_join h, htidy]
  constructor
  · intro he
    have hlength := congrArg List.length he
    rw [List.length_map, List.length_filter_eq_length_iff] at hlength
    have hb : ∀ entry ∈ entries, ¬ Blank entry := by simpa using hlength
    rw [List.filter_eq_self.mpr hlength] at he
    exact ⟨hb, List.map_inj_left.mp (he.trans (List.map_id _).symm)⟩
  · rintro ⟨hb, hclean⟩
    rw [List.filter_eq_self.mpr (by simpa using hb), List.map_congr_left hclean, List.map_id']

structure Entries (raw : Text) (pieces entries : List Text) : Prop where
  raw_eq : raw = Text.join "," pieces
  piece_no_comma : ∀ piece ∈ pieces, ',' ∉ piece
  cleaned : List.Forall₂ Cleaned (pieces.filter (¬ Blank ·)) entries
  no_comma : ∀ entry ∈ entries, ',' ∉ entry
  head_not_blank : ∀ entry ∈ entries, ∀ c ∈ entry.head?, Text.isBlank c = false
  no_slash : ∀ entry ∈ entries, entry.getLast? ≠ some '/'
  /-- An entry is tidy, so neither empty nor blank at its end, but for loose slashes. -/
  tidy : List.Forall₂ (fun piece entry => Tidy entry ↔ ¬ LooseSlashes piece)
    (pieces.filter (¬ Blank ·)) entries
  readBack_iff : backendList (Text.join "," entries) = entries ↔
    ∀ piece ∈ pieces, ¬ LooseSlashes piece

theorem exists_entries (raw : Text) : ∃ pieces, Entries raw pieces (backendList raw) := by
  have hpiece : ∀ piece ∈ raw.split ',', ',' ∉ piece := fun _ => Text.not_mem_of_mem_split
  have hcomma : ∀ entry ∈ backendList raw, ',' ∉ entry := by
    intro entry hm hc
    obtain ⟨piece, hp, hb, rfl⟩ := mem_backendList_iff.mp hm
    exact hpiece piece hp ((cleaned_cleanEntry hb).subset hc)
  refine ⟨raw.split ',', Text.join_split.symm, hpiece, ?_, hcomma, ?_, ?_, ?_, ?_⟩
  · exact forall₂_backendList fun _ _ => cleaned_cleanEntry
  · intro entry hm
    obtain ⟨piece, -, hb, rfl⟩ := mem_backendList_iff.mp hm
    exact (cleaned_cleanEntry hb).head_not_blank
  · intro entry hm
    obtain ⟨piece, -, -, rfl⟩ := mem_backendList_iff.mp hm
    exact getLast?_cleanEntry piece
  · exact forall₂_backendList fun piece hm hb => tidy_cleanEntry_iff hb (hpiece piece hm)
  · rw [backendList_join_eq_self_iff hcomma]
    constructor
    · intro h piece hm hl
      have hb := hl.not_blank
      have ht := h _ (mem_backendList_iff.mpr ⟨piece, hm, hb, rfl⟩)
      exact (tidy_cleanEntry_iff hb (hpiece piece hm)).mp ht hl
    · intro h entry hm
      obtain ⟨piece, hp, hb, rfl⟩ := mem_backendList_iff.mp hm
      exact (tidy_cleanEntry_iff hb (hpiece piece hp)).mpr (h piece hp)

/-- The slash of the first piece stands behind a blank, and the second piece is a slash. -/
theorem not_tidy_backendList :
    backendList "http://c1:8000 /,/" = (["http://c1:8000 ", ""] : List Text) ∧
      (∀ entry ∈ backendList "http://c1:8000 /,/", ¬ Tidy entry) ∧
      backendList (Text.join "," (backendList "http://c1:8000 /,/")) =
        (["http://c1:8000"] : List Text) := by
  have hlist : backendList "http://c1:8000 /,/" = (["http://c1:8000 ", ""] : List Text) := by decide
  refine ⟨hlist, fun entry hm ht => ?_, by decide⟩
  rw [hlist, List.mem_pair] at hm
  rcases hm with rfl | rfl
  · exact absurd (ht.last_not_blank ' ' (by decide)) (by decide)
  · exact ht.ne_nil rfl

end Config

end ApiGateway
