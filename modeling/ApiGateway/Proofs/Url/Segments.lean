import ApiGateway.Url.Path
import Mathlib.Data.List.Basic

/-! # Segments of normalized paths

A text is cut at its slashes and put together again by opposite operations. What
normalization leaves is a path of settled segments: they show only what a path
may show, and none of them is a dot segment.
-/

namespace ApiGateway.Url

variable {c : Char} {s t segment : Text} {segments done rest below : List Text} {set : EncodeSet}

theorem visible_of_controlSet (hc : controlSet c = false) (hne : c ≠ ' ') :
    0x20 < c.toNat ∧ c.toNat < 0x7F := by
  simp only [controlSet, Bool.or_eq_false_iff, decide_eq_false_iff_not] at hc
  have hspace : c.toNat ≠ 0x20 := fun he => hne (Char.toNat_inj.mp he)
  omega

theorem visible_of_pathSet (hc : pathSet c = false) : 0x20 < c.toNat ∧ c.toNat < 0x7F := by
  have hne : c ≠ ' ' := by
    rintro rfl
    exact absurd hc (by decide)
  simp only [pathSet, fragmentSet, Bool.or_eq_false_iff] at hc
  exact visible_of_controlSet hc.1.1 hne

theorem visible_of_querySet (hc : querySet c = false) : 0x20 < c.toNat ∧ c.toNat < 0x7F := by
  have hne : c ≠ ' ' := by
    rintro rfl
    exact absurd hc (by decide)
  simp only [querySet, Bool.or_eq_false_iff] at hc
  exact visible_of_controlSet hc.1 hne

def encodingChars : Text := "%0123456789ABCDEF"

theorem mem_percentByte {b : UInt8} (h : c ∈ percentByte b) : c ∈ encodingChars := by
  have hdigit : ∀ n < 16, Text.hexDigit n ∈ encodingChars := by decide
  have hb := b.toNat_lt
  simp only [percentByte, List.mem_cons, List.not_mem_nil, or_false] at h
  rcases h with rfl | rfl | rfl
  · decide
  · exact hdigit _ (by omega)
  · exact hdigit _ (by omega)

theorem mem_percentEncode (h : c ∈ percentEncode set s) :
    (c ∈ s ∧ set c = false) ∨ c ∈ encodingChars := by
  obtain ⟨d, hd, hc⟩ := List.mem_flatMap.mp h
  split at hc
  · obtain ⟨b, -, hb⟩ := List.mem_flatMap.mp hc
    exact .inr (mem_percentByte hb)
  · next hs =>
    obtain rfl := List.mem_singleton.mp hc
    exact .inl ⟨hd, by simpa using hs⟩

theorem percentEncode_eq_self (h : ∀ c ∈ s, set c = false) : percentEncode set s = s := by
  induction s with
  | nil => rfl
  | cons c s ih =>
    have hc : percentEncode set (c :: s) = c :: percentEncode set s := by
      simp [percentEncode, h c (by simp)]
    rw [hc, ih fun d hd => h d (by simp [hd])]

theorem percentEncode_congr {set' : EncodeSet} (h : ∀ c ∈ s, set c = set' c) :
    percentEncode set s = percentEncode set' s :=
  List.flatMap_congr fun c hc => by rw [h c hc]

theorem percentEncode_cons (set : EncodeSet) (c : Char) (s : Text) :
    percentEncode set (c :: s) =
      (if set c then (Text.utf8Char c).flatMap percentByte else [c]) ++ percentEncode set s := rfl

/-- What an encoded character becomes takes more than its own place. -/
theorem one_lt_length_flatMap_percentByte (c : Char) :
    1 < ((Text.utf8Char c).flatMap percentByte).length := by
  obtain ⟨b, rest, h⟩ := List.exists_cons_of_ne_nil (Text.utf8Char_ne_nil c)
  rw [h, List.flatMap_cons, List.length_append, percentByte]
  simp only [List.length_cons, List.length_nil]
  omega

theorem length_le_percentEncode (set : EncodeSet) (s : Text) :
    s.length ≤ (percentEncode set s).length := by
  induction s with
  | nil => exact Nat.zero_le _
  | cons c s ih =>
    have hc := one_lt_length_flatMap_percentByte c
    rw [percentEncode_cons, List.length_append, List.length_cons]
    split
    · omega
    · rw [List.length_singleton]
      omega

theorem percentEncode_eq_nil_iff : percentEncode set s = [] ↔ s = [] := by
  constructor
  · intro h
    have hlength := length_le_percentEncode set s
    rw [h] at hlength
    exact List.eq_nil_of_length_eq_zero (Nat.le_zero.mp hlength)
  · rintro rfl
    rfl

theorem percentEncode_eq_self_iff : percentEncode set s = s ↔ ∀ c ∈ s, set c = false := by
  refine ⟨fun h => ?_, percentEncode_eq_self⟩
  induction s with
  | nil => simp
  | cons c s ih =>
    rw [percentEncode_cons] at h
    cases hc : set c with
    | true =>
      have hlength := congrArg List.length h
      have := one_lt_length_flatMap_percentByte c
      have := length_le_percentEncode set s
      rw [if_pos hc, List.length_append, List.length_cons] at hlength
      omega
    | false =>
      rw [if_neg (by simp [hc])] at h
      have hs := ih (List.cons.inj h).2
      simpa [hc] using hs

def Whole (segments : List Text) : Prop := ∀ segment ∈ segments, ∀ c ∈ segment, isSlash c = false

theorem rawSegments_ne_nil (s : Text) : rawSegments s ≠ [] := by
  cases s with
  | nil => simp [rawSegments]
  | cons c s => unfold rawSegments; split <;> [simp; (split <;> simp)]

theorem rawSegments_cons_slash (hc : isSlash c = true) (s : Text) :
    rawSegments (c :: s) = [] :: rawSegments s := by
  simp [rawSegments, hc]

theorem rawSegments_append_slash (hs : ∀ d ∈ s, isSlash d = false) (hc : isSlash c = true)
    (t : Text) : rawSegments (s ++ c :: t) = s :: rawSegments t := by
  induction s with
  | nil => exact rawSegments_cons_slash hc t
  | cons d s ih =>
    have hd := hs d (by simp)
    rw [List.cons_append, rawSegments, if_neg (by simp [hd]), ih fun e he => hs e (by simp [he])]

theorem rawSegments_eq_singleton (hs : ∀ d ∈ s, isSlash d = false) : rawSegments s = [s] := by
  induction s with
  | nil => rfl
  | cons d s ih =>
    have hd := hs d (by simp)
    rw [rawSegments, if_neg (by simp [hd]), ih fun e he => hs e (by simp [he])]

theorem whole_rawSegments (s : Text) : Whole (rawSegments s) := by
  intro segment h c hc
  induction s generalizing segment with
  | nil =>
    obtain rfl := List.mem_singleton.mp h
    cases hc
  | cons d s ih =>
    by_cases hd : isSlash d = true
    · rw [rawSegments_cons_slash hd] at h
      rcases List.mem_cons.mp h with rfl | h
      · cases hc
      · exact ih _ h hc
    · obtain ⟨first, others, he⟩ := List.exists_cons_of_ne_nil (rawSegments_ne_nil s)
      rw [rawSegments, if_neg hd, he] at h
      rcases List.mem_cons.mp h with rfl | h
      · rcases List.mem_cons.mp hc with rfl | hc
        · simpa using hd
        · exact ih _ (by rw [he]; simp) hc
      · exact ih _ (by rw [he]; simp [h]) hc

theorem pathText_cons (segment : Text) (segments : List Text) :
    pathText (segment :: segments) = '/' :: segment ++ pathText segments := rfl

theorem pathText_append (segments rest : List Text) :
    pathText (segments ++ rest) = pathText segments ++ pathText rest := List.flatMap_append

theorem pathText_append_slash (segments : List Text) (s : Text) :
    ∃ t, pathText segments ++ '/' :: s = '/' :: t := by
  cases segments with
  | nil => exact ⟨s, rfl⟩
  | cons segment segments => exact ⟨_, rfl⟩

/-- Cutting at the slashes finds the segments of a path again, in front of whatever follows. -/
theorem rawSegments_pathText_append (h : Whole segments) (s : Text) :
    rawSegments (pathText segments ++ '/' :: s) = [] :: (segments ++ rawSegments s) := by
  induction segments with
  | nil => exact rawSegments_cons_slash (by decide) s
  | cons segment segments ih =>
    obtain ⟨t, ht⟩ := pathText_append_slash segments s
    have ih := ih fun x hx => h x (by simp [hx])
    rw [ht, rawSegments_cons_slash (by decide)] at ih
    rw [pathText_cons, List.append_assoc, ht, List.cons_append,
      rawSegments_cons_slash (by decide),
      rawSegments_append_slash (h segment (by simp)) (by decide), List.tail_eq_of_cons_eq ih]
    rfl

theorem rawSegments_pathText (h : Whole segments) :
    rawSegments (pathText segments) = [] :: segments := by
  rcases List.eq_nil_or_concat segments with rfl | ⟨front, last, rfl⟩
  · rfl
  · rw [List.concat_eq_append] at h ⊢
    have hlast : pathText [last] = '/' :: last := List.append_nil _
    rw [pathText_append, hlast,
      rawSegments_pathText_append (fun x hx => h x (by simp [hx])),
      rawSegments_eq_singleton (h last (by simp))]

theorem getLast?_pathText_eq_slash_iff (hs : ∀ c ∈ segment, isSlash c = false)
    (front : List Text) :
    (pathText (front ++ [segment])).getLast? = some '/' ↔ segment = [] := by
  have htext : pathText (front ++ [segment]) = pathText front ++ ['/'] ++ segment := by
    simp [pathText]
  rw [htext]
  constructor
  · intro he
    by_contra hne
    rw [List.getLast?_append_of_ne_nil _ hne] at he
    exact absurd (hs '/' (List.mem_of_getLast? he)) (by decide)
  · rintro rfl
    simp

theorem pathText_inj (h : Whole segments) (hd : Whole done) :
    pathText segments = pathText done ↔ segments = done := by
  refine ⟨fun he => ?_, congrArg pathText⟩
  have hr := congrArg rawSegments he
  rw [rawSegments_pathText h, rawSegments_pathText hd] at hr
  exact List.tail_eq_of_cons_eq hr

/-- A path lies below another one if it goes on with further segments. -/
theorem append_slash_prefix_pathText_iff (h : Whole segments) (hd : Whole done) :
    pathText done ++ ['/'] <+: pathText segments ↔
      ∃ below, below ≠ [] ∧ segments = done ++ below := by
  constructor
  · rintro ⟨t, ht⟩
    rw [List.append_assoc, List.singleton_append] at ht
    have hr := congrArg rawSegments ht
    rw [rawSegments_pathText_append hd, rawSegments_pathText h] at hr
    exact ⟨rawSegments t, rawSegments_ne_nil t, (List.tail_eq_of_cons_eq hr).symm⟩
  · rintro ⟨below, hb, rfl⟩
    obtain ⟨first, others, rfl⟩ := List.exists_cons_of_ne_nil hb
    rw [pathText_append, pathText_cons]
    exact ⟨first ++ pathText others, by simp⟩

/-- A segment as it may stand in a normalized path. -/
structure Settled (segment : Text) : Prop where
  shown : ∀ c ∈ segment, pathSet c = false
  whole : ∀ c ∈ segment, isSlash c = false
  not_double : isDoubleDot segment = false
  not_single : isSingleDot segment = false

theorem whole_of_settled (h : ∀ segment ∈ segments, Settled segment) : Whole segments :=
  fun segment hs => (h segment hs).whole

theorem pathSet_of_mem_pathText {segments : List Text} (h : ∀ segment ∈ segments, Settled segment)
    (hc : c ∈ pathText segments) : pathSet c = false := by
  obtain ⟨segment, hs, hc⟩ := List.mem_flatMap.mp hc
  rcases List.mem_cons.mp hc with rfl | hc
  · decide
  · exact (h segment hs).shown c hc

theorem map_percentEncode_eq_self (h : ∀ segment ∈ segments, Settled segment) :
    segments.map (percentEncode pathSet) = segments := by
  conv_rhs => rw [← List.map_id segments]
  exact List.map_congr_left fun x hx => percentEncode_eq_self (h x hx).shown

theorem settled_nil : Settled [] where
  shown := by simp
  whole := by simp
  not_double := by decide
  not_single := by decide

theorem pathSet_percentEncode (h : c ∈ percentEncode pathSet s) : pathSet c = false := by
  have hwritten : encodingChars.all (!pathSet ·) = true := by decide
  rcases mem_percentEncode h with ⟨-, hc⟩ | hc
  · exact hc
  · simpa using List.all_eq_true.mp hwritten c hc

theorem isSlash_percentEncode (hs : ∀ d ∈ s, isSlash d = false)
    (h : c ∈ percentEncode set s) : isSlash c = false := by
  have hwritten : encodingChars.all (!isSlash ·) = true := by decide
  rcases mem_percentEncode h with ⟨hc, -⟩ | hc
  · exact hs c hc
  · simpa using List.all_eq_true.mp hwritten c hc

/-- The segments that a text consists of, as they are shown. -/
def steps (s : Text) : List Text := (rawSegments s).map (percentEncode pathSet)

theorem steps_ne_nil (s : Text) : steps s ≠ [] := by
  simpa [steps] using rawSegments_ne_nil s

theorem shown_of_mem_steps (h : segment ∈ steps s) :
    (∀ c ∈ segment, pathSet c = false) ∧ ∀ c ∈ segment, isSlash c = false := by
  obtain ⟨raw, hraw, rfl⟩ := List.mem_map.mp h
  exact ⟨fun c hc => pathSet_percentEncode hc,
    fun c hc => isSlash_percentEncode (whole_rawSegments s raw hraw) hc⟩

def enter (done : List Text) (step : Text) : List Text :=
  if isDoubleDot step then shorten done else if isSingleDot step then done else done ++ [step]

theorem resolve_cons (done rest : List Text) (step : Text) :
    resolve done (step :: rest) =
      if rest = [] ∧ (isDoubleDot step ∨ isSingleDot step) then enter done step ++ [[]]
      else resolve (enter done step) rest := rfl

theorem mem_of_mem_shorten (h : segment ∈ shorten done) : segment ∈ done := by
  unfold shorten at h
  split at h
  · exact h
  · exact (List.dropLast_sublist done).mem h

theorem mem_enter {step : Text} (h : segment ∈ enter done step) :
    segment ∈ done ∨
      (segment = step ∧ isDoubleDot segment = false ∧ isSingleDot segment = false) := by
  unfold enter at h
  split at h
  · exact .inl (mem_of_mem_shorten h)
  · next hd =>
    split at h
    · exact .inl h
    · next hs =>
      rcases List.mem_append.mp h with h | h
      · exact .inl h
      · obtain rfl := List.mem_singleton.mp h
        exact .inr ⟨rfl, by simpa using hd, by simpa using hs⟩

theorem resolve_ne_nil (hr : rest ≠ []) : resolve done rest ≠ [] := by
  induction rest generalizing done with
  | nil => exact absurd rfl hr
  | cons step rest ih =>
    rw [resolve_cons]
    split
    · simp
    · next hlast =>
      by_cases he : rest = []
      · subst he
        simp only [true_and, not_or, Bool.not_eq_true] at hlast
        simp [resolve, enter, hlast.1, hlast.2]
      · exact ih he

theorem mem_resolve (h : segment ∈ resolve done rest) :
    segment ∈ done ∨ segment = [] ∨
      (segment ∈ rest ∧ isDoubleDot segment = false ∧ isSingleDot segment = false) := by
  induction rest generalizing done with
  | nil => exact .inl h
  | cons step rest ih =>
    have hmem : segment ∈ enter done step ∨ segment = [] ∨
        (segment ∈ rest ∧ isDoubleDot segment = false ∧ isSingleDot segment = false) := by
      rw [resolve_cons] at h
      split at h
      · rcases List.mem_append.mp h with h | h
        · exact .inl h
        · exact .inr (.inl (List.mem_singleton.mp h))
      · exact ih h
    rcases hmem with hm | rfl | ⟨hm, hdots⟩
    · rcases mem_enter hm with hm | ⟨rfl, hdots⟩
      · exact .inl hm
      · exact .inr (.inr ⟨by simp, hdots⟩)
    · exact .inr (.inl rfl)
    · exact .inr (.inr ⟨by simp [hm], hdots⟩)

theorem settled_resolve (h : ∀ segment ∈ done, Settled segment) (s : Text) :
    ∀ segment ∈ resolve done (steps s), Settled segment := by
  intro segment hm
  rcases mem_resolve hm with hm | rfl | ⟨hm, hd, hs⟩
  · exact h segment hm
  · exact settled_nil
  · exact ⟨(shown_of_mem_steps hm).1, (shown_of_mem_steps hm).2, hd, hs⟩

theorem resolve_append (h : ∀ segment ∈ segments,
    isDoubleDot segment = false ∧ isSingleDot segment = false) (done rest : List Text) :
    resolve done (segments ++ rest) = resolve (done ++ segments) rest := by
  induction segments generalizing done with
  | nil => simp
  | cons segment segments ih =>
    obtain ⟨hd, hs⟩ := h segment (by simp)
    have henter : enter done segment = done ++ [segment] := by simp [enter, hd, hs]
    rw [List.cons_append, resolve_cons, if_neg (by simp [hd, hs]), henter,
      ih fun x hx => h x (by simp [hx])]
    simp

theorem exists_normalizePath (s : Text) :
    ∃ segments, segments ≠ [] ∧ (∀ segment ∈ segments, Settled segment) ∧
      normalizePath s = pathText segments :=
  ⟨_, resolve_ne_nil (steps_ne_nil _), settled_resolve (by simp) _, rfl⟩

theorem resolve_of_settled (h : ∀ segment ∈ segments, Settled segment) (done : List Text) :
    resolve done segments = done ++ segments := by
  have hr := resolve_append (fun x hx => ⟨(h x hx).not_double, (h x hx).not_single⟩) done []
  rwa [List.append_nil, resolve] at hr

/-- One slash at the start of a text is not part of its path. -/
theorem normalizePath_slash (s : Text) :
    normalizePath ('/' :: s) = pathText (resolve [] (steps s)) := rfl

/-- Below settled segments, the rest of a path is taken step by step. -/
theorem normalizePath_pathText_append (h : ∀ segment ∈ segments, Settled segment) (s : Text) :
    normalizePath (pathText segments ++ '/' :: s) = pathText (resolve segments (steps s)) := by
  obtain ⟨t, ht⟩ := pathText_append_slash segments s
  have hraw := rawSegments_pathText_append (whole_of_settled h) s
  rw [ht, rawSegments_cons_slash (by decide)] at hraw
  have hsteps : steps t = segments ++ steps s := by
    rw [steps, List.tail_eq_of_cons_eq hraw, List.map_append, map_percentEncode_eq_self h, steps]
  rw [ht, normalizePath_slash, hsteps,
    resolve_append fun x hx => ⟨(h x hx).not_double, (h x hx).not_single⟩, List.nil_append]

theorem exists_steps_pathText (h : ∀ segment ∈ segments, Settled segment) (hne : segments ≠ []) :
    ∃ t, pathText segments = '/' :: t ∧ steps t = segments := by
  obtain ⟨first, rest, rfl⟩ := List.exists_cons_of_ne_nil hne
  have hraw := rawSegments_pathText (whole_of_settled h)
  rw [pathText_cons, List.cons_append, rawSegments_cons_slash (by decide)] at hraw
  refine ⟨first ++ pathText rest, rfl, ?_⟩
  rw [steps, List.tail_eq_of_cons_eq hraw, map_percentEncode_eq_self h]

theorem normalizePath_pathText (h : ∀ segment ∈ segments, Settled segment) (hne : segments ≠ []) :
    normalizePath (pathText segments) = pathText segments := by
  obtain ⟨t, ht, hsteps⟩ := exists_steps_pathText h hne
  rw [ht, normalizePath_slash, hsteps, resolve_of_settled h, List.nil_append, ht]

end ApiGateway.Url
