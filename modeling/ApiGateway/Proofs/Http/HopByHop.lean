import ApiGateway.Proofs.Http.Fields
import ApiGateway.Proofs.Http.Value
import Mathlib

/-! # What does not survive a connection

The elements of a `Connection` value are read from its bytes, whatever else the
value holds. In a readable value each of them takes away the name that it
spells; a value with any other byte takes away nothing. Names that are neither
fixed nor listed keep all their values.
-/

namespace ApiGateway

namespace FieldName

variable {s t : Text}

theorem isTokenChar_toLower (c : Char) : isTokenChar c.toLower = isTokenChar c := by
  by_cases hu : c.isUpper
  · have ha : c.isAlpha = true := by rw [Char.isAlpha, hu, Bool.true_or]
    simp [isTokenChar, Char.isAlphanum, ha]
  · rw [Char.toLower_eq_of_not_isUpper hu]

theorem ofText?_lower (s : Text) : ofText? s.lower = ofText? s := by
  have hall : s.lower.all isTokenChar = s.all isTokenChar := by
    rw [Text.lower, List.all_map]
    exact congrArg (s.all ·) (funext isTokenChar_toLower)
  have hlower : s.lower.lower = s.lower := by simp [Text.lower]
  have hnil : s.lower ≠ [] ↔ s ≠ [] := by simp [Text.lower]
  have hlength : s.lower.length = s.length := List.length_map _
  simp only [ofText?, hall, hlower, hnil, hlength]

theorem ofText?_congr (h : Text.equalIgnoringCase s t = true) : ofText? s = ofText? t := by
  rw [← ofText?_lower s, eq_of_beq h, ofText?_lower]

end FieldName

namespace FieldValue

variable {v : FieldValue} {n : FieldName}

def Readable (v : FieldValue) : Prop := ∀ b ∈ v, isReadable b = true

instance (v : FieldValue) : Decidable v.Readable := List.decidableBAll _ v

def isSpace (c : Char) : Bool := c = ' ' || c = '\t'

/-- What stands between the commas of a value, without the blanks around it. -/
def elements (v : FieldValue) : List Text :=
  (Text.split ',' (Bytes.latin1 v)).map (Text.trimBoth isSpace)

/-- An element of the value spells the name. -/
def Names (v : FieldValue) (n : FieldName) : Prop :=
  ∃ element ∈ v.elements, FieldName.ofText? element = some n

instance (v : FieldValue) (n : FieldName) : Decidable (v.Names n) :=
  inferInstanceAs (Decidable (∃ element ∈ v.elements, _))

theorem text?_eq_some_latin1_iff {s : Text} :
    text? v = some s ↔ v.Readable ∧ Bytes.latin1 v = s := by
  rw [text?, Option.ite_none_right_eq_some, List.all_eq_true, Option.some.injEq]
  rfl

/-- Of the blank characters, only those of field values are readable. -/
theorem isBlank_eq_isSpace {c : Char} (h : (0x20 ≤ c.toNat ∧ c.toNat < 0x7F) ∨ c.toNat = 0x09) :
    Text.isBlank c = isSpace c := by
  have hall : ∀ n < 0x7F, 0x20 ≤ n ∨ n = 0x09 →
      Text.isBlank (Char.ofNat n) = isSpace (Char.ofNat n) := by decide
  have hc := hall c.toNat (by omega) (by omega)
  rwa [Char.ofNat_toNat] at hc

theorem trim_eq_of_mem_split {piece : Text} (h : v.Readable)
    (hp : piece ∈ Text.split ',' (Bytes.latin1 v)) :
    piece.trim = Text.trimBoth isSpace piece := by
  have hread := (text?_eq_some_iff.mp (text?_eq_some_latin1_iff.mpr ⟨h, rfl⟩)).1
  have hpieces : ∀ piece ∈ Text.split ',' (Bytes.latin1 v), piece.Readable :=
    Text.forall_mem_split_iff.mpr fun c hc => .inr (hread c hc)
  exact Text.trimBoth_congr fun c hc => isBlank_eq_isSpace (hpieces piece hp c hc)

end FieldValue

namespace HopByHop

open FieldValue

/-- Only readable values nominate, and they nominate all names that they list. -/
theorem nominates_iff {n : FieldName} {fs : Fields} :
    Nominates n fs ↔ ∃ v ∈ fs.values .connection, v.Readable ∧ v.Names n := by
  unfold Nominates Names elements
  refine exists_congr fun v => and_congr_right fun _ => ?_
  simp only [text?_eq_some_latin1_iff, List.mem_map, exists_exists_and_eq_and]
  constructor
  · rintro ⟨_, ⟨hread, rfl⟩, piece, hp, hn⟩
    rw [trim_eq_of_mem_split hread hp] at hn
    exact ⟨hread, piece, hp, hn⟩
  · rintro ⟨hread, piece, hp, hn⟩
    rw [← trim_eq_of_mem_split hread hp] at hn
    exact ⟨_, ⟨hread, rfl⟩, piece, hp, hn⟩

/-- Whatever else a readable value lists, each of its elements that is a name takes that name away,
in any letter case. A value that is not readable takes nothing away. -/
theorem absent_of_named (fs : Fields) :
    (∀ v ∈ fs.values .connection, v.Readable → ∀ element ∈ v.elements, ∀ spelling n,
      Text.equalIgnoringCase spelling element = true → FieldName.ofText? spelling = some n →
      (strip fs).values n = []) ∧
    ∀ n ∉ fixed, (∀ v ∈ fs.values .connection, v.Readable → ¬ v.Names n) →
      (strip fs).values n = fs.values n := by
  constructor
  · intro v hv hread element he spelling n hs hn
    have hnames : v.Names n := ⟨element, he, (FieldName.ofText?_congr hs).symm.trans hn⟩
    exact values_strip_eq_nil (.inr (nominates_iff.mpr ⟨v, hv, hread, hnames⟩))
  · intro n hf hunnamed
    refine values_strip_of_not hf fun hn => ?_
    obtain ⟨v, hv, hread, hnames⟩ := nominates_iff.mp hn
    exact hunnamed v hv hread hnames

/-- A readable value with elements that are no names between two that are, and a value that is not
readable. -/
def mixed : Fields :=
  [(.connection, .ofText "X-Old, not a name, ,\tx-new"),
    (.connection, FieldValue.ofText "x-kept, " ++ [0xE9]), (⟨"x-old"⟩, .ofText "1"),
    (⟨"x-new"⟩, .ofText "2"), (⟨"x-kept"⟩, .ofText "3"), (⟨"x-new"⟩, .ofText "4")]

theorem absent_of_named_mixed :
    (strip mixed).values ⟨"x-new"⟩ = [] ∧
      (strip mixed).values ⟨"x-kept"⟩ = mixed.values ⟨"x-kept"⟩ := by
  obtain ⟨hremoved, hkept⟩ := absent_of_named mixed
  constructor
  · exact hremoved (FieldValue.ofText "X-Old, not a name, ,\tx-new") (by decide) (by decide) "x-new"
      (by decide) "X-NEW" ⟨"x-new"⟩ (by decide) (by decide)
  · exact hkept ⟨"x-kept"⟩ (by decide) (by decide)

/-- A legal byte beyond ASCII shields the other elements of its value. -/
theorem not_absent_of_named :
    ¬ ∀ fs : Fields, ∀ v ∈ fs.values .connection, (∀ b ∈ v, isLegal b = true) →
      ∀ element ∈ v.elements, ∀ n, FieldName.ofText? element = some n →
      (strip fs).values n = [] := by
  intro h
  have hkept := h mixed (FieldValue.ofText "x-kept, " ++ [0xE9]) (by decide) (by decide +kernel)
    "x-kept" (by decide) ⟨"x-kept"⟩ (by decide)
  revert hkept
  decide

theorem strip_eq_filter (fs : Fields) :
    strip fs = fs.filter fun f => f.1 ∉ nominated fs ++ fixed := by
  rw [strip, Fields.foldl_erase]

theorem nominated_strip (fs : Fields) : nominated (strip fs) = [] := by
  have hnone : (strip fs).values .connection = [] := values_strip_eq_nil (.inl (by decide))
  rw [nominated, Fields.readable, hnone]
  rfl

theorem strip_strip (fs : Fields) : strip (strip fs) = strip fs := by
  rw [strip_eq_filter (strip fs), nominated_strip, List.nil_append]
  refine List.filter_eq_self.mpr fun f hf => ?_
  rw [strip_eq_filter] at hf
  have hkept := (List.mem_filter.mp hf).2
  simp only [List.mem_append, not_or, decide_eq_true_eq] at hkept ⊢
  exact hkept.2

/-- What is left of a header section when only the fields of the connection are taken out. -/
structure Sanitized (fs result : Fields) : Prop where
  /-- No line is added, and none changes its place. -/
  lines : List.Sublist result fs
  absent {n : FieldName} : n ∈ fixed → result.values n = []
  missing {n : FieldName} : fs.values n ≠ [] → result.values n = [] →
    n ∈ fixed ∨ ∃ v ∈ fs.values .connection, v.Names n
  other {n : FieldName} : n ∉ fixed → (∀ v ∈ fs.values .connection, ¬ v.Names n) →
    result.values n = fs.values n
  /-- A name is never left with a part of its values. -/
  whole (n : FieldName) : result.values n = [] ∨ result.values n = fs.values n

/-- Nothing else is taken out, and there is nothing left to take out. -/
theorem sanitized_strip (fs : Fields) : Sanitized fs (strip fs) ∧ strip (strip fs) = strip fs := by
  have hcases (n : FieldName) : (n ∈ fixed ∨ Nominates n fs) ∧ (strip fs).values n = [] ∨
      (strip fs).values n = fs.values n := by
    by_cases h : n ∈ fixed ∨ Nominates n fs
    · exact .inl ⟨h, values_strip_eq_nil h⟩
    · rw [not_or] at h
      exact .inr (values_strip_of_not h.1 h.2)
  have hnamed {n : FieldName} (h : Nominates n fs) : ∃ v ∈ fs.values .connection, v.Names n := by
    obtain ⟨v, hv, -, hnames⟩ := nominates_iff.mp h
    exact ⟨v, hv, hnames⟩
  refine ⟨?_, strip_strip fs⟩
  constructor
  case lines =>
    rw [strip_eq_filter]
    exact List.filter_sublist
  case absent => exact fun h => values_strip_eq_nil (.inl h)
  case missing =>
    intro n hpresent hmissing
    rcases hcases n with ⟨h, -⟩ | h
    · exact h.imp_right hnamed
    · exact absurd (h.symm.trans hmissing) hpresent
  case other =>
    intro n hf hother
    refine values_strip_of_not hf fun h => ?_
    obtain ⟨v, hv, hnames⟩ := hnamed h
    exact hother v hv hnames
  case whole => exact fun n => (hcases n).imp_left (·.2)

end HopByHop

end ApiGateway
