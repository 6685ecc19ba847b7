import ApiGateway.Http.Field
import ApiGateway.Proofs.Text.Split
import ApiGateway.Text.Utf8
import Mathlib.Data.List.Basic

/-! # Text and field values

A readable text and the value with its characters as bytes stand for each other:
the value is read as the text, and the text can be sent as the value.
-/

namespace ApiGateway

/-- Printable ASCII and tabs. -/
def Text.Readable (s : Text) : Prop :=
  ∀ c ∈ s, (0x20 ≤ c.toNat ∧ c.toNat < 0x7F) ∨ c.toNat = 0x09

def Text.Visible (s : Text) : Prop := ∀ c ∈ s, 0x20 < c.toNat ∧ c.toNat < 0x7F

-- Only the characters of the text are looked at, not all that there are.
instance (s : Text) : Decidable s.Readable := List.decidableBAll _ s

instance (s : Text) : Decidable s.Visible := List.decidableBAll _ s

namespace Text

variable {s t sep : Text} {parts : List Text}

theorem Visible.readable (h : Visible s) : Readable s := fun c hc =>
  .inl ⟨(h c hc).1.le, (h c hc).2⟩

theorem Visible.append (hs : Visible s) (ht : Visible t) : Visible (s ++ t) := fun c hc =>
  (List.mem_append.mp hc).elim (hs c) (ht c)

theorem readable_join (hs : Readable sep) (h : ∀ part ∈ parts, Readable part) :
    Readable (join sep parts) :=
  forall_mem_join hs h

end Text

namespace FieldValue

variable {v : FieldValue} {s : Text}

theorem isReadable_iff {b : UInt8} :
    isReadable b = true ↔ (0x20 ≤ b.toNat ∧ b.toNat < 0x7F) ∨ b.toNat = 0x09 := by
  simp [isReadable, UInt8.le_iff_toNat_le, UInt8.lt_iff_toNat_lt, ← UInt8.toNat_inj]

theorem isLegal_of_isReadable {b : UInt8} (h : isReadable b = true) : isLegal b = true := by
  rw [isReadable_iff] at h
  simp only [isLegal, Bool.or_eq_true, Bool.and_eq_true, decide_eq_true_eq, bne_iff_ne, ne_eq,
    beq_iff_eq, UInt8.le_iff_toNat_le, ← UInt8.toNat_inj, UInt8.reduceToNat]
  omega

theorem toNat_ofNat_toNat (b : UInt8) : (Char.ofNat b.toNat).toNat = b.toNat := by
  have hb := b.toNat_lt
  unfold Char.ofNat
  rw [dif_pos (Or.inl (by omega))]
  rfl

theorem ofText_latin1 (v : FieldValue) : ofText (Bytes.latin1 v) = v := by
  rw [ofText, Bytes.ofLatin1, Bytes.latin1, List.map_map]
  refine (List.map_congr_left fun b _ => ?_).trans v.map_id
  rw [Function.comp_apply, toNat_ofNat_toNat, UInt8.ofNat_toNat, id]

theorem text?_eq_some_iff : text? v = some s ↔ s.Readable ∧ v = ofText s := by
  rw [text?, Option.ite_none_right_eq_some, List.all_eq_true, Option.some.injEq]
  constructor
  · rintro ⟨hv, rfl⟩
    refine ⟨fun c hc => ?_, (ofText_latin1 v).symm⟩
    obtain ⟨b, hb, rfl⟩ := List.mem_map.mp hc
    rw [toNat_ofNat_toNat]
    exact isReadable_iff.mp (hv b hb)
  · rintro ⟨hs, rfl⟩
    have hbyte : ∀ c ∈ s, (UInt8.ofNat c.toNat).toNat = c.toNat := fun c hc => by
      have := hs c hc
      rw [UInt8.toNat_ofNat']
      omega
    constructor
    · intro b hb
      obtain ⟨c, hc, rfl⟩ := List.mem_map.mp hb
      rw [isReadable_iff, hbyte c hc]
      exact hs c hc
    · rw [Bytes.latin1, ofText, Bytes.ofLatin1, List.map_map]
      refine (List.map_congr_left fun c hc => ?_).trans s.map_id
      rw [Function.comp_apply, hbyte c hc, Char.ofNat_toNat, id]

/-- The value that a text is sent as. There is none if a control character occurs in it, other than
a tab. -/
def ofText? (s : Text) : Option FieldValue :=
  let bytes := Text.utf8 s
  if bytes.all isLegal then some bytes else none

theorem utf8_of_readable (h : s.Readable) : Text.utf8 s = ofText s := by
  rw [Text.utf8, ofText, Bytes.ofLatin1, ← List.flatMap_singleton' (s.map _), List.flatMap_map]
  refine List.flatMap_congr fun c hc => ?_
  rw [Text.utf8Char, if_pos]
  have := h c hc
  omega

theorem ofText?_of_readable (h : s.Readable) : ofText? s = some (ofText s) := by
  have hread : (ofText s).text? = some s := text?_eq_some_iff.mpr ⟨h, rfl⟩
  rw [text?, Option.ite_none_right_eq_some, List.all_eq_true] at hread
  rw [ofText?, utf8_of_readable h]
  exact if_pos (List.all_eq_true.mpr fun b hb => isLegal_of_isReadable (hread.1 b hb))

end FieldValue

end ApiGateway
