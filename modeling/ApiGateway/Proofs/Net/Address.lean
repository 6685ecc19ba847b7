import ApiGateway.Net.Address
import ApiGateway.Proofs.Text.Split

/-! # Characters of addresses

The text of an address consists of digits, colons and points, so it can stand in
a list between commas and blanks.
-/

namespace ApiGateway.IpAddress

variable {c : Char} {n base : ℕ} {ip : IpAddress}

def textChars : Text := "0123456789abcdef:."

theorem digitChar_mem (h : n < 16) : n.digitChar ∈ textChars := by
  have hall : ∀ n < 16, Nat.digitChar n ∈ textChars := by decide
  exact hall n h

theorem mem_toDigits (hb : 1 < base) (hle : base ≤ 16) (h : c ∈ Nat.toDigits base n) :
    c ∈ textChars := by
  induction n using Nat.strong_induction_on with
  | _ n ih =>
    rw [Nat.toDigits_eq_if hb] at h
    split at h
    · obtain rfl := List.mem_singleton.mp h
      exact digitChar_mem (by omega)
    · rcases List.mem_append.mp h with h | h
      · exact ih _ (Nat.div_lt_self (by omega) hb) h
      · obtain rfl := List.mem_singleton.mp h
        exact digitChar_mem ((Nat.mod_lt n (by omega)).trans_le hle)

theorem mem_join_toDigits {sep : Text} {numbers : List ℕ} (hb : 1 < base) (hle : base ≤ 16)
    (hs : sep ⊆ textChars) (h : c ∈ Text.join sep (numbers.map (Nat.toDigits base))) :
    c ∈ textChars := by
  rcases Text.mem_join h with h | ⟨part, hp, hc⟩
  · exact hs h
  · obtain ⟨n, -, rfl⟩ := List.mem_map.mp hp
    exact mem_toDigits hb hle hc

theorem mem_v4Text {bytes : List ℕ} (h : c ∈ v4Text bytes) : c ∈ textChars :=
  mem_join_toDigits (by decide) (by decide) (by decide) h

theorem mem_groupsText {groups : List ℕ} (h : c ∈ groupsText groups) : c ∈ textChars :=
  mem_join_toDigits (by decide) (by decide) (by decide) h

theorem mem_v6Text {groups : List ℕ} (h : c ∈ v6Text groups) : c ∈ textChars := by
  unfold v6Text at h
  dsimp only at h
  split at h
  · exact mem_groupsText h
  · rw [List.mem_append, List.mem_append] at h
    have hgap : ("::" : Text) ⊆ textChars := by decide
    rcases h with (h | h) | h
    · exact mem_groupsText h
    · exact hgap h
    · exact mem_groupsText h

theorem mem_text (h : c ∈ ip.text) : c ∈ textChars := by
  unfold text at h
  split at h
  · exact mem_v4Text h
  · have hfront : ("::ffff:" : Text) ⊆ textChars := by decide
    rcases List.mem_append.mp h with h | h
    · exact hfront h
    · exact mem_v4Text h
  · exact mem_v6Text h

end ApiGateway.IpAddress
