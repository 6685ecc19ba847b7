import ApiGateway.Proofs.Auth.Acceptance
import ApiGateway.Proofs.Number.Binary64

/-! # How long a token is accepted

The clock decides on a token through one claim only. If its value stands for a
time, the token is accepted up to that time; any other value is not looked at,
and the token is accepted for ever.
-/

namespace ApiGateway

open Json

namespace Payload

variable {value : Json} {t : Nat}

/-- A number that is not negative stands for a time, a fraction for the nearest one. -/
inductive Denotes : Json → Nat → Prop

  | integer (n : Nat) : Denotes (.integer n) n

  | real {x : Binary64} {t : Nat} : 0 ≤ x.toRat → round x.toRat = t → Denotes (.real x) t

theorem time?_real (x : Binary64) :
    time? (.real x) =
      if 0 ≤ x.toRat ∧ x.magnitudeRat < UInt64.size then some x.roundHalfUp else none := by
  have hsign : ((!x.negative) = true ∨ x.isZero = true) ↔ 0 ≤ x.toRat := by
    simp [Binary64.toRat_nonneg_iff]
  have hbound := Binary64.fraction_lt_iff (x := x) UInt64.size
  simp only [← hsign, ← hbound]
  rfl

theorem denotes_of_time? (h : time? value = some t) : Denotes value t := by
  cases value with
  | integer i =>
    cases i with
    | ofNat n => cases h; exact .integer t
    | negSucc n => cases h
  | real x =>
    rw [time?_real] at h
    split at h
    · next hx =>
      cases h
      refine .real hx.1 ?_
      rw [Binary64.toRat_of_nonneg hx.1, ← Binary64.roundHalfUp_eq_round]
    · cases h
  | null | bool | string | array | object => cases h

theorem time?_of_denotes (h : Denotes value t) :
    time? value = some t ∨ time? value = none ∧ UInt64.size ≤ t := by
  cases h with
  | integer n => exact .inl rfl
  | @real x _ hx hr =>
    rw [time?_real]
    rw [Binary64.toRat_of_nonneg hx] at hr
    by_cases hlt : x.magnitudeRat < UInt64.size
    · rw [if_pos ⟨hx, hlt⟩]
      rw [← Binary64.roundHalfUp_eq_round] at hr
      exact .inl (congrArg some (by exact_mod_cast hr))
    · rw [if_neg fun hb => hlt hb.2]
      refine .inr ⟨rfl, ?_⟩
      have hle : (UInt64.size : ℚ) ≤ x.magnitudeRat := not_lt.mp hlt
      have hfloor : (UInt64.size : ℤ) ≤ round x.magnitudeRat := by
        rw [round_eq, Int.le_floor, Int.cast_natCast]
        exact le_add_of_le_of_nonneg hle (by norm_num)
      rw [hr] at hfloor
      exact_mod_cast hfloor

end Payload

namespace Verifier

variable {v : Verifier} {now : Nat} {authorization : Option Text} {claims : Claims} {value : Json}

/-- Of a text that is accepted at one time, the expiry alone decides at any other. -/
theorem verify_eq_ok_iff_of_verify (h : v.verify now authorization = .ok claims) (later : Nat) :
    v.verify later authorization = .ok claims ↔
      Token.hasExpired later (.object claims) = false := by
  simp only [verify, Except.bind_eq_ok_iff, bearerToken_eq_ok_iff, payload_eq_ok_iff,
    accept_eq_ok_iff] at h ⊢
  obtain ⟨token, hb, value, ⟨t, algorithm, hash, ht, ha, hh, hs, hd, -⟩, rfl, haud⟩ := h
  constructor
  · rintro ⟨_, -, _, ⟨_, _, _, -, -, -, -, -, hx⟩, rfl, -⟩
    exact hx
  · intro hx
    exact ⟨token, hb, _, ⟨t, algorithm, hash, ht, ha, hh, hs, hd, hx⟩, rfl, haud⟩

/-- A token with an expiry is accepted up to the time that this stands for, on every clock of 64
bits. If it stands for no time, the token is accepted whatever the clock says. -/
theorem expiry_of_verify (h : v.verify now authorization = .ok claims)
    (he : claims.get? "exp" = some value) :
    (∃ t, Payload.Denotes value t ∧
      ∀ later < UInt64.size, v.verify later authorization = .ok claims ↔ later ≤ t) ∨
    ((∀ t, ¬ Payload.Denotes value t) ∧ ∀ later, v.verify later authorization = .ok claims) := by
  have hclock (later : Nat) : v.verify later authorization = .ok claims ↔
      ∀ expiry, Payload.time? value = some expiry → later ≤ expiry := by
    rw [verify_eq_ok_iff_of_verify h, Token.hasExpired_object_eq_false_iff, he]
    rfl
  by_cases hd : ∃ t, Payload.Denotes value t
  · obtain ⟨t, ht⟩ := hd
    refine .inl ⟨t, ht, fun later hlater => ?_⟩
    rw [hclock]
    obtain hsome | ⟨hnone, hle⟩ := Payload.time?_of_denotes ht
    · simp [hsome]
    · simpa [hnone] using (hlater.trans_le hle).le
  · refine .inr ⟨not_exists.mp hd, fun later => (hclock later).mpr fun t ht => ?_⟩
    exact absurd ⟨t, Payload.denotes_of_time? ht⟩ hd

def brief : Verifier := ⟨[0x6B], "gateway_api"⟩

/-- A token with the expiry 1893456000.5. -/
def expiringText : Text :=
  "Bearer eyJhbGciOiJIUzI1NiJ9.eyJhdWQiOiJnYXRld2F5X2FwaSIsImV4cCI6MTg5MzQ1NjAwMC41fQ." ++
    "5Fzx52pfrupXZ081EU53SA82XIBWXut-rVj4xHrGQAk"

theorem exists_verify_expiringText : ∃ claims value,
    brief.verify 1800000000 (some expiringText) = .ok claims ∧ claims.get? "exp" = some value := by
  have hsome : ((brief.verify 1800000000 (some expiringText)).toOption.bind
      (Members.get? "exp")).isSome := by decide +kernel
  obtain ⟨value, hvalue⟩ := Option.isSome_iff_exists.mp hsome
  obtain ⟨claims, hclaims, hexp⟩ := Option.bind_eq_some_iff.mp hvalue
  exact ⟨claims, value, Except.toOption_eq_some_iff.mp hclaims, hexp⟩

theorem expiry_of_verify_expiringText : ∃ claims value,
    brief.verify 1800000000 (some expiringText) = .ok claims ∧
      claims.get? "exp" = some value ∧
      ((∃ t, Payload.Denotes value t ∧ ∀ later < UInt64.size,
          brief.verify later (some expiringText) = .ok claims ↔ later ≤ t) ∨
        ((∀ t, ¬ Payload.Denotes value t) ∧
          ∀ later, brief.verify later (some expiringText) = .ok claims)) := by
  obtain ⟨claims, value, hclaims, hexp⟩ := exists_verify_expiringText
  exact ⟨claims, value, hclaims, hexp, expiry_of_verify hclaims hexp⟩

/-- A token whose expiry is the number -1. -/
def expiredText : Text :=
  "Bearer eyJhbGciOiJIUzI1NiJ9.eyJhdWQiOiJnYXRld2F5X2FwaSIsImV4cCI6LTF9." ++
    "6CfwV6xm3MaesRNEs9PXLV4G8VIaiMbAR-kRRvh71hU"

/-- An expiry that has passed before the clock began is not noticed. -/
theorem not_unexpired_of_verify :
    ¬ ∀ claims value, brief.verify 1800000000 (some expiredText) = .ok claims →
      claims.get? "exp" = some value →
      (∃ i : ℤ, value = .integer i ∧ 1800000000 ≤ i) ∨
        ∃ x : Binary64, value = .real x ∧ 1800000000 ≤ round x.toRat := by
  have hsome : ((brief.verify 1800000000 (some expiredText)).toOption.bind
      (Members.get? "exp")).bind integer? = some (-1) := by decide +kernel
  obtain ⟨value, hvalue, hint⟩ := Option.bind_eq_some_iff.mp hsome
  obtain ⟨claims, hclaims, hexp⟩ := Option.bind_eq_some_iff.mp hvalue
  intro h
  obtain ⟨i, rfl, hi⟩ | ⟨x, rfl, -⟩ := h claims value (Except.toOption_eq_some_iff.mp hclaims) hexp
  · obtain rfl : i = -1 := Option.some.inj hint
    omega
  · cases hint

end Verifier

end ApiGateway
