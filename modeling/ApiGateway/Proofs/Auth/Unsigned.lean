import ApiGateway.Proofs.Auth.Acceptance

/-! # Payloads without a signature

The signature of a token is checked before its payload is read. Without the
right one, the token is refused for a reason that its header alone decides, so
that nothing about the handling of payloads can be learned without the secret.
-/

namespace ApiGateway

theorem Algorithm.hash?_eq_none_iff {algorithm : Algorithm} :
    algorithm.hash? = none ↔ ∀ hash, (algorithm, hash) ∉ keyed := by
  simp only [Option.eq_none_iff_forall_ne_some, ne_eq, hash?_eq_some_iff]

theorem HashFunction.hmac_ne_nil (hash : HashFunction) (key message : Bytes) :
    hash.hmac key message ≠ [] := by
  apply List.ne_nil_of_length_pos
  cases hash <;>
    simp [hmac, digest, Sha2.sha256, Sha2.sha384, Sha2.sha512, Sha2.Family.hash,
      Sha2.Family.output, Sha2.Family.wordBytes, Sha2.words32, Sha2.words64, Bytes.length_ofNat]

theorem Base64.Alphabet.encode_ne_nil (alphabet : Alphabet) {bytes : Bytes} (h : bytes ≠ []) :
    alphabet.encode bytes ≠ [] := by
  match bytes with
  | [] => exact absurd rfl h
  | [_] | [_, _] | _ :: _ :: _ :: _ => simp [encode]

namespace Token

variable {t t' : Token} {secret : Bytes} {algorithm : Algorithm}

/-- The signature is the one that is right under the secret, by the algorithm that the header
names. -/
def SignedWith (secret : Bytes) (t : Token) : Prop :=
  ∃ algorithm hash, Names t.header algorithm ∧ (algorithm, hash) ∈ Algorithm.keyed ∧
    t.signature = t.signatureFor hash secret

structure WellCut (t : Token) : Prop where
  payload : '.' ∉ t.payload
  signature : '.' ∉ t.signature

def text (t : Token) : Text := t.header ++ '.' :: t.payload ++ '.' :: t.signature

def bearerText (t : Token) : Text := ("Bearer " : Text) ++ t.text

/-- Why a token is refused if it is not signed. -/
def unsignedRefusal (t : Token) : Refusal :=
  match t.algorithm with
  | .error fault => .token fault
  | .ok algorithm =>
    match algorithm.hash? with
    | none => .unsupportedAlgorithm algorithm
    | some _ => .token .signature

theorem unsignedRefusal_congr (h : t'.header = t.header) :
    t'.unsignedRefusal = t.unsignedRefusal := by
  simp only [unsignedRefusal, Token.algorithm, h]

theorem unsignedRefusal_of_names (hn : Names t.header algorithm) (hh : algorithm.hash? = none) :
    t.unsignedRefusal = .unsupportedAlgorithm algorithm := by
  simp only [unsignedRefusal, algorithm_eq_ok_iff.mpr hn, hh]

theorem Names.unique {header : Text} {algorithm' : Algorithm} (h : Names header algorithm)
    (h' : Names header algorithm') : algorithm = algorithm' := by
  obtain ⟨bytes, raw, hb, hr, ha⟩ := h
  obtain ⟨bytes', raw', hb', hr', ha'⟩ := h'
  obtain rfl := Option.some.inj (hb.symm.trans hb')
  obtain rfl := Option.some.inj (hr.symm.trans hr')
  exact Option.some.inj (ha.symm.trans ha')

theorem not_signedWith_of_hash?_eq_none (hn : Names t.header algorithm)
    (hh : algorithm.hash? = none) : ¬ t.SignedWith secret := by
  rintro ⟨_, hash, hn', hk, -⟩
  obtain rfl := hn.unique hn'
  exact Algorithm.hash?_eq_none_iff.mp hh hash hk

theorem not_signedWith_of_nil (hs : t.signature = []) : ¬ t.SignedWith secret := by
  rintro ⟨_, hash, -, -, h⟩
  rw [hs] at h
  exact Base64.url.encode_ne_nil (hash.hmac_ne_nil _ _) h.symm

end Token

namespace Verifier

variable {v : Verifier} {t : Token}

/-- The checks in front of the payload see nothing of it but what the signature covers. -/
theorem payload_of_not_signedWith (now : Nat) {s : Text} (ht : Token.ofText? s = some t)
    (h : ¬ t.SignedWith v.secret) : v.payload now s = .error t.unsignedRefusal := by
  unfold payload Token.unsignedRefusal
  simp only [ht]
  cases ha : t.algorithm with
  | error fault => rfl
  | ok algorithm =>
    cases hh : algorithm.hash? with
    | none => simp only [Except.mapError, bind, Except.bind, hh]
    | some hash =>
      have hs : t.signature ≠ t.signatureFor hash v.secret := fun hs =>
        h ⟨algorithm, hash, Token.algorithm_eq_ok_iff.mp ha, Algorithm.hash?_eq_some_iff.mp hh, hs⟩
      simp only [Except.mapError, bind, Except.bind, hh, if_pos hs]

theorem verify_bearerText (now : Nat) (hc : t.WellCut) (h : ¬ t.SignedWith v.secret) :
    v.verify now (some t.bearerText) = .error t.unsignedRefusal := by
  have hb : bearerToken (some t.bearerText) = .ok t.text := bearerToken_eq_ok_iff.mpr rfl
  have ht : Token.ofText? t.text = some t :=
    Token.ofText?_eq_some_iff.mpr ⟨rfl, hc.payload, hc.signature⟩
  simp only [verify, hb, payload_of_not_signedWith now ht h, bind, Except.bind]

/-- For each header there is one reason for which every verifier refuses every token with this
header that is not signed with its secret, at any time and whatever the payload is. If the header
names an algorithm without a shared secret, no token with it is signed, and that is the reason. -/
theorem exists_refusal_of_unsigned (header : Text) :
    ∃ reason, ∀ (v : Verifier) (now : Nat) (t : Token), t.header = header → t.WellCut →
      (¬ t.SignedWith v.secret → v.verify now (some t.bearerText) = .error reason) ∧
        ∀ algorithm, Token.Names header algorithm →
          (∀ hash, (algorithm, hash) ∉ Algorithm.keyed) →
          v.verify now (some t.bearerText) = .error (.unsupportedAlgorithm algorithm) := by
  refine ⟨(⟨header, [], []⟩ : Token).unsignedRefusal, ?_⟩
  rintro v now t rfl hc
  constructor
  · intro h
    rw [verify_bearerText now hc h]
    exact congrArg _ (Token.unsignedRefusal_congr rfl)
  · intro algorithm hn hk
    have hh := Algorithm.hash?_eq_none_iff.mpr hk
    rw [verify_bearerText now hc (Token.not_signedWith_of_hash?_eq_none hn hh),
      Token.unsignedRefusal_of_names hn hh]

/-- A token of the algorithm HS256 whose payload is no base64, and nobody has signed it. -/
def malformed : Token := ⟨"eyJhbGciOiJIUzI1NiJ9", "!", []⟩

/-- One with the same header, whose payload is meant for another audience. -/
def astray : Token := ⟨"eyJhbGciOiJIUzI1NiJ9", "eyJhdWQiOiJvdGhlciJ9", []⟩

/-- A token of the algorithm RS256. -/
def asymmetric : Token := ⟨"eyJhbGciOiJSUzI1NiJ9", "eyJhdWQiOiJvdGhlciJ9", "c2ln"⟩

theorem exists_refusal_of_unsigned_malformed :
    (∃ reason,
      verify ⟨[0x6B], "gateway_api"⟩ 1800000000 (some malformed.bearerText) = .error reason ∧
        verify ⟨[0x6B], "gateway_api"⟩ 1800000000 (some astray.bearerText) = .error reason) ∧
      verify ⟨[0x6B], "gateway_api"⟩ 1800000000 (some asymmetric.bearerText) =
        .error (.unsupportedAlgorithm .rs256) := by
  obtain ⟨reason, h⟩ := exists_refusal_of_unsigned "eyJhbGciOiJIUzI1NiJ9"
  refine ⟨⟨reason, ?_, ?_⟩, ?_⟩
  · exact (h _ _ malformed rfl ⟨by decide, by decide⟩).1 (Token.not_signedWith_of_nil rfl)
  · exact (h _ _ astray rfl ⟨by decide, by decide⟩).1 (Token.not_signedWith_of_nil rfl)
  · obtain ⟨_, h'⟩ := exists_refusal_of_unsigned "eyJhbGciOiJSUzI1NiJ9"
    have hn : asymmetric.algorithm = .ok .rs256 := by decide +kernel
    exact (h' _ _ asymmetric rfl ⟨by decide, by decide⟩).2 .rs256
      (Token.algorithm_eq_ok_iff.mp hn) (Algorithm.hash?_eq_none_iff.mp rfl)

end Verifier

end ApiGateway
