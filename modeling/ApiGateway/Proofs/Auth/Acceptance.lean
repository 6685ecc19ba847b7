import ApiGateway.Auth.Bearer
import ApiGateway.Proofs.Except
import ApiGateway.Proofs.Text.Cut

/-! # Which tokens are accepted

A text is accepted with its claims exactly if it is a bearer token whose header
names an algorithm with a shared secret, whose signature is the one that this
algorithm gives under the secret, and whose payload decodes to claims that have
not expired and name the audience.
-/

namespace ApiGateway

open Json

/-- The algorithms with a shared secret, each with the hash function that it signs with. -/
def Algorithm.keyed : List (Algorithm × HashFunction) :=
  [(.hs256, .sha256), (.hs384, .sha384), (.hs512, .sha512)]

theorem Algorithm.hash?_eq_some_iff {algorithm : Algorithm} {hash : HashFunction} :
    algorithm.hash? = some hash ↔ (algorithm, hash) ∈ keyed := by
  cases algorithm <;> cases hash <;> decide

namespace Payload

/-- Each registered claim stands at most once among the members, with a value of its shape. -/
def RegisteredOnce (members : List (Text × Raw)) : Prop :=
  ∀ name shape, (name, shape) ∈ registered →
    (members.filter (·.1 = name)).length ≤ 1 ∧
      ∀ value, (name, value) ∈ members → shape value = true

theorem atMost_one_iff {name : Text} {shape : Raw.Shape} {members : List (Text × Raw)} :
    shape.atMost 1 name members = true ↔
      (members.filter (·.1 = name)).length ≤ 1 ∧
        ∀ value, (name, value) ∈ members → shape value = true := by
  simp only [Raw.Shape.atMost, Bool.and_eq_true, decide_eq_true_eq, List.all_eq_true,
    List.mem_filter]
  refine and_congr_right fun _ => ⟨fun h value hv => h (name, value) ⟨hv, rfl⟩, ?_⟩
  rintro h ⟨key, value⟩ ⟨hv, rfl⟩
  exact h value hv

theorem isReadable_object_iff {fields : List (RawString × Raw)} :
    isReadable (.object fields) = true ↔
      ∃ members, (Raw.object fields).members? = some members ∧ RegisteredOnce members := by
  cases hm : (Raw.object fields).members? with
  | none => simp [isReadable, hm]
  | some members =>
    simp only [isReadable, hm, List.all_eq_true, Prod.forall, atMost_one_iff, Option.some.injEq,
      exists_eq_left', RegisteredOnce]

end Payload

namespace Json

theorem RawNumber.value?_ne_object (n : RawNumber) (claims : Members) :
    n.value? ≠ some (.object claims) := by
  intro h
  unfold RawNumber.value? at h
  simp only at h
  split at h
  · split at h
    · cases h
    · split at h
      · cases h
      · obtain ⟨x, -, hx⟩ := Option.map_eq_some_iff.mp h
        cases hx
  · obtain ⟨x, -, hx⟩ := Option.map_eq_some_iff.mp h
    cases hx

/-- Only a document that is an object has an object for its value. -/
theorem Raw.exists_fields_of_value? {raw : Raw} {depth : Nat} {claims : Members}
    (h : raw.value? depth = some (.object claims)) : ∃ fields, raw = .object fields := by
  cases raw with
  | object fields => exact ⟨fields, rfl⟩
  | number n => exact absurd (by simpa [Raw.value?] using h) (n.value?_ne_object claims)
  | null => simp [Raw.value?] at h
  | bool b => simp [Raw.value?] at h
  | string s => simp [Raw.value?] at h
  | array items => cases depth <;> simp [Raw.value?] at h

end Json

namespace Token

def Names (header : Text) (algorithm : Algorithm) : Prop :=
  ∃ bytes raw, Base64.url.decode? header = some bytes ∧ Raw.ofBytes? bytes = some raw ∧
    TokenHeader.algorithm? raw = some algorithm

/-- The payload part of a token decodes to an object with these claims, in which no registered
claim is repeated or has a value that cannot be read. -/
def Carries (payload : Text) (claims : Claims) : Prop :=
  ∃ bytes raw members, Base64.url.decode? payload = some bytes ∧ Raw.ofBytes? bytes = some raw ∧
    raw.value? Raw.maxDepth = some (.object claims) ∧ raw.members? = some members ∧
    Payload.RegisteredOnce members

variable {t : Token} {header payload signature : Text} {algorithm : Algorithm} {claims : Claims}

theorem ofText?_eq_some_iff {s : Text} :
    ofText? s = some ⟨header, payload, signature⟩ ↔
      s = header ++ '.' :: payload ++ '.' :: signature ∧ '.' ∉ payload ∧ '.' ∉ signature := by
  simp only [ofText?, Option.bind_eq_bind, Option.bind_eq_some_iff, Prod.exists,
    Text.cutLast_eq_some_iff, Option.some.injEq, Token.mk.injEq]
  constructor
  · rintro ⟨signed, s', ⟨rfl, hs⟩, h, p, ⟨rfl, hp⟩, rfl, rfl, rfl⟩
    exact ⟨rfl, hp, hs⟩
  · rintro ⟨rfl, hp, hs⟩
    exact ⟨_, _, ⟨rfl, hs⟩, _, _, ⟨rfl, hp⟩, rfl, rfl, rfl⟩

theorem algorithm_eq_ok_iff : t.algorithm = .ok algorithm ↔ Names t.header algorithm := by
  cases hb : Base64.url.decode? t.header with
  | none => simp [Token.algorithm, Names, hb]
  | some bytes =>
    cases hr : Raw.ofBytes? bytes with
    | none => simp [Token.algorithm, Names, hb, hr]
    | some raw =>
      cases ha : TokenHeader.algorithm? raw <;> simp [Token.algorithm, Names, hb, hr, ha]

theorem document_eq_ok_iff {value : Json} :
    t.document = .ok value ↔ ∃ bytes raw, Base64.url.decode? t.payload = some bytes ∧
      Raw.ofBytes? bytes = some raw ∧ raw.value? Raw.maxDepth = some value ∧
      Payload.isReadable raw = true := by
  cases hb : Base64.url.decode? t.payload with
  | none => simp [document, hb]
  | some bytes =>
    cases hr : Raw.ofBytes? bytes with
    | none => simp [document, hb, hr]
    | some raw =>
      cases hv : raw.value? Raw.maxDepth with
      | none => simp [document, hb, hr, hv]
      | some v => cases hp : Payload.isReadable raw <;> simp [document, hb, hr, hv, hp]

theorem document_eq_ok_object_iff :
    t.document = .ok (.object claims) ↔ Carries t.payload claims := by
  rw [document_eq_ok_iff]
  constructor
  · rintro ⟨bytes, raw, hb, hr, hv, hp⟩
    obtain ⟨fields, rfl⟩ := Raw.exists_fields_of_value? hv
    obtain ⟨members, hm, ho⟩ := Payload.isReadable_object_iff.mp hp
    exact ⟨bytes, _, members, hb, hr, hv, hm, ho⟩
  · rintro ⟨bytes, raw, members, hb, hr, hv, hm, ho⟩
    obtain ⟨fields, rfl⟩ := Raw.exists_fields_of_value? hv
    exact ⟨bytes, _, hb, hr, hv, Payload.isReadable_object_iff.mpr ⟨members, hm, ho⟩⟩

theorem hasExpired_object_eq_false_iff {now : Nat} :
    hasExpired now (.object claims) = false ↔
      ∀ expiry, (claims.get? "exp").bind Payload.time? = some expiry → now ≤ expiry := by
  simp only [hasExpired, Payload.expiry?, Json.member?]
  cases (claims.get? "exp").bind Payload.time? <;> simp

end Token

namespace Audience

theorem exists_contains_iff {name : Text} {claim : Json} :
    (∃ audience, ofClaim? claim = some audience ∧ audience.contains name = true) ↔
      claim = .string name ∨ ∃ items, claim = .array items ∧ .string name ∈ items := by
  have ht (item : Json) : item.text? = some name ↔ item = .string name := by
    cases item <;> simp [text?]
  cases claim with
  | string s => simp [ofClaim?, contains]
  | array items => simp [ofClaim?, contains, List.mem_filterMap, ht]
  | _ => simp [ofClaim?]

end Audience

namespace Verifier

variable {v : Verifier} {now : Nat} {authorization : Option Text} {claims : Claims}

theorem bearerToken_eq_ok_iff {token : Text} :
    bearerToken authorization = .ok token ↔ authorization = some (bearerScheme ++ token) := by
  cases authorization with
  | none => simp [bearerToken]
  | some s =>
    cases hp : bearerScheme.isPrefixOf? s with
    | none =>
      have hn : s ≠ bearerScheme ++ token := fun h => by
        simp [Text.isPrefixOf?_eq_some_iff.mpr h] at hp
      simp [bearerToken, hp, hn]
    | some rest =>
      obtain rfl := Text.isPrefixOf?_eq_some_iff.mp hp
      simp [bearerToken, hp]

@[simp] theorem verify_none : v.verify now none = .error .missingBearer := rfl

theorem payload_eq_ok_iff {token : Text} {value : Json} :
    v.payload now token = .ok value ↔ ∃ t algorithm hash, Token.ofText? token = some t ∧
      t.algorithm = .ok algorithm ∧ algorithm.hash? = some hash ∧
      t.signature = t.signatureFor hash v.secret ∧ t.document = .ok value ∧
      Token.hasExpired now value = false := by
  cases ht : Token.ofText? token with
  | none => simp [payload, ht]
  | some t =>
    simp only [payload, ht, Except.bind_eq_ok_iff, Except.mapError_eq_ok_iff, Option.some.injEq]
    constructor
    · rintro ⟨algorithm, ha, h⟩
      split at h
      · cases h
      · next hash hh =>
        split at h
        · cases h
        · next hs =>
          obtain ⟨payload, hd, hx⟩ := Except.bind_eq_ok_iff.mp h
          split at hx
          · cases hx
          · next he =>
            cases hx
            exact ⟨t, algorithm, hash, rfl, ha, hh, not_not.mp hs,
              Except.mapError_eq_ok_iff.mp hd, by simpa using he⟩
    · rintro ⟨_, algorithm, hash, rfl, ha, hh, hs, hd, he⟩
      refine ⟨algorithm, ha, ?_⟩
      simp only [hh, if_neg (not_not.mpr hs)]
      exact Except.bind_eq_ok_iff.mpr ⟨value, Except.mapError_eq_ok_iff.mpr hd, by simp [he]⟩

theorem accept_eq_ok_iff {value : Json} :
    v.accept value = .ok claims ↔ value = .object claims ∧
      ∃ claim audience, claims.get? "aud" = some claim ∧ Audience.ofClaim? claim = some audience ∧
        audience.contains v.audience = true := by
  constructor
  · intro h
    unfold accept at h
    split at h
    · next members =>
      split at h
      · cases h
      · next claim hg =>
        split at h
        · cases h
        · next audience ha =>
          split at h
          · next hc =>
            cases h
            exact ⟨rfl, claim, audience, hg, ha, hc⟩
          · cases h
    · cases h
  · rintro ⟨rfl, claim, audience, hg, ha, hc⟩
    simp only [accept, hg, ha, hc, if_true]

/-- The claims have not expired and name the audience, alone or in a list. -/
structure Admits (v : Verifier) (now : Nat) (claims : Claims) : Prop where
  unexpired : ∀ expiry, (claims.get? "exp").bind Payload.time? = some expiry → now ≤ expiry
  audience : claims.get? "aud" = some (.string v.audience) ∨
    ∃ items, claims.get? "aud" = some (.array items) ∧ .string v.audience ∈ items

theorem names_audience_iff :
    (∃ claim audience, claims.get? "aud" = some claim ∧ Audience.ofClaim? claim = some audience ∧
      audience.contains v.audience = true) ↔
    (claims.get? "aud" = some (.string v.audience) ∨
      ∃ items, claims.get? "aud" = some (.array items) ∧ .string v.audience ∈ items) := by
  constructor
  · rintro ⟨claim, audience, hg, ha⟩
    rw [hg]
    simpa using Audience.exists_contains_iff.mp ⟨audience, ha⟩
  · rintro (hg | ⟨items, hg, hm⟩)
    · obtain ⟨audience, ha⟩ := Audience.exists_contains_iff.mpr (.inl rfl)
      exact ⟨_, audience, hg, ha⟩
    · obtain ⟨audience, ha⟩ := Audience.exists_contains_iff.mpr (.inr ⟨items, rfl, hm⟩)
      exact ⟨_, audience, hg, ha⟩

/-- An authorization text is accepted with its claims exactly if it is a bearer token, cut at its
last two points, with a header that names an algorithm with a shared secret, the one signature
that is right under it, and a payload of claims that the verifier admits. -/
theorem verify_eq_ok_iff (v : Verifier) (now : Nat) (authorization : Option Text)
    (claims : Claims) :
    v.verify now authorization = .ok claims ↔
      ∃ (header payload signature : Text) (algorithm : Algorithm) (hash : HashFunction),
        authorization =
          some (("Bearer " : Text) ++ (header ++ '.' :: payload ++ '.' :: signature)) ∧
        '.' ∉ payload ∧ '.' ∉ signature ∧
        Token.Names header algorithm ∧ (algorithm, hash) ∈ Algorithm.keyed ∧
        signature = Base64.url.encode (hash.hmac v.secret (Text.utf8 (header ++ '.' :: payload))) ∧
        Token.Carries payload claims ∧ v.Admits now claims := by
  simp only [verify, Except.bind_eq_ok_iff, bearerToken_eq_ok_iff, payload_eq_ok_iff,
    accept_eq_ok_iff, names_audience_iff]
  constructor
  · rintro ⟨token, rfl, value, ⟨⟨header, payload, signature⟩, algorithm, hash, ht, ha, hh, hs, hd,
      he⟩, rfl, haud⟩
    obtain ⟨rfl, hp, hs'⟩ := Token.ofText?_eq_some_iff.mp ht
    exact ⟨header, payload, signature, algorithm, hash, rfl, hp, hs',
      Token.algorithm_eq_ok_iff.mp ha, Algorithm.hash?_eq_some_iff.mp hh, hs,
      Token.document_eq_ok_object_iff.mp hd, Token.hasExpired_object_eq_false_iff.mp he, haud⟩
  · rintro ⟨header, payload, signature, algorithm, hash, rfl, hp, hs', hn, hh, hs, hc, hx, haud⟩
    exact ⟨_, rfl, _, ⟨⟨header, payload, signature⟩, algorithm, hash,
      Token.ofText?_eq_some_iff.mpr ⟨rfl, hp, hs'⟩, Token.algorithm_eq_ok_iff.mpr hn,
      Algorithm.hash?_eq_some_iff.mpr hh, hs, Token.document_eq_ok_object_iff.mpr hc,
      Token.hasExpired_object_eq_false_iff.mpr hx⟩, rfl, haud⟩

end Verifier

/-- A request passes on its first authorization value, which has to be readable. -/
theorem Bearer.check_eq_ok_iff {v : Verifier} {now : Nat} {request : Request} {claims : Claims} :
    Bearer.check v now request = .ok claims ↔ ∃ value text,
      request.fields.first? .authorization = some value ∧ FieldValue.text? value = some text ∧
        v.verify now (some text) = .ok claims := by
  unfold check authorization?
  cases request.fields.first? .authorization with
  | none => simp
  | some value =>
    cases ht : FieldValue.text? value with
    | none => simp [ht]
    | some text => simp [ht]

end ApiGateway
