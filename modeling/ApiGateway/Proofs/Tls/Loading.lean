import ApiGateway.Proofs.Except
import ApiGateway.Tls.Basic

/-! # Loading TLS material

Every file that is configured either gives what it is configured for, or ends
the loading with its error. Nothing that cannot be loaded is left out, and a
certificate without its key, or a key without its certificate, is not looked
at. The name that a certificate bears is only for the log.
-/

namespace ApiGateway

/-- The files that are read for TLS. A certificate without its key is not. -/
def OutboundSettings.material (settings : OutboundSettings) : List Text :=
  (match settings.clientIdentity? with
    | some (cert, key) => [cert, key]
    | none => []) ++ settings.serviceCa.toList

namespace Tls

variable {files files' : Files} {path : Text} {certificates anchors : List Bytes}
  {key : Pem.Section} {error : TlsError}

theorem readCertificates_congr (h : files path = files' path) :
    readCertificates files path = readCertificates files' path := by
  simp only [readCertificates, readFile, h]

theorem readPrivateKey_congr (h : files path = files' path) :
    readPrivateKey files path = readPrivateKey files' path := by
  simp only [readPrivateKey, readFile, h]

/-- The file is sound to its end, and these are the certificates in it. -/
def HoldsCertificates (files : Files) (path : Text) (certificates : List Bytes) : Prop :=
  ∃ content, files path = .ok content ∧ (Pem.read content).isSound = true ∧
    ((Pem.read content).sections.filter (·.kind = .certificate)).map (·.content) = certificates

inductive Unlisted (files : Files) (path : Text) : TlsError → Prop
  | unreadable {cause : FileError} :
      files path = .error cause → Unlisted files path (.unreadable path cause)

  | malformed {content : Bytes} : files path = .ok content →
      (Pem.read content).isSound = false → Unlisted files path (.malformed path)

theorem readCertificates_of_error {cause : FileError} (h : files path = .error cause) :
    readCertificates files path = .error (.unreadable path cause) := by
  rw [readCertificates, readFile, h]
  rfl

theorem readCertificates_of_ok {content : Bytes} (h : files path = .ok content) :
    readCertificates files path =
      if (Pem.read content).isSound then
        .ok (((Pem.read content).sections.filter (·.kind = .certificate)).map (·.content))
      else .error (.malformed path) := by
  rw [readCertificates, readFile, h]
  simp only [Except.mapError, bind, Except.bind, Pem.certificates?]
  cases (Pem.read content).isSound <;> rfl

theorem readCertificates_eq_ok_iff :
    readCertificates files path = .ok certificates ↔
      HoldsCertificates files path certificates := by
  rcases h : files path with cause | content
  · simp [readCertificates_of_error h, HoldsCertificates, h]
  · cases hs : (Pem.read content).isSound <;>
      simp [readCertificates_of_ok h, HoldsCertificates, h, hs]

theorem readCertificates_eq_error_iff :
    readCertificates files path = .error error ↔ Unlisted files path error := by
  constructor
  · intro he
    rcases h : files path with cause | content
    · rw [readCertificates_of_error h] at he
      exact Except.error.inj he ▸ .unreadable h
    · rw [readCertificates_of_ok h] at he
      split at he
      · cases he
      · next hs => exact Except.error.inj he ▸ .malformed h (Bool.eq_false_iff.mpr hs)
  · intro hu
    cases hu with
    | unreadable h => exact readCertificates_of_error h
    | malformed h hs => rw [readCertificates_of_ok h, hs, if_neg Bool.false_ne_true]

/-- The key is the first one in the file, before any fault. -/
def HoldsKey (files : Files) (path : Text) (key : Pem.Section) : Prop :=
  ∃ content, files path = .ok content ∧
    (Pem.read content).sections.find? Pem.isPrivateKey = some key

/-- Why a file gives no private key: there is none, or none before the first fault. -/
inductive Keyless (files : Files) (path : Text) : TlsError → Prop
  | unreadable {cause : FileError} :
      files path = .error cause → Keyless files path (.unreadable path cause)

  | malformed {content : Bytes} : files path = .ok content →
      (∀ s ∈ (Pem.read content).sections, Pem.isPrivateKey s = false) →
      (Pem.read content).isSound = false → Keyless files path (.malformed path)

  | noPrivateKey {content : Bytes} : files path = .ok content →
      (∀ s ∈ (Pem.read content).sections, Pem.isPrivateKey s = false) →
      (Pem.read content).isSound = true → Keyless files path (.noPrivateKey path)

theorem readPrivateKey_of_error {cause : FileError} (h : files path = .error cause) :
    readPrivateKey files path = .error (.unreadable path cause) := by
  rw [readPrivateKey, readFile, h]
  rfl

theorem readPrivateKey_of_some {content : Bytes} (h : files path = .ok content)
    (hk : (Pem.read content).sections.find? Pem.isPrivateKey = some key) :
    readPrivateKey files path = .ok key := by
  rw [readPrivateKey, readFile, h]
  simp only [Except.mapError, bind, Except.bind, Pem.privateKey?, hk]

theorem readPrivateKey_of_none {content : Bytes} (h : files path = .ok content)
    (hk : (Pem.read content).sections.find? Pem.isPrivateKey = none) :
    readPrivateKey files path =
      if (Pem.read content).isSound then .error (.noPrivateKey path)
      else .error (.malformed path) := by
  rw [readPrivateKey, readFile, h]
  simp only [Except.mapError, bind, Except.bind, Pem.privateKey?, hk]
  cases (Pem.read content).isSound <;> rfl

theorem readPrivateKey_eq_ok_iff :
    readPrivateKey files path = .ok key ↔ HoldsKey files path key := by
  rcases h : files path with cause | content
  · simp [readPrivateKey_of_error h, HoldsKey, h]
  · rcases hk : (Pem.read content).sections.find? Pem.isPrivateKey with _ | found
    · cases hs : (Pem.read content).isSound <;>
        simp [readPrivateKey_of_none h hk, HoldsKey, h, hk, hs]
    · simp [readPrivateKey_of_some h hk, HoldsKey, h, hk]

theorem readPrivateKey_eq_error_iff :
    readPrivateKey files path = .error error ↔ Keyless files path error := by
  have hnone {content : Bytes} : (Pem.read content).sections.find? Pem.isPrivateKey = none ↔
      ∀ s ∈ (Pem.read content).sections, Pem.isPrivateKey s = false := by
    simp only [List.find?_eq_none, Bool.not_eq_true]
  constructor
  · intro he
    rcases h : files path with cause | content
    · rw [readPrivateKey_of_error h] at he
      exact Except.error.inj he ▸ .unreadable h
    · rcases hk : (Pem.read content).sections.find? Pem.isPrivateKey with _ | found
      · rw [readPrivateKey_of_none h hk] at he
        split at he
        · next hs => exact Except.error.inj he ▸ .noPrivateKey h (hnone.mp hk) hs
        · next hs =>
          exact Except.error.inj he ▸ .malformed h (hnone.mp hk) (Bool.eq_false_iff.mpr hs)
      · rw [readPrivateKey_of_some h hk] at he
        cases he
  · intro hkeyless
    cases hkeyless with
    | unreadable h => exact readPrivateKey_of_error h
    | malformed h hk hs =>
      rw [readPrivateKey_of_none h (hnone.mpr hk), hs, if_neg Bool.false_ne_true]
    | noPrivateKey h hk hs => rw [readPrivateKey_of_none h (hnone.mpr hk), if_pos hs]

def HoldsAnchors (files : Files) (path : Text) (anchors : List Bytes) : Prop :=
  ∃ certificates, HoldsCertificates files path certificates ∧
    certificates.filter Certificate.isAnchor = anchors ∧ anchors ≠ []

inductive Anchorless (files : Files) (path : Text) : TlsError → Prop
  | unlisted {error : TlsError} : Unlisted files path error → Anchorless files path error

  | unusable {certificates : List Bytes} : HoldsCertificates files path certificates →
      (∀ c ∈ certificates, Certificate.isAnchor c = false) →
      Anchorless files path (.noCertificates path)

theorem loadAnchors_of_holdsCertificates (h : HoldsCertificates files path certificates) :
    loadAnchors files path =
      if certificates.filter Certificate.isAnchor = [] then .error (.noCertificates path)
      else .ok (certificates.filter Certificate.isAnchor,
        certificates.length - (certificates.filter Certificate.isAnchor).length) := by
  rw [loadAnchors, readCertificates_eq_ok_iff.mpr h]
  simp only [bind, Except.bind]
  cases certificates.filter Certificate.isAnchor <;> rfl

theorem loadAnchors_eq_ok_iff :
    (∃ skipped, loadAnchors files path = .ok (anchors, skipped)) ↔
      HoldsAnchors files path anchors := by
  constructor
  · rintro ⟨skipped, h⟩
    obtain ⟨certificates, hc, -⟩ := Except.bind_eq_ok_iff.mp h
    have hholds := readCertificates_eq_ok_iff.mp hc
    rw [loadAnchors_of_holdsCertificates hholds] at h
    split at h <;> cases h
    next hne => exact ⟨certificates, hholds, rfl, hne⟩
  · rintro ⟨certificates, hholds, rfl, hne⟩
    rw [loadAnchors_of_holdsCertificates hholds, if_neg hne]
    exact ⟨_, rfl⟩

theorem loadAnchors_eq_error_iff :
    loadAnchors files path = .error error ↔ Anchorless files path error := by
  constructor
  · intro h
    rcases Except.bind_eq_error_iff.mp h with he | ⟨certificates, hc, -⟩
    · exact .unlisted (readCertificates_eq_error_iff.mp he)
    · have hholds := readCertificates_eq_ok_iff.mp hc
      rw [loadAnchors_of_holdsCertificates hholds] at h
      split at h <;> cases h
      next hnil =>
        refine .unusable hholds fun c hm => Bool.eq_false_iff.mpr ?_
        exact List.filter_eq_nil_iff.mp hnil c hm
  · intro h
    cases h with
    | unlisted hu =>
      exact Except.bind_eq_error_iff.mpr (.inl (readCertificates_eq_error_iff.mpr hu))
    | unusable hholds hnone =>
      have hnil : ∀ c ∈ _, ¬ Certificate.isAnchor c = true := fun c hm =>
        Bool.eq_false_iff.mp (hnone c hm)
      rw [loadAnchors_of_holdsCertificates hholds, if_pos (List.filter_eq_nil_iff.mpr hnil)]

end Tls

namespace ClientIdentity

variable {files : Files} {certPath keyPath : Text} {identity : ClientIdentity} {error : TlsError}

/-- The two files hold chain and key of an identity, whatever its name. -/
structure Presented (files : Files) (certPath keyPath : Text) (identity : ClientIdentity) :
    Prop where
  chain : Tls.HoldsCertificates files certPath identity.chain
  chain_ne_nil : identity.chain ≠ []
  key : Tls.HoldsKey files keyPath identity.key

/-- The identity with the name of its leaf, or without one if that cannot be read. -/
def named (identity : ClientIdentity) : ClientIdentity :=
  { identity with commonName := identity.chain.head?.bind CommonName.ofCertificate? }

theorem Presented.named (h : Presented files certPath keyPath identity) :
    Presented files certPath keyPath identity.named :=
  ⟨h.chain, h.chain_ne_nil, h.key⟩

/-- Why two files give no identity. The key is only looked at behind a certificate. -/
inductive Missing (files : Files) (certPath keyPath : Text) : TlsError → Prop
  | unlisted {error : TlsError} :
      Tls.Unlisted files certPath error → Missing files certPath keyPath error

  | noCertificates : Tls.HoldsCertificates files certPath [] →
      Missing files certPath keyPath (.noCertificates certPath)

  | keyless {leaf : Bytes} {rest : List Bytes} {error : TlsError} :
      Tls.HoldsCertificates files certPath (leaf :: rest) → Tls.Keyless files keyPath error →
      Missing files certPath keyPath error

theorem load_of_nil (h : Tls.HoldsCertificates files certPath []) :
    load files certPath keyPath = .error (.noCertificates certPath) := by
  rw [load, Tls.readCertificates_eq_ok_iff.mpr h]
  rfl

theorem load_of_cons {leaf : Bytes} {rest : List Bytes}
    (h : Tls.HoldsCertificates files certPath (leaf :: rest)) :
    load files certPath keyPath = (Tls.readPrivateKey files keyPath).map fun key =>
      ⟨leaf :: rest, key, CommonName.ofCertificate? leaf⟩ := by
  rw [load, Tls.readCertificates_eq_ok_iff.mpr h]
  cases Tls.readPrivateKey files keyPath <;> rfl

theorem load_eq_ok_iff :
    load files certPath keyPath = .ok identity ↔
      Presented files certPath keyPath identity ∧ identity.named = identity := by
  constructor
  · intro h
    obtain ⟨chain, hc, -⟩ := Except.bind_eq_ok_iff.mp h
    have hchain := Tls.readCertificates_eq_ok_iff.mp hc
    cases chain with
    | nil => rw [load_of_nil hchain] at h; cases h
    | cons leaf rest =>
      rw [load_of_cons hchain] at h
      obtain ⟨key, hk, rfl⟩ := Except.map_eq_ok_iff.mp h
      exact ⟨⟨hchain, List.cons_ne_nil _ _, Tls.readPrivateKey_eq_ok_iff.mp hk⟩, rfl⟩
  · rintro ⟨⟨hchain, hne, hk⟩, hn⟩
    obtain ⟨chain, key, name⟩ := identity
    obtain ⟨leaf, rest, rfl⟩ := List.exists_cons_of_ne_nil hne
    rw [load_of_cons hchain, Tls.readPrivateKey_eq_ok_iff.mpr hk]
    exact congrArg _ hn

theorem load_eq_error_iff :
    load files certPath keyPath = .error error ↔ Missing files certPath keyPath error := by
  constructor
  · intro h
    rcases Except.bind_eq_error_iff.mp h with he | ⟨chain, hc, -⟩
    · exact .unlisted (Tls.readCertificates_eq_error_iff.mp he)
    · have hchain := Tls.readCertificates_eq_ok_iff.mp hc
      cases chain with
      | nil => rw [load_of_nil hchain] at h; cases h; exact .noCertificates hchain
      | cons leaf rest =>
        rw [load_of_cons hchain] at h
        rcases hk : Tls.readPrivateKey files keyPath with cause | key
        · rw [hk] at h
          cases h
          exact .keyless hchain (Tls.readPrivateKey_eq_error_iff.mp hk)
        · rw [hk] at h
          cases h
  · intro h
    cases h with
    | unlisted hu =>
      exact Except.bind_eq_error_iff.mpr (.inl (Tls.readCertificates_eq_error_iff.mpr hu))
    | noCertificates hchain => exact load_of_nil hchain
    | keyless hchain hk =>
      rw [load_of_cons hchain, Tls.readPrivateKey_eq_error_iff.mpr hk]
      rfl

end ClientIdentity

namespace OutboundSettings

variable {settings : OutboundSettings}

def Identifies (settings : OutboundSettings) (certPath keyPath : Text) : Prop :=
  settings.clientCert = some certPath ∧ settings.clientKey = some keyPath

theorem clientIdentity?_eq_some_iff {certPath keyPath : Text} :
    settings.clientIdentity? = some (certPath, keyPath) ↔ settings.Identifies certPath keyPath := by
  unfold clientIdentity? Identifies
  cases settings.clientCert <;> cases settings.clientKey <;> simp

theorem clientIdentity?_eq_none_iff :
    settings.clientIdentity? = none ↔ settings.clientCert = none ∨ settings.clientKey = none := by
  unfold clientIdentity?
  cases settings.clientCert <;> cases settings.clientKey <;> simp

theorem exists_identifies_or :
    (∃ certPath keyPath, settings.Identifies certPath keyPath) ∨
      (settings.clientCert = none ∨ settings.clientKey = none) := by
  rcases h : settings.clientIdentity? with _ | ⟨certPath, keyPath⟩
  · exact .inr (clientIdentity?_eq_none_iff.mp h)
  · exact .inl ⟨certPath, keyPath, clientIdentity?_eq_some_iff.mp h⟩

end OutboundSettings

namespace TlsSettings

open ClientIdentity (Presented Missing)

open Tls (HoldsCertificates Unlisted Keyless HoldsAnchors Anchorless)

variable {files files' : Files} {settings : OutboundSettings} {tls : TlsSettings}
  {error : TlsError} {identity : Option ClientIdentity} {anchors : Option (List Bytes)}

theorem loadIdentity_of_none (h : settings.clientCert = none ∨ settings.clientKey = none) :
    loadIdentity files settings = .ok (none, []) := by
  rw [loadIdentity, OutboundSettings.clientIdentity?_eq_none_iff.mpr h]

theorem loadIdentity_of_identifies {certPath keyPath : Text}
    (h : settings.Identifies certPath keyPath) :
    loadIdentity files settings = (ClientIdentity.load files certPath keyPath).map fun identity =>
      (some identity, identity.events certPath) := by
  simp only [loadIdentity, OutboundSettings.clientIdentity?_eq_some_iff.mpr h]
  cases ClientIdentity.load files certPath keyPath <;> rfl

theorem loadIdentity_eq_none_iff :
    (∃ events, loadIdentity files settings = .ok (none, events)) ↔
      settings.clientCert = none ∨ settings.clientKey = none := by
  constructor
  · rintro ⟨events, h⟩
    rcases settings.exists_identifies_or with ⟨certPath, keyPath, hs⟩ | hnone
    · rw [loadIdentity_of_identifies hs] at h
      obtain ⟨_, -, he⟩ := Except.map_eq_ok_iff.mp h
      cases he
    · exact hnone
  · exact fun h => ⟨_, loadIdentity_of_none h⟩

theorem loadIdentity_eq_some_iff {id : ClientIdentity} :
    (∃ events, loadIdentity files settings = .ok (some id, events)) ↔
      ∃ certPath keyPath, settings.Identifies certPath keyPath ∧
        Presented files certPath keyPath id ∧ id.named = id := by
  constructor
  · rintro ⟨events, h⟩
    rcases settings.exists_identifies_or with ⟨certPath, keyPath, hs⟩ | hnone
    · rw [loadIdentity_of_identifies hs] at h
      obtain ⟨_, hload, he⟩ := Except.map_eq_ok_iff.mp h
      cases he
      exact ⟨certPath, keyPath, hs, ClientIdentity.load_eq_ok_iff.mp hload⟩
    · rw [loadIdentity_of_none hnone] at h
      cases h
  · rintro ⟨certPath, keyPath, hs, hp⟩
    rw [loadIdentity_of_identifies hs]
    exact ⟨_, Except.map_eq_ok_iff.mpr ⟨id, ClientIdentity.load_eq_ok_iff.mpr hp, rfl⟩⟩

theorem loadIdentity_eq_ok_iff :
    (∃ events, loadIdentity files settings = .ok (identity, events)) ↔
      (identity.isSome ↔ settings.clientCert.isSome ∧ settings.clientKey.isSome) ∧
        ∀ id ∈ identity, ∃ certPath keyPath, settings.Identifies certPath keyPath ∧
          Presented files certPath keyPath id ∧ id.named = id := by
  cases identity with
  | none =>
    rw [loadIdentity_eq_none_iff]
    cases settings.clientCert <;> cases settings.clientKey <;> simp
  | some id =>
    rw [loadIdentity_eq_some_iff]
    constructor
    · rintro ⟨certPath, keyPath, hs, hp⟩
      refine ⟨by simp [hs.1, hs.2], ?_⟩
      rintro _ ⟨⟩
      exact ⟨certPath, keyPath, hs, hp⟩
    · exact fun h => h.2 id rfl

theorem exists_loadIdentity_eq_ok_iff :
    (∃ identity events, loadIdentity files settings = .ok (identity, events)) ↔
      ∀ certPath keyPath, settings.Identifies certPath keyPath →
        ∃ id, Presented files certPath keyPath id := by
  constructor
  · rintro ⟨identity, events, h⟩ certPath keyPath hs
    rw [loadIdentity_of_identifies hs] at h
    obtain ⟨id, hload, -⟩ := Except.map_eq_ok_iff.mp h
    exact ⟨id, (ClientIdentity.load_eq_ok_iff.mp hload).1⟩
  · intro h
    rcases settings.exists_identifies_or with ⟨certPath, keyPath, hs⟩ | hnone
    · obtain ⟨id, hp⟩ := h certPath keyPath hs
      exact ⟨_, loadIdentity_eq_some_iff.mpr ⟨certPath, keyPath, hs, hp.named, rfl⟩⟩
    · exact ⟨_, loadIdentity_eq_none_iff.mpr hnone⟩

theorem loadIdentity_eq_error_iff :
    loadIdentity files settings = .error error ↔
      ∃ certPath keyPath, settings.Identifies certPath keyPath ∧
        Missing files certPath keyPath error := by
  constructor
  · intro h
    rcases settings.exists_identifies_or with ⟨certPath, keyPath, hs⟩ | hnone
    · rw [loadIdentity_of_identifies hs] at h
      have hload := Except.map_eq_error_iff.mp h
      exact ⟨certPath, keyPath, hs, ClientIdentity.load_eq_error_iff.mp hload⟩
    · rw [loadIdentity_of_none hnone] at h
      cases h
  · rintro ⟨certPath, keyPath, hs, hm⟩
    rw [loadIdentity_of_identifies hs]
    exact Except.map_eq_error_iff.mpr (ClientIdentity.load_eq_error_iff.mpr hm)

theorem loadAnchors_of_none (h : settings.serviceCa = none) :
    loadAnchors files settings = .ok (none, []) := by
  rw [loadAnchors, h]

theorem loadAnchors_of_some {path : Text} (h : settings.serviceCa = some path) :
    loadAnchors files settings = (Tls.loadAnchors files path).map fun found =>
      (some found.1, Tls.anchorEvents path found.1 found.2) := by
  simp only [loadAnchors, h]
  cases Tls.loadAnchors files path <;> rfl

theorem loadAnchors_eq_none_iff :
    (∃ events, loadAnchors files settings = .ok (none, events)) ↔ settings.serviceCa = none := by
  rcases h : settings.serviceCa with _ | path
  · simp [loadAnchors_of_none h]
  · simp [loadAnchors_of_some h, Except.map_eq_ok_iff]

theorem loadAnchors_eq_some_iff {certificates : List Bytes} :
    (∃ events, loadAnchors files settings = .ok (some certificates, events)) ↔
      ∃ path, settings.serviceCa = some path ∧ HoldsAnchors files path certificates := by
  rcases h : settings.serviceCa with _ | path
  · simp [loadAnchors_of_none h]
  · simp [loadAnchors_of_some h, Except.map_eq_ok_iff, ← Tls.loadAnchors_eq_ok_iff]

theorem loadAnchors_eq_ok_iff :
    (∃ events, loadAnchors files settings = .ok (anchors, events)) ↔
      (anchors.isSome ↔ settings.serviceCa.isSome) ∧
        ∀ certificates ∈ anchors, ∃ path, settings.serviceCa = some path ∧
          HoldsAnchors files path certificates := by
  cases anchors with
  | none => rw [loadAnchors_eq_none_iff]; cases settings.serviceCa <;> simp
  | some certificates =>
    rw [loadAnchors_eq_some_iff]
    constructor
    · rintro ⟨path, hs, hp⟩
      refine ⟨by simp [hs], ?_⟩
      rintro _ ⟨⟩
      exact ⟨path, hs, hp⟩
    · exact fun h => h.2 certificates rfl

theorem exists_loadAnchors_eq_ok_iff :
    (∃ anchors events, loadAnchors files settings = .ok (anchors, events)) ↔
      ∀ path ∈ settings.serviceCa, ∃ certificates, HoldsAnchors files path certificates := by
  constructor
  · rintro ⟨anchors, events, h⟩ path hs
    rw [loadAnchors_of_some hs] at h
    obtain ⟨⟨found, skipped⟩, hf, -⟩ := Except.map_eq_ok_iff.mp h
    exact ⟨found, Tls.loadAnchors_eq_ok_iff.mp ⟨skipped, hf⟩⟩
  · intro h
    rcases hs : settings.serviceCa with _ | path
    · exact ⟨_, loadAnchors_eq_none_iff.mpr hs⟩
    · obtain ⟨certificates, hc⟩ := h path hs
      exact ⟨_, loadAnchors_eq_some_iff.mpr ⟨path, hs, hc⟩⟩

theorem loadAnchors_eq_error_iff :
    loadAnchors files settings = .error error ↔
      ∃ path, settings.serviceCa = some path ∧ Anchorless files path error := by
  rcases h : settings.serviceCa with _ | path
  · simp [loadAnchors_of_none h]
  · simp [loadAnchors_of_some h, Except.map_eq_error_iff, Tls.loadAnchors_eq_error_iff]

/-! ## Everything or an error -/

/-- What is loaded makes settings, unless it is nothing at all. -/
def ofParts? (identity : Option ClientIdentity) (anchors : Option (List Bytes)) :
    Option TlsSettings :=
  if identity.isNone ∧ anchors.isNone then none
  else some ⟨identity, anchors, Tls.applicationProtocols⟩

theorem ofParts?_eq_none_iff :
    ofParts? identity anchors = none ↔ identity = none ∧ anchors = none := by
  simp [ofParts?]

theorem ofParts?_eq_some_iff :
    ofParts? identity anchors = some tls ↔
      (identity.isSome ∨ anchors.isSome) ∧ tls.identity = identity ∧ tls.anchors = anchors ∧
        tls.protocols = Tls.applicationProtocols := by
  obtain ⟨_, _, _⟩ := tls
  cases identity <;> cases anchors <;> simp [ofParts?, eq_comm]

section Parts

variable {identityEvents anchorEvents : List Event}
  (hi : loadIdentity files settings = .ok (identity, identityEvents))
  (ha : loadAnchors files settings = .ok (anchors, anchorEvents))

include hi ha

theorem load_of_matches (hm : ∀ id ∈ identity, id.keyMatches = true) :
    ∃ events, load files settings = .ok (ofParts? identity anchors, events) := by
  rw [load, hi, ha]
  cases identity with
  | none => cases anchors <;> exact ⟨_, rfl⟩
  | some id =>
    simp only [bind, Except.bind, hm id rfl, if_true]
    exact ⟨_, rfl⟩

theorem load_of_mismatch {id : ClientIdentity} (hid : identity = some id)
    (hm : id.keyMatches = false) : load files settings = .error .identity := by
  subst hid
  rw [load, hi, ha]
  simp only [bind, Except.bind, hm]
  rfl

end Parts

theorem load_eq_ok_iff {outcome : Option TlsSettings} :
    (∃ events, load files settings = .ok (outcome, events)) ↔
      ∃ identity anchors, (∃ events, loadIdentity files settings = .ok (identity, events)) ∧
        (∃ events, loadAnchors files settings = .ok (anchors, events)) ∧
        (∀ id ∈ identity, id.keyMatches = true) ∧ ofParts? identity anchors = outcome := by
  constructor
  · rintro ⟨events, h⟩
    obtain ⟨⟨identity, _⟩, hi, h'⟩ := Except.bind_eq_ok_iff.mp h
    obtain ⟨⟨anchors, _⟩, ha, -⟩ := Except.bind_eq_ok_iff.mp h'
    have hm : ∀ id ∈ identity, id.keyMatches = true := by
      rintro id hid
      by_contra hne
      rw [load_of_mismatch hi ha hid (Bool.eq_false_iff.mpr hne)] at h
      cases h
    obtain ⟨_, hl⟩ := load_of_matches hi ha hm
    rw [h] at hl
    cases hl
    exact ⟨identity, anchors, ⟨_, hi⟩, ⟨_, ha⟩, hm, rfl⟩
  · rintro ⟨identity, anchors, ⟨_, hi⟩, ⟨_, ha⟩, hm, rfl⟩
    exact load_of_matches hi ha hm

theorem load_eq_error_iff :
    load files settings = .error error ↔
      loadIdentity files settings = .error error ∨
        ∃ identity, (∃ events, loadIdentity files settings = .ok (identity, events)) ∧
          (loadAnchors files settings = .error error ∨
            ∃ anchors, (∃ events, loadAnchors files settings = .ok (anchors, events)) ∧
              (∃ id ∈ identity, id.keyMatches = false) ∧ error = .identity) := by
  constructor
  · intro h
    rcases Except.bind_eq_error_iff.mp h with he | ⟨⟨identity, _⟩, hi, h'⟩
    · exact .inl he
    refine .inr ⟨identity, ⟨_, hi⟩, ?_⟩
    rcases Except.bind_eq_error_iff.mp h' with he | ⟨⟨anchors, _⟩, ha, -⟩
    · exact .inl he
    refine .inr ⟨anchors, ⟨_, ha⟩, ?_⟩
    by_cases hm : ∃ id ∈ identity, id.keyMatches = false
    · obtain ⟨id, hid, hm'⟩ := hm
      rw [load_of_mismatch hi ha hid hm'] at h
      exact ⟨⟨id, hid, hm'⟩, (Except.error.inj h).symm⟩
    · obtain ⟨_, hl⟩ := load_of_matches hi ha fun id hid =>
        eq_true_of_ne_false fun hf => hm ⟨id, hid, hf⟩
      rw [h] at hl
      cases hl
  · rintro (he | ⟨identity, ⟨_, hi⟩, he | ⟨anchors, ⟨_, ha⟩, ⟨id, hid, hm⟩, rfl⟩⟩)
    · exact Except.bind_eq_error_iff.mpr (.inl he)
    · exact Except.bind_eq_error_iff.mpr (.inr ⟨_, hi, Except.bind_eq_error_iff.mpr (.inl he)⟩)
    · exact load_of_mismatch hi ha hid hm

/-- All that is configured is in the settings, and nothing else: the identity of the two files if
both paths are set, with a key that belongs to it, and the anchors of the bundle if that is set. -/
structure Loaded (files : Files) (settings : OutboundSettings) (tls : TlsSettings) : Prop where
  identity_isSome_iff :
    tls.identity.isSome ↔ settings.clientCert.isSome ∧ settings.clientKey.isSome
  presented : ∀ id ∈ tls.identity, ∃ certPath keyPath, settings.Identifies certPath keyPath ∧
    Presented files certPath keyPath id ∧ id.keyMatches = true
  anchors_isSome_iff : tls.anchors.isSome ↔ settings.serviceCa.isSome
  trusted : ∀ anchors ∈ tls.anchors, ∃ path, settings.serviceCa = some path ∧
    HoldsAnchors files path anchors
  configured : tls.identity.isSome ∨ tls.anchors.isSome
  offered : tls.protocols = Tls.applicationProtocols

/-- The first fault in what is configured: one of the identity's files, then one of the bundle, then
a key that does not belong to the certificate. -/
inductive FirstFault (files : Files) (settings : OutboundSettings) : TlsError → Prop
  | identity {certPath keyPath : Text} {error : TlsError} :
      settings.Identifies certPath keyPath →
      Missing files certPath keyPath error → FirstFault files settings error

  | anchors {path : Text} {error : TlsError} :
      (∀ certPath keyPath, settings.Identifies certPath keyPath →
        ∃ id, Presented files certPath keyPath id) →
      settings.serviceCa = some path → Anchorless files path error →
      FirstFault files settings error

  | mismatch {certPath keyPath : Text} {id : ClientIdentity} :
      settings.Identifies certPath keyPath → Presented files certPath keyPath id →
      (∀ path ∈ settings.serviceCa, ∃ anchors, HoldsAnchors files path anchors) →
      id.keyMatches = false → FirstFault files settings .identity

/-- The settings with the name of the identity as its leaf has it. -/
def named (tls : TlsSettings) : TlsSettings :=
  { tls with identity := tls.identity.map ClientIdentity.named }

theorem named_named : tls.named.named = tls.named := by
  obtain ⟨_ | id, anchors, protocols⟩ := tls <;> rfl

theorem named_eq_self_iff : tls.named = tls ↔ ∀ id ∈ tls.identity, id.named = id := by
  obtain ⟨_ | id, anchors, protocols⟩ := tls <;> simp [named]

/-- The name does not decide about the key. -/
theorem Loaded.named (h : Loaded files settings tls) : Loaded files settings tls.named := by
  refine ⟨?_, fun id hid => ?_, h.anchors_isSome_iff, h.trusted, ?_, h.offered⟩
  · simpa [TlsSettings.named] using h.identity_isSome_iff
  · obtain ⟨unnamed, hunnamed, rfl⟩ := Option.map_eq_some_iff.mp hid
    obtain ⟨certPath, keyPath, hs, hp, hm⟩ := h.presented unnamed hunnamed
    exact ⟨certPath, keyPath, hs, hp.named, hm⟩
  · simpa [TlsSettings.named] using h.configured

theorem load_eq_none_iff :
    (∃ events, load files settings = .ok (none, events)) ↔
      (settings.clientCert = none ∨ settings.clientKey = none) ∧ settings.serviceCa = none := by
  rw [load_eq_ok_iff]
  constructor
  · rintro ⟨identity, anchors, hi, ha, -, hnone⟩
    obtain ⟨rfl, rfl⟩ := ofParts?_eq_none_iff.mp hnone
    exact ⟨loadIdentity_eq_none_iff.mp hi, loadAnchors_eq_none_iff.mp ha⟩
  · rintro ⟨hi, ha⟩
    exact ⟨none, none, loadIdentity_eq_none_iff.mpr hi, loadAnchors_eq_none_iff.mpr ha, by simp,
      rfl⟩

theorem load_eq_some_iff :
    (∃ events, load files settings = .ok (some tls, events)) ↔
      Loaded files settings tls ∧ tls.named = tls := by
  simp only [load_eq_ok_iff, loadIdentity_eq_ok_iff, loadAnchors_eq_ok_iff, ofParts?_eq_some_iff,
    named_eq_self_iff]
  constructor
  · rintro ⟨_, _, ⟨hsome, hp⟩, ⟨hsome', ha⟩, hm, hone, rfl, rfl, hoffered⟩
    refine ⟨⟨hsome, fun id hid => ?_, hsome', ha, hone, hoffered⟩, fun id hid => ?_⟩
    · obtain ⟨certPath, keyPath, hs, hpresented, -⟩ := hp id hid
      exact ⟨certPath, keyPath, hs, hpresented, hm id hid⟩
    · obtain ⟨_, _, -, -, hnamed⟩ := hp id hid
      exact hnamed
  · rintro ⟨h, hn⟩
    refine ⟨_, _, ⟨h.identity_isSome_iff, fun id hid => ?_⟩, ⟨h.anchors_isSome_iff, h.trusted⟩,
      fun id hid => ?_, h.configured, rfl, rfl, h.offered⟩
    · obtain ⟨certPath, keyPath, hs, hp, -⟩ := h.presented id hid
      exact ⟨certPath, keyPath, hs, hp, hn id hid⟩
    · obtain ⟨_, _, -, -, hm⟩ := h.presented id hid
      exact hm

theorem load_eq_error_iff_firstFault :
    load files settings = .error error ↔ FirstFault files settings error := by
  rw [load_eq_error_iff]
  constructor
  · rintro (he | ⟨identity, hi, he | ⟨anchors, ha, ⟨id, hid, hm⟩, rfl⟩⟩)
    · obtain ⟨certPath, keyPath, hs, hf⟩ := loadIdentity_eq_error_iff.mp he
      exact .identity hs hf
    · obtain ⟨path, hs, hf⟩ := loadAnchors_eq_error_iff.mp he
      exact .anchors (exists_loadIdentity_eq_ok_iff.mp ⟨identity, hi⟩) hs hf
    · obtain ⟨certPath, keyPath, hs, hp, -⟩ := (loadIdentity_eq_ok_iff.mp hi).2 id hid
      exact .mismatch hs hp (exists_loadAnchors_eq_ok_iff.mp ⟨anchors, ha⟩) hm
  · intro h
    cases h with
    | identity hs hf => exact .inl (loadIdentity_eq_error_iff.mpr ⟨_, _, hs, hf⟩)
    | anchors hid hs hf =>
      obtain ⟨identity, hi⟩ := exists_loadIdentity_eq_ok_iff.mpr hid
      exact .inr ⟨identity, hi, .inl (loadAnchors_eq_error_iff.mpr ⟨_, hs, hf⟩)⟩
    | mismatch hs hp ha hm =>
      -- What is loaded is the identity under its own name, and its key is the same.
      obtain ⟨anchors, ha⟩ := exists_loadAnchors_eq_ok_iff.mpr ha
      have hi := loadIdentity_eq_some_iff.mpr ⟨_, _, hs, hp.named, rfl⟩
      exact .inr ⟨_, hi, .inr ⟨anchors, ha, ⟨_, rfl, hm⟩, rfl⟩⟩

/-- Loading looks at the files of what is configured and at no others. -/
theorem load_congr (h : ∀ path ∈ settings.material, files path = files' path) :
    load files settings = load files' settings := by
  have hidentity : loadIdentity files settings = loadIdentity files' settings := by
    unfold loadIdentity
    cases hi : settings.clientIdentity? with
    | none => rfl
    | some identity =>
      obtain ⟨cert, key⟩ := identity
      have hcert : files cert = files' cert := h cert (by simp [OutboundSettings.material, hi])
      have hkey : files key = files' key := h key (by simp [OutboundSettings.material, hi])
      simp only [ClientIdentity.load, Tls.readCertificates_congr hcert,
        Tls.readPrivateKey_congr hkey]
  have hanchors : loadAnchors files settings = loadAnchors files' settings := by
    unfold loadAnchors
    cases hs : settings.serviceCa with
    | none => rfl
    | some path =>
      have hpath : files path = files' path := h path (by simp [OutboundSettings.material, hs])
      simp only [Tls.loadAnchors, Tls.readCertificates_congr hpath]
  rw [load, load, hidentity, hanchors]

theorem load_congr_of_half (hhalf : settings.clientCert = none ∨ settings.clientKey = none)
    (h : ∀ path ∈ settings.serviceCa, files path = files' path) :
    load files settings = load files' settings := by
  refine load_congr fun path hp => h path ?_
  simpa [OutboundSettings.material, OutboundSettings.clientIdentity?_eq_none_iff.mpr hhalf] using hp

inductive Faulty (files : Files) (settings : OutboundSettings) : Prop
  | unlisted {certPath keyPath : Text} {error : TlsError} :
      settings.Identifies certPath keyPath → Unlisted files certPath error → Faulty files settings

  | noCertificates {certPath keyPath : Text} :
      settings.Identifies certPath keyPath → HoldsCertificates files certPath [] →
      Faulty files settings

  | keyless {certPath keyPath : Text} {error : TlsError} :
      settings.Identifies certPath keyPath → Keyless files keyPath error → Faulty files settings

  | anchorless {path : Text} {error : TlsError} :
      settings.serviceCa = some path → Anchorless files path error → Faulty files settings

theorem Faulty.exists_load_eq_error (h : Faulty files settings) :
    ∃ error, load files settings = .error error := by
  simp only [load_eq_error_iff]
  cases h with
  | unlisted hs hu => exact ⟨_, .inl (loadIdentity_eq_error_iff.mpr ⟨_, _, hs, .unlisted hu⟩)⟩
  | noCertificates hs hc =>
    exact ⟨_, .inl (loadIdentity_eq_error_iff.mpr ⟨_, _, hs, .noCertificates hc⟩)⟩
  | @keyless certPath keyPath error hs hk =>
    rcases hload : ClientIdentity.load files certPath keyPath with cause | id
    · have hmissing := ClientIdentity.load_eq_error_iff.mp hload
      exact ⟨cause, .inl (loadIdentity_eq_error_iff.mpr ⟨_, _, hs, hmissing⟩)⟩
    · have hholds := Tls.readPrivateKey_eq_ok_iff.mpr (ClientIdentity.load_eq_ok_iff.mp hload).1.key
      rw [Tls.readPrivateKey_eq_error_iff.mpr hk] at hholds
      cases hholds
  | anchorless hs ha =>
    have herror := loadAnchors_eq_error_iff.mpr ⟨_, hs, ha⟩
    rcases hi : loadIdentity files settings with cause | ⟨identity, events⟩
    · exact ⟨cause, .inl rfl⟩
    · exact ⟨_, .inr ⟨identity, ⟨events, rfl⟩, .inl herror⟩⟩

/-- Loading ends without settings only if there are none to load, with settings only if all that is
configured is in them, and otherwise with the first fault. That a name cannot be read is none. -/
theorem loads_all_or_fails (files : Files) (settings : OutboundSettings) :
    ((∃ events, load files settings = .ok (none, events)) ↔
      (settings.clientCert = none ∨ settings.clientKey = none) ∧ settings.serviceCa = none) ∧
    (settings.clientCert = none ∨ settings.clientKey = none →
      ∀ files' : Files, (∀ path ∈ settings.serviceCa, files path = files' path) →
        load files settings = load files' settings) ∧
    (∀ tls, (∃ events, load files settings = .ok (some tls, events)) ↔
      Loaded files settings tls ∧ tls.named = tls) ∧
    ((∃ tls events, load files settings = .ok (some tls, events)) ↔
      ∃ tls, Loaded files settings tls) ∧
    (∀ error, load files settings = .error error ↔ FirstFault files settings error) ∧
    (Faulty files settings → ∃ error, load files settings = .error error) := by
  refine ⟨load_eq_none_iff, fun hhalf files' h => load_congr_of_half hhalf h,
    fun tls => load_eq_some_iff, ⟨?_, ?_⟩, fun error => load_eq_error_iff_firstFault,
    Faulty.exists_load_eq_error⟩
  · rintro ⟨tls, h⟩
    exact ⟨tls, (load_eq_some_iff.mp h).1⟩
  · rintro ⟨tls, h⟩
    exact ⟨tls.named, load_eq_some_iff.mpr ⟨h.named, named_named⟩⟩

end TlsSettings

end ApiGateway
