import ApiGateway.Proofs.Config.Document
import ApiGateway.Proofs.Text.Split
import ApiGateway.Startup

/-! # Building a server

What each stage of a start gives if it succeeds. The stages after the
validation read different parts of the configuration and meet in the server.
-/

namespace ApiGateway

namespace Verifier

variable {files : Files} {path audience : Text} {v : Verifier} {cause : SecretError}

theorem secretOf_eq_nil_iff {content : Bytes} :
    secretOf content = [] ↔ ∀ b ∈ content, isSecretBlank b := by
  rw [secretOf, List.reverse_eq_nil_iff, List.dropWhile_eq_nil_iff]
  simp only [List.mem_reverse]
  exact Text.forall_mem_dropWhile_iff

theorem ofSecretFile_of_ok {content : Bytes} (h : files path = .ok content) :
    ofSecretFile files path audience =
      if secretOf content = [] then .error (.empty path) else .ok ⟨secretOf content, audience⟩ := by
  simp only [ofSecretFile, h]
  cases secretOf content <;> rfl

theorem ofSecretFile_congr {files' : Files} (h : files path = files' path) :
    ofSecretFile files path audience = ofSecretFile files' path audience := by
  rw [ofSecretFile, ofSecretFile, h]

theorem ofSecretFile_eq_ok_iff : ofSecretFile files path audience = .ok v ↔
    ∃ content, files path = .ok content ∧ (∃ b ∈ content, ¬ isSecretBlank b) ∧
      ⟨secretOf content, audience⟩ = v := by
  rcases h : files path with c | content
  · simp [ofSecretFile, h]
  · have hblank : (∃ b ∈ content, ¬ isSecretBlank b) ↔ secretOf content ≠ [] := by
      simp [secretOf_eq_nil_iff]
    simp only [ofSecretFile_of_ok h, Except.ok.injEq, exists_eq_left', hblank]
    by_cases hs : secretOf content = [] <;> simp [hs]

inductive NoSecret (files : Files) (path : Text) : SecretError → Prop
  | unreadable {cause : FileError} :
      files path = .error cause → NoSecret files path (.unreadable path cause)

  | blank {content : Bytes} :
      files path = .ok content → (∀ b ∈ content, isSecretBlank b) →
      NoSecret files path (.empty path)

theorem ofSecretFile_eq_error_iff :
    ofSecretFile files path audience = .error cause ↔ NoSecret files path cause := by
  constructor
  · intro h
    rcases hf : files path with c | content
    · simp only [ofSecretFile, hf, Except.error.injEq] at h
      exact h ▸ .unreadable hf
    · rw [ofSecretFile_of_ok hf] at h
      split at h <;> cases h
      next hs => exact .blank hf (secretOf_eq_nil_iff.mp hs)
  · intro h
    cases h with
    | unreadable hf => rw [ofSecretFile, hf]
    | blank hf hb => rw [ofSecretFile_of_ok hf, if_pos (secretOf_eq_nil_iff.mpr hb)]

end Verifier

namespace Server

variable {files : Files} {env : Environment} {flags : Flags} {config : Config} {server : Server}
  {error : StartupError}

/-- Each part of a server is made from its part of the configuration. -/
structure Built (files : Files) (config : Config) (server : Server) : Prop where
  bindAddress_eq : server.bindAddress = config.listener.bindAddress
  verifier : Verifier.ofSecretFile files config.auth.secretFile config.auth.audience =
    .ok server.gateway.verifier
  routes : RouteTable.ofServices? config.services = .ok server.routes
  tls : ∃ events, TlsSettings.load files config.outbound = .ok (server.tls, events)
  cors_eq : server.gateway.cors = ⟨config.cors.allowedOrigin⟩
  limit_eq : server.gateway.limit = config.outbound.requestTimeoutSecs.map (· * 1000)

theorem build_eq_ok_iff : build files config = .ok server ↔ Built files config server := by
  simp only [build, Except.bind_eq_ok_iff, Except.mapError_eq_ok_iff]
  constructor
  · rintro ⟨verifier, hv, routes, hr, ⟨tls, events⟩, ht, h⟩
    cases h
    exact ⟨rfl, hv, hr, ⟨events, ht⟩, rfl, rfl⟩
  · rintro ⟨ha, hv, hr, ⟨events, ht⟩, hc, hl⟩
    refine ⟨_, hv, _, hr, _, ht, ?_⟩
    rw [← ha, ← hc, ← hl]

theorem configure_eq_ok_iff : configure files env flags = .ok config ↔
    ∃ base, Config.load files flags.config = .ok base ∧
      flags.apply (base.withEnvironment env) = config := by
  simp only [configure, Except.bind_eq_ok_iff, Except.mapError_eq_ok_iff, Except.ok.injEq]

theorem validate_eq_ok_iff {valid : Config} :
    validate config = .ok valid ↔ config.problems = [] ∧ config = valid := by
  cases h : config.problems <;> simp [validate, h]

theorem validate_eq_error_iff :
    validate config = .error error ↔ config.problems ≠ [] ∧ .invalid config.problems = error := by
  cases h : config.problems <;> simp [validate, h]

theorem prepare_eq_ok_iff : prepare files env flags = .ok server ↔
    ∃ config, configure files env flags = .ok config ∧ config.problems = [] ∧
      Built files config server := by
  simp only [prepare, Except.bind_eq_ok_iff, validate_eq_ok_iff, build_eq_ok_iff]
  constructor
  · rintro ⟨config, hc, _, ⟨hp, rfl⟩, hb⟩
    exact ⟨config, hc, hp, hb⟩
  · rintro ⟨config, hc, hp, hb⟩
    exact ⟨config, hc, config, ⟨hp, rfl⟩, hb⟩

theorem configure_eq_error_iff : configure files env flags = .error error ↔
    ∃ fault, Config.load files flags.config = .error fault ∧ .config fault = error := by
  simp only [configure, Except.bind_eq_error_iff, Except.mapError_eq_error_iff, reduceCtorEq,
    and_false, exists_false, or_false]

theorem build_eq_error_iff : build files config = .error error ↔
    (∃ cause, Verifier.ofSecretFile files config.auth.secretFile config.auth.audience =
      .error cause ∧ .secret cause = error) ∨
    (∃ v, Verifier.ofSecretFile files config.auth.secretFile config.auth.audience = .ok v) ∧
      ((∃ cause, RouteTable.ofServices? config.services = .error cause ∧
        .routes cause = error) ∨
      (∃ table, RouteTable.ofServices? config.services = .ok table) ∧
        ∃ cause, TlsSettings.load files config.outbound = .error cause ∧ .tls cause = error) := by
  simp only [build, Except.bind_eq_error_iff, Except.mapError_eq_error_iff,
    Except.mapError_eq_ok_iff, reduceCtorEq, and_false, exists_false, or_false, exists_and_right]

theorem prepare_eq_error_iff : prepare files env flags = .error error ↔
    (∃ fault, Config.load files flags.config = .error fault ∧ .config fault = error) ∨
      ∃ config, configure files env flags = .ok config ∧
        (config.problems ≠ [] ∧ .invalid config.problems = error ∨
          config.problems = [] ∧ build files config = .error error) := by
  simp only [prepare, Except.bind_eq_error_iff, configure_eq_error_iff, validate_eq_error_iff,
    validate_eq_ok_iff, and_assoc, exists_eq_left', exists_and_left]

end Server

end ApiGateway
