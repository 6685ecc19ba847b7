import ApiGateway.Proofs.Startup.Build
import ApiGateway.Proofs.Tls.Loading

/-! # The stages of a start

A start reads its configuration file, parses it, validates what comes out under
the environment and the flags, and takes the secret, the routes and the TLS
material from that. It ends with the error of the first stage that fails, and
what only later stages look at makes no difference to it.
-/

namespace ApiGateway

structure Launch where
  files : Files
  env : Environment
  flags : Flags

inductive Stage
  | read
  | parse
  | validation
  | secret
  | routes
  | transport

def Stage.position : Stage → ℕ
  | read => 0
  | parse => 1
  | validation => 2
  | secret => 3
  | routes => 4
  | transport => 5

instance : LT Stage := ⟨fun s t => s.position < t.position⟩

instance : LE Stage := ⟨fun s t => s.position ≤ t.position⟩

namespace Launch

open Verifier (isSecretBlank NoSecret ofSecretFile)

variable {l m : Launch} {config : Config} {stage : Stage} {error : StartupError}

def start (l : Launch) : Except StartupError Server := Server.prepare l.files l.env l.flags

def Configures (l : Launch) (config : Config) : Prop :=
  Server.configure l.files l.env l.flags = .ok config

/-- A stage fails with an error, whether or not other stages fail too. -/
inductive Fails (l : Launch) : Stage → StartupError → Prop
  | read {path : Text} {fault : ConfigFault} :
      l.flags.config = some path → Config.Unread l.files path fault → Fails l .read (.config fault)

  | parse {path : Text} {fault : ConfigFault} :
      l.flags.config = some path → Config.Unparsed l.files path fault →
      Fails l .parse (.config fault)

  | validation {config : Config} :
      l.Configures config → config.problems ≠ [] → Fails l .validation (.invalid config.problems)

  | secret {config : Config} {cause : SecretError} :
      l.Configures config → NoSecret l.files config.auth.secretFile cause →
      Fails l .secret (.secret cause)

  | routes {config : Config} {cause : RouteTableError} :
      l.Configures config → RouteTable.ofServices? config.services = .error cause →
      Fails l .routes (.routes cause)

  | transport {config : Config} {cause : TlsError} :
      l.Configures config → TlsSettings.load l.files config.outbound = .error cause →
      Fails l .transport (.tls cause)

structure FailsFirst (l : Launch) (stage : Stage) (error : StartupError) : Prop where
  fails : l.Fails stage error
  earlier : ∀ s < stage, ∀ e, ¬ l.Fails s e

structure Ready (l : Launch) (config : Config) : Prop where
  configures : l.Configures config
  valid : config.problems = []
  secret : ∃ content, l.files config.auth.secretFile = .ok content ∧
    ∃ b ∈ content, ¬ isSecretBlank b
  routes : ∃ table, RouteTable.ofServices? config.services = .ok table
  transport : ∃ settings, TlsSettings.load l.files config.outbound = .ok settings

/-- Two starts agree on what a stage looks at besides what the stages before it have found. Parsing
and routing look at nothing else. -/
def Agrees (l m : Launch) : Stage → Prop
  | .read => l.flags.config = m.flags.config ∧
      ∀ path, l.flags.config = some path → l.files path = m.files path
  | .parse => True
  | .validation => l.flags.bind = m.flags.bind ∧ l.flags.secretFile = m.flags.secretFile ∧
      ∀ base, Config.load l.files l.flags.config = .ok base →
        ∀ service ∈ base.services, l.env service.envKey = m.env service.envKey
  | .secret => ∀ config, l.Configures config →
      l.files config.auth.secretFile = m.files config.auth.secretFile
  | .routes => True
  | .transport =>
      (∀ key ∈ [Config.clientCertKey, Config.clientKeyKey, Config.serviceCaKey],
        l.env key = m.env key) ∧
      ∀ config, l.Configures config →
        ∀ path ∈ config.outbound.material, l.files path = m.files path

theorem start_eq_ok_iff : (∃ server, l.start = .ok server) ↔ ∃ config, l.Ready config := by
  simp only [start, Server.prepare_eq_ok_iff]
  constructor
  · rintro ⟨server, config, hc, hp, hb⟩
    obtain ⟨content, hf, hs, -⟩ := Verifier.ofSecretFile_eq_ok_iff.mp hb.verifier
    obtain ⟨events, ht⟩ := hb.tls
    exact ⟨config, hc, hp, ⟨content, hf, hs⟩, ⟨_, hb.routes⟩, ⟨_, ht⟩⟩
  · rintro ⟨config, hc, hp, ⟨content, hf, hs⟩, ⟨table, hr⟩, ⟨⟨tls, events⟩, ht⟩⟩
    have hv : ofSecretFile l.files config.auth.secretFile config.auth.audience = .ok _ :=
      Verifier.ofSecretFile_eq_ok_iff.mpr ⟨content, hf, hs, rfl⟩
    exact ⟨⟨config.listener.bindAddress, ⟨_, ⟨config.cors.allowedOrigin⟩, _⟩, table, tls⟩, config,
      hc, hp, ⟨rfl, hv, hr, ⟨events, ht⟩, rfl, rfl⟩⟩

/-! ## What the stages before a failure have found -/

theorem valid_of_not_fails (hc : l.Configures config) (h : ∀ e, ¬ l.Fails .validation e) :
    config.problems = [] := by
  by_contra hne
  exact h _ (.validation hc hne)

theorem exists_ofSecretFile_of_not_fails (hc : l.Configures config)
    (h : ∀ e, ¬ l.Fails .secret e) :
    ∃ v, ofSecretFile l.files config.auth.secretFile config.auth.audience = .ok v := by
  rcases hv : ofSecretFile l.files config.auth.secretFile config.auth.audience with cause | v
  · exact absurd (.secret hc (Verifier.ofSecretFile_eq_error_iff.mp hv)) (h _)
  · exact ⟨v, rfl⟩

theorem exists_ofServices?_of_not_fails (hc : l.Configures config)
    (h : ∀ e, ¬ l.Fails .routes e) :
    ∃ table, RouteTable.ofServices? config.services = .ok table := by
  rcases hr : RouteTable.ofServices? config.services with cause | table
  · exact absurd (.routes hc hr) (h _)
  · exact ⟨table, rfl⟩

theorem exists_configures_of_not_fails (hread : ∀ e, ¬ l.Fails .read e)
    (hparse : ∀ e, ¬ l.Fails .parse e) : ∃ config, l.Configures config := by
  rcases hb : Config.load l.files l.flags.config with fault | base
  · obtain ⟨path, hp, hf | hf⟩ := Config.load_eq_error_iff.mp hb
    · exact absurd (.read hp hf) (hread _)
    · exact absurd (.parse hp hf) (hparse _)
  · exact ⟨_, Server.configure_eq_ok_iff.mpr ⟨base, hb, rfl⟩⟩

theorem exists_ready_of_not_fails (h : ∀ stage e, ¬ l.Fails stage e) :
    ∃ config, l.Ready config := by
  obtain ⟨config, hc⟩ := exists_configures_of_not_fails (h _) (h _)
  obtain ⟨v, hv⟩ := exists_ofSecretFile_of_not_fails hc (h _)
  obtain ⟨content, hf, hs, -⟩ := Verifier.ofSecretFile_eq_ok_iff.mp hv
  refine ⟨config, hc, valid_of_not_fails hc (h _), ⟨content, hf, hs⟩,
    exists_ofServices?_of_not_fails hc (h _), ?_⟩
  rcases ht : TlsSettings.load l.files config.outbound with cause | settings
  · exact absurd (.transport hc ht) (h _ _)
  · exact ⟨settings, rfl⟩

theorem Fails.exists_failsFirst (h : l.Fails stage error) : ∃ s e, l.FailsFirst s e := by
  induction hn : stage.position using Nat.strong_induction_on generalizing stage error with
  | _ n ih =>
    by_cases hs : ∃ s < stage, ∃ e, l.Fails s e
    · obtain ⟨s, hlt, e, hf⟩ := hs
      exact ih s.position (hn ▸ hlt) hf rfl
    · exact ⟨stage, error, h, fun s hlt e hf => hs ⟨s, hlt, e, hf⟩⟩

/-! ## What another start finds -/

theorem Agrees.load_eq (h : l.Agrees m .read) :
    Config.load m.files m.flags.config = Config.load l.files l.flags.config := by
  obtain ⟨hpath, hfiles⟩ := h
  rw [← hpath]
  cases hp : l.flags.config with
  | none => rfl
  | some path => rw [Config.load, Config.load, hfiles path hp]

/-- What is validated depends neither on the log level nor on the variables for TLS. -/
theorem Agrees.exists_configures (hr : l.Agrees m .read) (hv : l.Agrees m .validation)
    (hc : l.Configures config) :
    ∃ config', m.Configures config' ∧ config'.problems = config.problems ∧
      config'.auth = config.auth ∧ config'.services = config.services ∧
      (l.Agrees m .transport → config'.outbound = config.outbound) := by
  obtain ⟨base, hb, rfl⟩ := Server.configure_eq_ok_iff.mp hc
  obtain ⟨hbind, hsecret, henv⟩ := hv
  have hservices : base.services.map (Service.withEnvironment m.env) =
      base.services.map (Service.withEnvironment l.env) := by
    refine List.map_congr_left fun service hm => ?_
    simp only [Service.withEnvironment, Environment.nonBlank?, henv base hb service hm]
  refine ⟨_, Server.configure_eq_ok_iff.mpr ⟨base, hr.load_eq.trans hb, rfl⟩, ?_, ?_, hservices, ?_⟩
  · simp only [Config.problems, Flags.apply, Config.withEnvironment,
      OutboundSettings.withEnvironment, hservices, hbind, hsecret]
  · simp only [Flags.apply, Config.withEnvironment, hsecret]
  · rintro ⟨hkeys, -⟩
    simp only [List.forall_mem_cons] at hkeys
    obtain ⟨hcert, hkey, hca, -⟩ := hkeys
    simp only [Flags.apply, Config.withEnvironment, OutboundSettings.withEnvironment,
      Environment.trimmed?, Environment.nonBlank?, hcert, hkey, hca]

theorem Agrees.exists_valid (hr : l.Agrees m .read) (hv : l.Agrees m .validation)
    (hs : l.Agrees m .secret) (hc : l.Configures config) (h : ∀ e, ¬ l.Fails .validation e) :
    ∃ config', m.Configures config' ∧ config'.problems = [] ∧
      ofSecretFile m.files config'.auth.secretFile config'.auth.audience =
        ofSecretFile l.files config.auth.secretFile config.auth.audience ∧
      config'.services = config.services ∧
      (l.Agrees m .transport → config'.outbound = config.outbound) := by
  obtain ⟨config', hc', hproblems, hauth, hservices, houtbound⟩ := hr.exists_configures hv hc
  refine ⟨config', hc', hproblems.trans (valid_of_not_fails hc h), ?_, hservices, houtbound⟩
  rw [hauth]
  exact (Verifier.ofSecretFile_congr (hs _ hc)).symm

theorem start_of_build (hc : m.Configures config) (hp : config.problems = [])
    (hb : Server.build m.files config = .error error) : m.start = .error error :=
  Server.prepare_eq_error_iff.mpr (.inr ⟨config, hc, .inr ⟨hp, hb⟩⟩)

/-- The failure of a stage is that of every start which agrees up to there. -/
theorem FailsFirst.start_eq (h : l.FailsFirst stage error) (ha : ∀ s ≤ stage, l.Agrees m s) :
    m.start = .error error := by
  obtain ⟨hfails, hearlier⟩ := h
  have hread : l.Agrees m .read := ha .read (Nat.zero_le _)
  cases hfails with
  | read hp hf =>
    exact Server.prepare_eq_error_iff.mpr (.inl ⟨_, hread.load_eq.trans
      (Config.load_eq_error_iff.mpr ⟨_, hp, .inl hf⟩), rfl⟩)
  | parse hp hf =>
    exact Server.prepare_eq_error_iff.mpr (.inl ⟨_, hread.load_eq.trans
      (Config.load_eq_error_iff.mpr ⟨_, hp, .inr hf⟩), rfl⟩)
  | validation hc hne =>
    obtain ⟨config', hc', hproblems, -⟩ := hread.exists_configures (ha .validation (by decide)) hc
    rw [← hproblems] at hne ⊢
    exact Server.prepare_eq_error_iff.mpr (.inr ⟨config', hc', .inl ⟨hne, rfl⟩⟩)
  | secret hc hs =>
    obtain ⟨config', hc', hvalid, hsecret, -⟩ := hread.exists_valid (ha .validation (by decide))
      (ha .secret (by decide)) hc (hearlier .validation (by decide))
    refine start_of_build hc' hvalid (Server.build_eq_error_iff.mpr (.inl ?_))
    rw [hsecret]
    exact ⟨_, Verifier.ofSecretFile_eq_error_iff.mpr hs, rfl⟩
  | routes hc hr =>
    obtain ⟨config', hc', hvalid, hsecret, hservices, -⟩ :=
      hread.exists_valid (ha .validation (by decide)) (ha .secret (by decide)) hc
        (hearlier .validation (by decide))
    have hv := exists_ofSecretFile_of_not_fails hc (hearlier .secret (by decide))
    refine start_of_build hc' hvalid (Server.build_eq_error_iff.mpr (.inr ?_))
    rw [hsecret, hservices]
    exact ⟨hv, .inl ⟨_, hr, rfl⟩⟩
  | transport hc ht =>
    obtain ⟨config', hc', hvalid, hsecret, hservices, houtbound⟩ :=
      hread.exists_valid (ha .validation (by decide)) (ha .secret (by decide)) hc
        (hearlier .validation (by decide))
    have hv := exists_ofSecretFile_of_not_fails hc (hearlier .secret (by decide))
    have hroutes := exists_ofServices?_of_not_fails hc (hearlier .routes (by decide))
    have hagrees := ha .transport (by decide)
    refine start_of_build hc' hvalid (Server.build_eq_error_iff.mpr (.inr ?_))
    rw [hsecret, hservices, houtbound hagrees, ← TlsSettings.load_congr (hagrees.2 _ hc)]
    exact ⟨hv, .inr ⟨hroutes, _, ht, rfl⟩⟩

theorem Agrees.refl (l : Launch) (stage : Stage) : l.Agrees l stage := by
  cases stage <;> simp [Agrees]

/-- A start gives a server exactly if there is everything that one needs. If not, it ends with the
error of the first stage that fails, as do all starts that agree with it up to that stage. -/
theorem start_fails_first (l : Launch) :
    ((∃ server, l.start = .ok server) ↔ ∃ config, l.Ready config) ∧
      (∀ error, l.start = .error error ↔ ∃ stage, l.FailsFirst stage error) ∧
      ∀ stage error, l.FailsFirst stage error →
        ∀ m : Launch, (∀ s ≤ stage, l.Agrees m s) → m.start = .error error := by
  have hown {s : Stage} {e : StartupError} (h : l.FailsFirst s e) : l.start = .error e :=
    h.start_eq fun s _ => Agrees.refl l s
  refine ⟨start_eq_ok_iff, fun error => ⟨fun h => ?_, ?_⟩, fun stage error h m => h.start_eq⟩
  · have hfails : ∃ stage e, l.Fails stage e := by
      by_contra hn
      simp only [not_exists] at hn
      obtain ⟨server, hs⟩ := start_eq_ok_iff.mpr (exists_ready_of_not_fails hn)
      rw [hs] at h
      cases h
    obtain ⟨stage, e, hf⟩ := hfails
    obtain ⟨s, e', hfirst⟩ := hf.exists_failsFirst
    obtain rfl := Except.error.inj ((hown hfirst).symm.trans h)
    exact ⟨s, hfirst⟩
  · rintro ⟨stage, h⟩
    exact hown h

end Launch

end ApiGateway
