import ApiGateway.Proofs.Config.Validation
import ApiGateway.Proofs.Startup.Build

/-! # The report of a validation

Each problem of a configuration has a place there, and the places have an
order. The report of a validation has one entry for each problem, in that
order, however many there are and wherever they are. Only of a service without
a name nothing else is said.
-/

namespace ApiGateway

/-- A place in a configuration, with services and backends counted from zero. -/
inductive ConfigPlace
  | bindAddress
  | noName (i : ℕ)
  | slash (i : ℕ)
  | repeated (i : ℕ)
  | backend (i j : ℕ)
  | secretFile
  | audience
  | connectTimeout
  | requestTimeout

namespace ConfigPlace

/-- The section of the configuration, the service, and the place in the service. -/
def position : ConfigPlace → ℕ × ℕ × ℕ
  | bindAddress => (0, 0, 0)
  | noName i => (1, i, 0)
  | slash i => (1, i, 0)
  | repeated i => (1, i, 1)
  | backend i j => (1, i, 2 + j)
  | secretFile => (2, 0, 0)
  | audience => (3, 0, 0)
  | connectTimeout => (4, 0, 0)
  | requestTimeout => (5, 0, 0)

instance : LT ConfigPlace where
  lt p q := p.position.1 < q.position.1 ∨ p.position.1 = q.position.1 ∧
    (p.position.2.1 < q.position.2.1 ∨ p.position.2.1 = q.position.2.1 ∧
      p.position.2.2 < q.position.2.2)

theorem lt_of_section {p q : ConfigPlace} (h : p.position.1 < q.position.1) : p < q := .inl h

theorem lt_of_service {p q : ConfigPlace} (h : p.position.1 = q.position.1)
    (h' : p.position.2.1 < q.position.2.1) : p < q := .inr ⟨h, .inl h'⟩

theorem slash_lt_repeated (i : ℕ) : slash i < repeated i := .inr ⟨rfl, .inr ⟨rfl, Nat.zero_lt_one⟩⟩

theorem slash_lt_backend (i j : ℕ) : slash i < backend i j :=
  .inr ⟨rfl, .inr ⟨rfl, Nat.add_pos_left Nat.zero_lt_two j⟩⟩

theorem repeated_lt_backend (i j : ℕ) : repeated i < backend i j :=
  .inr ⟨rfl, .inr ⟨rfl, Nat.lt_add_right j Nat.one_lt_two⟩⟩

theorem backend_lt_backend (i : ℕ) {j k : ℕ} (h : j < k) : backend i j < backend i k :=
  .inr ⟨rfl, .inr ⟨rfl, Nat.add_lt_add_left h 2⟩⟩

end ConfigPlace

abbrev Faults := ConfigPlace → ConfigProblem → Prop

/-- The list has one entry for each fault, in the order of their places. -/
def Faults.Reported (faults : Faults) (problems : List ConfigProblem) : Prop :=
  ∃ entries : List (ConfigPlace × ConfigProblem), entries.Pairwise (·.1 < ·.1) ∧
    (∀ entry, entry ∈ entries ↔ faults entry.1 entry.2) ∧ entries.map (·.2) = problems

namespace Faults.Reported

variable {faults others : Faults} {problems rest : List ConfigProblem}

theorem congr (h : Reported faults problems) (he : ∀ p x, faults p x ↔ others p x) :
    Reported others problems := by
  obtain ⟨entries, hsorted, hmem, hproblems⟩ := h
  exact ⟨entries, hsorted, fun entry => (hmem entry).trans (he ..), hproblems⟩

theorem nil (h : ∀ p x, ¬ faults p x) : Reported faults [] :=
  ⟨[], .nil, fun entry => by simp [h], rfl⟩

theorem eq_nil_iff (h : Reported faults problems) :
    problems = [] ↔ ∀ place problem, ¬ faults place problem := by
  obtain ⟨entries, -, hmem, rfl⟩ := h
  rw [List.map_eq_nil_iff, List.eq_nil_iff_forall_not_mem, Prod.forall]
  exact forall₂_congr fun place problem => not_congr (hmem (place, problem))

theorem append (h : Reported faults problems) (h' : Reported others rest)
    (hlt : ∀ p x q y, faults p x → others q y → p < q) :
    Reported (fun p x => faults p x ∨ others p x) (problems ++ rest) := by
  obtain ⟨entries, hsorted, hmem, rfl⟩ := h
  obtain ⟨entries', hsorted', hmem', rfl⟩ := h'
  refine ⟨entries ++ entries', List.pairwise_append.mpr ⟨hsorted, hsorted', ?_⟩, ?_,
    List.map_append⟩
  · intro entry he entry' he'
    exact hlt _ _ _ _ ((hmem entry).mp he) ((hmem' entry').mp he')
  · intro entry
    rw [List.mem_append, hmem, hmem']

theorem single (place : ConfigPlace) (problem : ConfigProblem) :
    Reported (fun p x => p = place ∧ x = problem) [problem] :=
  ⟨[(place, problem)], List.pairwise_singleton .., fun entry => by simp [Prod.ext_iff], rfl⟩

theorem ite (c : Prop) [Decidable c] (place : ConfigPlace) (problem : ConfigProblem) :
    Reported (fun p x => c ∧ p = place ∧ x = problem) (if c then [problem] else []) := by
  by_cases hc : c
  · rw [if_pos hc]
    exact (single place problem).congr fun p x => (and_iff_right hc).symm
  · rw [if_neg hc]
    exact nil fun p x h => hc h.1

theorem cons {α : Type} {faultsOf : ℕ → α → Faults} {a : α} {items : List α}
    (h : Reported (faultsOf 0 a) problems)
    (h' : Reported (fun p x => ∃ i b, items[i]? = some b ∧ faultsOf (i + 1) b p x) rest)
    (hlt : ∀ p x, faultsOf 0 a p x → ∀ i b q y, faultsOf (i + 1) b q y → p < q) :
    Reported (fun p x => ∃ i b, (a :: items)[i]? = some b ∧ faultsOf i b p x)
      (problems ++ rest) := by
  refine (h.append h' fun p x q y hp ⟨i, b, _, hq⟩ => hlt p x hp i b q y hq).congr fun p x => ?_
  constructor
  · rintro (h | ⟨i, b, hi, h⟩)
    · exact ⟨0, a, rfl, h⟩
    · exact ⟨i + 1, b, hi, h⟩
  · rintro ⟨i, b, hi, h⟩
    cases i with
    | zero => obtain rfl := Option.some.inj hi; exact .inl h
    | succ i => exact .inr ⟨i, b, hi, h⟩

end Faults.Reported

/-- A report on the first sections, up to the `n`th. -/
def Faults.ReportedUpTo (n : ℕ) (faults : Faults) (problems : List ConfigProblem) : Prop :=
  Reported faults problems ∧ ∀ p x, faults p x → p.position.1 ≤ n

theorem Faults.ReportedUpTo.append {n : ℕ} {faults others : Faults}
    {problems rest : List ConfigProblem} (h : ReportedUpTo n faults problems)
    (h' : Reported others rest) (hn : ∀ p x, others p x → p.position.1 = n + 1) :
    ReportedUpTo (n + 1) (fun p x => faults p x ∨ others p x) (problems ++ rest) := by
  obtain ⟨h, hle⟩ := h
  refine ⟨h.append h' fun p x q y hp hq => ?_, ?_⟩
  · have hlt := Nat.lt_succ_of_le (hle p x hp)
    exact ConfigPlace.lt_of_section (hn q y hq ▸ hlt)
  · rintro p x (hp | hq)
    · exact (hle p x hp).trans (Nat.le_succ n)
    · exact (hn p x hq).le

namespace Service

variable {service : Service} {services : List Service} {earlier : List Text} {i : ℕ}

inductive Faulty (earlier : List Text) (i : ℕ) (service : Service) : Faults

  | noName : service.name = [] → Faulty earlier i service (.noName i) .emptyServiceName

  | slash : '/' ∈ service.name →
      Faulty earlier i service (.slash i) (.invalidServiceName service.name)

  | repeated : service.name ≠ [] → service.name ∈ earlier →
      Faulty earlier i service (.repeated i) (.duplicateService service.name)

  | backend {j : ℕ} {url : Text} {reason : InstanceError} : service.name ≠ [] →
      service.backends[j]? = some url → Instance.ofText? url = .error reason →
      Faulty earlier i service (.backend i j) (.invalidBackend service.name url reason)

theorem Faulty.position {place : ConfigPlace} {problem : ConfigProblem}
    (h : service.Faulty earlier i place problem) :
    place.position.1 = 1 ∧ place.position.2.1 = i := by
  cases h <;> exact ⟨rfl, rfl⟩

theorem reported_backends (name : Text) (i k : ℕ) (urls : List Text) :
    Faults.Reported (fun p x => ∃ j url, urls[j]? = some url ∧
      ∃ reason, Instance.ofText? url = .error reason ∧ p = .backend i (k + j) ∧
        x = .invalidBackend name url reason) (backendProblems ⟨name, urls⟩) := by
  induction urls generalizing k with
  | nil => exact .nil fun p x ⟨j, url, hj, _⟩ => by simp at hj
  | cons url urls ih =>
    have hcons : backendProblems ⟨name, url :: urls⟩ =
        backendProblems ⟨name, [url]⟩ ++ backendProblems ⟨name, urls⟩ :=
      List.filterMap_append (l := [url])
    rw [hcons]
    refine .cons ?_ ((ih (k + 1)).congr fun p x => ?_) ?_
    · cases h : Instance.ofText? url with
      | ok => simpa [backendProblems, h] using Faults.Reported.nil fun p x hf => by simp at hf
      | error reason =>
        simpa [backendProblems, h] using Faults.Reported.single (.backend i k)
          (.invalidBackend name url reason)
    · simp only [Nat.add_assoc, Nat.add_comm 1]
    · rintro p x ⟨_, -, rfl, -⟩ j url q y ⟨_, -, rfl, -⟩
      exact ConfigPlace.backend_lt_backend i (by omega)

theorem reported_problems (service : Service) (earlier : List Text) (i : ℕ) :
    Faults.Reported (service.Faulty earlier i) (service.problems earlier) := by
  unfold problems
  by_cases hn : service.name = []
  · rw [if_pos hn]
    refine (Faults.Reported.single (.noName i) .emptyServiceName).congr fun p x => ?_
    constructor
    · rintro ⟨rfl, rfl⟩; exact .noName hn
    · intro h
      cases h with
      | noName => exact ⟨rfl, rfl⟩
      | slash hs => rw [hn] at hs; cases hs
      | repeated hne | backend hne => exact absurd hn hne
  · rw [if_neg hn]
    have hslash := Faults.Reported.ite ('/' ∈ service.name) (.slash i)
      (.invalidServiceName service.name)
    have hrepeated := Faults.Reported.ite (service.name ∈ earlier) (.repeated i)
      (.duplicateService service.name)
    refine ((hslash.append hrepeated ?_).append (reported_backends service.name i 0
      service.backends) ?_).congr fun p x => ?_
    · rintro p x q y ⟨-, rfl, -⟩ ⟨-, rfl, -⟩
      exact ConfigPlace.slash_lt_repeated i
    · rintro p x q y (⟨-, rfl, -⟩ | ⟨-, rfl, -⟩) ⟨j, -, -, -, -, rfl, -⟩
      · exact ConfigPlace.slash_lt_backend i _
      · exact ConfigPlace.repeated_lt_backend i _
    · constructor
      · rintro ((⟨hs, rfl, rfl⟩ | ⟨he, rfl, rfl⟩) | ⟨j, url, hj, reason, hu, rfl, rfl⟩)
        · exact .slash hs
        · exact .repeated hn he
        · rw [Nat.zero_add]
          exact .backend hn hj hu
      · intro h
        cases h with
        | noName h => exact absurd h hn
        | slash hs => exact .inl (.inl ⟨hs, rfl, rfl⟩)
        | repeated _ he => exact .inl (.inr ⟨he, rfl, rfl⟩)
        | @backend j url reason _ hj hu =>
          exact .inr ⟨j, url, hj, reason, hu, by rw [Nat.zero_add], rfl⟩

theorem reported_allProblems (services : List Service) (earlier : List Text) :
    Faults.Reported (fun p x => ∃ i, ∃ service : Service, services[i]? = some service ∧
      service.Faulty (earlier ++ (services.take i).map (·.name)) (earlier.length + i) p x)
      (allProblems earlier services) := by
  induction services generalizing earlier with
  | nil => exact .nil fun p x ⟨i, service, hi, _⟩ => by simp at hi
  | cons first services ih =>
    have hfirst := reported_problems first earlier earlier.length
    refine .cons ?_ ((ih (earlier ++ [first.name])).congr fun p x => ?_) ?_
    · simpa using hfirst
    · simp only [List.take_succ_cons, List.map_cons, List.append_assoc, List.singleton_append,
        List.length_append, List.length_singleton, Nat.add_assoc, Nat.add_comm 1]
    · intro p x hp i service q y hq
      obtain ⟨hp1, hp2⟩ := hp.position
      obtain ⟨hq1, hq2⟩ := hq.position
      exact ConfigPlace.lt_of_service (hp1.trans hq1.symm) (by omega)

end Service

namespace Config

variable {config : Config}

inductive Faulty (config : Config) : Faults

  | bindAddress : SocketAddress.ofText? config.listener.bindAddress = none →
      Faulty config .bindAddress (.invalidBindAddress config.listener.bindAddress)

  | service {i : ℕ} {service : Service} {place : ConfigPlace} {problem : ConfigProblem} :
      config.services[i]? = some service →
      service.Faulty ((config.services.take i).map (·.name)) i place problem →
      Faulty config place problem

  | secretFile : config.auth.secretFile = [] → Faulty config .secretFile .emptySecretPath

  | audience : config.auth.audience = [] → Faulty config .audience .emptyAudience

  | connectTimeout : config.outbound.connectTimeoutSecs = 0 →
      Faulty config .connectTimeout .zeroConnectTimeout

  | requestTimeout : config.outbound.requestTimeoutSecs = some 0 →
      Faulty config .requestTimeout .zeroRequestTimeout

theorem reported_problems (config : Config) : Faults.Reported config.Faulty config.problems := by
  have hbind : (if (SocketAddress.ofText? config.listener.bindAddress).isSome then []
      else [.invalidBindAddress config.listener.bindAddress]) =
      if SocketAddress.ofText? config.listener.bindAddress = none then
        [ConfigProblem.invalidBindAddress config.listener.bindAddress] else [] := by
    cases SocketAddress.ofText? config.listener.bindAddress <;> rfl
  have hstart : Faults.ReportedUpTo 0 _ _ :=
    ⟨.ite (SocketAddress.ofText? config.listener.bindAddress = none) .bindAddress
      (.invalidBindAddress config.listener.bindAddress), by rintro p x ⟨-, rfl, -⟩; exact le_rfl⟩
  have hservices := Service.reported_allProblems config.services []
  unfold problems
  rw [hbind]
  -- One section after the other, in the order of the configuration.
  refine (((((hstart.append hservices ?_).append (.ite _ .secretFile _) ?_).append
    (.ite _ .audience _) ?_).append (.ite _ .connectTimeout _) ?_).append
    (.ite _ .requestTimeout _) ?_).1.congr fun p x => ?_
  · rintro p x ⟨i, service, -, h⟩; exact h.position.1
  · rintro p x ⟨-, rfl, -⟩; rfl
  · rintro p x ⟨-, rfl, -⟩; rfl
  · rintro p x ⟨-, rfl, -⟩; rfl
  · rintro p x ⟨-, rfl, -⟩; rfl
  · simp only [List.nil_append, List.length_nil, Nat.zero_add]
    constructor
    · rintro (((((⟨h, rfl, rfl⟩ | ⟨i, service, hi, h⟩) | ⟨h, rfl, rfl⟩) | ⟨h, rfl, rfl⟩) |
        ⟨h, rfl, rfl⟩) | ⟨h, rfl, rfl⟩)
      · exact .bindAddress h
      · exact .service hi h
      · exact .secretFile h
      · exact .audience h
      · exact .connectTimeout h
      · exact .requestTimeout h
    · intro h
      cases h with
      | bindAddress h => exact .inl (.inl (.inl (.inl (.inl ⟨h, rfl, rfl⟩))))
      | @service i service _ _ hi h => exact .inl (.inl (.inl (.inl (.inr ⟨i, service, hi, h⟩))))
      | secretFile h => exact .inl (.inl (.inl (.inr ⟨h, rfl, rfl⟩)))
      | audience h => exact .inl (.inl (.inr ⟨h, rfl, rfl⟩))
      | connectTimeout h => exact .inl (.inr ⟨h, rfl, rfl⟩)
      | requestTimeout h => exact .inr ⟨h, rfl, rfl⟩

/-- A configuration is accepted if there is no fault in it. If there are any, all of them are
reported. -/
theorem reported_validate (config : Config) :
    (Server.validate config = .ok config ↔ ∀ place problem, ¬ config.Faulty place problem) ∧
      ((∃ place problem, config.Faulty place problem) →
        ∃ problems, Server.validate config = .error (.invalid problems) ∧
          Faults.Reported config.Faulty problems) := by
  have hreported := reported_problems config
  constructor
  · rw [Server.validate_eq_ok_iff, and_iff_left rfl, hreported.eq_nil_iff]
  · rintro ⟨place, problem, hf⟩
    have hne : config.problems ≠ [] := fun h => hreported.eq_nil_iff.mp h place problem hf
    exact ⟨_, Server.validate_eq_error_iff.mpr ⟨hne, rfl⟩, hreported⟩

/-- A backend that is no address goes unreported behind a service without a name. -/
theorem not_reported_of_no_name :
    ¬ ∀ config : Config, ∀ service ∈ config.services, ∀ url ∈ service.backends, ∀ reason,
      Instance.ofText? url = .error reason →
      .invalidBackend service.name url reason ∈ config.problems := by
  intro h
  have hurl : Instance.ofText? "catalog:8000" = .error (.unsupportedScheme "catalog") := by
    decide +kernel
  have hreported := h { services := [⟨"", ["catalog:8000"]⟩] } _ List.mem_cons_self _
    List.mem_cons_self _ hurl
  revert hreported
  decide +kernel

end Config

end ApiGateway
