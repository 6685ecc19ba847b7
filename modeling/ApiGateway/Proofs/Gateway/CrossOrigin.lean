import ApiGateway.Proofs.Gateway.Admission
import ApiGateway.Proofs.Http.HopByHop

/-! # What a trusted origin is shown

A request is trusted if its first `Origin` value is readable and spells the
configured origin. The response to it carries the grant, whatever it is a
response to, and is otherwise the one from inside. Responses are compared by
the values under each name, and by that measure a second policy of the same
kind around the first one has no effect.
-/

namespace ApiGateway

structure Response.Alike (r s : Response) : Prop where
  status_eq : r.status = s.status
  body_eq : r.body = s.body
  values_eq (n : FieldName) : r.fields.values n = s.fields.values n

namespace CorsPolicy

variable {policy : CorsPolicy} {request : Request} {origin : Text} {fs inner outer again : Fields}

/-- The first `Origin` value is a readable text, and that text is the configured origin. -/
def Trusts (policy : CorsPolicy) (request : Request) (origin : Text) : Prop :=
  policy.allowedOrigin = some origin ∧ origin.Readable ∧
    (request.fields.values .origin).head? = some (.ofText origin)

theorem allows_eq_true_iff {text : Option Text} :
    policy.allows text = true ↔
      ∃ origin, policy.allowedOrigin = some origin ∧ text = some origin := by
  cases text <;> simp [allows]

theorem granted?_eq_some_iff {value : FieldValue} :
    policy.granted? request.fields = some value ↔
      ∃ origin, policy.Trusts request origin ∧ value = .ofText origin := by
  simp only [granted?, Option.filter_eq_some_iff, allows_eq_true_iff, FieldValue.text?_eq_some_iff,
    Fields.first?, Trusts]
  constructor
  · rintro ⟨hv, origin, ho, hr, rfl⟩
    exact ⟨origin, ⟨ho, hr, hv⟩, rfl⟩
  · rintro ⟨origin, ⟨ho, hr, hv⟩, rfl⟩
    exact ⟨hv, origin, ho, hr, rfl⟩

/-- A readable `Vary` value lists the origin, in any case, or everything. -/
def ListsOrigin (fs : Fields) : Prop :=
  ∃ v ∈ fs.values .vary, v.Readable ∧
    ∃ element ∈ v.elements, element = ("*" : Text) ∨ Text.equalIgnoringCase element "Origin" = true

instance (fs : Fields) : Decidable (ListsOrigin fs) :=
  inferInstanceAs (Decidable (∃ v ∈ fs.values .vary, _))

theorem coversOrigin_iff {v : FieldValue} (h : v.Readable) :
    coversOrigin (Bytes.latin1 v) = true ↔
      ∃ element ∈ v.elements,
        element = ("*" : Text) ∨ Text.equalIgnoringCase element "Origin" = true := by
  have hcase (s : Text) : Text.equalIgnoringCase s "origin" = Text.equalIgnoringCase s "Origin" :=
    rfl
  simp only [coversOrigin, List.any_eq_true, Bool.or_eq_true, decide_eq_true_eq,
    FieldValue.elements, List.mem_map, exists_exists_and_eq_and, hcase]
  refine exists_congr fun piece => and_congr_right fun hp => ?_
  rw [FieldValue.trim_eq_of_mem_split h hp]

theorem any_coversOrigin_iff : (fs.readable .vary).any coversOrigin = true ↔ ListsOrigin fs := by
  simp only [Fields.readable, List.any_eq_true, List.mem_filterMap,
    FieldValue.text?_eq_some_latin1_iff, ListsOrigin]
  constructor
  · rintro ⟨_, ⟨v, hv, hread, rfl⟩, hc⟩
    exact ⟨v, hv, hread, (coversOrigin_iff hread).mp hc⟩
  · rintro ⟨v, hv, hread, hc⟩
    exact ⟨_, ⟨v, hv, hread, rfl⟩, (coversOrigin_iff hread).mpr hc⟩

theorem values_varyByOrigin_vary :
    (varyByOrigin fs).values .vary =
      fs.values .vary ++ if ListsOrigin fs then [] else [.ofText "Origin"] := by
  unfold varyByOrigin
  by_cases h : ListsOrigin fs
  · rw [if_pos (any_coversOrigin_iff.mpr h), if_pos h, List.append_nil]
  · rw [if_neg (mt any_coversOrigin_iff.mp h), if_neg h, Fields.values_append, if_pos rfl]

def grants (origin : Text) : List (FieldName × Text) :=
  [(.accessControlAllowOrigin, origin), (.accessControlAllowCredentials, "true"),
    (.accessControlAllowHeaders, "authorization, content-type"),
    (.accessControlAllowMethods, "GET,POST,PUT,PATCH,DELETE,OPTIONS"),
    (.accessControlExposeHeaders, "content-type")]

/-- The fields of a response with the grant, in place of any grant from inside. -/
structure Granted (origin : Text) (inner outer : Fields) : Prop where
  granted : ∀ g ∈ grants origin, outer.values g.1 = [.ofText g.2]
  vary : outer.values .vary =
    inner.values .vary ++ if ListsOrigin inner then [] else [.ofText "Origin"]
  other : ∀ n, n ≠ .vary → (∀ g ∈ grants origin, g.1 ≠ n) → outer.values n = inner.values n

theorem granted_grant (origin : Text) (fs : Fields) :
    Granted origin fs (grant (.ofText origin) fs) := by
  have hlists (v : FieldValue) :
      ListsOrigin (fs.set .accessControlAllowOrigin v) ↔ ListsOrigin fs := by
    rw [ListsOrigin, ListsOrigin, Fields.values_set, if_neg (by decide)]
  constructor
  case granted =>
    simp +decide only [grants, List.forall_mem_cons, List.not_mem_nil, false_implies, implies_true,
      grant, Fields.values_set, if_true, if_false, values_varyByOrigin, ne_eq]
  case vary =>
    simp +decide only [grant, Fields.values_set, if_false, values_varyByOrigin_vary, hlists]
  case other =>
    intro n hv hn
    simp only [grants, List.forall_mem_cons] at hn
    obtain ⟨ho, hc, hh, hm, he, -⟩ := hn
    refine values_grant ?_
    simp only [written, List.mem_cons, List.not_mem_nil, or_false, not_or]
    exact ⟨ho.symm, hv, hc.symm, hh.symm, hm.symm, he.symm⟩

theorem Granted.listsOrigin (h : Granted origin inner outer) : ListsOrigin outer := by
  have hvary := h.vary
  by_cases hl : ListsOrigin inner
  · rw [if_pos hl, List.append_nil] at hvary
    rwa [ListsOrigin, hvary]
  · rw [if_neg hl] at hvary
    refine ⟨.ofText "Origin", ?_, by decide, "Origin", by decide, by decide⟩
    rw [hvary]
    exact List.mem_append_right _ List.mem_cons_self

theorem Granted.values_eq (h : Granted origin inner outer) (h' : Granted origin outer again)
    (n : FieldName) : again.values n = outer.values n := by
  by_cases hv : n = .vary
  · rw [hv, h'.vary, if_pos h.listsOrigin, List.append_nil]
  · by_cases hn : ∃ g ∈ grants origin, g.1 = n
    · obtain ⟨g, hg, rfl⟩ := hn
      rw [h.granted g hg, h'.granted g hg]
    · exact h'.other n hv fun g hg he => hn ⟨g, hg, he⟩

structure Marked (policy : CorsPolicy) (request : Request) (inner outer : Response) : Prop where
  status_eq : outer.status = inner.status
  body_eq : outer.body = inner.body
  granted : ∀ origin, policy.Trusts request origin → Granted origin inner.fields outer.fields
  untouched : (∀ origin, ¬ policy.Trusts request origin) → outer.fields = inner.fields

theorem marked_mark (policy : CorsPolicy) (request : Request) (inner : Response) :
    Marked policy request inner (policy.mark request inner) := by
  unfold mark
  cases hg : policy.granted? request.fields with
  | none =>
    refine ⟨rfl, rfl, fun origin h => ?_, fun _ => rfl⟩
    rw [granted?_eq_some_iff.mpr ⟨origin, h, rfl⟩] at hg
    cases hg
  | some value =>
    obtain ⟨origin, h, rfl⟩ := granted?_eq_some_iff.mp hg
    refine ⟨rfl, rfl, fun other h' => ?_, fun hn => absurd h (hn origin)⟩
    obtain rfl := Option.some.inj (h.1.symm.trans h'.1)
    exact granted_grant origin inner.fields

theorem Marked.alike {inner outer again : Response} (h : Marked policy request inner outer)
    (h' : Marked policy request outer again) : again.Alike outer := by
  refine ⟨h'.status_eq, h'.body_eq, fun n => ?_⟩
  by_cases ht : ∃ origin, policy.Trusts request origin
  · obtain ⟨origin, ht⟩ := ht
    exact (h.granted origin ht).values_eq (h'.granted origin ht) n
  · rw [h'.untouched (not_exists.mp ht)]

section Apply

variable {m : Type → Type} [Monad m] [LawfulMonad m]

theorem isPreflight_iff : isPreflight request = true ↔ request.method = ("OPTIONS" : Text) :=
  decide_eq_true_iff

theorem apply_of_options (hm : request.method = ("OPTIONS" : Text))
    (handler : Request → m Response) :
    policy.apply handler request = pure (policy.mark request .noContent) := by
  rw [apply, if_pos (isPreflight_iff.mpr hm), pure_bind]

theorem apply_of_ne_options (hm : request.method ≠ ("OPTIONS" : Text))
    (handler : Request → m Response) :
    policy.apply handler request = policy.mark request <$> handler request := by
  rw [apply, if_neg (mt isPreflight_iff.mp hm), bind_pure_comp]

end Apply

/-- An `OPTIONS` request is answered without the handler. For any other request the handler runs
once, and its response is marked. The same policy twice is as good as once. -/
theorem marked_apply (policy : CorsPolicy) (request : Request) :
    ∃ once twice : Response → Response,
      (∀ inner, policy.Marked request inner (once inner)) ∧
      (∀ inner, (twice inner).Alike (once inner)) ∧
      ∀ {m : Type → Type} [Monad m] [LawfulMonad m] (handler : Request → m Response),
        (request.method = ("OPTIONS" : Text) →
          policy.apply handler request = pure (once ⟨204, [], .sized []⟩) ∧
          policy.apply (policy.apply handler) request = pure (once ⟨204, [], .sized []⟩)) ∧
        (request.method ≠ ("OPTIONS" : Text) →
          policy.apply handler request = once <$> handler request ∧
          policy.apply (policy.apply handler) request = twice <$> handler request) := by
  have hmarked := marked_mark policy request
  refine ⟨policy.mark request, fun inner => policy.mark request (policy.mark request inner),
    hmarked, fun inner => (hmarked inner).alike (hmarked _), ?_⟩
  intro m _ _ handler
  constructor
  · intro hm
    exact ⟨apply_of_options hm handler, apply_of_options hm (policy.apply handler)⟩
  · intro hm
    have honce : policy.apply handler request = policy.mark request <$> handler request :=
      apply_of_ne_options hm handler
    refine ⟨honce, ?_⟩
    rw [apply_of_ne_options hm, honce, Functor.map_map]

def shop : CorsPolicy := ⟨some "https://shop.example"⟩

def fromShop : Request where
  target := { path := "/catalog/1" }
  fields := [(.origin, .ofText "https://shop.example"), (.origin, .ofText "null")]

/-- A handler that counts its runs, and answers with a grant and a `Vary` list of its own. -/
def counted (_ : Request) : StateM ℕ Response := do
  modify (· + 1)
  pure { status := 404, fields := [(.accessControlAllowOrigin, .ofText "*"),
    (.vary, .ofText "Accept"), (.vary, 0xE9 :: FieldValue.ofText ", origin")] }

theorem marked_apply_counted :
    LawfulMonad (StateM ℕ) ∧ fromShop.method ≠ ("OPTIONS" : Text) ∧
      ∃ inner outer, (counted fromShop).run 0 = (inner, 1) ∧
        (shop.apply counted fromShop).run 0 = (outer, 1) ∧ shop.Marked fromShop inner outer := by
  have hm : fromShop.method ≠ ("OPTIONS" : Text) := by decide
  obtain ⟨once, twice, hmarked, -, happly⟩ := marked_apply shop fromShop
  obtain ⟨honce, -⟩ := (happly counted).2 hm
  refine ⟨inferInstance, hm, _, _, rfl, ?_, hmarked _⟩
  rw [honce]
  rfl

/-- An origin with other characters than printable ASCII is never granted anything, not even to a
request that names it exactly. -/
theorem not_granted_of_accent :
    ¬ ∀ (policy : CorsPolicy) (request : Request) (origin : Text)
      (handler : Request → Id Response), policy.allowedOrigin = some origin →
      (request.fields.values .origin).head? = some (Text.utf8 origin) →
      (policy.apply handler request).run.fields.values .accessControlAllowOrigin =
        [Text.utf8 origin] := by
  intro h
  have hgranted := h ⟨some "https://café.example"⟩
    { target := { path := "/" }, fields := [(.origin, Text.utf8 "https://café.example")] }
    "https://café.example" (fun _ => .noContent) rfl rfl
  revert hgranted
  decide

end CorsPolicy

namespace Gateway

open CorsPolicy

variable {gateway : Gateway} {routes : RouteTable} {arrival : Arrival} {origin : Text}

theorem trusts_identified_iff {policy : CorsPolicy} :
    policy.Trusts (identified arrival) origin ↔ policy.Trusts arrival.request origin := by
  rw [Trusts, Trusts, values_identified (by decide)]

theorem granted_answer (h : gateway.cors.Trusts arrival.request origin) :
    (∀ g ∈ grants origin, (gateway.answer routes arrival).1.fields.values g.1 = [.ofText g.2]) ∧
      ListsOrigin (gateway.answer routes arrival).1.fields := by
  obtain ⟨response, hanswer, -⟩ := exists_served gateway routes arrival
  have hgranted := (marked_mark gateway.cors (identified arrival) response).granted origin
    (trusts_identified_iff.mpr h)
  rw [hanswer]
  constructor
  · intro g hg
    have hnames : ∀ g ∈ grants origin, g.1 ≠ .contentLength ∧ g.1 ≠ .allow ∧ g.1 ≠ .xRequestId := by
      simp +decide only [grants, List.forall_mem_cons]
    obtain ⟨hl, ha, hi⟩ := hnames g hg
    rw [values_outgoing hl ha hi, hgranted.granted g hg]
  · have hlists := hgranted.listsOrigin
    rwa [ListsOrigin, ← values_outgoing (by decide) (by decide) (by decide)] at hlists

end Gateway

end ApiGateway
