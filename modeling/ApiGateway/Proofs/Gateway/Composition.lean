import ApiGateway.Proofs.Gateway.Credentials
import ApiGateway.Proofs.Gateway.Serving
import ApiGateway.Proofs.Route.Configured
import ApiGateway.Proofs.Url.Given

/-! # Composed URLs

A request for a clean path below a service is sent to the URL that a reader puts
together from the address of the instance and the path: every segment arrives as
it was asked for, and so does the query.
-/

namespace ApiGateway

open Url

variable {request : Request} {service raw scheme place base : Text} {segments : List Text}
  {pool : Pool} {chosen : Instance} {traffic : Traffic}

/-- The request is for a path of clean segments below the service, and its query is clean. -/
structure Request.AsksFor (request : Request) (service : Text) (segments : List Text) : Prop where
  service_ne_nil : service ≠ []
  slash_not_mem : '/' ∉ service
  path_eq : request.target.path = '/' :: service ++ pathText segments
  clean : ∀ segment ∈ segments, Clean segment
  query : CleanQuery request.target.query

/-- Scheme and authority of the instance, its base path without a slash at the end, the rest of
the path, which is the root if nothing is left, and the query. -/
def Instance.composed (i : Instance) (rest : Text) (query : Option Text) : Text :=
  i.url.scheme.text ++ "://" ++ i.authority ++ i.mount ++ (if rest = [] then ['/'] else rest) ++
    marked '?' query

theorem Outbound.bareUrl_eq_self {url : Url} (h : url.Plain) : bareUrl url = url := by
  obtain ⟨huser, hpassword, hfragment⟩ := h
  cases url
  simp_all [bareUrl]

namespace Request

theorem AsksFor.resolve_eq (h : request.AsksFor service segments)
    (hp : traffic.routes.pool? service = some pool) :
    traffic.routes.resolve request.target.path =
      some ⟨pool, if pathText segments = [] then ['/'] else pathText segments⟩ := by
  refine RouteTable.resolve_of_splits hp ⟨?_, h.service_ne_nil, h.slash_not_mem, ?_⟩
  · rw [h.path_eq]
    rfl
  · cases segments with
    | nil => exact .inl rfl
    | cons segment segments => exact .inr ⟨_, rfl⟩

theorem AsksFor.exists_shown (h : request.AsksFor service segments) :
    ∃ shown, shown ≠ [] ∧ (∀ segment ∈ shown, Clean segment) ∧
      pathText shown = if pathText segments = [] then ['/'] else pathText segments := by
  cases segments with
  | nil => exact ⟨[[]], by simp, by simpa using (by decide : Clean []), rfl⟩
  | cons segment segments =>
    exact ⟨segment :: segments, by simp, h.clean, by rw [if_neg (by simp [pathText_cons])]⟩

theorem AsksFor.text_urlFor (h : request.AsksFor service segments)
    (hi : Instance.ofText? raw = .ok chosen) (hplain : chosen.url.Plain) :
    (chosen.urlFor (Path.join chosen.basePath
        (if pathText segments = [] then ['/'] else pathText segments))
      request.target.query).text = chosen.composed (pathText segments) request.target.query := by
  obtain ⟨shown, hne, hclean, hshown⟩ := h.exists_shown
  rw [Instance.composed, ← hshown]
  exact Instance.text_urlFor_pathText hi hplain hclean hne h.query

end Request

namespace Gateway

/-- The request leads to the pool, and on the instance it is for the composed URL. When it is the
turn of the instance, one message is sent, to that URL. -/
structure Composes (gateway : Gateway) (network : Network) (traffic : Traffic) (request : Request)
    (pool : Pool) (chosen : Instance) (rest : Text) : Prop where
  leads : ∃ found, traffic.routes.resolve request.target.path = some found ∧ found.pool = pool ∧
    (chosen.urlFor (Path.join chosen.basePath found.strippedPath) request.target.query).text =
      chosen.composed rest request.target.query
  sent : (traffic.routes.select pool.name).1 = some chosen →
    ∃ outbound, ((gateway.forward network request).run traffic).2.record.sent =
        traffic.record.sent ++ [outbound] ∧ outbound.chosen = chosen ∧
      outbound.url.text = chosen.composed rest request.target.query

/-- Whatever clean path below a service is asked for, it arrives at each instance of the service
as it is composed, and the mount is the base path that the instance is given with. -/
theorem composes_of_asksFor (gateway : Gateway) (network : Network) (traffic : Traffic)
    (h : request.AsksFor service segments) (hp : traffic.routes.pool? service = some pool) :
    ∀ chosen ∈ pool.instances, ∀ raw scheme place base,
      Instance.GivenAs raw scheme place base → Instance.ofText? raw = .ok chosen →
      gateway.Composes network traffic request pool chosen (pathText segments) ∧
        chosen.ReadAs scheme place base ∧
        ∀ parts, base = pathText parts → (∀ part ∈ parts, Settled part) →
          chosen.mount = Text.trimEnd (· = '/') base := by
  intro chosen _ raw scheme place base hg hi
  have hread := hg.readAs hi
  have hresolve := h.resolve_eq hp
  have htext := h.text_urlFor hi hread.plain
  refine ⟨⟨⟨_, hresolve, rfl, htext⟩, fun hselect => ?_⟩, hread, ?_⟩
  · have hturn : traffic.routes.select pool.name =
        (some chosen, (traffic.routes.select pool.name).2) := Prod.ext hselect rfl
    refine ⟨_, (ends_forward_of_select hresolve hturn).sent_eq, rfl, ?_⟩
    rw [← htext]
    exact congrArg Url.text (Outbound.bareUrl_eq_self (Instance.plain_urlFor hread.plain _ _))
  · rintro parts rfl hs
    exact hg.mount_eq hi hs

def deepRequest : Request where
  target := { path := "/catalog//a%2Fb/C:/", query := some "x=1&y=%20" }

theorem composes_of_asksFor_mounted :
    deepRequest.AsksFor "catalog" ["", "a%2Fb", "C:", ""] ∧
      ∃ pool, Instance.mountedTable.pool? "catalog" = some pool ∧
        Instance.mounted ∈ pool.instances ∧
        (Instance.mountedTable.select pool.name).1 = some Instance.mounted ∧
        Instance.GivenAs "http://[::1]:8000/svc" "http" "[::1]:8000" "/svc" ∧
        Instance.ofText? "http://[::1]:8000/svc" = .ok Instance.mounted ∧
        terse.Composes (fun _ => ⟨0, .error "refused"⟩) ⟨Instance.mountedTable, {}⟩ deepRequest pool
          Instance.mounted "//a%2Fb/C:/" := by
  have hasks : deepRequest.AsksFor "catalog" ["", "a%2Fb", "C:", ""] := by
    constructor <;> decide
  have hgiven : Instance.GivenAs "http://[::1]:8000/svc" "http" "[::1]:8000" "/svc" := by
    refine ⟨by decide, by decide, ?_, by decide, ?_, .inr ⟨"svc", rfl⟩, by decide⟩
    · exact List.all_eq_true.mp (by decide)
    · simp [dividers, Text.isBlank]
  have hpool : Instance.mountedTable.pool? "catalog" =
      some ⟨"catalog", [Instance.mounted], {}⟩ := by decide
  refine ⟨hasks, _, hpool, List.mem_cons_self, by decide, hgiven, Instance.ofText?_mounted, ?_⟩
  exact (composes_of_asksFor terse _ ⟨Instance.mountedTable, {}⟩ hasks hpool _
    List.mem_cons_self _ _ _ _ hgiven Instance.ofText?_mounted).1

example : Instance.mounted.composed "//a%2Fb/C:/" (some "x=1&y=%20") =
    ("http://[::1]:8000/svc//a%2Fb/C:/?x=1&y=%20" : Text) := by
  decide +kernel

end Gateway

end ApiGateway
