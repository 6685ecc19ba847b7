import ApiGateway.Proofs.Http.Target
import ApiGateway.Proofs.Net.Address
import ApiGateway.Proofs.Outbound.Message
import ApiGateway.Proofs.Url.Authority

/-! # The header section of a directed request

A client may send the fields that the gateway writes itself, repeat them, and
nominate them as belonging to its connection. The host that it asked for is read
before anything is removed, so a directed section depends on such fields only as
far as they survive the connection.
-/

namespace ApiGateway

open FieldValue (ofText? text?)

/-- The only value under the name can be sent for the text and is read as that text. -/
def Fields.Shows (n : FieldName) (s : Text) (fs : Fields) : Prop :=
  ∃ v, ofText? s = some v ∧ text? v = some s ∧ fs.values n = [v]

namespace Fields

variable {n : FieldName} {s t : Text} {fs : Fields}

theorem shows_of_readable (h : s.Readable) (hv : fs.values n = [.ofText s]) : fs.Shows n s :=
  ⟨.ofText s, FieldValue.ofText?_of_readable h, FieldValue.text?_eq_some_iff.mpr ⟨h, rfl⟩, hv⟩

theorem Shows.unique (hs : fs.Shows n s) (ht : fs.Shows n t) : s = t := by
  obtain ⟨v, -, hread, hv⟩ := hs
  obtain ⟨w, -, hw, hvalues⟩ := ht
  obtain rfl : v = w := by simpa [hv] using hvalues
  exact Option.some.inj (hread.symm.trans hw)

end Fields

namespace HopByHop

/-- What is left of a header section behind the connection: the values of a name that is neither
fixed nor nominated, in order, and none of another name. -/
structure Survive (fs : Fields) (survived : FieldName → List FieldValue) : Prop where
  kept {n : FieldName} : n ∉ fixed → ¬ Nominates n fs → survived n = fs.values n
  dropped {n : FieldName} : n ∈ fixed ∨ Nominates n fs → survived n = []

theorem survive_strip (fs : Fields) : Survive fs fun n => (strip fs).values n where
  kept := values_strip_of_not
  dropped := values_strip_eq_nil

end HopByHop

namespace Director

variable {raw written : Text} {fs : Fields} {chosen : Instance} {request : Request}

def lastElement? (chain : Text) : Option Text := (chain.split ',').getLast?.map Text.trim

/-- Only readable values enter the chain, so it can be sent. -/
theorem shows_forwardedChain {sent : Fields} {ip : IpAddress}
    (h : fs.values .xForwardedFor =
      [.ofText (forwardedChain (sent.readable .xForwardedFor) ip.text)]) :
    fs.Shows .xForwardedFor (forwardedChain (sent.readable .xForwardedFor) ip.text) := by
  refine Fields.shows_of_readable ?_ h
  refine Text.readable_join (by decide) fun part hp => ?_
  rcases List.mem_append.mp hp with hp | hp
  · obtain ⟨v, -, hv⟩ := List.mem_filterMap.mp hp
    exact (FieldValue.text?_eq_some_iff.mp hv).1
  · obtain rfl := List.mem_singleton.mp hp
    exact (Text.visible_of_textChars fun c => IpAddress.mem_text).readable

theorem lastElement?_forwardedChain (earlier : List Text) (ip : IpAddress) :
    lastElement? (forwardedChain earlier ip.text) = some ip.text := by
  have hcomma : ',' ∉ ip.text := fun hm => absurd (IpAddress.mem_text hm) (by decide)
  have hblank : ip.text.trim = ip.text := Text.trim_eq_self fun c hc =>
    Text.isBlank_eq_false (Text.visible_of_textChars (fun c => IpAddress.mem_text) c hc)
  by_cases hn : earlier = []
  · rw [hn, forwardedChain, List.nil_append, Text.join, lastElement?,
      Text.split_of_not_mem hcomma, List.getLast?_singleton, Option.map_some, hblank]
  · have hspace : ',' ∉ ' ' :: ip.text := by simp [hcomma]
    have hchain : forwardedChain earlier ip.text =
        Text.join ", " earlier ++ ',' :: ' ' :: ip.text := by
      rw [forwardedChain, Text.join_concat hn, List.append_assoc]
      rfl
    rw [hchain, lastElement?, Text.split_append_cons, Text.split_of_not_mem hspace,
      List.getLast?_concat, Option.map_some, Text.trim_cons (by decide), hblank]

structure Directed (chosen : Instance) (request : Request)
    (survived : FieldName → List FieldValue) (fs : Fields) : Prop where
  host : fs.Shows .host chosen.authority
  host_of_client {v : FieldValue} {rest : List FieldValue} :
    request.fields.values .host = v :: rest → fs.values .xForwardedHost = [v]
  host_of_target {authority : Text} :
    request.fields.values .host = [] → request.target.authority = some authority →
      fs.Shows .xForwardedHost authority
  host_unknown :
    request.fields.values .host = [] → request.target.authority = none →
      fs.values .xForwardedHost = survived .xForwardedHost
  scheme_reported :
    survived .xForwardedProto ≠ [] → fs.values .xForwardedProto = survived .xForwardedProto
  scheme_plain : survived .xForwardedProto = [] → fs.Shows .xForwardedProto "http"
  client_known {ip : IpAddress} :
    request.client = some ip → fs.Shows .xForwardedFor
      (Text.join ", " ((survived .xForwardedFor).filterMap text? ++ [ip.text]))
  client_last {ip : IpAddress} {chain : Text} :
    request.client = some ip → fs.Shows .xForwardedFor chain → lastElement? chain = some ip.text
  client_unknown :
    request.client = none → fs.values .xForwardedFor = survived .xForwardedFor
  frame {n : FieldName} : n ∉ Director.written → fs.values n = survived n

theorem values_direct_xForwardedHost (chosen : Instance) (request : Request) :
    (direct chosen request).values .xForwardedHost =
      match askedHost? request with
      | some v => [v]
      | none => (HopByHop.strip request.fields).values .xForwardedHost := by
  rw [direct, Fields.values_set, if_neg (by decide), values_recordClient (by decide),
    values_recordScheme (by decide), recordHost]
  cases askedHost? request with
  | none => rfl
  | some v => exact (Fields.values_set ..).trans (if_pos rfl)

theorem values_direct_xForwardedProto (chosen : Instance) (request : Request) :
    (direct chosen request).values .xForwardedProto =
      if (HopByHop.strip request.fields).values .xForwardedProto = [] then [.ofText "http"]
      else (HopByHop.strip request.fields).values .xForwardedProto := by
  rw [direct, Fields.values_set, if_neg (by decide), values_recordClient (by decide),
    recordScheme, Fields.values_ite_contains, values_recordHost (by decide)]

theorem values_direct_xForwardedFor (chosen : Instance) (request : Request) :
    (direct chosen request).values .xForwardedFor =
      match request.client with
      | some ip => [.ofText (forwardedChain
          ((HopByHop.strip request.fields).readable .xForwardedFor) ip.text)]
      | none => (HopByHop.strip request.fields).values .xForwardedFor := by
  have hearlier : (recordScheme (recordHost request (HopByHop.strip request.fields))).values
      .xForwardedFor = (HopByHop.strip request.fields).values .xForwardedFor := by
    rw [values_recordScheme (by decide), values_recordHost (by decide)]
  rw [direct, Fields.values_set, if_neg (by decide), recordClient]
  cases request.client with
  | none => exact hearlier
  | some ip =>
    rw [Fields.values_set, if_pos rfl, Fields.readable, hearlier]
    rfl

/-- The section has the authority of the instance as its only host and tells the host, the protocol
and the address of the client, also if those fields are nominated; every other name has what
survives. -/
theorem directed_direct (h : Instance.ofText? raw = .ok chosen)
    (ht : Target.ofText? written = some request.target) :
    ∃ survived, HopByHop.Survive request.fields survived ∧
      Directed chosen request survived (direct chosen request) := by
  refine ⟨_, HopByHop.survive_strip request.fields, ?_⟩
  have hasked := values_direct_xForwardedHost chosen request
  have hscheme := values_direct_xForwardedProto chosen request
  have hclient := values_direct_xForwardedFor chosen request
  constructor
  case host =>
    exact Fields.shows_of_readable (Instance.visible_authority h).readable values_direct_host
  case host_of_client =>
    intro v rest hv
    rw [hasked, askedHost?, (Fields.first?_eq_some_iff ..).mpr ⟨rest, hv⟩]
    rfl
  case host_of_target =>
    intro authority hv ha
    refine Fields.shows_of_readable (Target.visible_authority_of_ofText? ht ha).readable ?_
    rw [hasked, askedHost?, Fields.first?, hv, ha]
    rfl
  case host_unknown =>
    intro hv ha
    rw [hasked, askedHost?, Fields.first?, hv, ha]
    rfl
  case scheme_reported =>
    intro hs
    rw [hscheme, if_neg hs]
  case scheme_plain =>
    intro hs
    refine Fields.shows_of_readable (by decide) ?_
    rw [hscheme, if_pos hs]
  case client_known =>
    intro ip hip
    rw [hip] at hclient
    exact shows_forwardedChain hclient
  case client_last =>
    intro ip chain hip hchain
    rw [hip] at hclient
    rw [hchain.unique (shows_forwardedChain hclient)]
    exact lastElement?_forwardedChain _ ip
  case client_unknown =>
    intro hip
    rw [hclient, hip]
  case frame =>
    exact values_direct_of_not_mem

def nominating : Request where
  target := { path := "/catalog/items" }
  fields := [(.host, .ofText "shop"), (.host, .ofText "shop-2"),
    (.connection, .ofText "Host, X-Forwarded-Host, X-Forwarded-Proto, X-Trace"),
    (.xForwardedHost, .ofText "spoofed"), (.xForwardedProto, .ofText "https"),
    (⟨"x-trace"⟩, .ofText "1"), (.xForwardedFor, .ofText "10.0.0.9"),
    (.xForwardedFor, .ofText "10.0.0.8"), (.accept, .ofText "text/html")]
  client := some (.v4 [127, 0, 0, 1])

def reached : Instance :=
  ⟨⟨.http, [], [], .address (.v6 [0, 0, 0, 0, 0, 0, 0, 1]), some 8000, "/svc", none, none⟩⟩

theorem directed_direct_nominating :
    Instance.ofText? "http://[::1]:8000/svc" = .ok reached ∧
      Target.ofText? "/catalog/items" = some nominating.target ∧
      ∃ survived, HopByHop.Survive nominating.fields survived ∧
        Directed reached nominating survived (direct reached nominating) := by
  have h : Instance.ofText? "http://[::1]:8000/svc" = .ok reached := by decide +kernel
  have ht : Target.ofText? "/catalog/items" = some nominating.target := by decide +kernel
  exact ⟨h, ht, directed_direct h ht⟩

example : direct reached nominating =
    [(.accept, .ofText "text/html"), (.xForwardedHost, .ofText "shop"),
      (.xForwardedProto, .ofText "http"),
      (.xForwardedFor, .ofText "10.0.0.9, 10.0.0.8, 127.0.0.1"),
      (.host, .ofText "[::1]:8000")] := by
  decide +kernel

end Director

end ApiGateway
