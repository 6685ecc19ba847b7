import ApiGateway.Proofs.Text.Cut
import ApiGateway.Proofs.Text.Split
import ApiGateway.Proofs.Url.Authority
import ApiGateway.Proofs.Url.Segments

/-! # The components of a written URL

A reader knows the parts of a URL from the marks between them. What an instance
is asked for can be any text, but its encoded form holds none of the marks that
end it. So a reader finds the instance's own scheme, user information, host and
socket number in front of every path, and nothing of a path or a query elsewhere.
-/

namespace ApiGateway

open Text (Visible Unbroken)

namespace Url

/-- What a reader finds in the text of a URL. -/
structure Components where
  scheme : Text
  user : Option Text
  authority : Text
  path : Text
  query : Option Text
  fragment : Option Text
  deriving DecidableEq, Repr

def cutOff (mark : Char) (s : Text) : Text × Option Text :=
  match Text.cutFirst mark s with
  | some (front, rest) => (front, some rest)
  | none => (s, none)

/-- User information and what stands behind it, between which the last `@` stands. -/
def cutPlace (s : Text) : Option Text × Text :=
  match Text.cutLast '@' s with
  | some (user, authority) => (some user, authority)
  | none => (none, s)

/-- Reads a URL by its marks alone: the fragment from the first `#`, the query from the first `?`
in front of it, the scheme up to a colon and two slashes, the path from the next slash of either
kind, and user information up to the last `@` in between. -/
def Components.ofText? (s : Text) : Option Components := do
  let (s, fragment) := cutOff '#' s
  let (s, query) := cutOff '?' s
  let (scheme, rest) ← Text.cutFirst ':' s
  match rest with
  | '/' :: '/' :: rest =>
    let (user, authority) := cutPlace (rest.takeWhile (!isSlash ·))
    some ⟨scheme, user, authority, rest.dropWhile (!isSlash ·), query, fragment⟩
  | _ => none

variable {url : Url} {s : Text} {c mark : Char}

theorem cutOff_append_marked (h : mark ∉ s) (t : Option Text) :
    cutOff mark (s ++ marked mark t) = (s, t) := by
  cases t with
  | none => rw [marked, List.append_nil, cutOff, Text.cutFirst_eq_none_iff.mpr h]
  | some t => simp [cutOff, marked, Text.cutFirst_append h, Text.cutFirst]

def credentials (url : Url) : Option Text :=
  if url.user = [] ∧ url.password = [] then none
  else if url.password = [] then some url.user
  else some (url.user ++ ':' :: url.password)

/-- No part of the URL holds one of the marks that end it. -/
structure Closed (url : Url) : Prop where
  user : Unbroken url.user
  password : Unbroken url.password
  authority : Unbroken url.authority
  rooted : ∃ rest, url.path = '/' :: rest
  path : '?' ∉ url.path ∧ '#' ∉ url.path
  query {q : Text} : url.query = some q → '#' ∉ q

theorem userInfo_eq (url : Url) :
    url.userInfo = match url.credentials with
      | some user => user ++ ['@']
      | none => [] := by
  unfold userInfo credentials
  split
  · rfl
  · split <;> simp

theorem Closed.unbroken_credentials (h : Closed url) {user : Text}
    (hu : url.credentials = some user) : Unbroken user := by
  unfold credentials at hu
  split at hu
  · cases hu
  · split at hu <;> cases hu
    · exact h.user
    · have hcolon : Unbroken [':'] := by decide
      exact h.user.append (hcolon.append h.password)

/-- What stands between the slashes behind the scheme and the path. -/
def place (url : Url) : Text := url.userInfo ++ url.authority

theorem Closed.not_mem_place (h : Closed url) (hc : c ∈ dividers) (hne : c ≠ '@') :
    c ∉ url.place := by
  rw [place, userInfo_eq, List.mem_append, not_or]
  refine ⟨?_, h.authority.not_mem hc⟩
  split
  · next user hu =>
    have := (h.unbroken_credentials hu).not_mem hc
    simp [this, hne]
  · simp

theorem Closed.cutPlace_place (h : Closed url) :
    cutPlace url.place = (url.credentials, url.authority) := by
  have hat : '@' ∉ url.authority := h.authority.not_mem (by decide)
  rw [place, userInfo_eq, cutPlace]
  cases url.credentials with
  | none => rw [List.nil_append, Text.cutLast_eq_none_iff.mpr hat]
  | some user =>
    have hcut : Text.cutLast '@' (user ++ ['@'] ++ url.authority) = some (user, url.authority) :=
      Text.cutLast_eq_some_iff.mpr ⟨by simp, hat⟩
    rw [hcut]

def front (url : Url) : Text := url.scheme.text ++ ':' :: '/' :: '/' :: (url.place ++ url.path)

theorem text_eq_front (url : Url) :
    url.text = url.front ++ marked '?' url.query ++ marked '#' url.fragment := by
  simp [text, front, place]

theorem not_mem_scheme_text (scheme : Scheme) (hc : c ∈ dividers ∨ c = ':') :
    c ∉ scheme.text := by
  have hall : ∀ scheme : Scheme, (':' :: dividers).all (· ∉ scheme.text) = true := by
    rintro (_ | _) <;> decide
  simpa using List.all_eq_true.mp (hall scheme) c (List.mem_cons.mpr hc.symm)

theorem Closed.not_mem_front (h : Closed url) (hc : c = '?' ∨ c = '#') : c ∉ url.front := by
  have hdivider : c ∈ dividers ∧ c ≠ '@' ∧ c ≠ ':' ∧ c ≠ '/' := by
    rcases hc with rfl | rfl <;> decide
  have hpath : c ∉ url.path := by
    rcases hc with rfl | rfl
    · exact h.path.1
    · exact h.path.2
  have hscheme := not_mem_scheme_text url.scheme (.inl hdivider.1)
  have hplace := h.not_mem_place hdivider.1 hdivider.2.1
  simp [front, hscheme, hplace, hpath, hdivider.2.2]

theorem Closed.cutOff_text (h : Closed url) :
    cutOff '#' url.text = (url.front ++ marked '?' url.query, url.fragment) := by
  rw [text_eq_front]
  refine cutOff_append_marked ?_ _
  rw [List.mem_append, not_or]
  refine ⟨h.not_mem_front (.inr rfl), ?_⟩
  cases hq : url.query with
  | none => simp [marked]
  | some q => simp [marked, h.query hq]

theorem Closed.place_append_path (h : Closed url) :
    (url.place ++ url.path).takeWhile (!isSlash ·) = url.place ∧
      (url.place ++ url.path).dropWhile (!isSlash ·) = url.path := by
  have hplace : ∀ c ∈ url.place, (!isSlash c) = true := by
    intro c hc
    by_contra hs
    obtain ⟨hdivider, hne⟩ := mem_dividers_of_isSlash (by simpa using hs)
    exact h.not_mem_place hdivider hne hc
  have hpath : ∀ c ∈ url.path.head?, (!isSlash c) = false := by
    obtain ⟨rest, hrest⟩ := h.rooted
    simp [hrest, isSlash]
  exact ⟨Text.takeWhile_append hplace hpath, Text.dropWhile_append hplace hpath⟩

/-- A reader finds the parts of a closed URL in its text. -/
theorem Closed.components_text (h : Closed url) :
    Components.ofText? url.text = some ⟨url.scheme.text, url.credentials, url.authority,
      url.path, url.query, url.fragment⟩ := by
  have hscheme : Text.cutFirst ':' url.front =
      some (url.scheme.text, '/' :: '/' :: (url.place ++ url.path)) := by
    rw [front, Text.cutFirst_append (not_mem_scheme_text url.scheme (.inr rfl))]
    simp [Text.cutFirst]
  obtain ⟨htake, hdrop⟩ := h.place_append_path
  simp only [Components.ofText?, h.cutOff_text,
    cutOff_append_marked (h.not_mem_front (.inl rfl)), hscheme, Option.bind_eq_bind,
    Option.bind_some, htake, hdrop, h.cutPlace_place]

theorem unbroken_percentEncode_userSet (s : Text) : Unbroken (percentEncode userSet s) := by
  have hdividers : dividers.all userSet = true := by decide
  have hwritten : Unbroken encodingChars := by decide
  intro c hc
  rcases mem_percentEncode hc with ⟨-, hset⟩ | hc
  · have hpath : pathSet c = false := by
      rw [userSet, Bool.or_eq_false_iff] at hset
      exact hset.1
    refine ⟨visible_of_pathSet hpath, fun hm => ?_⟩
    rw [List.all_eq_true.mp hdividers c hm] at hset
    cases hset
  · exact hwritten c hc

theorem querySet_percentEncode (h : c ∈ percentEncode querySet s) : querySet c = false := by
  have hwritten : encodingChars.all (!querySet ·) = true := by decide
  rcases mem_percentEncode h with ⟨-, hc⟩ | hc
  · exact hc
  · simpa using List.all_eq_true.mp hwritten c hc

theorem unbroken_cutUser (s : Text) :
    Unbroken (cutUser true s).1 ∧ Unbroken (cutUser true s).2.1 := by
  have hnil : Unbroken [] := by decide
  unfold cutUser
  dsimp only
  split
  · exact ⟨hnil, hnil⟩
  · split
    · exact ⟨unbroken_percentEncode_userSet _, unbroken_percentEncode_userSet _⟩
    · exact ⟨unbroken_percentEncode_userSet _, hnil⟩

theorem unbroken_user_of_readWeb? {scheme : Scheme} (h : readWeb? scheme s = .ok url) :
    Unbroken url.user ∧ Unbroken url.password := by
  obtain ⟨host, number, rest, -, -, rfl⟩ := exists_of_readWeb? h
  exact unbroken_cutUser s

structure ShownPath (path : Text) : Prop where
  rooted : ∃ rest, path = '/' :: rest
  visible : path.Visible
  marks : '?' ∉ path ∧ '#' ∉ path ∧ '\\' ∉ path

theorem shownPath_normalizePath (s : Text) : ShownPath (normalizePath s) := by
  obtain ⟨segments, hne, hs, hp⟩ := exists_normalizePath s
  rw [hp]
  have hshown (c : Char) (hc : c ∈ pathText segments) : pathSet c = false :=
    pathSet_of_mem_pathText hs hc
  refine ⟨?_, fun c hc => visible_of_pathSet (hshown c hc), ?_, ?_, ?_⟩
  · obtain ⟨segment, rest, rfl⟩ := List.exists_cons_of_ne_nil hne
    exact ⟨_, rfl⟩
  · exact fun hc => absurd (hshown _ hc) (by decide)
  · exact fun hc => absurd (hshown _ hc) (by decide)
  · intro hc
    obtain ⟨segment, hm, hc⟩ := List.mem_flatMap.mp hc
    rcases List.mem_cons.mp hc with hc | hc
    · cases hc
    · exact absurd ((hs segment hm).whole _ hc) (by decide)

end Url

namespace Instance

open Url

variable {raw : Text} {chosen : Instance}

theorem closed_urlFor (h : ofText? raw = .ok chosen) (path : Text) (query : Option Text) :
    (chosen.urlFor path query).Closed := by
  obtain ⟨scheme, rest, hr⟩ := exists_readWeb?_of_ofText? h
  obtain ⟨huser, hpassword⟩ := unbroken_user_of_readWeb? hr
  have hauthority : Unbroken chosen.url.authority := unbroken_authority h
  have hpath := shownPath_normalizePath (dropIgnored path)
  constructor
  case user => exact huser
  case password => exact hpassword
  case authority => exact hauthority
  case rooted => exact hpath.rooted
  case path => exact ⟨hpath.marks.1, hpath.marks.2.1⟩
  case query =>
    intro q hq hm
    obtain ⟨given, -, rfl⟩ := Option.map_eq_some_iff.mp hq
    exact absurd (querySet_percentEncode hm) (by decide)

/-- The text of a URL on the instance for a query that is given or not: the instance's own scheme,
user information, host and socket number, a path, a query, and the instance's own fragment, and a
reader finds them so. -/
structure Addresses (i : Instance) (given : Option Text) (text path : Text)
    (query : Option Text) : Prop where
  text_eq : text = i.url.scheme.text ++ "://" ++ i.url.userInfo ++ i.authority ++ path ++
    marked '?' query ++ marked '#' i.url.fragment
  shownPath : ShownPath path
  query_isSome : query.isSome = given.isSome
  query_visible {q : Text} : query = some q → q.Visible ∧ '#' ∉ q
  read_eq : Components.ofText? text = some
    ⟨i.url.scheme.text, i.url.credentials, i.authority, path, query, i.url.fragment⟩

/-- Whatever path and query an instance is asked for, they become nothing but path and query. -/
theorem addresses_urlFor (h : ofText? raw = .ok chosen) (path : Text) (query : Option Text) :
    ∃ path' query', chosen.Addresses query (chosen.urlFor path query).text path' query' := by
  have hclosed := closed_urlFor h path query
  refine ⟨_, _, rfl, shownPath_normalizePath (dropIgnored path), ?_, ?_, hclosed.components_text⟩
  · exact Option.isSome_map
  · intro q hq
    refine ⟨?_, hclosed.query hq⟩
    obtain ⟨given, -, rfl⟩ := Option.map_eq_some_iff.mp hq
    exact fun c hc => visible_of_querySet (querySet_percentEncode hc)

def guarded : Instance :=
  ⟨⟨.https, "u", "p%40", .address (.v6 [0, 0, 0, 0, 0, 0, 0, 1]), some 8443, "/svc", some "v=1",
    some "top"⟩⟩

theorem addresses_urlFor_guarded :
    ofText? "https://u:p%40@[::1]:8443/svc?v=1#top" = .ok guarded ∧
      ∃ path' query', guarded.Addresses (some "q#\r\n é")
        (guarded.urlFor "/a\\..\\..//evil@h?x#y\r\n z:" (some "q#\r\n é")).text path' query' := by
  have h : ofText? "https://u:p%40@[::1]:8443/svc?v=1#top" = .ok guarded := by decide +kernel
  exact ⟨h, addresses_urlFor h _ _⟩

example : (guarded.urlFor "/a\\..\\..//evil@h?x#y\r\n z:" (some "q#\r\n é")).text =
    ("https://u:p%40@[::1]:8443//evil@h%3Fx%23y%20z:?q%23%20%C3%A9#top" : Text) := by
  decide +kernel

end Instance

end ApiGateway
