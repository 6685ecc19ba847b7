import ApiGateway.Proofs.Url.Containment
import Mathlib

/-! # Clean paths

A segment in the grammar of URLs shows nothing that a path would encode. Unless
it stands for dots, it is settled, so the URL for a path of such segments is the
mount of the instance with the path behind it.
-/

namespace ApiGateway

namespace Url

variable {c : Char} {s segment : Text} {segments : List Text}

def isHexDigit (c : Char) : Bool := c.isDigit || "abcdefABCDEF".toList.contains c

def isSegmentChar (c : Char) : Bool := c.isAlphanum || "-._~!$&'()*+,;=:@".toList.contains c

/-- Characters that stand for themselves, and escapes of two hexadecimal digits. -/
def isSegment : Text → Bool
  | [] => true
  | '%' :: a :: b :: s => isHexDigit a && isHexDigit b && isSegment s
  | c :: s => isSegmentChar c && isSegment s

/-- The segment is one dot or two, once its escapes are decoded. -/
def standsForDots (segment : Text) : Bool :=
  [".", ".."].any fun dots =>
    percentDecode (Text.utf8 segment) = Text.utf8 (String.toList dots)

/-- A segment in the grammar of URLs that is no dot segment in any spelling. -/
structure Clean (segment : Text) : Prop where
  isSegment : isSegment segment = true
  not_dots : standsForDots segment = false

instance (segment : Text) : Decidable (Clean segment) :=
  decidable_of_iff (isSegment segment = true ∧ standsForDots segment = false)
    ⟨fun h => ⟨h.1, h.2⟩, fun h => ⟨h.isSegment, h.not_dots⟩⟩

theorem isSegmentChar_of_isHexDigit (h : isHexDigit c = true) : isSegmentChar c = true := by
  have hletters : "abcdefABCDEF".toList.all isSegmentChar = true := by decide
  simp only [isHexDigit, Bool.or_eq_true] at h
  rcases h with h | h
  · simp [isSegmentChar, Char.isAlphanum, h]
  · exact List.all_eq_true.mp hletters c (List.contains_iff_mem.mp h)

theorem toNat_lt_of_isSegmentChar (h : isSegmentChar c = true) : c.toNat < 128 := by
  have hmarks : "-._~!$&'()*+,;=:@".toList.all (·.toNat < 128) = true := by decide
  simp only [isSegmentChar, Bool.or_eq_true] at h
  rcases h with h | h
  · simp only [Char.isAlphanum, Char.isAlpha, Char.isUpper, Char.isLower, Char.isDigit,
      Bool.or_eq_true, Bool.and_eq_true, decide_eq_true_eq, UInt32.le_iff_toNat_le, ge_iff_le] at h
    change ((65 ≤ c.toNat ∧ c.toNat ≤ 90) ∨ (97 ≤ c.toNat ∧ c.toNat ≤ 122)) ∨
      (48 ≤ c.toNat ∧ c.toNat ≤ 57) at h
    omega
  · simpa using List.all_eq_true.mp hmarks c (List.contains_iff_mem.mp h)

theorem shown_of_isSegmentChar (h : isSegmentChar c = true) :
    pathSet c = false ∧ isSlash c = false := by
  have hall : ∀ n < 128, isSegmentChar (Char.ofNat n) = true →
      pathSet (Char.ofNat n) = false ∧ isSlash (Char.ofNat n) = false := by decide +kernel
  have hc := hall c.toNat (toNat_lt_of_isSegmentChar h)
  rw [Char.ofNat_toNat] at hc
  exact hc h

theorem shown_of_isSegment (h : isSegment s = true) :
    ∀ c ∈ s, pathSet c = false ∧ isSlash c = false := by
  fun_induction isSegment s with
  | case1 => simp
  | case2 a b s ih =>
    simp only [Bool.and_eq_true] at h
    obtain ⟨⟨ha, hb⟩, hs⟩ := h
    have hpercent : pathSet '%' = false ∧ isSlash '%' = false := by decide
    have ha := shown_of_isSegmentChar (isSegmentChar_of_isHexDigit ha)
    have hb := shown_of_isSegmentChar (isSegmentChar_of_isHexDigit hb)
    simpa [hpercent, ha, hb] using ih hs
  | case3 c s _ ih =>
    rw [Bool.and_eq_true] at h
    simpa [shown_of_isSegmentChar h.1] using ih h.2

theorem eq_or_eq_toUpper_of_toLower {d : Char} (h : c.toLower = d) : c = d ∨ c = d.toUpper := by
  subst h
  by_cases hu : c.isUpper
  · right
    have hl : ¬ c.isLower := fun hl => Char.not_isLower_of_isUpper hu hl
    rw [Char.toUpper_toLower_eq_toUpper, Char.toUpper_eq_of_not_isLower hl]
  · exact .inl (Char.toLower_eq_of_not_isUpper hu).symm

/-- A text in all letter cases. -/
def spellings (s : Text) : List Text := (s.map fun c => [c, c.toUpper]).sections

theorem mem_spellings {t : Text} (h : Text.equalIgnoringCase s t = true) (ht : t.lower = t) :
    s ∈ spellings t := by
  have hs : s.map Char.toLower = t := (eq_of_beq h).trans ht
  rw [spellings, List.mem_sections, List.forall₂_map_right_iff, ← hs,
    List.forall₂_map_right_iff, List.forall₂_same]
  intro c _
  simpa using eq_or_eq_toUpper_of_toLower (c := c) rfl

theorem standsForDots_of_isDot (h : isDoubleDot segment = true ∨ isSingleDot segment = true) :
    standsForDots segment = true := by
  have hall : ∀ dots ∈ ["..", ".%2e", "%2e.", "%2e%2e", ".", "%2e"].map String.toList,
      Text.lower dots = dots ∧ ∀ s ∈ spellings dots, standsForDots s = true := by
    decide
  have hdots : ∃ dots ∈ ["..", ".%2e", "%2e.", "%2e%2e", ".", "%2e"].map String.toList,
      Text.equalIgnoringCase segment dots = true := by
    simpa [isDoubleDot, isSingleDot, or_assoc] using h
  obtain ⟨dots, hm, hequal⟩ := hdots
  obtain ⟨hlower, hspell⟩ := hall dots hm
  exact hspell segment (mem_spellings hequal hlower)

theorem Clean.no_dots (h : Clean segment) :
    isDoubleDot segment = false ∧ isSingleDot segment = false := by
  have hdots := mt standsForDots_of_isDot (by rw [h.not_dots]; exact Bool.false_ne_true)
  simpa using hdots

theorem Clean.settled (h : Clean segment) : Settled segment where
  shown c hc := (shown_of_isSegment h.isSegment c hc).1
  whole c hc := (shown_of_isSegment h.isSegment c hc).2
  not_double := h.no_dots.1
  not_single := h.no_dots.2

structure Plain (url : Url) : Prop where
  user : url.user = []
  password : url.password = []
  fragment : url.fragment = none

theorem Plain.text_eq {url : Url} (h : url.Plain) :
    url.text = url.scheme.text ++ "://" ++ url.authority ++ url.path ++ marked '?' url.query := by
  have huser : url.userInfo = [] := if_pos ⟨h.user, h.password⟩
  rw [text, huser, h.fragment, marked, List.append_nil, List.append_nil]

/-- The query shows nothing that a query would encode. -/
def CleanQuery (query : Option Text) : Prop := ∀ q, query = some q → ∀ c ∈ q, querySet c = false

instance (query : Option Text) : Decidable (CleanQuery query) :=
  decidable_of_iff (query.all fun q => q.all (!querySet ·)) (by cases query <;> simp [CleanQuery])

theorem map_encode_of_cleanQuery {query : Option Text} (h : CleanQuery query) :
    (query.map fun q => percentEncode querySet (dropIgnored q)) = query := by
  cases query with
  | none => rfl
  | some q =>
    have hq := h q rfl
    have hvisible : ∀ c ∈ q, 0x20 < c.toNat := fun c hc => (visible_of_querySet (hq c hc)).1
    rw [Option.map_some, dropIgnored_eq_self hvisible, percentEncode_eq_self hq]

end Url

namespace Instance

open Url

variable {raw : Text} {chosen : Instance} {segments : List Text}

theorem path_urlFor_pathText (h : ofText? raw = .ok chosen)
    (hs : ∀ segment ∈ segments, Settled segment) (hne : segments ≠ []) (query : Option Text) :
    (chosen.urlFor (Path.join chosen.basePath (pathText segments)) query).path =
      chosen.mount ++ pathText segments := by
  obtain ⟨t, ht, hsteps⟩ := exists_steps_pathText hs hne
  have hshown : dropIgnored t = t := dropIgnored_eq_self fun c hc =>
    (visible_of_pathSet (pathSet_of_mem_pathText hs (ht ▸ List.mem_cons_of_mem _ hc))).1
  rw [ht, path_urlFor h, stepsBelow, List.tail_cons, hshown, hsteps, resolve_of_settled hs,
    pathText_append, ← (settled_mount h).2.1, ht]

theorem plain_urlFor (h : chosen.url.Plain) (path : Text) (query : Option Text) :
    (chosen.urlFor path query).Plain :=
  ⟨h.user, h.password, h.fragment⟩

/-- What stands in the URL for a path of clean segments: the mount, the path, and the query. -/
theorem text_urlFor_pathText (h : ofText? raw = .ok chosen) (hp : chosen.url.Plain)
    (hs : ∀ segment ∈ segments, Clean segment) (hne : segments ≠ []) {query : Option Text}
    (hq : CleanQuery query) :
    (chosen.urlFor (Path.join chosen.basePath (pathText segments)) query).text =
      chosen.url.scheme.text ++ "://" ++ chosen.authority ++ chosen.mount ++ pathText segments ++
        marked '?' query := by
  have hpath := path_urlFor_pathText h (fun x hx => (hs x hx).settled) hne query
  have hquery : (chosen.urlFor (Path.join chosen.basePath (pathText segments)) query).query =
      query := map_encode_of_cleanQuery hq
  rw [(plain_urlFor hp _ query).text_eq, hpath, hquery, ← List.append_assoc]
  rfl

end Instance

end ApiGateway
