import ApiGateway.Proofs.Text.Cut
import ApiGateway.Proofs.Text.Split
import ApiGateway.Proofs.Url.Clean
import Mathlib.Data.List.DropRight

/-! # Addresses as they are given

An address of an instance is given by a scheme, a host with its socket number
and a base path. Nothing of the base path is taken for a part of the host, or the
other way round, and the mount of the instance is the base path as it was given,
up to slashes at its end, if it is clean.
-/

namespace ApiGateway

namespace Url

variable {c : Char} {s rest place base : Text} {scheme : Scheme} {number : Option Nat} {url : Url}

theorem mem_dividers_of_endsAuthority (h : endsAuthority true c = true) : c ∈ dividers := by
  simp only [endsAuthority, Bool.or_eq_true, Bool.and_eq_true, decide_eq_true_eq, true_and] at h
  rcases h with ((rfl | rfl) | rfl) | rfl <;> decide

theorem endsAuthority_eq_false (h : c ∉ dividers) : endsAuthority true c = false :=
  Bool.eq_false_of_not_eq_true (mt mem_dividers_of_endsAuthority h)

theorem isDigit_of_endsAuthority (h : endsAuthority true c = true) : c.isDigit = false := by
  have hmarks : dividers.all (!Char.isDigit ·) = true := by decide
  simpa using List.all_eq_true.mp hmarks c (mem_dividers_of_endsAuthority h)

theorem cutHost_spec (bracketed : Bool) (s : Text) :
    (cutHost true bracketed s).1 ++ (cutHost true bracketed s).2 = s ∧
      ∀ c ∈ (cutHost true bracketed s).2.head?, endsAuthority true c = true ∨ c = ':' := by
  induction s generalizing bracketed with
  | nil => simp [cutHost]
  | cons c s ih =>
    unfold cutHost
    split
    · next hc =>
      simp only [Bool.or_eq_true, Bool.and_eq_true, decide_eq_true_eq] at hc
      simpa using hc.imp_right And.left
    · obtain ⟨happend, hhead⟩ := ih (c = '[' || (bracketed && c ≠ ']'))
      exact ⟨congrArg (c :: ·) happend, hhead⟩

/-- The host does not depend on what stands behind the authority. -/
theorem cutHost_append (hb : ∀ c ∈ base.head?, endsAuthority true c = true) (bracketed : Bool)
    (s : Text) :
    cutHost true bracketed (s ++ base) =
      ((cutHost true bracketed s).1, (cutHost true bracketed s).2 ++ base) := by
  induction s generalizing bracketed with
  | nil =>
    cases base with
    | nil => rfl
    | cons c base => simp [cutHost, hb c rfl]
  | cons c s ih =>
    rw [List.cons_append, cutHost, cutHost]
    split
    · rfl
    · dsimp only
      rw [ih]

/-- In front of what ends the authority there are only digits, if that is what stops them. -/
theorem isDigit_of_stop (hs : ∀ c ∈ s, endsAuthority true c = false)
    (hstop : ∀ c ∈ ((s ++ base).dropWhile Char.isDigit).head?, endsAuthority true c = true) :
    ∀ c ∈ s, c.isDigit = true := by
  rw [← List.dropWhile_eq_nil_iff]
  by_contra hne
  obtain ⟨d, more, hd⟩ := List.exists_cons_of_ne_nil hne
  have hdrop : (s ++ base).dropWhile Char.isDigit = d :: more ++ base := by
    rw [List.dropWhile_append, hd]
    rfl
  have hm : d ∈ s := (List.dropWhile_sublist _).subset (hd ▸ List.mem_cons_self)
  have hends := hstop d (by rw [hdrop]; rfl)
  rw [hs d hm] at hends
  cases hends

theorem cutNumber?_append (h : cutNumber? (s ++ base) = .ok (number, rest))
    (hs : ∀ c ∈ s, endsAuthority true c = false) (hhead : ∀ c ∈ s.head?, c = ':')
    (hb : ∀ c ∈ base.head?, endsAuthority true c = true) :
    rest = base ∧ cutNumber? s = .ok (number, []) := by
  have hdigit : ∀ c ∈ base.head?, c.isDigit = false := fun c hc =>
    isDigit_of_endsAuthority (hb c hc)
  cases s with
  | nil =>
    have hplain : cutNumber? base = .ok (none, base) := by
      unfold cutNumber?
      split
      · exact absurd (hb ':' rfl) (by decide)
      · rfl
    rw [List.nil_append, hplain] at h
    cases h
    exact ⟨rfl, rfl⟩
  | cons c s =>
    obtain rfl := hhead c rfl
    rw [List.cons_append, cutNumber?] at h
    split at h
    · cases h
    · next hguard =>
      rw [not_or, Option.any_eq_true] at hguard
      have hstop : ∀ c ∈ ((s ++ base).dropWhile Char.isDigit).head?,
          endsAuthority true c = true := by
        intro c hc
        by_contra hn
        exact hguard.2 ⟨c, hc, by simpa using hn⟩
      have hdigits := isDigit_of_stop (fun c hc => hs c (List.mem_cons_of_mem _ hc)) hstop
      have hall := Text.takeWhile_append hdigits (t := []) (by simp)
      rw [List.append_nil] at hall
      rw [Text.takeWhile_append hdigits hdigit, Text.dropWhile_append hdigits hdigit] at h
      rw [Text.takeWhile_append hdigits hdigit] at hguard
      cases h
      refine ⟨rfl, ?_⟩
      rw [cutNumber?, hall, List.dropWhile_eq_nil_iff.mpr hdigits, if_neg]
      simpa using hguard.1

/-- Where no user information is given, the place is read as host and socket number, and what
stands behind it as the path. -/
theorem exists_of_readWeb?_place (h : readWeb? scheme (place ++ base) = .ok url)
    (hp : ∀ c ∈ place, c ∉ dividers) (hb : base = [] ∨ ∃ below, base = '/' :: below)
    (he : ∀ c ∈ base, endsPath c = false) :
    ∃ host number, Host.ofText? (cutHost true false place).1 = .ok host ∧
      cutNumber? (cutHost true false place).2 = .ok (number, []) ∧
      url = {
        scheme, user := [], password := [], host
        number := if number = some scheme.defaultNumber then none else number
        path := normalizePath base
        query := none, fragment := none } := by
  have hinside : ∀ c ∈ place, endsAuthority true c = false := fun c hc =>
    endsAuthority_eq_false (hp c hc)
  have hboundary : ∀ c ∈ base.head?, endsAuthority true c = true := by
    obtain rfl | ⟨below, rfl⟩ := hb
    · simp
    · simp [endsAuthority]
  have huser : cutUser true (place ++ base) = ([], [], place ++ base) := by
    have hat : '@' ∉ place := fun hm => hp '@' hm (by decide)
    have htake : (place ++ base).takeWhile (!endsAuthority true ·) = place :=
      Text.takeWhile_append (fun c hc => by rw [hinside c hc, Bool.not_false])
        fun c hc => by rw [hboundary c hc, Bool.not_true]
    simp only [cutUser, htake, Text.cutLast_eq_none_iff.mpr hat]
  obtain ⟨host, number, rest, hhost, hnumber, rfl⟩ := exists_of_readWeb? h
  rw [huser, cutHost_append hboundary] at hhost hnumber
  obtain ⟨happend, hhead⟩ := cutHost_spec false place
  have hsecond : ∀ c ∈ (cutHost true false place).2, endsAuthority true c = false := fun c hc =>
    hinside c (happend ▸ List.mem_append_right _ hc)
  have hcolon : ∀ c ∈ (cutHost true false place).2.head?, c = ':' := fun c hc =>
    (hhead c hc).resolve_left (by simp [hsecond c (List.mem_of_mem_head? hc)])
  obtain ⟨rfl, hdigits⟩ := cutNumber?_append hnumber hsecond hcolon hboundary
  have hpath : ∀ c ∈ rest, (!endsPath c) = true := fun c hc => by rw [he c hc, Bool.not_false]
  refine ⟨host, number, hhost, hdigits, ?_⟩
  rw [huser, List.takeWhile_eq_self_iff.mpr hpath, List.dropWhile_eq_nil_iff.mpr hpath]
  rfl

theorem rooted_of_prefix (hp : rest <+: s) (h : s = [] ∨ ∃ below, s = '/' :: below) :
    rest = [] ∨ ∃ below, rest = '/' :: below := by
  obtain ⟨more, rfl⟩ := hp
  cases rest with
  | nil => exact .inl rfl
  | cons c rest =>
    obtain h | ⟨below, h⟩ := h
    · cases h
    · exact .inr ⟨rest, by rw [(List.cons.inj h).1]⟩

theorem visible_of_isSchemeChar (h : isSchemeChar c = true) :
    0x20 < c.toNat ∧ c.toNat < 0x7F := by
  simp only [isSchemeChar, Bool.or_eq_true, decide_eq_true_eq] at h
  rcases h with ((h | rfl) | rfl) | rfl
  · have hshown : isSegmentChar c = true := by rw [isSegmentChar, h, Bool.true_or]
    exact visible_of_pathSet (shown_of_isSegmentChar hshown).1
  · decide
  · decide
  · decide

end Url

namespace Instance

open Url

variable {raw scheme place base : Text} {chosen : Instance} {segments : List Text}

/-- The text is a scheme, a place, which is a host and maybe its socket number, and a base path,
which may be empty. -/
structure GivenAs (raw scheme place base : Text) : Prop where
  raw_eq : raw = scheme ++ "://" ++ place ++ base
  scheme_ne_nil : scheme ≠ []
  scheme : ∀ c ∈ scheme, isSchemeChar c = true
  place_ne_nil : place ≠ []
  place : ∀ c ∈ place, 0x20 < c.toNat ∧ Text.isBlank c = false ∧ c ∉ dividers
  rooted : base = [] ∨ ∃ below, base = '/' :: below
  base : '?' ∉ base ∧ '#' ∉ base

def trimBase (base : Text) : Text :=
  Text.trimEnd (fun c => c.toNat ≤ 0x20)
    (Text.trimEnd (· = '/') (Text.trimEnd Text.isBlank base))

theorem prefix_trimBase (base : Text) : trimBase base <+: base :=
  (List.rdropWhile_prefix _ _).trans
    ((List.rdropWhile_prefix _ _).trans (List.rdropWhile_prefix _ _))

theorem GivenAs.trimmed (h : GivenAs raw scheme place base) :
    dropIgnored (Text.trimBoth (fun c => c.toNat ≤ 0x20) (Text.trimEnd (· = '/') raw.trim)) =
      scheme ++ "://" ++ place ++ dropIgnored (trimBase base) := by
  obtain ⟨first, others, hfirst⟩ := List.exists_cons_of_ne_nil h.scheme_ne_nil
  obtain ⟨front, last, hlast⟩ := (List.eq_nil_or_concat' place).resolve_left h.place_ne_nil
  have hwritten (t : Text) : scheme ++ "://" ++ place ++ t =
      first :: (others ++ "://" ++ front) ++ last :: t := by simp [hfirst, hlast]
  have hvisible := visible_of_isSchemeChar (h.scheme first (by simp [hfirst]))
  obtain ⟨hlow, hblank, hdivider⟩ := h.place last (by simp [hlast])
  have hslash : decide (last = '/') = false := by
    rw [decide_eq_false_iff_not]
    rintro rfl
    exact hdivider (by decide)
  have hkept : ∀ c ∈ scheme ++ "://" ++ place, 0x20 < c.toNat := by
    have hmarks : ∀ c : Char, c ∈ "://".toList → 0x20 < c.toNat := by simp
    intro c hc
    rw [List.mem_append, List.mem_append] at hc
    rcases hc with (hc | hc) | hc
    · exact (visible_of_isSchemeChar (h.scheme c hc)).1
    · exact hmarks c hc
    · exact (h.place c hc).1
  rw [h.raw_eq, hwritten, Text.trim,
    Text.trimBoth_cons_append_cons (Text.isBlank_eq_false hvisible) hblank,
    Text.trimEnd_append_cons hslash,
    Text.trimBoth_cons_append_cons (by simpa using hvisible.1) (by simpa using hlow), ← hwritten,
    dropIgnored, List.filter_append]
  exact congrArg (· ++ _) (dropIgnored_eq_self hkept)

theorem GivenAs.rooted_trimmed (h : GivenAs raw scheme place base) :
    dropIgnored (trimBase base) = [] ∨ ∃ below, dropIgnored (trimBase base) = '/' :: below := by
  obtain hnil | ⟨below, hbelow⟩ := rooted_of_prefix (prefix_trimBase base) h.rooted
  · exact .inl (by rw [hnil]; rfl)
  · exact .inr ⟨dropIgnored below, by rw [hbelow]; rfl⟩

theorem GivenAs.endsPath_eq_false (h : GivenAs raw scheme place base) {c : Char}
    (hc : c ∈ dropIgnored (trimBase base)) : endsPath c = false := by
  have hm : c ∈ base := (prefix_trimBase base).subset (List.mem_of_mem_filter hc)
  have hmark : c ≠ '?' ∧ c ≠ '#' :=
    ⟨fun he => h.base.1 (he ▸ hm), fun he => h.base.2 (he ▸ hm)⟩
  simpa [endsPath] using hmark

theorem GivenAs.dropWhile_isSlash (h : GivenAs raw scheme place base) (s : Text) :
    ("//" ++ (place ++ s) : Text).dropWhile isSlash = place ++ s := by
  obtain ⟨c, more, hplace⟩ := List.exists_cons_of_ne_nil h.place_ne_nil
  have hc : isSlash c = false := Bool.eq_false_of_not_eq_true fun hs =>
    (h.place c (by simp [hplace])).2.2 (mem_dividers_of_isSlash hs).1
  exact Text.dropWhile_append (by simp [isSlash]) (by simpa [hplace] using hc)

structure ReadAs (i : Instance) (scheme place base : Text) : Prop where
  scheme_eq : scheme.lower = i.url.scheme.text
  host_eq : Host.ofText? (cutHost true false place).1 = .ok i.url.host
  number_eq : ∃ number, cutNumber? (cutHost true false place).2 = .ok (number, []) ∧
    i.url.number = if number = some i.url.scheme.defaultNumber then none else number
  plain : i.url.Plain
  basePath_eq : i.basePath = normalizePath (dropIgnored (trimBase base))

theorem GivenAs.readAs (h : GivenAs raw scheme place base) (hi : ofText? raw = .ok chosen) :
    chosen.ReadAs scheme place base := by
  obtain ⟨known, front, rest, hcut, hlower, hread⟩ :=
    exists_cutFirst_of_parse? (parse?_of_ofText? hi)
  have hcolon : ':' ∉ scheme := fun hm => absurd (h.scheme ':' hm) (by decide)
  have hparts : scheme ++ "://" ++ place ++ dropIgnored (trimBase base) =
      scheme ++ ':' :: ("//" ++ (place ++ dropIgnored (trimBase base))) := by simp
  rw [h.trimmed, hparts, Text.cutFirst_append hcolon] at hcut
  obtain ⟨rfl, rfl⟩ : scheme = front ∧ "//" ++ (place ++ dropIgnored (trimBase base)) = rest := by
    simpa [Text.cutFirst] using hcut
  rw [h.dropWhile_isSlash] at hread
  obtain ⟨host, number, hhost, hnumber, hurl⟩ := exists_of_readWeb?_place hread
    (fun c hc => (h.place c hc).2.2) h.rooted_trimmed fun c hc => h.endsPath_eq_false hc
  constructor
  case scheme_eq => rw [hurl, hlower]
  case host_eq => rw [hurl, hhost]
  case number_eq => exact ⟨number, hnumber, by rw [hurl]⟩
  case plain => exact ⟨by rw [hurl], by rw [hurl], by rw [hurl]⟩
  case basePath_eq => rw [basePath, hurl]

/-- Slashes at the end of a path stand for empty segments. -/
theorem trimEnd_pathText (h : Whole segments) :
    Text.trimEnd (· = '/') (pathText segments) = pathText (segments.rdropWhile (· = [])) := by
  induction segments using List.reverseRecOn with
  | nil => rfl
  | append_singleton front last ih =>
    have hlast : pathText [last] = '/' :: last := List.append_nil _
    rw [pathText_append, hlast]
    by_cases hl : last = []
    · rw [List.rdropWhile_concat_pos _ _ _ (by simpa using hl), hl,
        ← ih fun x hx => h x (by simp [hx])]
      exact List.rdropWhile_concat_pos _ _ _ (by simp)
    · rw [List.rdropWhile_concat_neg _ _ _ (by simpa using hl), pathText_append, hlast]
      obtain ⟨init, c, rfl⟩ := (List.eq_nil_or_concat' last).resolve_left hl
      have hc : c ≠ '/' := by
        rintro rfl
        exact absurd (h (init ++ ['/']) (by simp) '/' (by simp)) (by decide)
      rw [← List.cons_append, ← List.append_assoc]
      exact List.rdropWhile_concat_neg _ _ _ (by simpa using hc)

theorem trimBase_pathText (hs : ∀ segment ∈ segments, Settled segment) :
    dropIgnored (trimBase (pathText segments)) = pathText (segments.rdropWhile (· = [])) := by
  have hvisible : ∀ c ∈ pathText segments, 0x20 < c.toNat ∧ c.toNat < 0x7F := fun c hc =>
    visible_of_pathSet (pathSet_of_mem_pathText hs hc)
  have hlow : ∀ c ∈ Text.trimEnd (· = '/') (pathText segments), 0x20 < c.toNat := fun c hc =>
    (hvisible c ((List.rdropWhile_prefix _ _).subset hc)).1
  rw [trimBase, Text.trimEnd_eq_self fun c hc => Text.isBlank_eq_false (hvisible c hc),
    Text.trimEnd_eq_self fun c hc => by simpa using hlow c hc, dropIgnored_eq_self hlow,
    trimEnd_pathText (whole_of_settled hs)]

/-- Without an empty segment at its end, the base path is the mount; the root has none. -/
theorem mount_of_basePath (hs : ∀ segment ∈ segments, Settled segment)
    (hbase : chosen.basePath = normalizePath (pathText (segments.rdropWhile (· = [])))) :
    chosen.mount = pathText (segments.rdropWhile (· = [])) := by
  have hkept : ∀ segment ∈ segments.rdropWhile (· = []), Settled segment := fun x hx =>
    hs x ((List.rdropWhile_prefix _ _).subset hx)
  rw [mount, hbase]
  by_cases hnil : segments.rdropWhile (· = []) = []
  · rw [hnil]
    decide
  · obtain ⟨front, last, hlast⟩ := (List.eq_nil_or_concat' _).resolve_left hnil
    have hne : last ≠ [] := by
      have hlast' := List.rdropWhile_last_not _ _ hnil
      simpa [hlast] using hlast'
    have hend : (pathText (segments.rdropWhile (· = []))).getLast? ≠ some '/' := by
      rw [hlast]
      exact mt (getLast?_pathText_eq_slash_iff (hkept last (by simp [hlast])).whole front).mp hne
    rw [normalizePath_pathText hkept hnil, if_neg hend]

/-- A base path that normalization leaves as it is is the mount, but for slashes at its end. -/
theorem GivenAs.mount_eq (h : GivenAs raw scheme place (pathText segments))
    (hi : ofText? raw = .ok chosen) (hs : ∀ segment ∈ segments, Settled segment) :
    chosen.mount = Text.trimEnd (· = '/') (pathText segments) := by
  have hbase := (h.readAs hi).basePath_eq
  rw [trimBase_pathText hs] at hbase
  rw [trimEnd_pathText (whole_of_settled hs), mount_of_basePath hs hbase]

end Instance

end ApiGateway
