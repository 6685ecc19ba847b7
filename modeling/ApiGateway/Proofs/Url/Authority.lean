import ApiGateway.Proofs.Except
import ApiGateway.Proofs.Http.Value
import ApiGateway.Proofs.Net.Address
import ApiGateway.Route.Instance

/-! # Authorities of URLs

A host is read in its ASCII form: a name is written with visible characters,
Punycode included, and an address with digits and marks. None of them is a mark
that ends the host or stands in front of it, so an authority is a visible text
that nobody reads as more than an authority.
-/

namespace ApiGateway

variable {s t : Text}

/-- The marks that end the authority of a URL, and the one behind its user information. -/
def Url.dividers : Text := "/\\?#@"

def Text.Unbroken (s : Text) : Prop :=
  ∀ c ∈ s, (0x20 < c.toNat ∧ c.toNat < 0x7F) ∧ c ∉ Url.dividers

instance (s : Text) : Decidable s.Unbroken := List.decidableBAll _ s

namespace Text

theorem Unbroken.visible (h : Unbroken s) : Visible s := fun c hc => (h c hc).1

theorem Unbroken.append (hs : Unbroken s) (ht : Unbroken t) : Unbroken (s ++ t) := fun c hc =>
  (List.mem_append.mp hc).elim (hs c) (ht c)

theorem Unbroken.not_mem {c : Char} (h : Unbroken s) (hc : c ∈ Url.dividers) : c ∉ s := fun hm =>
  (h c hm).2 hc

theorem unbroken_of_textChars (h : ∀ c ∈ s, c ∈ IpAddress.textChars) : Unbroken s := by
  have hmarks : Unbroken IpAddress.textChars := by decide
  exact fun c hc => hmarks c (h c hc)

theorem visible_of_textChars (h : ∀ c ∈ s, c ∈ IpAddress.textChars) : Visible s :=
  (unbroken_of_textChars h).visible

end Text

open Text (Visible Unbroken)

namespace Domain

namespace Punycode

variable {plain code bias position fuel q : ℕ} {w : Writer} {label : Text}

theorem unbroken_digit {n : ℕ} (h : n < base) : Unbroken [digit n] := by
  have hall : ∀ n < base, Unbroken [digit n] := by decide
  exact hall n h

theorem threshold_mem (bias position : ℕ) :
    leastDigit ≤ threshold bias position ∧ threshold bias position ≤ greatestDigit := by
  unfold threshold leastDigit greatestDigit
  omega

/-- The distance is written down to its last digit, because each further digit needs less fuel than
there is left. -/
theorem unbroken_writeDistance (h : q ≤ fuel) : Unbroken (writeDistance bias fuel position q) := by
  induction fuel generalizing position q with
  | zero =>
    obtain rfl := Nat.le_zero.mp h
    exact unbroken_digit (by decide)
  | succ fuel ih =>
    obtain ⟨hleast, hgreatest⟩ := threshold_mem bias position
    simp only [leastDigit, greatestDigit] at hleast hgreatest
    unfold writeDistance
    dsimp only
    split
    · exact unbroken_digit (by unfold base; omega)
    · have hmod := Nat.mod_lt (q - threshold bias position)
        (show 0 < base - threshold bias position by unfold base; omega)
      have hdiv := Nat.div_le_self (q - threshold bias position)
        (base - threshold bias position)
      exact (unbroken_digit (by omega)).append (ih (by omega))

theorem unbroken_pass (c : Char) (h : Unbroken w.output) :
    Unbroken (w.pass plain code c).output := by
  unfold Writer.pass
  split
  · exact h
  · split
    · exact h.append (unbroken_writeDistance le_rfl)
    · exact h

theorem unbroken_foldl_pass (h : Unbroken w.output) :
    Unbroken (label.foldl (Writer.pass plain code) w).output := by
  induction label generalizing w with
  | nil => exact h
  | cons c label ih => exact ih (unbroken_pass c h)

theorem unbroken_writeInsertions {codes : List ℕ} (h : Unbroken w.output) :
    Unbroken (writeInsertions label plain code codes w) := by
  induction codes generalizing code w with
  | nil => exact h
  | cons next codes ih =>
    refine ih ?_
    exact unbroken_foldl_pass h

/-- Of the label itself only the ASCII characters are written. -/
theorem unbroken_encode (h : ∀ c ∈ label, c.val < 128 → Unbroken [c]) :
    Unbroken (encode label) := by
  have hplain : Unbroken (label.filter fun c => c.val < 128) := fun c hc => by
    obtain ⟨hm, hlt⟩ := List.mem_filter.mp hc
    exact h c hm (of_decide_eq_true hlt) c List.mem_cons_self
  unfold encode
  refine unbroken_writeInsertions ?_
  dsimp only
  split
  · exact fun c hc => by cases hc
  · exact hplain.append (by decide)

end Punycode

variable {label raw name result : Text}

/-- The characters of a valid label that are ASCII are visible, and none of them is a divider. -/
theorem unbroken_of_isValidLabel (h : isValidLabel label = true) {c : Char} (hc : c ∈ label)
    (hascii : c.val < 128) : Unbroken [c] := by
  simp only [isValidLabel, Bool.and_eq_true, List.all_eq_true] at h
  obtain ⟨-, hallowed⟩ := h.1.1 c hc
  simp only [isForbidden, Bool.not_eq_true', Bool.or_eq_false_iff, decide_eq_false_iff_not]
    at hallowed
  obtain ⟨⟨hlow, hdel⟩, hmarks⟩ := hallowed
  have hlt : c.toNat < 128 := hascii
  intro d hd
  obtain rfl := List.mem_singleton.mp hd
  refine ⟨by omega, fun hm => ?_⟩
  have hsubset : Url.dividers ⊆ "#%/:<>?@[\\]^|".toList := by decide
  exact absurd (List.contains_iff_mem.mpr (hsubset hm)) (by simpa using hmarks)

theorem isValidLabel_of_unicodeLabel? (h : unicodeLabel? raw = some label) :
    isValidLabel label = true := by
  unfold unicodeLabel? at h
  split at h
  · rw [Option.ite_none_right_eq_some] at h
    obtain ⟨decoded, -, h⟩ := Option.bind_eq_some_iff.mp h.2
    rw [Option.ite_none_right_eq_some] at h
    obtain ⟨⟨-, -, hvalid, -⟩, h⟩ := h
    cases h
    exact hvalid
  · rw [Option.ite_none_right_eq_some] at h
    obtain ⟨hvalid, h⟩ := h
    cases h
    exact hvalid

theorem unbroken_asciiLabel (h : isValidLabel label = true) : Unbroken (asciiLabel label) := by
  unfold asciiLabel
  split
  · next hascii =>
    intro c hc
    have hlt : c.val < 128 := of_decide_eq_true (List.all_eq_true.mp hascii c hc)
    exact unbroken_of_isValidLabel h hc hlt c List.mem_cons_self
  · have hmark : Unbroken encodedMark := by decide
    exact hmark.append (Punycode.unbroken_encode fun c hc => unbroken_of_isValidLabel h hc)

theorem isValidLabel_of_mapM {raws labels : List Text}
    (h : raws.mapM unicodeLabel? = some labels) : ∀ label ∈ labels, isValidLabel label = true := by
  induction raws generalizing labels with
  | nil =>
    cases h
    simp
  | cons raw raws ih =>
    rw [List.mapM_cons] at h
    obtain ⟨label, hlabel, h⟩ := Option.bind_eq_some_iff.mp h
    obtain ⟨rest, hrest, h⟩ := Option.bind_eq_some_iff.mp h
    cases h
    exact List.forall_mem_cons.mpr ⟨isValidLabel_of_unicodeLabel? hlabel, ih hrest⟩

theorem unbroken_of_toAscii? (h : toAscii? name = some result) : Unbroken result := by
  unfold toAscii? at h
  obtain ⟨mapped, -, h⟩ := Option.bind_eq_some_iff.mp h
  obtain ⟨labels, hlabels, h⟩ := Option.bind_eq_some_iff.mp h
  split at h
  · cases h
  · cases h
    have hpoint : Unbroken ['.'] := by decide
    refine Text.forall_mem_join hpoint fun part hp => ?_
    obtain ⟨label, hm, rfl⟩ := List.mem_map.mp hp
    exact unbroken_asciiLabel (isValidLabel_of_mapM hlabels label hm)

end Domain

namespace Host

variable {host : Host}

theorem unbroken_text_address (ip : IpAddress) : Unbroken (text (.address ip)) := by
  cases ip with
  | v4 bytes => exact Text.unbroken_of_textChars fun c => IpAddress.mem_v4Text
  | v6 groups =>
    have hgroups : Unbroken (IpAddress.v6Text groups) :=
      Text.unbroken_of_textChars fun c => IpAddress.mem_v6Text
    have hopen : Unbroken ['['] := by decide
    exact hopen.append (hgroups.append (by decide))

theorem unbroken_of_ofText? (h : ofText? s = .ok host) : Unbroken host.text := by
  unfold ofText? at h
  split at h
  · unfold bracketed? at h
    split at h
    · split at h
      · cases h
        exact unbroken_text_address _
      · cases h
    · cases h
  · split at h
    · cases h
    · cases h
    · next name _ hname =>
      obtain ⟨decoded, -, hascii⟩ := Option.bind_eq_some_iff.mp hname
      split at h
      · split at h
        · cases h
          exact unbroken_text_address _
        · cases h
      · cases h
        exact Domain.unbroken_of_toAscii? hascii

end Host

namespace Url

variable {scheme : Scheme} {url : Url}

theorem unbroken_authority (h : Unbroken url.host.text) : Unbroken url.authority := by
  unfold authority
  split
  · next n _ =>
    have hnumber : Unbroken (Text.ofNat n) := Text.unbroken_of_textChars fun c =>
      IpAddress.mem_toDigits (by decide) (by decide)
    have hcolon : Unbroken [':'] := by decide
    exact h.append (hcolon.append hnumber)
  · exact h

theorem mem_dividers_of_isSlash {c : Char} (h : isSlash c = true) : c ∈ dividers ∧ c ≠ '@' := by
  simp only [isSlash, Bool.or_eq_true, decide_eq_true_eq] at h
  rcases h with rfl | rfl <;> decide

def endsPath (c : Char) : Bool := c = '?' || c = '#'

theorem exists_of_readWeb? (h : readWeb? scheme s = .ok url) :
    ∃ host number rest,
      Host.ofText? (cutHost true false (cutUser true s).2.2).1 = .ok host ∧
      cutNumber? (cutHost true false (cutUser true s).2.2).2 = .ok (number, rest) ∧
      url = {
        scheme
        user := (cutUser true s).1
        password := (cutUser true s).2.1
        host
        number := if number = some scheme.defaultNumber then none else number
        path := normalizePath (rest.takeWhile (!endsPath ·))
        query := (cutTail (rest.dropWhile (!endsPath ·))).1
        fragment := (cutTail (rest.dropWhile (!endsPath ·))).2 } := by
  have hends : (fun c => c ≠ '?' && c ≠ '#' : Char → Bool) = fun c => !endsPath c := by
    funext c
    simp [endsPath]
  unfold readWeb? at h
  dsimp only at h
  rw [hends] at h
  split at h
  · cases h
  · simp only [Except.bind_eq_ok_iff] at h
    obtain ⟨host, hhost, ⟨number, rest⟩, hnumber, h⟩ := h
    exact ⟨host, number, rest, hhost, hnumber, (Except.ok.inj h).symm⟩

theorem unbroken_authority_of_readWeb? (h : readWeb? scheme s = .ok url) :
    Unbroken url.authority := by
  obtain ⟨host, number, rest, hhost, -, rfl⟩ := exists_of_readWeb? h
  exact unbroken_authority (Host.unbroken_of_ofText? hhost)

theorem exists_cutFirst_of_parse? (h : parse? s = .ok (.web url)) :
    ∃ scheme : Scheme, ∃ front rest,
      Text.cutFirst ':' (dropIgnored (Text.trimBoth (fun c => c.toNat ≤ 0x20) s)) =
        some (front, rest) ∧
      front.lower = scheme.text ∧ readWeb? scheme (rest.dropWhile isSlash) = .ok url := by
  have hweb {scheme : Scheme} {rest : Text}
      (h : (readWeb? scheme rest).map Parsed.web = .ok (Parsed.web url)) :
      readWeb? scheme rest = .ok url := by
    obtain ⟨_, hr, he⟩ := Except.map_eq_ok_iff.mp h
    cases he
    exact hr
  have hother {α : Type} {scheme : Text} {x : Except Fault α}
      (h : x.map (fun _ => Parsed.other scheme) = .ok (.web url)) : False := by
    obtain ⟨_, -, he⟩ := Except.map_eq_ok_iff.mp h
    cases he
  unfold parse? at h
  split at h
  · cases h
  · next lowered rest hscheme =>
    obtain ⟨⟨front, rest⟩, hcut, hscheme⟩ := Option.bind_eq_some_iff.mp hscheme
    rw [Option.ite_none_right_eq_some] at hscheme
    cases hscheme.2
    dsimp only at h
    split at h
    · next hs => exact ⟨.http, front, rest, hcut, hs, hweb h⟩
    · split at h
      · next hs => exact ⟨.https, front, rest, hcut, hs, hweb h⟩
      · split at h
        · exact (hother h).elim
        · split at h
          · split at h
            · split at h
              · exact (hother h).elim
              · cases h
            · cases h
          · split at h
            · exact (hother h).elim
            · cases h

end Url

namespace Instance

variable {raw : Text} {chosen : Instance}

theorem parse?_of_ofText? (h : ofText? raw = .ok chosen) :
    Url.parse? (Text.trimEnd (· = '/') raw.trim) = .ok (.web chosen.url) := by
  unfold ofText? at h
  split at h
  · cases h
  · cases h
  · next hp => cases h; exact hp

theorem exists_readWeb?_of_ofText? (h : ofText? raw = .ok chosen) :
    ∃ scheme rest, Url.readWeb? scheme rest = .ok chosen.url := by
  obtain ⟨scheme, _, _, -, -, hr⟩ := Url.exists_cutFirst_of_parse? (parse?_of_ofText? h)
  exact ⟨scheme, _, hr⟩

theorem unbroken_authority (h : ofText? raw = .ok chosen) : Unbroken chosen.authority := by
  obtain ⟨scheme, rest, hr⟩ := exists_readWeb?_of_ofText? h
  exact Url.unbroken_authority_of_readWeb? hr

theorem visible_authority (h : ofText? raw = .ok chosen) : Visible chosen.authority :=
  (unbroken_authority h).visible

end Instance

end ApiGateway
