import ApiGateway.Proofs.Route.Table
import ApiGateway.Proofs.Url.Authority
import ApiGateway.Proofs.Url.Segments

/-! # The mount of an instance

Where the URL for a path leads is found by a walk that starts at the base path
of the instance. Double dots take it out of the mount, and it comes back only if
the segments that it has lost are named again.
-/

namespace ApiGateway

namespace Url

/-- Where a walk is that has begun at some segments: those of them that still stand, and what it
has entered below. -/
structure Position where
  kept : List Text
  entered : List Text

namespace Position

variable {position : Position} {rest : List Text}

def segments (position : Position) : List Text := position.kept ++ position.entered

/-- A double dot leaves what was entered last, or else what is kept last. -/
def step (position : Position) (segment : Text) : Position :=
  if isDoubleDot segment then
    if position.entered = [] then { position with kept := shorten position.kept }
    else { position with entered := shorten position.entered }
  else if isSingleDot segment then position
  else { position with entered := position.entered ++ [segment] }

def walk (position : Position) : List Text → Position
  | [] => position
  | segment :: rest =>
    let next := position.step segment
    if rest = [] ∧ (isDoubleDot segment ∨ isSingleDot segment) then
      { next with entered := next.entered ++ [[]] }
    else next.walk rest

theorem shorten_append {entered : List Text} (h : entered ≠ []) (kept : List Text) :
    shorten (kept ++ entered) = kept ++ shorten entered := by
  have hlast : (kept ++ entered).getLast? = entered.getLast? := by
    rw [List.getLast?_append]
    cases he : entered.getLast? with
    | none => exact absurd (List.getLast?_eq_none_iff.mp he) h
    | some last => rfl
  unfold shorten
  rw [hlast, List.dropLast_append_of_ne_nil h]
  split <;> rfl

theorem segments_step (position : Position) (segment : Text) :
    (position.step segment).segments = enter position.segments segment := by
  unfold step enter segments
  split
  · split
    · next he => simp [he]
    · next he => rw [shorten_append he]
  · split
    · rfl
    · simp

/-- The walk leads where the segments resolve to. -/
theorem segments_walk (position : Position) (rest : List Text) :
    (position.walk rest).segments = resolve position.segments rest := by
  induction rest generalizing position with
  | nil => rfl
  | cons segment rest ih =>
    rw [walk, resolve_cons, ← segments_step]
    split
    · simp [segments]
    · exact ih _

theorem prefix_shorten (segments : List Text) : shorten segments <+: segments := by
  unfold shorten
  split
  · exact List.prefix_rfl
  · exact List.dropLast_prefix segments

theorem prefix_kept_step (position : Position) (segment : Text) :
    (position.step segment).kept <+: position.kept := by
  unfold step
  split
  · split
    · exact prefix_shorten _
    · exact List.prefix_rfl
  · split <;> exact List.prefix_rfl

/-- Nothing is put back in place of what has been left. -/
theorem prefix_kept_walk (position : Position) (rest : List Text) :
    (position.walk rest).kept <+: position.kept := by
  induction rest generalizing position with
  | nil => exact List.prefix_rfl
  | cons segment rest ih =>
    rw [walk]
    split
    · exact prefix_kept_step position segment
    · exact (ih _).trans (prefix_kept_step position segment)

theorem kept_walk (h : ∀ segment ∈ rest, isDoubleDot segment = false) :
    (position.walk rest).kept = position.kept := by
  induction rest generalizing position with
  | nil => rfl
  | cons segment rest ih =>
    have hstep : (position.step segment).kept = position.kept := by
      simp only [step, h segment (by simp), Bool.false_eq_true, if_false]
      split <;> rfl
    rw [walk]
    split
    · exact hstep
    · exact (ih fun x hx => h x (by simp [hx])).trans hstep

/-- A walk ends in a segment, which is empty behind a dot segment. -/
theorem entered_walk_ne_nil (hr : rest ≠ []) : (position.walk rest).entered ≠ [] := by
  induction rest generalizing position with
  | nil => exact absurd rfl hr
  | cons segment rest ih =>
    rw [walk]
    split
    · simp
    · next hlast =>
      by_cases he : rest = []
      · subst he
        simp only [true_and, not_or, Bool.not_eq_true] at hlast
        simp [walk, step, hlast.1, hlast.2]
      · exact ih he

end Position

theorem dropIgnored_eq_self {s : Text} (h : ∀ c ∈ s, 0x20 < c.toNat) : dropIgnored s = s := by
  have hlow : ∀ c, isIgnored c = true → c.toNat ≤ 0x20 := by
    intro c hc
    simp only [isIgnored, Bool.or_eq_true, decide_eq_true_eq] at hc
    rcases hc with (rfl | rfl) | rfl <;> decide
  refine List.filter_eq_self.mpr fun c hc => ?_
  cases hi : isIgnored c with
  | false => rfl
  | true => exact absurd (h c hc) (Nat.not_lt.mpr (hlow c hi))

theorem exists_path_of_readWeb? {scheme : Scheme} {s : Text} {url : Url}
    (h : readWeb? scheme s = .ok url) : ∃ t, url.path = normalizePath t := by
  obtain ⟨host, number, rest, -, -, rfl⟩ := exists_of_readWeb? h
  exact ⟨_, rfl⟩

end Url

theorem Path.exists_rooted (path : Text) : ∃ rest, Path.rooted path = '/' :: rest := by
  unfold Path.rooted
  split
  · exact ⟨_, rfl⟩
  · exact ⟨_, rfl⟩

namespace Instance

open Url

variable {chosen : Instance} {raw path : Text}

/-- The base path without a slash at its end. -/
def mount (i : Instance) : Text :=
  if i.basePath.getLast? = some '/' then i.basePath.dropLast else i.basePath

/-- The segments of the base path, without an empty one at its end. -/
def mountSegments (i : Instance) : List Text := (rawSegments i.mount).tail

/-- A path is the base path or lies below it. -/
def Contains (i : Instance) (path : Text) : Prop :=
  path = i.basePath ∨ i.mount ++ ['/'] <+: path

instance (i : Instance) (path : Text) : Decidable (i.Contains path) :=
  inferInstanceAs (Decidable (_ ∨ _))

theorem exists_path_of_ofText? (h : ofText? raw = .ok chosen) :
    ∃ t, chosen.basePath = normalizePath t := by
  obtain ⟨scheme, rest, hr⟩ := exists_readWeb?_of_ofText? h
  exact exists_path_of_readWeb? hr

/-- The base path of an instance that was read consists of the segments of the mount, and an empty
one if it ends in a slash. -/
theorem settled_mount (h : ofText? raw = .ok chosen) :
    (∀ segment ∈ chosen.mountSegments, Settled segment) ∧
      chosen.mount = pathText chosen.mountSegments ∧
      chosen.basePath = pathText (chosen.mountSegments ++
        if chosen.basePath.getLast? = some '/' then [[]] else []) := by
  obtain ⟨t, ht⟩ := exists_path_of_ofText? h
  obtain ⟨segments, hne, hs, hp⟩ := exists_normalizePath t
  rw [hp] at ht
  have hsegments {done : List Text} (hm : chosen.mount = pathText done)
      (hd : ∀ segment ∈ done, Settled segment) : chosen.mountSegments = done := by
    rw [mountSegments, hm, rawSegments_pathText (whole_of_settled hd)]
    rfl
  obtain ⟨front, last, rfl⟩ := (List.eq_nil_or_concat' segments).resolve_left hne
  have hlast : chosen.basePath.getLast? = some '/' ↔ last = [] := by
    rw [ht]
    exact getLast?_pathText_eq_slash_iff (hs last (by simp)).whole front
  by_cases hl : last = []
  · subst hl
    have hbase : chosen.basePath = pathText front ++ ['/'] := by rw [ht, pathText_append]; rfl
    have hm : chosen.mount = pathText front := by
      rw [mount, if_pos (hlast.mpr rfl), hbase, List.dropLast_concat]
    have hfront : ∀ segment ∈ front, Settled segment := fun x hx => hs x (by simp [hx])
    rw [hsegments hm hfront, if_pos (hlast.mpr rfl)]
    exact ⟨hfront, hm, ht⟩
  · have hm : chosen.mount = pathText (front ++ [last]) := by
      rw [mount, if_neg (hl ∘ hlast.mp), ht]
    rw [hsegments hm hs, if_neg (hl ∘ hlast.mp), List.append_nil]
    exact ⟨hs, hm, ht⟩

theorem join_basePath (chosen : Instance) (rest : Text) :
    Path.join chosen.basePath ('/' :: rest) = chosen.mount ++ '/' :: rest := by
  unfold mount
  by_cases hl : chosen.basePath.getLast? = some '/'
  · obtain ⟨front, hf⟩ := List.getLast?_eq_some_iff.mp hl
    simp only [Path.join, hl]
    rw [hf]
    simp
  · rw [if_neg hl]
    unfold Path.join
    split
    · exact absurd ‹_› hl
    · exact absurd ‹_› hl
    · rfl
    · next hn _ => exact absurd rfl (hn _)

theorem contains_pathText_iff (h : ofText? raw = .ok chosen) {segments : List Text}
    (hs : ∀ segment ∈ segments, Settled segment) :
    chosen.Contains (pathText segments) ↔ ∃ below, segments = chosen.mountSegments ++ below ∧
      (chosen.basePath.getLast? = some '/' → below ≠ []) := by
  obtain ⟨hsettled, hmount, hbase⟩ := settled_mount h
  have hwhole := whole_of_settled hs
  have hm := whole_of_settled hsettled
  rw [Contains, hmount, append_slash_prefix_pathText_iff hwhole hm]
  by_cases hl : chosen.basePath.getLast? = some '/'
  · rw [if_pos hl] at hbase
    have hend : Whole (chosen.mountSegments ++ [[]]) := by
      intro x hx
      rcases List.mem_append.mp hx with hx | hx
      · exact hm x hx
      · obtain rfl := List.mem_singleton.mp hx
        simp
    rw [hbase, pathText_inj hwhole hend, ← hbase]
    constructor
    · rintro (he | ⟨below, hb, he⟩)
      · exact ⟨[[]], he, fun _ => List.cons_ne_nil _ _⟩
      · exact ⟨below, he, fun _ => hb⟩
    · rintro ⟨below, he, hb⟩
      exact .inr ⟨below, hb hl, he⟩
  · rw [if_neg hl, List.append_nil] at hbase
    rw [hbase, pathText_inj hwhole hm, ← hbase]
    constructor
    · rintro (he | ⟨below, -, he⟩)
      · exact ⟨[], by rw [he, List.append_nil], fun hl' => absurd hl' hl⟩
      · exact ⟨below, he, fun hl' => absurd hl' hl⟩
    · rintro ⟨below, he, -⟩
      by_cases hb : below = []
      · exact .inl (by rw [he, hb, List.append_nil])
      · exact .inr ⟨below, hb, he⟩

/-- What is entered below the mount for the path that a request asks for, step by step. -/
def stepsBelow (strippedPath : Text) : List Text := steps (dropIgnored strippedPath.tail)

def walkBelow (i : Instance) (strippedPath : Text) : Position :=
  (Position.mk i.mountSegments []).walk (stepsBelow strippedPath)

theorem path_urlFor (h : ofText? raw = .ok chosen) (rest : Text) (query : Option Text) :
    (chosen.urlFor (Path.join chosen.basePath ('/' :: rest)) query).path =
      pathText (resolve chosen.mountSegments (stepsBelow ('/' :: rest))) := by
  obtain ⟨hsettled, hmount, -⟩ := settled_mount h
  have hslash : isIgnored '/' = false := by decide
  have hdrop : dropIgnored (pathText chosen.mountSegments ++ '/' :: rest) =
      pathText chosen.mountSegments ++ '/' :: dropIgnored rest := by
    rw [dropIgnored, List.filter_append, List.filter_cons_of_pos (by simp [hslash])]
    exact congrArg (· ++ _) (dropIgnored_eq_self fun c hc =>
      (visible_of_pathSet (pathSet_of_mem_pathText hsettled hc)).1)
  rw [join_basePath, hmount]
  change normalizePath (dropIgnored _) = _
  rw [hdrop, normalizePath_pathText_append hsettled]
  rfl

/-- The walk stays in the mount exactly if what it enters begins with what it has lost. -/
theorem contains_walk_iff (h : ofText? raw = .ok chosen) (strippedPath : Text) :
    chosen.Contains (pathText (chosen.walkBelow strippedPath).segments) ↔
      ∃ lost below, chosen.mountSegments = (chosen.walkBelow strippedPath).kept ++ lost ∧
        (chosen.walkBelow strippedPath).entered = lost ++ below ∧
        (chosen.basePath.getLast? = some '/' → below ≠ []) := by
  obtain ⟨hsettled, -, -⟩ := settled_mount h
  have hresolve : (chosen.walkBelow strippedPath).segments =
      resolve chosen.mountSegments (stepsBelow strippedPath) := by
    rw [walkBelow, Position.segments_walk, Position.segments, List.append_nil]
  have hs : ∀ segment ∈ (chosen.walkBelow strippedPath).segments, Settled segment := by
    rw [hresolve]
    exact settled_resolve hsettled _
  obtain ⟨lost, hlost⟩ : (chosen.walkBelow strippedPath).kept <+: chosen.mountSegments :=
    Position.prefix_kept_walk _ _
  rw [contains_pathText_iff h hs, Position.segments]
  constructor
  · rintro ⟨below, he, hb⟩
    rw [← hlost, List.append_assoc] at he
    exact ⟨lost, below, hlost.symm, List.append_cancel_left he, hb⟩
  · rintro ⟨lost', below, hl, he, hb⟩
    exact ⟨below, by rw [he, hl, List.append_assoc], hb⟩

theorem contains_walk_of_no_double (h : ofText? raw = .ok chosen) {strippedPath : Text}
    (hd : ∀ step ∈ stepsBelow strippedPath, isDoubleDot step = false) :
    chosen.Contains (pathText (chosen.walkBelow strippedPath).segments) := by
  have hkept : (chosen.walkBelow strippedPath).kept = chosen.mountSegments :=
    Position.kept_walk hd
  refine (contains_walk_iff h strippedPath).mpr ⟨[], _, ?_, rfl, fun _ => ?_⟩
  · rw [hkept, List.append_nil]
  · exact Position.entered_walk_ne_nil (steps_ne_nil _)

/-- The URL for a path that leads to a service lies in the mount exactly if what the walk enters,
after it has left the mount for the last time, begins with the segments that it has lost. Without a
double dot it never leaves. -/
theorem contains_urlFor {table : RouteTable} {found : RouteMatch}
    (h : ofText? raw = .ok chosen) (hr : table.resolve path = some found) (query : Option Text) :
    (chosen.Contains
        (chosen.urlFor (Path.join chosen.basePath found.strippedPath) query).path ↔
      ∃ lost below, chosen.mountSegments = (chosen.walkBelow found.strippedPath).kept ++ lost ∧
        (chosen.walkBelow found.strippedPath).entered = lost ++ below ∧
        (chosen.basePath.getLast? = some '/' → below ≠ [])) ∧
    ((∀ step ∈ stepsBelow found.strippedPath, isDoubleDot step = false) →
      chosen.Contains
        (chosen.urlFor (Path.join chosen.basePath found.strippedPath) query).path) := by
  obtain ⟨service, -, -, hstripped⟩ := RouteTable.resolve_eq_some_iff.mp hr
  obtain ⟨rest, hrest⟩ : ∃ rest, found.strippedPath = '/' :: rest := by
    rw [hstripped]
    exact Path.exists_rooted _
  have hpath : (chosen.urlFor (Path.join chosen.basePath found.strippedPath) query).path =
      pathText (chosen.walkBelow found.strippedPath).segments := by
    rw [walkBelow, Position.segments_walk, Position.segments, List.append_nil, hrest]
    exact path_urlFor h rest query
  rw [hpath]
  exact ⟨contains_walk_iff h _, contains_walk_of_no_double h⟩

def mounted : Instance :=
  ⟨⟨.http, [], [], .address (.v6 [0, 0, 0, 0, 0, 0, 0, 1]), some 8000, "/svc", none, none⟩⟩

def mountedTable : RouteTable := ⟨[⟨"catalog", [mounted], {}⟩]⟩

theorem ofText?_mounted : ofText? "http://[::1]:8000/svc" = .ok mounted := by decide +kernel

/-- A path without dots stays in the mount, and one that leaves it can come back. -/
theorem contains_urlFor_mounted :
    (∃ found, mountedTable.resolve "/catalog/items" = some found ∧ mounted.Contains
      (mounted.urlFor (Path.join mounted.basePath found.strippedPath) none).path) ∧
    ∃ found, mountedTable.resolve "/catalog/../svc/items" = some found ∧ mounted.Contains
      (mounted.urlFor (Path.join mounted.basePath found.strippedPath) none).path := by
  have hstay : mountedTable.resolve "/catalog/items" =
      some ⟨⟨"catalog", [mounted], {}⟩, "/items"⟩ := by decide
  have hreturn : mountedTable.resolve "/catalog/../svc/items" =
      some ⟨⟨"catalog", [mounted], {}⟩, "/../svc/items"⟩ := by decide
  constructor
  · exact ⟨_, hstay, (contains_urlFor ofText?_mounted hstay none).2 (by decide +kernel)⟩
  · exact ⟨_, hreturn, (contains_urlFor ofText?_mounted hreturn none).1.mpr
      ⟨["svc"], ["items"], by decide +kernel, by decide +kernel, fun _ => by decide⟩⟩

/-- A double dot leaves the mount. -/
theorem not_contains_urlFor_mounted :
    ∃ found, mountedTable.resolve "/catalog/../admin" = some found ∧
      mounted ∈ found.pool.instances ∧
      (mounted.urlFor (Path.join mounted.basePath found.strippedPath) none).path =
        ("/admin" : Text) ∧
      ¬ mounted.Contains
        (mounted.urlFor (Path.join mounted.basePath found.strippedPath) none).path :=
  ⟨⟨⟨"catalog", [mounted], {}⟩, "/../admin"⟩, by decide, by decide, by decide +kernel,
    by decide +kernel⟩

end Instance

end ApiGateway
