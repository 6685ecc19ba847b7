import ApiGateway.Proofs.Route.Table
import ApiGateway.Proofs.Text.Cut
import ApiGateway.Proofs.Text.Split

/-! # The segment that names a service

A path that leads to a service is some slashes, the name of the service and a
rest. The service is found behind any number of slashes, but its segment is
removed behind one of them at most: a path with more is passed on whole.
-/

namespace ApiGateway

namespace Path

variable {path segment rest : Text} {count : Nat}

/-- The path is a number of slashes, a whole segment, and a rest. -/
structure Splits (path : Text) (count : Nat) (segment rest : Text) : Prop where
  path_eq : path = List.replicate count '/' ++ (segment ++ rest)
  segment_ne_nil : segment ≠ []
  slash_not_mem : '/' ∉ segment
  whole : rest = [] ∨ ∃ more, rest = '/' :: more

theorem takeWhile_slash (path : Text) :
    path.takeWhile (· = '/') = List.replicate (path.takeWhile (· = '/')).length '/' :=
  List.eq_replicate_iff.mpr ⟨rfl, fun _ hc => by simpa using List.mem_takeWhile_imp hc⟩

theorem dropWhile_ne_slash (path : Text) :
    path.dropWhile (· ≠ '/') = [] ∨ ∃ more, path.dropWhile (· ≠ '/') = '/' :: more := by
  have hhead := List.head?_dropWhile_not (· ≠ '/') path
  cases hd : path.dropWhile (· ≠ '/') with
  | nil => exact .inl rfl
  | cons c more =>
    rw [hd] at hhead
    obtain rfl : c = '/' := by simpa using hhead
    exact .inr ⟨more, rfl⟩

theorem Splits.exists_cons (h : Splits path count segment rest) :
    ∃ c more, segment = c :: more ∧ c ≠ '/' := by
  obtain ⟨c, more, rfl⟩ := List.exists_cons_of_ne_nil h.segment_ne_nil
  refine ⟨c, more, rfl, ?_⟩
  rintro rfl
  exact h.slash_not_mem List.mem_cons_self

theorem Splits.takeWhile_eq (h : Splits path count segment rest) :
    (segment ++ rest).takeWhile (· ≠ '/') = segment := by
  refine Text.takeWhile_append (fun c hc => ?_) fun c hc => ?_
  · have hne : c ≠ '/' := by rintro rfl; exact h.slash_not_mem hc
    simpa using hne
  · obtain rfl | ⟨more, rfl⟩ := h.whole
    · cases hc
    · obtain rfl := Option.some.inj hc
      simp

theorem Splits.dropWhile_eq (h : Splits path count segment rest) :
    path.dropWhile (· = '/') = segment ++ rest := by
  obtain ⟨c, more, rfl, hc⟩ := h.exists_cons
  rw [h.path_eq]
  exact Text.dropWhile_append (by simp) (by simpa using hc)

theorem firstSegment?_eq_some_iff :
    firstSegment? path = some segment ↔ ∃ count rest, Splits path count segment rest := by
  constructor
  · intro h
    obtain ⟨rfl, hn⟩ : (path.dropWhile (· = '/')).takeWhile (· ≠ '/') = segment ∧ segment ≠ [] := by
      unfold firstSegment? at h
      split at h
      · cases h
      · next hn => cases h; exact ⟨rfl, hn⟩
    refine ⟨(path.takeWhile (· = '/')).length, (path.dropWhile (· = '/')).dropWhile (· ≠ '/'),
      ?_, hn, ?_, dropWhile_ne_slash _⟩
    · rw [← takeWhile_slash, List.takeWhile_append_dropWhile, List.takeWhile_append_dropWhile]
    · intro hm
      simpa using List.mem_takeWhile_imp hm
  · rintro ⟨count, rest, h⟩
    obtain ⟨c, more, hc, -⟩ := h.exists_cons
    unfold firstSegment?
    rw [h.dropWhile_eq, h.takeWhile_eq, hc]

theorem rooted_of_whole (h : rest = [] ∨ ∃ more, rest = '/' :: more) :
    rooted rest = if rest = [] then ['/'] else rest := by
  obtain rfl | ⟨more, rfl⟩ := h <;> rfl

theorem rooted_cons_of_ne {c : Char} (h : c ≠ '/') (s : Text) : rooted (c :: s) = '/' :: c :: s := by
  unfold rooted
  split
  · next he => exact absurd (List.cons.inj he).1 h
  · rfl

theorem Splits.stripFirst_eq (h : Splits path count segment rest) :
    stripFirst segment path = if count ≤ 1 then (if rest = [] then ['/'] else rest) else path := by
  obtain ⟨c, more, hc, hne⟩ := h.exists_cons
  have hpath := h.path_eq
  have hcut : ('/' :: segment).isPrefixOf? ('/' :: (segment ++ rest)) = some rest :=
    Text.isPrefixOf?_eq_some_iff.mpr rfl
  match count with
  | 0 =>
    have hroot : rooted path = '/' :: (segment ++ rest) := by
      rw [hpath, hc]; exact rooted_cons_of_ne hne _
    simp only [stripFirst, hroot, hcut, Option.getD_some]
    exact rooted_of_whole h.whole
  | 1 =>
    have hroot : rooted path = '/' :: (segment ++ rest) := by rw [hpath]; rfl
    simp only [stripFirst, hroot, hcut, Option.getD_some]
    exact rooted_of_whole h.whole
  | count + 2 =>
    have hroot : rooted path = path := by rw [hpath]; rfl
    have hnone : ('/' :: segment).isPrefixOf? path = none := by
      rw [hpath, hc]
      simp [List.isPrefixOf?, List.replicate_succ, hne]
    simp only [stripFirst, hroot, hnone, Option.getD_none]
    rw [if_neg (by omega)]

end Path

namespace RouteTable

variable {table : RouteTable} {path : Text} {found : RouteMatch}

/-- A path that leads to a service is some slashes, the name of the service and a rest. What is
passed on is the rest, with the root for an empty one, exactly if there is one slash at most in
front of the name; otherwise it is the whole path. -/
theorem strippedPath_of_resolve (h : table.resolve path = some found) :
    ∃ count rest, Path.Splits path count found.pool.name rest ∧
      (found.strippedPath = (if rest = [] then ['/'] else rest) ↔ count ≤ 1) ∧
      (1 < count → found.strippedPath = path) := by
  obtain ⟨service, hs, hp, hf⟩ := resolve_eq_some_iff.mp h
  obtain rfl := name_of_pool? hp
  obtain ⟨count, rest, hsplit⟩ := Path.firstSegment?_eq_some_iff.mp hs
  rw [hsplit.stripFirst_eq] at hf
  refine ⟨count, rest, hsplit, ⟨fun he => ?_, fun hc => by rw [hf, if_pos hc]⟩,
    fun hc => by rw [hf, if_neg (by omega)]⟩
  by_contra hc
  -- The whole path is longer than its rest and than the root.
  rw [if_neg hc] at hf
  have hlen := congrArg List.length hsplit.path_eq
  have hpos := List.length_pos_of_ne_nil hsplit.segment_ne_nil
  rw [hf] at he
  split at he <;> simp [he] at hlen <;> omega

def catalogOnly : RouteTable := ⟨[⟨"catalog", [], {}⟩]⟩

theorem strippedPath_of_resolve_catalogOnly :
    catalogOnly.resolve "//catalog//items" = some ⟨⟨"catalog", [], {}⟩, "//catalog//items"⟩ ∧
      ∃ count rest, Path.Splits "//catalog//items" count "catalog" rest ∧
        (("//catalog//items" : Text) = (if rest = [] then ['/'] else rest) ↔ count ≤ 1) ∧
        (1 < count → ("//catalog//items" : Text) = "//catalog//items") :=
  have h : catalogOnly.resolve "//catalog//items" =
      some ⟨⟨"catalog", [], {}⟩, "//catalog//items"⟩ := by decide
  ⟨h, strippedPath_of_resolve h⟩

/-- The segment that leads to the service is not always the one that is removed. -/
theorem not_removed_of_two_slashes :
    ¬ ∀ found, catalogOnly.resolve "//catalog/items" = some found →
      ∃ count rest, Path.Splits "//catalog/items" count found.pool.name rest ∧
        found.strippedPath = if rest = [] then ['/'] else rest := by
  have hresolve : catalogOnly.resolve "//catalog/items" =
      some ⟨⟨"catalog", [], {}⟩, "//catalog/items"⟩ := by decide
  intro h
  obtain ⟨count, rest, hsplit, he⟩ := h _ hresolve
  have hlen := congrArg List.length hsplit.path_eq
  split at he
  · cases he
  · rw [← he] at hlen
    simp at hlen

end RouteTable

end ApiGateway
