import ApiGateway.Http.HopByHop
import Mathlib.Data.List.Basic

/-! # The values under a name

A header section is observed through the list of values under each name. Every
operation on sections has its effect on that view, among them the removal of
the fields that concern one connection.
-/

namespace ApiGateway

namespace Fields

variable (n m : FieldName) (v : FieldValue) (fs : Fields)

@[simp] theorem values_append :
    (fs.append n v).values m = if n = m then fs.values m ++ [v] else fs.values m := by
  by_cases h : n = m <;> simp [values, append, h]

theorem values_erase :
    (fs.erase n).values m = if n = m then [] else fs.values m := by
  by_cases h : n = m
  · subst h; simp [values, erase]
  · simp only [values, erase, List.filter_filter, if_neg h]
    congr 1
    refine List.filter_congr fun f _ => ?_
    by_cases hf : f.1 = m
    · simp [hf, Ne.symm h]
    · simp [hf]

@[simp] theorem values_set :
    (fs.set n v).values m = if n = m then [v] else fs.values m := by
  by_cases h : n = m <;> simp [set, values_erase, h]

theorem contains_iff_values_ne_nil : fs.contains n = true ↔ fs.values n ≠ [] := by
  simp [contains, values]

theorem values_ite_contains :
    (if fs.contains n = true then fs else fs.append n v).values n =
      if fs.values n = [] then [v] else fs.values n := by
  by_cases h : fs.values n = []
  · have hc : ¬ fs.contains n = true := by
      simp [contains_iff_values_ne_nil, h]
    simp [hc, h]
  · simp [(contains_iff_values_ne_nil _ _).mpr h, h]

theorem first?_eq_some_iff : fs.first? n = some v ↔ ∃ rest, fs.values n = v :: rest := by
  cases h : fs.values n <;> simp [first?, h]

theorem foldl_erase (names : List FieldName) :
    names.foldl (fun fs n => fs.erase n) fs = fs.filter fun f => f.1 ∉ names := by
  induction names generalizing fs with
  | nil => simp
  | cons k names ih =>
    rw [List.foldl_cons, ih, erase, List.filter_filter]
    refine List.filter_congr fun f _ => ?_
    by_cases hk : f.1 = k <;> simp [hk]

theorem values_foldl_erase (names : List FieldName) :
    (names.foldl (fun fs n => fs.erase n) fs).values m =
      if m ∈ names then [] else fs.values m := by
  induction names generalizing fs with
  | nil => simp
  | cons k names ih =>
    rw [List.foldl_cons, ih, values_erase]
    by_cases hm : m ∈ names
    · simp [hm]
    · simp [hm, eq_comm]

end Fields

namespace HopByHop

variable (n : FieldName) (fs : Fields)

/-- A name keeps all of its values, or none if it is fixed or nominated. -/
theorem values_strip :
    (strip fs).values n = if n ∈ nominated fs ∨ n ∈ fixed then [] else fs.values n := by
  simp only [strip, Fields.values_foldl_erase, List.mem_append]

def Nominates : Prop :=
  ∃ value ∈ fs.values .connection, ∃ text, FieldValue.text? value = some text ∧
    ∃ element ∈ text.split ',', FieldName.ofText? element.trim = some n

theorem mem_nominated_iff : n ∈ nominated fs ↔ Nominates n fs := by
  simp only [nominated, listed, Fields.readable, Nominates, List.mem_flatMap, List.mem_filterMap]
  constructor
  · rintro ⟨text, ⟨value, hv, ht⟩, helement⟩; exact ⟨value, hv, text, ht, helement⟩
  · rintro ⟨value, hv, text, ht, helement⟩; exact ⟨text, ⟨value, hv, ht⟩, helement⟩

variable {n fs}

theorem values_strip_eq_nil (h : n ∈ fixed ∨ Nominates n fs) : (strip fs).values n = [] := by
  rw [values_strip, if_pos (h.symm.imp_left (mem_nominated_iff ..).mpr)]

theorem values_strip_of_not (hf : n ∉ fixed) (hn : ¬ Nominates n fs) :
    (strip fs).values n = fs.values n := by
  rw [values_strip, if_neg (not_or.mpr ⟨mt (mem_nominated_iff ..).mp hn, hf⟩)]

end HopByHop

end ApiGateway
