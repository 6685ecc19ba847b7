import ApiGateway.Proofs.Config.Environment
import ApiGateway.Proofs.Config.Validation
import Mathlib

/-! # Variables of services

The variable of a service is made from its name, and not every two names give
different ones. Services with the same variable are overridden together, all
others stay as they are.
-/

namespace ApiGateway

namespace Text

variable {s t : Text}

/-- The letters in lower case, and underscores for the dashes. -/
def folded (s : Text) : Text := s.map fun c => if c = '-' then '_' else c.toLower

/-- ASCII characters without capitals and underscores. -/
def Plain (s : Text) : Prop := ∀ c ∈ s, c.toNat < 128 ∧ c.isUpper = false ∧ c ≠ '_'

theorem isAscii_iff : isAscii s ↔ ∀ c ∈ s, c.toNat < 128 := by
  simp only [isAscii, List.all_eq_true, decide_eq_true_eq]
  exact Iff.rfl

theorem Plain.isAscii (h : Plain s) : isAscii s := isAscii_iff.mpr fun c hc => (h c hc).1

theorem Plain.map_folded (h : Plain s) :
    s.folded.map (fun c => if c = '_' then '-' else c) = s := by
  rw [folded, List.map_map]
  refine (List.map_congr_left fun c hc => ?_).trans s.map_id
  obtain ⟨-, hupper, hne⟩ := h c hc
  by_cases hd : c = '-'
  · simp [hd]
  · simp [hd, Char.toLower_eq_of_not_isUpper, hupper, hne]

theorem Plain.eq_of_folded_eq (hs : Plain s) (ht : Plain t) (h : s.folded = t.folded) : s = t := by
  rw [← hs.map_folded, h, ht.map_folded]

theorem map_toLower_map_toUpper_folded (s : Text) :
    (s.folded.map Char.toUpper).map Char.toLower = s.folded := by
  simp only [folded, List.map_map]
  refine List.map_congr_left fun c _ => ?_
  by_cases hc : c = '-' <;> simp [hc]

end Text

theorem Char.toUpper_eq_dash_iff {c : Char} : c.toUpper = '-' ↔ c = '-' := by
  constructor
  · intro h
    have hl : ¬ c.isLower := fun hl => by
      have hu := c.isUpper_toUpper_eq_isAlpha
      rw [h, Char.isAlpha, hl, Bool.or_true] at hu
      cases hu
    rwa [Char.toUpper_eq_of_not_isLower hl] at h
  · rintro rfl
    rfl

namespace Service

variable {s t : Service}

theorem envKey_of_isAscii (h : s.name.isAscii) :
    s.envKey = s.name.folded.map Char.toUpper ++ "_BACKENDS".toList := by
  have hupper : s.name.flatMap Unicode.upperChar = s.name.map Char.toUpper := by
    rw [← List.flatMap_singleton' (s.name.map Char.toUpper), List.flatMap_map]
    refine List.flatMap_congr fun c hc => ?_
    rw [Unicode.upperChar, if_pos (Text.isAscii_iff.mp h c hc)]
  rw [envKey, hupper, Text.folded, List.map_map, List.map_map]
  congr 1
  refine List.map_congr_left fun c _ => ?_
  by_cases hc : c = '-'
  · simp [hc]
  · simp [hc, Char.toUpper_eq_dash_iff]

/-- Names of ASCII characters give the same variable exactly if they differ in the case of letters
and in dashes for underscores alone. -/
theorem envKey_eq_iff_of_isAscii (hs : s.name.isAscii) (ht : t.name.isAscii) :
    s.envKey = t.envKey ↔ s.name.folded = t.name.folded := by
  rw [envKey_of_isAscii hs, envKey_of_isAscii ht, List.append_left_inj]
  constructor
  · intro he
    rw [← Text.map_toLower_map_toUpper_folded, he, Text.map_toLower_map_toUpper_folded]
  · exact congrArg _

end Service

namespace Config

variable {config : Config} {env : Environment} {s : Service} {raw : Text}

/-- What becomes of a service `t` if of all services' variables only that of `s` is set, to a
value `raw`. -/
structure Overridden (s : Service) (raw : Text) (t after : Service) : Prop where
  frame : t.envKey ≠ s.envKey → after = t
  shared : t.envKey = s.envKey → ¬ raw.Blank → after = { t with backends := backendList raw }
  envKey_eq_iff : t.name.isAscii → s.name.isAscii →
    (t.envKey = s.envKey ↔ t.name.folded = s.name.folded)
  plain : t.name.Plain → s.name.Plain → t ≠ s → after = t

/-- With one variable set, the services that it is the variable of take their backends from it, and
the others stay as they are. Among plain names, one service is alone with its variable. -/
theorem overridden_of_one_variable (h : config.isValid = true) (hs : s ∈ config.services)
    (hset : env s.envKey = some raw)
    (hone : ∀ t ∈ config.services, t.envKey ≠ s.envKey → env t.envKey = none) :
    List.Forall₂ (Overridden s raw) config.services (config.withEnvironment env).services := by
  have hnodup := (sound_and_nodup_of_isValid h).2
  rw [withEnvironment, List.forall₂_map_right_iff, List.forall₂_same]
  intro t ht
  have hkeep (hne : t.envKey ≠ s.envKey) : t.withEnvironment env = t := by
    refine Service.withEnvironment_of_unset fun value hv => ?_
    rw [hone t ht hne] at hv
    cases hv
  refine ⟨hkeep, ?_, Service.envKey_eq_iff_of_isAscii, ?_⟩
  · intro he hb
    exact Service.withEnvironment_of_set (he ▸ hset) hb
  · intro hpt hps hne
    refine hkeep fun he => hne ?_
    have hfolded := (Service.envKey_eq_iff_of_isAscii hpt.isAscii hps.isAscii).mp he
    exact List.inj_on_of_nodup_map hnodup ht hs (hpt.eq_of_folded_eq hps hfolded)

def dashAndUnderscore : Config where
  services := [⟨"order-items", ["http://[::1]:8001"]⟩, ⟨"order_items", ["http://[::1]:8002"]⟩,
    ⟨"catalog", ["http://[::1]:8003"]⟩]

theorem isValid_dashAndUnderscore : dashAndUnderscore.isValid = true := by decide +kernel

theorem overridden_dashAndUnderscore :
    List.Forall₂ (Overridden ⟨"order-items", ["http://[::1]:8001"]⟩ "http://[::1]:9000")
      dashAndUnderscore.services
      (dashAndUnderscore.withEnvironment
        (Environment.only "ORDER_ITEMS_BACKENDS" "http://[::1]:9000")).services := by
  apply overridden_of_one_variable isValid_dashAndUnderscore
  · decide
  · decide
  · decide

theorem not_frame_dashAndUnderscore :
    ¬ ∀ config : Config, config.isValid = true → ∀ s ∈ config.services, ∀ raw,
      List.Forall₂ (fun t after => t ≠ s → after.backends = t.backends) config.services
        (config.withEnvironment (Environment.only s.envKey raw)).services := by
  intro h
  have hfirst := h dashAndUnderscore isValid_dashAndUnderscore _ List.mem_cons_self
    "http://[::1]:9000"
  revert hfirst
  decide

end Config

end ApiGateway
