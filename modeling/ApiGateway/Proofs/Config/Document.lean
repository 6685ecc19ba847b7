import ApiGateway.Config.Reader
import ApiGateway.Proofs.Except
import Mathlib.Data.List.Induction
import Mathlib.Data.List.Nodup
import Mathlib.Data.List.Zip

/-! # What a document says

A document is read section by section, and a section key by key. A field has the
value that its section gives to its key, and keeps the default if the section or
the key is left out.
-/

namespace ApiGateway

theorem find?_of_nodup_map {α κ : Type} [DecidableEq κ] {key : α → κ} {items : List α} {a : α}
    (hn : (items.map key).Nodup) (h : a ∈ items) : items.find? (key · = key a) = some a := by
  have hsome : (items.find? (key · = key a)).isSome := List.find?_isSome.mpr ⟨a, h, by simp⟩
  obtain ⟨found, hf⟩ := Option.isSome_iff_exists.mp hsome
  have hkey : key found = key a := by simpa using List.find?_some hf
  rw [hf, List.inj_on_of_nodup_map hn (List.mem_of_find?_eq_some hf) h hkey]

namespace Toml

/-- The values that a section gives to keys. An array gives them in the order of the keys. -/
def assignments (keys : List Text) : Toml → List (Text × Toml)
  | .table entries => entries
  | .array items => keys.zip items
  | _ => []

def last? (key : Text) (entries : List (Text × Toml)) : Option Toml :=
  (entries.reverse.find? (·.1 = key)).map (·.2)

/-- What a section says of a key. -/
def member? (keys : List Text) (key : Text) (v : Toml) : Option Toml :=
  last? key (v.assignments keys)

end Toml

namespace Config.Reader

open Toml (last? member?)

variable {α β γ : Type} {setters : List (Text × Setter α)} {key name : Text}
  {read : Toml → Result β} {view : α → β} {start s : α} {entries : List (Text × Toml)}
  {keys : List Text}

/-- A value is what is read from what is said, or the one to start from if nothing is. -/
inductive Filled (read : Toml → Result β) (start : β) : Option Toml → β → Prop
  | said {v : Toml} {value : β} : read v = .ok value → Filled read start (some v) value

  | unsaid : Filled read start none start

def optional (read : Toml → Result β) (v : Toml) : Result (Option β) := (read v).map some

end Config.Reader

namespace Config

open Reader (Filled)

variable {document : Option Toml} {config : Config} {files : Files} {fault : ConfigFault}

inductive Reads (files : Files) : Option Text → Option Toml → Prop
  | noFile : Reads files none none

  | file {path : Text} {content : Bytes} {s : Text} {entries : List (Text × Toml)} :
      files path = .ok content → Text.ofUtf8? content = some s → Toml.ofText? s = some entries →
      Reads files (some path) (some (.table entries))

inductive Unread (files : Files) (path : Text) : ConfigFault → Prop
  | unreadable {cause : FileError} :
      files path = .error cause → Unread files path (.unreadable cause)

  | notText {content : Bytes} :
      files path = .ok content → Text.ofUtf8? content = none → Unread files path .notText

inductive Unparsed (files : Files) (path : Text) : ConfigFault → Prop
  | notToml {content : Bytes} {s : Text} :
      files path = .ok content → Text.ofUtf8? content = some s → Toml.ofText? s = none →
      Unparsed files path .notToml

  | value {entries : List (Text × Toml)} {fault : ValueFault} :
      Reads files (some path) (some (.table entries)) →
      Reader.config (.table entries) = .error fault → Unparsed files path (.value fault)

theorem load_eq_ok_iff {path : Option Text} :
    load files path = .ok config ↔
      ∃ document, Reads files path document ∧ Filled Reader.config {} document config := by
  cases path with
  | none =>
    constructor
    · intro h
      cases h
      exact ⟨none, .noFile, .unsaid⟩
    · rintro ⟨_, ⟨⟩, ⟨⟩⟩
      rfl
  | some path =>
    constructor
    · intro h
      unfold load at h
      dsimp only at h
      split at h
      · cases h
      · next content hc =>
        split at h
        · cases h
        · next s hs =>
          unfold ofText? at h
          split at h
          · cases h
          · next entries he =>
            exact ⟨_, .file hc hs he, .said (Except.mapError_eq_ok_iff.mp h)⟩
    · rintro ⟨_, ⟨⟩ | ⟨hc, hs, he⟩, ⟨h⟩⟩
      simp only [load, hc, hs, ofText?, he]
      exact Except.mapError_eq_ok_iff.mpr h

theorem load_eq_error_iff {path : Option Text} :
    load files path = .error fault ↔
      ∃ p, path = some p ∧ (Unread files p fault ∨ Unparsed files p fault) := by
  constructor
  · intro h
    unfold load at h
    split at h
    · cases h
    · next p =>
      refine ⟨p, rfl, ?_⟩
      split at h
      · next cause hc =>
        cases h
        exact .inl (.unreadable hc)
      · next content hc =>
        split at h
        · next hs =>
          cases h
          exact .inl (.notText hc hs)
        · next s hs =>
          unfold ofText? at h
          split at h
          · next he =>
            cases h
            exact .inr (.notToml hc hs he)
          · next entries he =>
            obtain ⟨cause, hv, rfl⟩ := Except.mapError_eq_error_iff.mp h
            exact .inr (.value (.file hc hs he) hv)
  · rintro ⟨p, rfl, hunread | hunparsed⟩
    · cases hunread with
      | unreadable hc => rw [load, hc]
      | notText hc hs => simp only [load, hc, hs]
    · cases hunparsed with
      | notToml hc hs he => simp only [load, hc, hs, ofText?, he]
      | value hr hv =>
        cases hr with
        | file hc hs he =>
          simp only [load, hc, hs, ofText?, he]
          exact Except.mapError_eq_error_iff.mpr ⟨_, hv, rfl⟩

end Config

end ApiGateway
