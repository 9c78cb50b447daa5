import HeaderBindings.Proofs.Stop
import HeaderBindings.SettingsFile

/-! Settings field by field. Those with one value follow one rule and those with a list another one, and
only a list can be refused. -/

namespace HeaderBindings

inductive SingleField where
  | moduleName
  | library
  | output
  | format
  deriving DecidableEq

inductive ListField where
  | headers
  | compilerFlags
  | prefixes
  | blacklist
  deriving DecidableEq

/-! Names and values. -/

def SingleField.name : SingleField → String
  | .moduleName => "module"
  | .library => "library"
  | .output => "output"
  | .format => "format"

def ListField.name : ListField → String
  | .headers => "headers"
  | .compilerFlags => "cflags"
  | .prefixes => "prefixes"
  | .blacklist => "blacklist"

/-- The lists in the order in which they are looked at. -/
def ListField.all : List ListField := [.headers, .compilerFlags, .prefixes, .blacklist]

theorem ListField.mem_all (field : ListField) : field ∈ all := by
  cases field <;> decide

theorem SingleField.name_mem (field : SingleField) : field.name ∈ settingsFields := by
  cases field <;> decide

theorem ListField.name_mem (field : ListField) : field.name ∈ settingsFields := by
  cases field <;> decide

theorem ListField.name_injective : Function.Injective ListField.name := by
  intro field other h
  cases field <;> cases other <;> first | rfl | exact absurd h (by decide)

theorem SingleField.name_injective : Function.Injective SingleField.name := by
  intro field other h
  cases field <;> cases other <;> first | rfl | exact absurd h (by decide)

theorem SingleField.name_ne (field : SingleField) (other : ListField) : field.name ≠ other.name := by
  cases field <;> cases other <;> decide

def Settings.ofFields (single : SingleField → Yaml) (list : ListField → List Yaml) : Settings where
  moduleName := single .moduleName
  library := single .library
  headers := list .headers
  compilerFlags := list .compilerFlags
  prefixes := list .prefixes
  blacklist := list .blacklist
  output := single .output
  format := single .format

def SingleField.default : SingleField → Yaml
  | .moduleName => Settings.default.moduleName
  | .library => Settings.default.library
  | .output => Settings.default.output
  | .format => Settings.default.format

namespace Arguments

variable (arguments : Arguments)

def single? : SingleField → Option OptionValue
  | .moduleName => arguments.moduleName
  | .library => arguments.library
  | .output => arguments.output
  | .format => arguments.format

def list : ListField → List Yaml
  | .headers => arguments.headers.map .string
  | .compilerFlags => arguments.compilerFlags.map .string
  | .prefixes => arguments.prefixes.map OptionValue.setting
  | .blacklist => arguments.blacklist.map OptionValue.setting

end Arguments

/-! Settings of a file and a command line. -/

/-- The list under a key, where what is no list counts as an empty one. -/
def FileEntries.listed (entries : FileEntries) (field : String) : List Yaml :=
  match entries.list field with
  | .ok items => items
  | .error _ => []

section

variable {entries : FileEntries} {arguments : Arguments} {settings : Settings}
variable {fault : SettingsFileError}

/-- All lists are looked at first, and the settings are made if each of them is one. -/
theorem mergeSettings_eq :
    mergeSettings entries arguments =
      (ListField.all.mapM fun field => entries.list field.name).map fun _ =>
        .ofFields (fun field => entries.single field.name (arguments.single? field) field.default)
          fun field => entries.listed field.name ++ arguments.list field := by
  simp only [mergeSettings, ListField.all, List.mapM_cons, List.mapM_nil, ListField.name,
    FileEntries.listed, Settings.ofFields]
  cases entries.list "headers" with
  | error fault => rfl
  | ok headers =>
    cases entries.list "cflags" with
    | error fault => rfl
    | ok compilerFlags =>
      cases entries.list "prefixes" with
      | error fault => rfl
      | ok prefixes =>
        cases entries.list "blacklist" with
        | error fault => rfl
        | ok blacklist => rfl

theorem mergeSettings_eq_ok_iff :
    mergeSettings entries arguments = .ok settings ↔
      (∀ field : ListField, ∃ items, entries.list field.name = .ok items) ∧
        settings = .ofFields
          (fun field => entries.single field.name (arguments.single? field) field.default)
          fun field => entries.listed field.name ++ arguments.list field := by
  rw [mergeSettings_eq]
  cases hlists : ListField.all.mapM fun field => entries.list field.name with
  | ok lists =>
    have hall : List.Forall₂ (fun items (field : ListField) => entries.list field.name = .ok items)
        lists ListField.all := (mapM_eq_ok_iff.mp hlists).flip
    have hok : ∀ field : ListField, ∃ items, entries.list field.name = .ok items := by
      intro field
      obtain ⟨items, -, hitems⟩ := exists_mem_of_forall₂ hall field.mem_all
      exact ⟨items, hitems⟩
    exact ⟨fun h => ⟨hok, (Except.ok.inj h).symm⟩, fun h => by rw [h.2]; rfl⟩
  | error fault =>
    obtain ⟨field, earlier, later, -, -, hfault⟩ := mapM_eq_error_iff.mp hlists
    have hbad : ¬ ∀ field : ListField, ∃ items, entries.list field.name = .ok items := by
      intro hok
      obtain ⟨items, hitems⟩ := hok field
      cases hitems.symm.trans hfault
    simp [Except.map, hbad]

theorem mergeSettings_eq_error_iff :
    mergeSettings entries arguments = .error fault ↔
      ∃ field, FirstFailure (fun field : ListField => entries.list field.name) ListField.all field
        fault := by
  rw [mergeSettings_eq, ← mapM_eq_error_iff]
  cases ListField.all.mapM fun field => entries.list field.name with
  | ok lists => simp [Except.map]
  | error fault => simp [Except.map]

end

end HeaderBindings
