import HeaderBindings.Proofs.SettingsDocument

/-! What a file and a command line give to the settings is the same thing: the end of a list may be taken
from the one to the front of the other, and so may a single value. -/

namespace HeaderBindings

/-! Moving to the command line. -/

/-- Puts texts in front of a list of a command line. -/
def Arguments.addInFront (arguments : Arguments) (field : ListField) (texts : List String) : Arguments :=
  match field with
  | .headers => { arguments with headers := texts ++ arguments.headers }
  | .compilerFlags => { arguments with compilerFlags := texts ++ arguments.compilerFlags }
  | .prefixes => { arguments with prefixes := texts.map .text ++ arguments.prefixes }
  | .blacklist => { arguments with blacklist := texts.map .text ++ arguments.blacklist }

/-- Gives a text for a field, whatever was given before. -/
def Arguments.give (arguments : Arguments) (field : SingleField) (text : String) : Arguments :=
  match field with
  | .moduleName => { arguments with moduleName := some (.text text) }
  | .library => { arguments with library := some (.text text) }
  | .output => { arguments with output := some (.text text) }
  | .format => { arguments with format := some (.text text) }

/-- Whether a document is one of settings with the values of another document under all keys but one. -/
structure AgreesBut (name : String) (document other : Yaml) : Prop where
  settings : IsSettingsDocument other
  same : ∀ key ∈ settingsFields, key ≠ name → other.valueUnder key = document.valueUnder key

instance (name : String) (document other : Yaml) : Decidable (AgreesBut name document other) :=
  decidable_of_iff
    (IsSettingsDocument other ∧
      ∀ key ∈ settingsFields, key ≠ name → other.valueUnder key = document.valueUnder key)
    ⟨fun ⟨settings, same⟩ => ⟨settings, same⟩, fun ⟨settings, same⟩ => ⟨settings, same⟩⟩

section

variable {arguments : Arguments} {tree : FileTree} {file text : String} {document other : Yaml}
variable {texts : List String}

@[simp] theorem Arguments.config_addInFront (field : ListField) :
    (arguments.addInFront field texts).config = arguments.config := by cases field <;> rfl

@[simp] theorem Arguments.single?_addInFront (field : ListField) (single : SingleField) :
    (arguments.addInFront field texts).single? single = arguments.single? single := by
  cases field <;> cases single <;> rfl

theorem Arguments.list_addInFront_self (field : ListField) :
    (arguments.addInFront field texts).list field = texts.map .string ++ arguments.list field := by
  cases field <;> simp [addInFront, list, Function.comp_def, OptionValue.setting]

theorem Arguments.list_addInFront_of_ne {field list : ListField} (h : list ≠ field) :
    (arguments.addInFront field texts).list list = arguments.list list := by
  cases field <;> cases list <;> first | rfl | exact absurd rfl h

@[simp] theorem Arguments.config_give (field : SingleField) :
    (arguments.give field text).config = arguments.config := by cases field <;> rfl

@[simp] theorem Arguments.list_give (field : SingleField) (list : ListField) :
    (arguments.give field text).list list = arguments.list list := by
  cases field <;> cases list <;> rfl

theorem Arguments.single?_give_self (field : SingleField) :
    (arguments.give field text).single? field = some (.text text) := by cases field <;> rfl

theorem Arguments.single?_give_of_ne {field single : SingleField} (h : single ≠ field) :
    (arguments.give field text).single? single = arguments.single? single := by
  cases field <;> cases single <;> first | rfl | exact absurd rfl h

/-! Settings of two sources. -/

theorem AgreesBut.listUnder_eq {name : String} (h : AgreesBut name document other) {field : ListField}
    (hne : field.name ≠ name) : other.listUnder field.name = document.listUnder field.name := by
  rw [Yaml.listUnder, Yaml.listUnder, h.same field.name field.name_mem hne]

theorem ofSources_addInFront {field : ListField} {front : List Yaml}
    (hagrees : AgreesBut field.name document other)
    (hall : document.listUnder field.name = front ++ texts.map .string)
    (hfront : other.listUnder field.name = front) :
    Settings.ofSources other (arguments.addInFront field texts) = .ofSources document arguments := by
  unfold Settings.ofSources
  congr 1
  · funext single
    rw [Arguments.single?_addInFront, hagrees.same single.name single.name_mem (single.name_ne field)]
  · funext list
    by_cases hlist : list = field
    · rw [hlist, Arguments.list_addInFront_self, hall, hfront, List.append_assoc]
    · rw [Arguments.list_addInFront_of_ne hlist,
        hagrees.listUnder_eq (ListField.name_injective.ne hlist)]

theorem ofSources_give {field : SingleField} (hagrees : AgreesBut field.name document other)
    (hlacks : arguments.single? field = none)
    (hvalue : document.valueUnder field.name = some (.string text)) :
    Settings.ofSources other (arguments.give field text) = .ofSources document arguments := by
  unfold Settings.ofSources
  congr 1
  · funext single
    by_cases hsingle : single = field
    · rw [hsingle, Arguments.single?_give_self, hlacks, hvalue]
      rfl
    · rw [Arguments.single?_give_of_ne hsingle,
        hagrees.same single.name single.name_mem (SingleField.name_injective.ne hsingle)]
  · funext list
    rw [Arguments.list_give, hagrees.listUnder_eq (field.name_ne list).symm]

theorem loadSettings_of_isSettingsDocument (hconfig : arguments.config = some (.text file))
    (hfile : file ≠ "") (hholds : tree.Holds file document) (hdocument : IsSettingsDocument document) :
    loadSettings tree arguments = .ok (.ofSources document arguments) :=
  (loadSettings_eq_ok_iff hconfig hfile hholds).mpr ⟨hdocument.isRead, rfl⟩

/-- A single value is the command line's, else the file's, else the default, and a list is the file's
with the command line's behind it. So the end of a list can be moved from the file to the front of the
command line, and a text to a command line without a value for its field; it makes no difference what the
file then says about that field. -/
theorem loadSettings_interchange (hconfig : arguments.config = some (.text file)) (hfile : file ≠ "")
    (hholds : tree.Holds file document) (hdocument : IsSettingsDocument document) :
    loadSettings tree arguments = .ok (.ofSources document arguments) ∧
      (∀ (field : ListField) (front : List Yaml) (back : List String) (moved : FileTree) (other : Yaml),
        moved.Holds file other → AgreesBut field.name document other →
          document.listUnder field.name = front ++ back.map .string →
          other.listUnder field.name = front →
          loadSettings moved (arguments.addInFront field back) = loadSettings tree arguments) ∧
      ∀ (field : SingleField) (text : String) (moved : FileTree) (other : Yaml),
        moved.Holds file other → AgreesBut field.name document other →
          arguments.single? field = none →
          document.valueUnder field.name = some (.string text) →
          loadSettings moved (arguments.give field text) = loadSettings tree arguments := by
  have hload := loadSettings_of_isSettingsDocument hconfig hfile hholds hdocument
  refine ⟨hload, ?_, ?_⟩
  · intro field front back moved other hmoved hagrees hall hfront
    have hothers : (arguments.addInFront field back).config = some (.text file) := by simp [hconfig]
    rw [loadSettings_of_isSettingsDocument hothers hfile hmoved hagrees.settings, hload,
      ofSources_addInFront hagrees hall hfront]
  · intro field text moved other hmoved hagrees hlacks hvalue
    have hothers : (arguments.give field text).config = some (.text file) := by simp [hconfig]
    rw [loadSettings_of_isSettingsDocument hothers hfile hmoved hagrees.settings, hload,
      ofSources_give hagrees hlacks hvalue]

end

def moduleEntry : String × Yaml := ("module", .string "M")

def headersEntry (headers : List String) : String × Yaml := ("headers", .list (headers.map .string))

def bothTree : FileTree := .ofFiles [("c.yml", "module: M\nheaders: [a.h, b.h]\n")]

def headersTree : FileTree := .ofFiles [("c.yml", "headers: [a.h, b.h]\n")]

def oneHeaderTree : FileTree := .ofFiles [("c.yml", "module: M\nheaders: [a.h]\n")]

/-- The second header or the module of a file, given on the command line. -/
theorem both_moved :
    bothTree.Holds "c.yml" (.record [moduleEntry, headersEntry ["a.h", "b.h"]]) ∧
      loadSettings oneHeaderTree (configArguments.addInFront .headers ["b.h"]) =
        loadSettings bothTree configArguments ∧
      loadSettings headersTree (configArguments.give .moduleName "M") =
        loadSettings bothTree configArguments := by
  have hboth : bothTree.Holds "c.yml" (.record [moduleEntry, headersEntry ["a.h", "b.h"]]) := by
    decide +kernel
  have hone : oneHeaderTree.Holds "c.yml" (.record [moduleEntry, headersEntry ["a.h"]]) := by
    decide +kernel
  have hheaders : headersTree.Holds "c.yml" (.record [headersEntry ["a.h", "b.h"]]) := by
    decide +kernel
  obtain ⟨-, hlist, hsingle⟩ :=
    loadSettings_interchange configArguments_config (by decide) hboth (by decide)
  exact ⟨hboth, hlist .headers [.string "a.h"] ["b.h"] oneHeaderTree _ hone (by decide) rfl rfl,
    hsingle .moduleName "M" headersTree _ hheaders (by decide) rfl rfl⟩

end HeaderBindings
