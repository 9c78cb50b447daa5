import HeaderBindings.Proofs.ProgramRun
import HeaderBindings.Proofs.SettingsField
import HeaderBindings.Proofs.ValueEquality

/-! Which documents are settings. Empty values of any kind are read as if they were not there, and the
user is told of what is wrong but for two things that cannot be put into a message. -/

namespace HeaderBindings

/-! The parts of a document. -/

namespace Yaml

def isNull (value : Yaml) : Bool :=
  match value.content with
  | .null => true
  | _ => false

def text? (value : Yaml) : Option String :=
  match value.content with
  | .string text => some text
  | _ => none

def items? (value : Yaml) : Option (List Yaml) :=
  match value.content with
  | .list items => some items
  | _ => none

def entries? (value : Yaml) : Option (List (Yaml × Yaml)) :=
  match value.content with
  | .mapping entries => some entries
  | _ => none

/-- The keys of a mapping with their values; there are none in anything else. -/
def entries (document : Yaml) : List (Yaml × Yaml) := document.entries?.getD []

def valueUnder (document : Yaml) (name : String) : Option Yaml :=
  (document.entries.find? fun entry => entry.1.text? = some name).map Prod.snd

def listUnder (document : Yaml) (name : String) : List Yaml :=
  ((document.valueUnder name).bind items?).getD []

def isKnownKey (key : Yaml) : Bool := key.text?.any settingsFields.contains

def keys (document : Yaml) : List Yaml := document.entries.map Prod.fst

def unknownKeys (document : Yaml) : List Yaml := document.keys.filter (!·.isKnownKey)

variable {value document : Yaml}

theorem mem_unknownKeys_iff {key : Yaml} :
    key ∈ document.unknownKeys ↔ key ∈ document.keys ∧ key.isKnownKey = false := by
  simp [unknownKeys]

theorem unknownKeys_eq_nil_iff :
    document.unknownKeys = [] ↔ ∀ key ∈ document.keys, key.isKnownKey = true := by
  simp [unknownKeys]

theorem content_ne_shared (id : Nat) (inner : Yaml) : value.content ≠ .shared id inner := by
  fun_induction Yaml.content value with
  | case1 _ _ ih => exact ih
  | case2 value hvalue => exact hvalue id inner

theorem isGiven_content (value : Yaml) : value.content.isGiven = value.isGiven := by
  fun_induction Yaml.content value with
  | case1 _ _ ih => rw [ih, isGiven]
  | case2 => rfl

theorem isWritable_content (value : Yaml) : value.content.isWritable = value.isWritable := by
  fun_induction Yaml.content value with
  | case1 _ _ ih => rw [ih, isWritable]
  | case2 => rfl

theorem isGiven_of_isNull (h : value.isNull = true) : value.isGiven = false := by
  unfold isNull at h
  split at h
  · next hcontent => rw [← isGiven_content, hcontent, isGiven]
  · cases h

theorem entries_of_not_isGiven (h : document.isGiven = false) : document.entries = [] := by
  unfold entries entries?
  rw [← isGiven_content] at h
  split
  · next hcontent =>
    rw [hcontent] at h
    simpa [isGiven] using h
  · rfl

theorem items_of_not_isGiven (h : value.isGiven = false) : value.items?.getD [] = [] := by
  unfold items?
  rw [← isGiven_content] at h
  split
  · next hcontent =>
    rw [hcontent] at h
    simpa [isGiven] using h
  · rfl

theorem isGiven_of_not_isWritable (h : value.isWritable = false) : value.isGiven = true := by
  rw [← isWritable_content] at h
  rw [← isGiven_content]
  cases hcontent : value.content with
  | shared id inner => exact absurd hcontent (content_ne_shared id inner)
  | integer number =>
    rw [hcontent] at h
    have hlarge : number ≠ 0 := by
      rintro rfl
      simp [isWritable] at h
    simpa [isGiven] using hlarge
  | list items => cases items <;> simp_all [isWritable, areWritable, isGiven]
  | mapping entries => cases entries <;> simp_all [isWritable, areWritableEntries, isGiven]
  | set members => cases members <;> simp_all [isWritable, areWritable, isGiven]
  | pair => rfl
  | _ => simp [hcontent, isWritable] at h

theorem kindName_eq_str_iff {key : Yaml} : key.content.kindName = "str" ↔ key.text?.isSome := by
  unfold text?
  have hshared := @content_ne_shared key
  cases hcontent : key.content with
  | string text => simp [kindName]
  | shared id inner => exact absurd hcontent (hshared id inner)
  | again id isList => cases isList <;> simp [kindName]
  | _ => simp [kindName]

end Yaml

/-! The entries of a file. -/

section

variable {entries : List (Yaml × Yaml)} {key value : Yaml} {name : String}

theorem knownEntries_cons :
    knownEntries ((key, value) :: entries) =
      if key.isKnownKey then
        ((key.text?.getD "", value) :: (knownEntries entries).1, (knownEntries entries).2)
      else ((knownEntries entries).1, key :: (knownEntries entries).2) := by
  unfold Yaml.isKnownKey Yaml.text?
  rw [knownEntries]
  cases key.content <;> simp

theorem unknown_knownEntries (entries : List (Yaml × Yaml)) :
    (knownEntries entries).2 = (entries.map Prod.fst).filter (!·.isKnownKey) := by
  induction entries with
  | nil => rfl
  | cons entry entries ih =>
    obtain ⟨key, value⟩ := entry
    rw [knownEntries_cons]
    split
    · next hknown => simp [hknown, ih]
    · next hunknown => simp [hunknown, ih]

theorem lookup_knownEntries (hname : name ∈ settingsFields) (entries : List (Yaml × Yaml)) :
    (knownEntries entries).1.lookup name =
      (entries.find? fun entry => entry.1.text? = some name).map Prod.snd := by
  induction entries with
  | nil => rfl
  | cons entry entries ih =>
    obtain ⟨key, value⟩ := entry
    rw [knownEntries_cons]
    by_cases hkey : key.text? = some name
    · simp [Yaml.isKnownKey, hkey, hname]
    · rw [List.find?_cons_of_neg (by simpa using hkey), ← ih]
      split
      · next hknown =>
        cases htext : key.text? with
        | none => simp [Yaml.isKnownKey, htext] at hknown
        | some other =>
          have hne : name ≠ other := fun heq => hkey (heq ▸ htext)
          rw [List.lookup_cons, Option.getD_some, beq_eq_false_iff_ne.mpr hne]
      · rfl

end

/-! What is read. -/

namespace Yaml

/-- Whether there is a list under a key, if anything that counts. -/
def HasList (isNothing : Yaml → Bool) (document : Yaml) (name : String) : Prop :=
  ∀ value ∈ document.valueUnder name, isNothing value = true ∨ value.items?.isSome

/-- Whether a document is nothing or a mapping, with known keys and with lists where lists are asked for.
What is nothing is left open. -/
structure Fits (isNothing : Yaml → Bool) (document : Yaml) : Prop where
  shape : isNothing document = true ∨ document.entries?.isSome
  keys : ∀ key ∈ document.keys, key.isKnownKey = true
  lists : ∀ field : ListField, document.HasList isNothing field.name

end Yaml

/-- Whether a document is one of settings, where only null is nothing. -/
def IsSettingsDocument (document : Yaml) : Prop := document.Fits Yaml.isNull

/-- Whether a document is read as settings, where what does not count as given is nothing. -/
def IsRead (document : Yaml) : Prop := document.Fits (!·.isGiven)

instance (isNothing : Yaml → Bool) (document : Yaml) (name : String) :
    Decidable (document.HasList isNothing name) :=
  inferInstanceAs (Decidable (∀ value ∈ document.valueUnder name, _))

instance (isNothing : Yaml → Bool) (document : Yaml) : Decidable (document.Fits isNothing) :=
  decidable_of_iff
    ((isNothing document = true ∨ document.entries?.isSome) ∧
      (∀ key ∈ document.keys, key.isKnownKey = true) ∧
      ∀ field ∈ ListField.all, document.HasList isNothing field.name)
    ⟨fun ⟨shape, keys, lists⟩ => ⟨shape, keys, fun field => lists field field.mem_all⟩,
      fun ⟨shape, keys, lists⟩ => ⟨shape, keys, fun field _ => lists field⟩⟩

instance : DecidablePred IsSettingsDocument := fun document =>
  inferInstanceAs (Decidable (document.Fits Yaml.isNull))

section

variable {document value : Yaml} {file name : String} {fault : SettingsFileError}

theorem Yaml.HasList.of_isNull (h : document.HasList Yaml.isNull name) :
    document.HasList (!·.isGiven) name := by
  intro value hvalue
  refine (h value hvalue).imp_left fun hnull => ?_
  simp [Yaml.isGiven_of_isNull hnull]

theorem IsSettingsDocument.isRead (h : IsSettingsDocument document) : IsRead document where
  shape := h.shape.imp_left fun hnull => by simp [Yaml.isGiven_of_isNull hnull]
  keys := h.keys
  lists := fun field => (h.lists field).of_isNull

/-! The entries of a document as its file gives them. -/

theorem list_entries (hname : name ∈ settingsFields) :
    FileEntries.list (knownEntries document.entries).1 name =
      match document.valueUnder name with
      | none => .ok []
      | some value =>
        if !value.isGiven then .ok []
        else match value.items? with
          | some items => .ok items
          | none =>
            .error (if value.isWritable then .notList name value.content else .unwritable name) := by
  have hlookup : (knownEntries document.entries).1.lookup name = document.valueUnder name :=
    lookup_knownEntries hname document.entries
  unfold FileEntries.list
  rw [hlookup]
  cases document.valueUnder name with
  | none => rfl
  | some value =>
    unfold Yaml.items?
    dsimp only
    rw [← Yaml.isWritable_content value]
    cases value.content <;> rfl

theorem list_eq_ok_iff (hname : name ∈ settingsFields) :
    (∃ items, FileEntries.list (knownEntries document.entries).1 name = .ok items) ↔
      document.HasList (!·.isGiven) name := by
  rw [list_entries hname, Yaml.HasList]
  cases document.valueUnder name with
  | none => simp
  | some value =>
    cases hgiven : value.isGiven <;> cases hitems : value.items? <;> simp [hgiven, hitems]

theorem list_eq_error_iff (hname : name ∈ settingsFields) :
    FileEntries.list (knownEntries document.entries).1 name = .error fault ↔
      ∃ value, document.valueUnder name = some value ∧ value.isGiven = true ∧ value.items? = none ∧
        (if value.isWritable then .notList name value.content else .unwritable name) = fault := by
  rw [list_entries hname]
  cases document.valueUnder name with
  | none => simp
  | some value =>
    cases hgiven : value.isGiven <;> cases hitems : value.items? <;> simp [hgiven, hitems]

theorem listed_entries (hname : name ∈ settingsFields) :
    FileEntries.listed (knownEntries document.entries).1 name = document.listUnder name := by
  rw [FileEntries.listed, list_entries hname, Yaml.listUnder]
  cases document.valueUnder name with
  | none => rfl
  | some value =>
    cases hgiven : value.isGiven with
    | false => simp [hgiven, Yaml.items_of_not_isGiven hgiven]
    | true => cases hitems : value.items? <;> simp [hgiven, hitems]

theorem Yaml.content_of_entries?_isSome (h : document.entries?.isSome) :
    document.content = .mapping document.entries := by
  unfold entries entries? at *
  cases hcontent : document.content with
  | mapping entries => rfl
  | _ => simp [hcontent] at h

theorem fileEntries_of_mapping (hgiven : document.isGiven = true)
    (hentries : document.entries?.isSome) :
    fileEntries file document =
      match document.unknownKeys with
      | [] => .ok (knownEntries document.entries).1
      | first :: others => .error (unknownKeysError first others) := by
  rw [fileEntries, if_neg (by simp [hgiven]), Yaml.content_of_entries?_isSome hentries,
    Yaml.unknownKeys, Yaml.keys, ← unknown_knownEntries]
  dsimp only
  obtain ⟨known, unknown⟩ := knownEntries document.entries
  cases unknown <;> rfl

theorem fileEntries_of_not_mapping (hgiven : document.isGiven = true)
    (hentries : document.entries? = none) : fileEntries file document = .error (.notMapping file) := by
  rw [fileEntries, if_neg (by simp [hgiven])]
  unfold Yaml.entries? at hentries
  split
  · next hcontent => simp [hcontent] at hentries
  · rfl

/-- The ways in which the entries of a document are found, or not. -/
theorem fileEntries_cases (file : String) (document : Yaml) :
    (document.isGiven = false ∨ document.entries?.isSome) ∧
        (∀ key ∈ document.keys, key.isKnownKey = true) ∧
        fileEntries file document = .ok (knownEntries document.entries).1 ∨
      document.isGiven = true ∧ document.entries? = none ∧
        fileEntries file document = .error (.notMapping file) ∨
      ∃ first others, document.unknownKeys = first :: others ∧
        fileEntries file document = .error (unknownKeysError first others) := by
  cases hgiven : document.isGiven with
  | false =>
    left
    rw [Yaml.keys, Yaml.entries_of_not_isGiven hgiven, fileEntries, if_pos (by simp [hgiven])]
    simp [knownEntries]
  | true =>
    cases hentries : document.entries? with
    | none => exact .inr (.inl ⟨rfl, rfl, fileEntries_of_not_mapping hgiven hentries⟩)
    | some entries =>
      rw [fileEntries_of_mapping hgiven (by simp [hentries])]
      cases hunknown : document.unknownKeys with
      | nil => exact .inl ⟨.inr rfl, Yaml.unknownKeys_eq_nil_iff.mp hunknown, rfl⟩
      | cons first others => exact .inr (.inr ⟨first, others, rfl, rfl⟩)

end

/-! The file that a command line names. -/

/-- Whether there is a file, with a document in it. -/
def FileTree.Holds (tree : FileTree) (file : String) (document : Yaml) : Prop :=
  ∃ text, tree.read file = .ok text ∧ Yaml.read text = .ok document

instance decidableExistsOk {ε α : Type} {p : α → Prop} [DecidablePred p] (result : Except ε α) :
    Decidable (∃ a, result = .ok a ∧ p a) :=
  match result with
  | .ok a => decidable_of_iff (p a) (by simp)
  | .error _ => .isFalse (by simp)

instance (tree : FileTree) (file : String) (document : Yaml) :
    Decidable (tree.Holds file document) :=
  inferInstanceAs (Decidable (∃ text, tree.read file = .ok text ∧ Yaml.read text = .ok document))

/-- The settings that a document and a command line make together. -/
def Settings.ofSources (document : Yaml) (arguments : Arguments) : Settings :=
  .ofFields
    (fun field =>
      match arguments.single? field with
      | some value => value.setting
      | none => (document.valueUnder field.name).getD field.default)
    fun field => document.listUnder field.name ++ arguments.list field

/-- Whether there is a key that is no string. -/
def Yaml.HasStrangeKey (document : Yaml) : Prop :=
  ∃ key ∈ document.keys, key.text? = none

/-- Whether all keys are known, and the first value to complain of has a number in it of more digits
than are written out. -/
def Yaml.HasLongNumber (document : Yaml) : Prop :=
  (∀ key ∈ document.keys, key.isKnownKey = true) ∧
    ∃ field earlier later, ListField.all = earlier ++ field :: later ∧
      (∀ other ∈ earlier, document.HasList (!·.isGiven) other.name) ∧
      ∃ value, document.valueUnder field.name = some value ∧ value.items? = none ∧
        value.isWritable = false

/-- Whether the user is told of an error. -/
def SettingsFileError.isReported : SettingsFileError → Bool
  | .malformed _ fault => fault = .malformed
  | .unwritable _ | .strangeKey _ | .mixedKeys _ _ => false
  | _ => true

section

variable {tree : FileTree} {arguments : Arguments} {file : String} {document : Yaml}
variable {settings : Settings}

theorem loadSettings_eq (hconfig : arguments.config = some (.text file)) (hfile : file ≠ "")
    (hholds : tree.Holds file document) :
    loadSettings tree arguments =
      fileEntries file document >>= fun entries => mergeSettings entries arguments := by
  obtain ⟨text, hread, hdocument⟩ := hholds
  rw [loadSettings, hconfig, readSettingsFile]
  · rw [hread]
    dsimp only
    rw [hdocument]
  · simpa using hfile

theorem mergeSettings_entries_eq_ok_iff :
    mergeSettings (knownEntries document.entries).1 arguments = .ok settings ↔
      (∀ field : ListField, document.HasList (!·.isGiven) field.name) ∧
        settings = .ofSources document arguments := by
  rw [mergeSettings_eq_ok_iff]
  simp only [list_eq_ok_iff (ListField.name_mem _), listed_entries (ListField.name_mem _),
    FileEntries.single, lookup_knownEntries (SingleField.name_mem _)]
  rfl

theorem loadSettings_eq_ok_iff (hconfig : arguments.config = some (.text file)) (hfile : file ≠ "")
    (hholds : tree.Holds file document) :
    loadSettings tree arguments = .ok settings ↔
      IsRead document ∧ settings = .ofSources document arguments := by
  rw [loadSettings_eq hconfig hfile hholds]
  obtain ⟨hshape, hkeys, hentries⟩ | ⟨hgiven, hnone, hentries⟩ |
    ⟨first, others, hunknown, hentries⟩ := fileEntries_cases file document
  · rw [hentries]
    refine mergeSettings_entries_eq_ok_iff.trans (and_congr_left fun _ => ?_)
    exact ⟨fun hlists => ⟨by simpa using hshape, hkeys, hlists⟩, fun hread => hread.lists⟩
  · have hnot : ¬ IsRead document := by
      intro hread
      simpa [hgiven, hnone] using hread.shape
    simp [hentries, hnot, bind, Except.bind]
  · have hnot : ¬ IsRead document := by
      intro hread
      have hmem : first ∈ document.unknownKeys := by simp [hunknown]
      obtain ⟨hkey, hbad⟩ := Yaml.mem_unknownKeys_iff.mp hmem
      simp [hread.keys first hkey] at hbad
    simp [hentries, hnot, bind, Except.bind]

/-! What the user is told of. -/

theorem isReported_unknownKeysError (first : Yaml) (others : List Yaml) :
    (unknownKeysError first others).isReported = false ↔
      ∃ key ∈ first :: others, key.text? = none := by
  have hstrings : (first :: others).all (fun key => key.content.kindName = "str") = false ↔
      ∃ key ∈ first :: others, key.text? = none := by
    simp only [List.all_eq_false, decide_eq_true_eq, Yaml.kindName_eq_str_iff,
      Option.not_isSome_iff_eq_none]
  rw [← hstrings, unknownKeysError]
  split
  · next hall => simp [SettingsFileError.isReported, hall]
  · next hsome =>
    rw [Bool.not_eq_true] at hsome
    rw [hsome]
    split
    · simp [SettingsFileError.isReported]
    · split <;> simp [SettingsFileError.isReported]

theorem Yaml.hasStrangeKey_iff (document : Yaml) :
    document.HasStrangeKey ↔
      ∃ key ∈ document.unknownKeys, key.text? = none := by
  constructor
  · rintro ⟨key, hkey, hstrange⟩
    exact ⟨key, mem_unknownKeys_iff.mpr ⟨hkey, by simp [isKnownKey, hstrange]⟩, hstrange⟩
  · rintro ⟨key, hkey, hstrange⟩
    exact ⟨key, (mem_unknownKeys_iff.mp hkey).1, hstrange⟩

theorem list_unreported_iff {name : String} (hname : name ∈ settingsFields) :
    (∃ fault, FileEntries.list (knownEntries document.entries).1 name = .error fault ∧
        fault.isReported = false) ↔
      ∃ value, document.valueUnder name = some value ∧ value.items? = none ∧
        value.isWritable = false := by
  simp only [list_eq_error_iff hname]
  constructor
  · rintro ⟨fault, ⟨value, hvalue, hgiven, hitems, rfl⟩, hunreported⟩
    refine ⟨value, hvalue, hitems, ?_⟩
    cases hwritable : value.isWritable with
    | false => rfl
    | true => simp [hwritable, SettingsFileError.isReported] at hunreported
  · rintro ⟨value, hvalue, hitems, hwritable⟩
    exact ⟨_, ⟨value, hvalue, Yaml.isGiven_of_not_isWritable hwritable, hitems, rfl⟩, by
      simp [hwritable, SettingsFileError.isReported]⟩

theorem mergeSettings_entries_unreported_iff :
    (∃ fault, mergeSettings (knownEntries document.entries).1 arguments = .error fault ∧
        fault.isReported = false) ↔
      ∃ field earlier later, ListField.all = earlier ++ field :: later ∧
        (∀ other ∈ earlier, document.HasList (!·.isGiven) other.name) ∧
        ∃ value, document.valueUnder field.name = some value ∧ value.items? = none ∧
          value.isWritable = false := by
  simp only [mergeSettings_eq_error_iff, FirstFailure, list_eq_ok_iff (ListField.name_mem _),
    ← list_unreported_iff (ListField.name_mem _)]
  constructor
  · rintro ⟨fault, ⟨field, earlier, later, hall, hearlier, hfault⟩, hunreported⟩
    exact ⟨field, earlier, later, hall, hearlier, fault, hfault, hunreported⟩
  · rintro ⟨field, earlier, later, hall, hearlier, fault, hfault, hunreported⟩
    exact ⟨fault, ⟨field, earlier, later, hall, hearlier, hfault⟩, hunreported⟩

theorem loadSettings_unreported_iff (hconfig : arguments.config = some (.text file))
    (hfile : file ≠ "") (hholds : tree.Holds file document) :
    (∃ fault, loadSettings tree arguments = .error fault ∧ fault.isReported = false) ↔
      document.HasStrangeKey ∨ document.HasLongNumber := by
  rw [loadSettings_eq hconfig hfile hholds, Yaml.hasStrangeKey_iff]
  obtain ⟨-, hkeys, hentries⟩ | ⟨hgiven, hnone, hentries⟩ | ⟨first, others, hunknown, hentries⟩ :=
    fileEntries_cases file document
  · rw [hentries, Yaml.unknownKeys_eq_nil_iff.mpr hkeys]
    refine mergeSettings_entries_unreported_iff.trans ?_
    rw [Yaml.HasLongNumber, and_iff_right hkeys]
    simp
  · have hnothing : document.entries = [] := by simp [Yaml.entries, hnone]
    rw [hentries]
    simp [hnothing, Yaml.unknownKeys, Yaml.keys, Yaml.HasLongNumber, Yaml.valueUnder, bind, Except.bind,
      SettingsFileError.isReported]
  · have hmem : first ∈ document.unknownKeys := by
      rw [hunknown]
      exact List.mem_cons_self
    obtain ⟨hkey, hbad⟩ := Yaml.mem_unknownKeys_iff.mp hmem
    have hshort : ¬ document.HasLongNumber := by
      intro hlong
      simp [hlong.1 first hkey] at hbad
    rw [hentries, hunknown, ← isReported_unknownKeysError]
    simp [hshort, bind, Except.bind]

theorem Arguments.run_settings_cases (arguments : Arguments) (world : World) :
    (∃ settings, loadSettings world.tree arguments = .ok settings ∧
        arguments.settings.run world = .ok settings world) ∨
      (∃ fault, loadSettings world.tree arguments = .error fault ∧ fault.isReported = true ∧
        arguments.settings.run world = .error (.refused fault.message) world) ∨
      ∃ fault error, loadSettings world.tree arguments = .error fault ∧ fault.isReported = false ∧
        arguments.settings.run world = .error (.escaped error) world := by
  cases hload : loadSettings world.tree arguments with
  | ok settings => exact .inl ⟨settings, rfl, run_settings_of_ok hload⟩
  | error fault =>
    right
    simp only [Arguments.settings, EStateM.run_bind, EStateM.run_get, hload]
    cases fault with
    | malformed file fault =>
      cases fault with
      | malformed => exact .inl ⟨_, rfl, rfl, rfl⟩
      | _ => exact .inr ⟨_, _, rfl, rfl, rfl⟩
    | strangeKey | mixedKeys | unwritable => exact .inr ⟨_, _, rfl, rfl, rfl⟩
    | _ => exact .inl ⟨_, rfl, rfl, rfl⟩

theorem Arguments.run_settings_of_unreported {world : World} {fault : SettingsFileError}
    (hload : loadSettings world.tree arguments = .error fault) (hfault : fault.isReported = false) :
    ∃ error, arguments.settings.run world = .error (.escaped error) world := by
  obtain ⟨settings, hother, -⟩ | ⟨other, hother, hreported, -⟩ | ⟨-, error, -, -, hrun⟩ :=
    arguments.run_settings_cases world
  · cases hload.symm.trans hother
  · cases hload.symm.trans hother
    simp [hfault] at hreported
  · exact ⟨error, hrun⟩

/-- How a document is read that is none of settings, or refused without telling the user. -/
inductive SlipsThrough (document : Yaml) : Prop
  /-- It is empty, but neither nothing nor a mapping. -/
  | emptyDocument (notGiven : document.isGiven = false) (notNull : document.isNull = false)
      (notMapping : document.entries? = none)
  /-- A value is empty where a list is asked for, but neither nothing nor a list. -/
  | emptyValue (read : IsRead document) (field : ListField) (value : Yaml)
      (found : document.valueUnder field.name = some value) (notNull : value.isNull = false)
      (notList : value.items? = none)
  | strangeKey (h : document.HasStrangeKey)
  | longNumber (h : document.HasLongNumber)

theorem isRead_of_not_given (hgiven : document.isGiven = false) : IsRead document := by
  have hnothing := Yaml.entries_of_not_isGiven hgiven
  refine ⟨.inl (by simp [hgiven]), by simp [Yaml.keys, hnothing], fun field value hvalue => ?_⟩
  simp [Yaml.valueUnder, hnothing] at hvalue

theorem slipsThrough_iff (document : Yaml) :
    SlipsThrough document ↔
      (IsRead document ∧ ¬ IsSettingsDocument document) ∨
        document.HasStrangeKey ∨ document.HasLongNumber := by
  constructor
  · rintro (⟨hgiven, hnull, hmapping⟩ | ⟨hread, field, value, hfound, hnull, hlist⟩ | h | h)
    · refine .inl ⟨isRead_of_not_given hgiven, fun hsettings => ?_⟩
      simpa [hnull, hmapping] using hsettings.shape
    · refine .inl ⟨hread, fun hsettings => ?_⟩
      simpa [hnull, hlist] using hsettings.lists field value hfound
    · exact .inr (.inl h)
    · exact .inr (.inr h)
  · rintro (⟨hread, hsettings⟩ | h | h)
    · by_cases hshape : document.isNull = true ∨ document.entries?.isSome
      · have hlists : ¬ ∀ field : ListField, document.HasList Yaml.isNull field.name :=
          fun hlists => hsettings ⟨hshape, hread.keys, hlists⟩
        simp only [Yaml.HasList, not_forall, not_or] at hlists
        obtain ⟨field, value, hfound, hnull, hlist⟩ := hlists
        exact .emptyValue hread field value hfound (by simpa using hnull) (by simpa using hlist)
      · obtain ⟨hnull, hmapping⟩ := not_or.mp hshape
        have hgiven := hread.shape.resolve_right hmapping
        exact .emptyDocument (by simpa using hgiven) (by simpa using hnull) (by simpa using hmapping)
    · exact .strangeKey h
    · exact .longNumber h

theorem Yaml.HasStrangeKey.not_isSettingsDocument (h : document.HasStrangeKey) :
    ¬ IsSettingsDocument document := by
  obtain ⟨key, hkey, hstrange⟩ := h
  intro hsettings
  simpa [isKnownKey, hstrange] using hsettings.keys key hkey

theorem IsSettingsDocument.not_slipsThrough (h : IsSettingsDocument document) :
    ¬ SlipsThrough document := by
  rw [slipsThrough_iff]
  rintro (⟨-, hsettings⟩ | hstrange | ⟨-, field, -, -, -, -, value, hvalue, hlist, hlong⟩)
  · exact hsettings h
  · exact hstrange.not_isSettingsDocument h
  · have hgiven := Yaml.isGiven_of_not_isWritable hlong
    obtain hnull | hsome := h.lists field value hvalue
    · simp [Yaml.isGiven_of_isNull hnull] at hgiven
    · simp [hlist] at hsome

/-- A file is accepted exactly if it holds a document of settings, and otherwise the user is told why,
for all documents but those that slip through. -/
theorem settings_document_iff {world : World} (hconfig : arguments.config = some (.text file))
    (hfile : file ≠ "") (hholds : world.tree.Holds file document) :
    let run := arguments.settings.run world
    (((∃ settings after, run = .ok settings after) ↔ IsSettingsDocument document) ∧
        (¬ IsSettingsDocument document → ∃ message after, run = .error (.refused message) after)) ↔
      ¬ SlipsThrough document := by
  have hread := fun settings => @loadSettings_eq_ok_iff _ _ _ _ settings hconfig hfile hholds
  have hunread : ∀ fault, loadSettings world.tree arguments = .error fault → ¬ IsRead document := by
    intro fault hload hdocument
    cases hload.symm.trans ((hread _).mpr ⟨hdocument, rfl⟩)
  have hescaped := loadSettings_unreported_iff hconfig hfile hholds
  rw [slipsThrough_iff, ← hescaped]
  dsimp only
  -- told or not, what is not read is no document of settings either
  obtain ⟨settings, hload, hrun⟩ | ⟨fault, hload, hreported, hrun⟩ |
    ⟨fault, error, hload, hreported, hrun⟩ := arguments.run_settings_cases world
  · have hdocument : IsRead document := ((hread settings).mp hload).1
    simp [hrun, hload, hdocument]
  · have hdocument := hunread fault hload
    have hsettings : ¬ IsSettingsDocument document := fun h => hdocument h.isRead
    simp [hrun, hload, hdocument, hsettings, hreported]
  · have hsettings : ¬ IsSettingsDocument document := fun h => hunread fault hload h.isRead
    simp [hrun, hload, hsettings, hreported]

end

/-- A command line that only names a file of settings. -/
def configArguments : Arguments := { Arguments.none with config := some (.text "c.yml") }

theorem configArguments_config : configArguments.config = some (.text "c.yml") := rfl

def nullPrefixesWorld : World :=
  .start (.ofFiles [("c.yml", "module: M\nheaders: [a.h]\nprefixes:\n")])

def nullPrefixesDocument : Yaml :=
  .record [("module", .string "M"), ("headers", .list [.string "a.h"]), ("prefixes", .null)]

theorem null_prefixes_accepted :
    nullPrefixesWorld.tree.Holds "c.yml" nullPrefixesDocument ∧
      IsSettingsDocument nullPrefixesDocument ∧
      ∃ settings after, configArguments.settings.run nullPrefixesWorld = .ok settings after := by
  have hholds : nullPrefixesWorld.tree.Holds "c.yml" nullPrefixesDocument := by decide +kernel
  have hsettings : IsSettingsDocument nullPrefixesDocument := by decide
  obtain ⟨haccepts, -⟩ :=
    (settings_document_iff configArguments_config (by decide) hholds).mpr hsettings.not_slipsThrough
  exact ⟨hholds, hsettings, haccepts.mpr hsettings⟩

def numberedKeyWorld : World := .start (.ofFiles [("c.yml", "1: 2\n")])

def numberedKeyDocument : Yaml := .mapping [(.integer 1, .integer 2)]

theorem numberedKey_strange : numberedKeyDocument.HasStrangeKey :=
  ⟨.integer 1, List.mem_singleton.mpr rfl, rfl⟩

/-- Keys that are numbers cannot be put into a message. -/
theorem numbered_key_escapes :
    ¬ ∀ arguments file document world, Arguments.config arguments = some (.text file) → file ≠ "" →
      world.tree.Holds file document →
        ((∃ settings after, arguments.settings.run world = .ok settings after) ↔
          IsSettingsDocument document) ∧
        (¬ IsSettingsDocument document →
          ∃ message after, arguments.settings.run world = .error (.refused message) after) := by
  intro h
  have hholds : numberedKeyWorld.tree.Holds "c.yml" numberedKeyDocument := by decide +kernel
  obtain ⟨fault, hload, hunreported⟩ :=
    (loadSettings_unreported_iff configArguments_config (by decide) hholds).mpr
      (.inl numberedKey_strange)
  obtain ⟨error, hrun⟩ := Arguments.run_settings_of_unreported hload hunreported
  obtain ⟨-, hrefused⟩ := h configArguments "c.yml" numberedKeyDocument numberedKeyWorld
    configArguments_config (by decide) hholds
  obtain ⟨message, after, hmessage⟩ := hrefused numberedKey_strange.not_isSettingsDocument
  cases hrun.symm.trans hmessage

end HeaderBindings
