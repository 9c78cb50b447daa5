import HeaderBindings.Proofs.Escape
import HeaderBindings.Proofs.ProgramRun
import HeaderBindings.Proofs.TextLine

/-! Which failures the user is told of, where the settings are complete and hold texts only. -/

namespace HeaderBindings

open Run

variable {settings : Settings} {format : OutputFormat}

/-- Settings whose headers, flags and prefixes are texts. -/
def Settings.HasTexts (settings : Settings) : Prop :=
  ∀ entry ∈ settings.headers ++ settings.compilerFlags ++ settings.prefixes,
    ∃ text, entry.content = .string text

theorem Settings.HasTexts.oddArgument? (h : settings.HasTexts) : settings.oddArgument? = none := by
  rw [Settings.oddArgument?, Option.map_eq_none_iff, List.find?_eq_none]
  intro entry hentry
  obtain ⟨text, htext⟩ := h entry (List.mem_append_left _ hentry)
  simp [htext]

theorem Settings.HasTexts.oddPrefix? (h : settings.HasTexts) : settings.oddPrefix? = none := by
  rw [Settings.oddPrefix?, Option.map_eq_none_iff, List.find?_eq_none]
  intro entry hentry
  obtain ⟨text, htext⟩ := h entry (List.mem_append_right _ hentry)
  simp [htext]

theorem Settings.HasTexts.meetsBytes (h : settings.HasTexts) (source : Source) :
    settings.meetsBytes source = false := by
  unfold Settings.meetsBytes
  rw [List.any_eq_false]
  intro file _
  dsimp only
  generalize hrest : settings.headers.dropWhile _ = rest
  cases rest with
  | nil => simp
  | cons entry rest =>
    have hentry : entry ∈ settings.headers :=
      (List.dropWhile_suffix _).subset (by rw [hrest]; exact List.mem_cons_self)
    obtain ⟨text, htext⟩ := h entry
      (List.mem_append_left _ (List.mem_append_left _ hentry))
    simp [htext]

/-! A run without a compiler. -/

theorem Settings.run_readHeaders (htexts : settings.HasTexts) (directories : List String)
    (world : World) : (settings.readHeaders directories).run world =
      .ok (settings.unit directories world.tree) world := by
  unfold readHeaders
  rw [htexts.oddArgument?]
  dsimp only
  rw [EStateM.run_bind, EStateM.run_get]
  dsimp only
  generalize settings.unit directories world.tree = unit
  rw [if_neg (by simp [htexts.meetsBytes]), EStateM.run_pure]

/-- The warnings are given before what stops the pass is told. -/
theorem Settings.run_bindUnit (settings : Settings) (unit : TranslationUnit) (world : World) :
    (settings.bindUnit unit).run world =
      let told : World := ⟨world.output,
        world.complaints ++ (settings.run unit).final.warningLines unit.source, world.tree⟩
      match (settings.run unit).error with
      | some (.unsupported kind) => .error (.refused (PassError.unsupported kind).message) told
      | some error => .error (.escaped (.pass error)) told
      | none => .ok (settings.run unit).final.declared.artifacts told := by
  unfold bindUnit
  generalize settings.run unit = run
  dsimp only
  rw [EStateM.run_bind, note, EStateM.run_modify]
  cases run.error with
  | none => rfl
  | some error => cases error <;> rfl

theorem Settings.run_text (htexts : settings.HasTexts) (hformat : settings.validate = .ok format)
    {world : World} {unit : TranslationUnit} (hunit : settings.unit [] world.tree = unit) :
    (settings.text none).run world =
      match (settings.bindUnit unit).run world with
      | .ok artifacts told => (settings.rendered format artifacts).run told
      | .error failure told => .error failure told := by
  unfold Settings.text checkedFormat askCompiler
  rw [hformat, pure_bind, pure_bind, EStateM.run_bind, run_readHeaders htexts, hunit]
  dsimp only
  rw [EStateM.run_bind]
  cases (settings.bindUnit unit).run world <;> rfl

/-- The ways in which a run without a compiler makes a document, or does not. -/
theorem Settings.text_cases (htexts : settings.HasTexts) (hformat : settings.validate = .ok format)
    {world : World} {unit : TranslationUnit} (hunit : settings.unit [] world.tree = unit) :
    ∃ told,
      (∃ kind, (settings.run unit).error = some (.unsupported kind) ∧
        (settings.text none).run world =
          .error (.refused (PassError.unsupported kind).message) told) ∨
      (∃ error, (settings.run unit).error = some error ∧ error.isReported = false ∧
        (settings.text none).run world = .error (.escaped (.pass error)) told) ∨
      (settings.run unit).error = none ∧
        ((∃ error,
            settings.document format (settings.run unit).final.declared.artifacts = .error error ∧
            (settings.text none).run world = .error (.escaped (.render error)) told) ∨
          ∃ document,
            settings.document format (settings.run unit).final.declared.artifacts = .ok document ∧
            (settings.text none).run world = .ok document told) := by
  rw [run_text htexts hformat hunit, run_bindUnit]
  generalize settings.run unit = run
  refine ⟨⟨world.output, world.complaints ++ run.final.warningLines unit.source, world.tree⟩, ?_⟩
  cases herror : run.error with
  | some error =>
    cases error with
    | unsupported kind => exact .inl ⟨kind, rfl, rfl⟩
    | _ => exact .inr (.inl ⟨_, rfl, rfl, rfl⟩)
  | none =>
    refine .inr (.inr ⟨rfl, ?_⟩)
    dsimp only
    unfold rendered
    cases settings.document format run.final.declared.artifacts with
    | error error => exact .inl ⟨error, rfl, rfl⟩
    | ok document => exact .inr ⟨document, rfl, rfl⟩

/-! What escapes. -/

theorem PassContext.run_derails_iff {context : PassContext} (hodd : context.oddPrefix = none)
    {declarations : List Declaration} :
    (∃ error, (context.run .start declarations).error = some error ∧ error.isReported = false) ↔
      ∃ visit ∈ context.visits .start declarations,
        context.isBlacklisted visit.declaration = false ∧
          context.Derails visit.before.declared.symbols visit.declaration := by
  simp only [run_error_iff, derails_iff hodd]
  constructor
  · rintro ⟨error, ⟨visit, hvisit, hwanted, hfails⟩, hunreported⟩
    exact ⟨visit, hvisit, hwanted, error, hfails, hunreported⟩
  · rintro ⟨visit, hvisit, hwanted, error, hfails, hunreported⟩
    exact ⟨error, ⟨visit, hvisit, hwanted, hfails⟩, hunreported⟩

theorem Settings.document_eq_error_iff (hodd : settings.oddPrefix? = none)
    {artifacts : List Artifact} :
    (∃ error, settings.document format artifacts = .error error) ↔
      format = .ruby ∧ ∃ artifact ∈ artifacts,
        ∃ e, artifact.render (stringsOf settings.prefixes) = .error e := by
  rw [← exists_mapM_eq_error_iff]
  unfold Settings.document
  rw [hodd]
  cases format with
  | ruby => simp [renderModule, bind_eq_error_iff, pure, Except.pure]
  | yaml => simp

theorem Settings.unrendered_iff {unit : TranslationUnit} :
    (∃ artifact ∈ (settings.run unit).final.declared.artifacts,
        ∃ e, artifact.render (stringsOf settings.prefixes) = .error e) ↔
      ∃ visit ∈ (settings.context unit).visits .start unit.declarations,
        (settings.context unit).LeavesNameless visit := by
  simp only [PassContext.leavesNameless_iff]
  rw [Settings.run, PassContext.run_artifacts, PassState.start, Declared.empty, List.nil_append]
  simp only [List.mem_flatMap]
  constructor
  · rintro ⟨artifact, ⟨visit, hvisit, hadded⟩, hfails⟩
    exact ⟨visit, hvisit, artifact, hadded, hfails⟩
  · rintro ⟨visit, hvisit, artifact, hadded, hfails⟩
    exact ⟨artifact, ⟨visit, hvisit, hadded⟩, hfails⟩

theorem shownLines_unsupported (kind : UnsupportedKind) :
    shownLines (programName ++ ": error: " ++ (PassError.unsupported kind).message) =
      [programName ++ ": error: " ++ (PassError.unsupported kind).message] := by
  have hkind : IsShownLine kind.text := by cases kind <;> decide
  refine shownLines_eq ?_ ?_
  · exact isShownLine_append (isShownLine_append (by decide) (by decide))
      (isShownLine_append (by decide) hkind)
  · simp [programName]

/-- A header with an enum constant whose literal stands in no file. -/
def levelTree : FileTree := .ofFiles [("level.h", "enum level { LOW = __LINE__ };\n")]

def levelSettings : Settings :=
  { Settings.default with
    moduleName := .string "M"
    library := .string "m"
    headers := [.string "level.h"] }

def Run.escapes {α : Type} (part : Run Failure α) (world : World) : Bool :=
  match part.run world with
  | .error (.escaped _) _ => true
  | _ => false

theorem Run.escapes_iff {α : Type} {part : Run Failure α} {world : World} :
    part.escapes world = true ↔ ∃ error after, part.run world = .error (.escaped error) after := by
  unfold Run.escapes
  split
  · next error after hrun => simp [hrun]
  · next hother => simpa using hother

set_option maxRecDepth 100000 in
theorem level_escapes : (levelSettings.text none).escapes (.start levelTree) = true := by
  decide +kernel

theorem level_hasTexts : levelSettings.HasTexts := by
  intro entry hentry
  rw [List.mem_singleton.mp hentry]
  exact ⟨"level.h", rfl⟩

end HeaderBindings
