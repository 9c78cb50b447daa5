import HeaderBindings.Program

/-! The parts of a run of the program, and what they do to the world: only the compiler and the end
touch files, and only the end prints, where nothing can fail any more. -/

namespace HeaderBindings

open Run

section

variable {ε α β : Type} {part : Run ε α} {next : α → Run ε β} {world : World} {tree : FileTree}

/-- The world that a part of a run leaves behind, whether it fails or not. -/
def Run.after (part : Run ε α) (world : World) : World :=
  match part.run world with
  | .ok _ after => after
  | .error _ after => after

/-- A part of a run that prints nothing in a world, and leaves some files behind. -/
def Run.Leaves (part : Run ε α) (world : World) (tree : FileTree) : Prop :=
  (part.after world).output = world.output ∧ (part.after world).tree = tree

/-- A part of a run that prints nothing and leaves the files as they are. -/
def Run.IsSilent (part : Run ε α) : Prop := ∀ world, part.Leaves world world.tree

/-- A part of a run that fails, if it does, before it prints anything or touches a file. -/
def Run.FailsEarly (part : Run ε α) : Prop :=
  ∀ ⦃world e final⦄, part.run world = .error e final →
    final.output = world.output ∧ final.tree = world.tree

/-- A part of a run that may print, but leaves the files as they are. -/
structure Run.IsHarmless (part : Run ε α) : Prop where
  keepsFiles : ∀ world, (part.after world).tree = world.tree
  failsEarly : part.FailsEarly

namespace Run

theorem after_bind (part : Run ε α) (next : α → Run ε β) (world : World) :
    (part >>= next).after world =
      match part.run world with
      | .ok a between => (next a).after between
      | .error _ between => between := by
  simp only [Run.after, EStateM.run_bind]
  cases part.run world <;> rfl

theorem isSilent_pure (a : α) : (pure a : Run ε α).IsSilent := fun _ => ⟨rfl, rfl⟩

theorem isSilent_throw (e : ε) : (throw e : Run ε α).IsSilent := fun _ => ⟨rfl, rfl⟩

theorem isSilent_get : (get : Run ε World).IsSilent := fun _ => ⟨rfl, rfl⟩

theorem isSilent_note (lines : List String) : (note lines : Run ε Unit).IsSilent :=
  fun _ => ⟨rfl, rfl⟩

theorem Leaves.of_ok {a : α} {after : World} (h : part.Leaves world tree)
    (hrun : part.run world = .ok a after) : after.output = world.output ∧ after.tree = tree := by
  unfold Leaves Run.after at h
  rwa [hrun] at h

theorem Leaves.of_error {e : ε} {after : World} (h : part.Leaves world tree)
    (hrun : part.run world = .error e after) :
    after.output = world.output ∧ after.tree = tree := by
  unfold Leaves Run.after at h
  rwa [hrun] at h

theorem leaves_bind (hpart : part.Leaves world tree) (hnext : ∀ a, (next a).IsSilent) :
    (part >>= next).Leaves world tree := by
  rw [Leaves, after_bind]
  cases hrun : part.run world with
  | error e between => exact hpart.of_error hrun
  | ok a between =>
    obtain ⟨hbefore, hasked⟩ := hpart.of_ok hrun
    obtain ⟨houtput, htree⟩ := hnext a between
    exact ⟨houtput.trans hbefore, htree.trans hasked⟩

theorem leaves_get_bind {next : World → Run ε β} (h : (next world).Leaves world tree) :
    ((get : Run ε World) >>= next).Leaves world tree := h

theorem leaves_putTree (world : World) (tree : FileTree) :
    (putTree tree : Run ε Unit).Leaves world tree := ⟨rfl, rfl⟩

theorem isSilent_bind (hpart : part.IsSilent) (hnext : ∀ a, (next a).IsSilent) :
    (part >>= next).IsSilent := fun world => leaves_bind (hpart world) hnext

theorem IsSilent.isHarmless (h : part.IsSilent) : part.IsHarmless :=
  ⟨fun world => (h world).2, fun world _ _ hrun => (h world).of_error hrun⟩

theorem isHarmless_print (text : String) : (print text : Run ε Unit).IsHarmless :=
  ⟨fun _ => rfl, fun _ _ _ hrun => nomatch hrun⟩

/-- What is said last cannot fail. -/
theorem FailsEarly.bind_note (hpart : part.FailsEarly) (lines : List String) :
    (part >>= fun _ => note lines).FailsEarly := by
  intro world e final hended
  rw [EStateM.run_bind] at hended
  cases hrun : part.run world with
  | error other between =>
    rw [hrun] at hended
    cases hended
    exact hpart hrun
  | ok a between =>
    rw [hrun] at hended
    cases hended

theorem IsHarmless.bind_note (hpart : part.IsHarmless) (lines : List String) :
    (part >>= fun _ => note lines).IsHarmless := by
  refine ⟨fun world => ?_, hpart.failsEarly.bind_note lines⟩
  rw [after_bind, ← hpart.keepsFiles world, Run.after]
  cases part.run world <;> rfl

end Run

end

/-! From the command line to a document. -/

theorem Arguments.run_settings_of_ok {arguments : Arguments} {world : World} {settings : Settings}
    (h : loadSettings world.tree arguments = .ok settings) :
    arguments.settings.run world = .ok settings world := by
  simp [Arguments.settings, EStateM.run_bind, h]

theorem Arguments.run_settings_of_error {arguments : Arguments} {world : World}
    {fault : SettingsFileError} (h : loadSettings world.tree arguments = .error fault) :
    ∃ failure, arguments.settings.run world = .error failure world := by
  simp only [Arguments.settings, EStateM.run_bind, EStateM.run_get, h]
  split
  · next settings hloaded => cases hloaded
  all_goals exact ⟨_, rfl⟩

theorem Settings.isSilent_readHeaders (settings : Settings) (directories : List String) :
    (settings.readHeaders directories).IsSilent := by
  unfold readHeaders
  split
  · exact isSilent_throw _
  · refine isSilent_bind isSilent_get fun world => ?_
    dsimp only
    split
    · exact isSilent_throw _
    · exact isSilent_pure _

theorem Settings.isSilent_bindUnit (settings : Settings) (unit : TranslationUnit) :
    (settings.bindUnit unit).IsSilent := by
  refine isSilent_bind (isSilent_note _) fun _ => ?_
  split
  · exact isSilent_throw _
  · exact isSilent_throw _
  · exact isSilent_pure _

theorem Settings.isSilent_rendered (settings : Settings) (format : OutputFormat)
    (artifacts : List Artifact) : (settings.rendered format artifacts).IsSilent := by
  unfold rendered
  split
  · exact isSilent_pure _
  · exact isSilent_throw _

/-- The files that there are once the compiler has been asked. -/
def askedTree (compiler : Option String) (tree : FileTree) : FileTree :=
  match compiler with
  | none | some "" => tree
  | some compiler => (runShell tree compiler (probeCommand compiler)).tree

theorem leaves_askCompiler (compiler : Option String) (world : World) :
    (askCompiler compiler).Leaves world (askedTree compiler world.tree) := by
  unfold askCompiler
  split
  · exact isSilent_pure _ world
  · exact isSilent_pure _ world
  · next name hname =>
    have hasked : askedTree (some name) world.tree =
        (runShell world.tree name (probeCommand name)).tree := by
      unfold askedTree
      split
      · next hnone => cases hnone
      · next hempty => exact absurd (Option.some.inj hempty) hname
      · next hsome =>
        cases hsome
        rfl
    rw [hasked]
    refine leaves_get_bind (leaves_bind (leaves_putTree world _) fun _ => ?_)
    split
    · exact isSilent_pure _
    · exact isSilent_throw _

/-- The files behind the making of a document: the compiler is asked if the settings are
complete. -/
def Settings.treeBehind (settings : Settings) (compiler : Option String) (tree : FileTree) :
    FileTree :=
  match settings.validate with
  | .ok _ => askedTree compiler tree
  | .error _ => tree

theorem Settings.leaves_text (settings : Settings) (compiler : Option String) (world : World) :
    (settings.text compiler).Leaves world (settings.treeBehind compiler world.tree) := by
  unfold Settings.text checkedFormat treeBehind
  cases settings.validate with
  | error fault => cases fault <;> exact isSilent_throw _ world
  | ok format =>
    rw [pure_bind]
    refine leaves_bind (leaves_askCompiler compiler world) fun directories => ?_
    exact isSilent_bind (settings.isSilent_readHeaders directories) fun unit =>
      isSilent_bind (settings.isSilent_bindUnit unit) fun artifacts =>
        settings.isSilent_rendered format artifacts

def Arguments.treeBehind (arguments : Arguments) (compiler : Option String) (tree : FileTree) :
    FileTree :=
  match loadSettings tree arguments with
  | .ok settings => settings.treeBehind compiler tree
  | .error _ => tree

theorem Arguments.leaves_draft (arguments : Arguments) (compiler : Option String) (world : World) :
    (arguments.draft compiler).Leaves world (arguments.treeBehind compiler world.tree) := by
  unfold Arguments.draft treeBehind
  rw [Leaves, after_bind]
  cases hload : loadSettings world.tree arguments with
  | error fault =>
    obtain ⟨failure, hrun⟩ := run_settings_of_error hload
    rw [hrun]
    exact ⟨rfl, rfl⟩
  | ok settings =>
    rw [run_settings_of_ok hload]
    exact leaves_bind (settings.leaves_text compiler world) fun _ => isSilent_pure _

theorem Arguments.draft_eq_ok {arguments : Arguments} {compiler : Option String}
    {world after : World} {settings : Settings} {text : String}
    (h : (arguments.draft compiler).run world = .ok (settings, text) after) :
    loadSettings world.tree arguments = .ok settings := by
  unfold Arguments.draft at h
  rw [EStateM.run_bind] at h
  cases hload : loadSettings world.tree arguments with
  | error fault =>
    obtain ⟨failure, hrun⟩ := run_settings_of_error hload
    rw [hrun] at h
    cases h
  | ok loaded =>
    rw [run_settings_of_ok hload] at h
    dsimp only at h
    rw [EStateM.run_bind] at h
    split at h
    · cases h
      rfl
    · cases h

/-! What the user is told. -/

/-- What is refused is told in lines of its own, and ends the run with the code 1. -/
theorem Run.run_reported {α : Type} (part : Run Failure α) (world : World) :
    (reported part).run world =
      match part.run world with
      | .ok result after => .ok result after
      | .error (.refused message) after =>
        .error (.exit 1) ⟨after.output,
          after.complaints ++ shownLines (programName ++ ": error: " ++ message), after.tree⟩
      | .error (.escaped error) after => .error (.escape error) after := by
  unfold reported EStateM.run
  dsimp only
  cases part world with
  | ok result after => rfl
  | error failure after => cases failure <;> rfl

end HeaderBindings
