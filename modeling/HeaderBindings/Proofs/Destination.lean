import HeaderBindings.Proofs.ProgramRun
import HeaderBindings.Proofs.WrittenFile

/-! Where a document goes. A run prints or writes nothing before its document is complete, and the
document does not depend on where it goes. -/

namespace HeaderBindings

open Run

/-- The path that a document is written to, if it is written to a file. -/
def Yaml.destination? (output : Yaml) : Option String :=
  match output.content with
  | .string "-" => none
  | .string path => some path
  | .bytes values => String.fromUTF8? ⟨(values.map Nat.toUInt8).toArray⟩
  | _ => none

def Failure.ending : Failure → Ending
  | .refused _ => .exit 1
  | .escaped error => .escape error

/-! The end of a run. -/

theorem Device.isHarmless_take (device : Device) (document : String) :
    (device.take document).IsHarmless := by
  cases device with
  | sink | input => exact (isSilent_pure _).isHarmless
  | output => exact isHarmless_print document
  | complaints => exact (isSilent_note _).isHarmless
  | full => exact (isSilent_throw _).isHarmless

theorem isHarmless_deliverToStream (document : String) (number : Int) (report : String) :
    (deliverToStream document number report).IsHarmless := by
  unfold deliverToStream
  split
  · exact (isHarmless_print document).bind_note _
  · exact (isSilent_bind (isSilent_note _) fun _ => isSilent_throw _).isHarmless
  · exact (isSilent_throw _).isHarmless

/-- A document is printed, or it goes where a path leads, or to no file at all. -/
theorem deliver_cases (output : Yaml) (document : String) :
    (output.content = .string "-" ∧ deliver output document = print document) ∨
    (∃ path ∈ output.destination?, output.content ≠ .string "-" ∧
      ∃ report name, deliver output document = deliverTo document path report name) ∨
    (output.content ≠ .string "-" ∧ output.destination? = none ∧
      (deliver output document).IsHarmless) := by
  unfold deliver Yaml.destination?
  cases output.content with
  | string path =>
    by_cases hprinted : path = "-"
    · subst hprinted
      exact .inl ⟨rfl, rfl⟩
    · have hother : Yaml.string path ≠ .string "-" := by simp [hprinted]
      refine .inr (.inl ⟨path, ?_, hother, path, literalString path.toList, ?_⟩)
      all_goals split <;> simp_all
  | bytes values =>
    dsimp only
    cases String.fromUTF8? ⟨(values.map Nat.toUInt8).toArray⟩ with
    | none => exact .inr (.inr ⟨by simp, rfl, (isSilent_throw _).isHarmless⟩)
    | some path => exact .inr (.inl ⟨path, rfl, by simp, _, _, rfl⟩)
  | boolean value => exact .inr (.inr ⟨by simp, rfl, isHarmless_deliverToStream _ _ _⟩)
  | integer number =>
    refine .inr (.inr ⟨by simp, rfl, ?_⟩)
    dsimp only
    split
    · exact isHarmless_deliverToStream _ _ _
    · split <;> exact (isSilent_throw _).isHarmless
  | _ => exact .inr (.inr ⟨by simp, rfl, (isSilent_throw _).isHarmless⟩)

/-- A file is written in one go, or not at all; a device does what it does. -/
theorem run_deliverTo (document path report : String) (name : List Char) (world : World) :
    (deliverTo document path report name).run world =
      if Char.ofNat 0 ∈ path.toList then .error (.escape .nulInName) world
      else match world.tree.device? path with
        | some device => (device.take document >>= fun _ => reportWritten report).run world
        | none => match world.tree.write path document with
          | .ok written => .ok () ⟨world.output,
              world.complaints ++ shownLines (programName ++ ": " ++ report), written⟩
          | .error error => .error (.escape (.file name error)) world := by
  unfold deliverTo
  by_cases hname : Char.ofNat 0 ∈ path.toList
  · rw [if_pos hname, if_pos (by simpa using hname)]
    rfl
  · rw [if_neg hname, if_neg (by simpa using hname)]
    simp only [EStateM.run_bind, EStateM.run_get]
    cases world.tree.device? path with
    | some device => simp only [EStateM.run_bind]
    | none => cases world.tree.write path document <;> rfl

theorem failsEarly_deliverTo (document path report : String) (name : List Char) :
    (deliverTo document path report name).FailsEarly := by
  intro world ending final hended
  rw [run_deliverTo] at hended
  split at hended
  · cases hended
    exact ⟨rfl, rfl⟩
  · split at hended
    · next device hdevice =>
      exact (device.isHarmless_take document).failsEarly.bind_note _ hended
    · split at hended <;> cases hended
      exact ⟨rfl, rfl⟩

theorem failsEarly_deliver (output : Yaml) (document : String) :
    (deliver output document).FailsEarly := by
  obtain ⟨-, hdeliver⟩ | ⟨path, -, -, report, name, hdeliver⟩ | ⟨-, -, hharmless⟩ :=
    deliver_cases output document
  · rw [hdeliver]
    exact (isHarmless_print document).failsEarly
  · rw [hdeliver]
    exact failsEarly_deliverTo document path report name
  · exact hharmless.failsEarly

/-- Where no path leads to a file on a disk, there is no other file afterwards. -/
theorem tree_after_deliver {output : Yaml} {world : World}
    (hdevice : ∀ path ∈ output.destination?, (world.tree.device? path).isSome)
    (document : String) : ((deliver output document).after world).tree = world.tree := by
  obtain ⟨-, hdeliver⟩ | ⟨path, hpath, -, report, name, hdeliver⟩ | ⟨-, -, hharmless⟩ :=
    deliver_cases output document
  · rw [hdeliver]
    exact (isHarmless_print document).keepsFiles world
  · obtain ⟨device, hfound⟩ := Option.isSome_iff_exists.mp (hdevice path hpath)
    have htaken : (device.take document >>= fun _ => reportWritten report).IsHarmless :=
      (device.isHarmless_take document).bind_note _
    rw [hdeliver, Run.after, run_deliverTo, hfound]
    by_cases hname : Char.ofNat 0 ∈ path.toList
    · rw [if_pos hname]
    · rw [if_neg hname]
      exact htaken.keepsFiles world
  · exact hharmless.keepsFiles world

theorem run_deliver_of_printed {output : Yaml} (h : output.content = .string "-")
    (document : String) (world : World) :
    (deliver output document).run world =
      .ok () ⟨world.output ++ document, world.complaints, world.tree⟩ := by
  unfold deliver
  rw [h]
  rfl

theorem run_deliver_of_destination {output : Yaml} {document path : String} {world : World}
    {written : FileTree} (hpath : path ∈ output.destination?) (hname : Char.ofNat 0 ∉ path.toList)
    (hregular : world.tree.device? path = none)
    (hwrite : world.tree.write path document = .ok written) :
    ∃ complaints, (deliver output document).run world =
      .ok () ⟨world.output, complaints, written⟩ := by
  obtain ⟨hcontent, -⟩ | ⟨own, hown, -, report, name, hdeliver⟩ | ⟨-, hnone, -⟩ :=
    deliver_cases output document
  · rw [Yaml.destination?, hcontent] at hpath
    cases hpath
  · cases hown.symm.trans hpath
    rw [hdeliver, run_deliverTo, if_neg hname, hregular, hwrite]
    exact ⟨_, rfl⟩
  · rw [hnone] at hpath
    cases hpath

theorem run_program {argv : List String} {arguments : Arguments}
    (hread : Arguments.read argv = .ok arguments) (compiler : Option String) (world : World) :
    (program compiler argv).run world =
      match (arguments.draft compiler).run world with
      | .ok (settings, document) after => (deliver settings.output document).run after
      | .error (.refused message) after =>
        .error (.exit 1) ⟨after.output,
          after.complaints ++ shownLines (programName ++ ": error: " ++ message), after.tree⟩
      | .error (.escaped error) after => .error (.escape error) after := by
  unfold program
  rw [hread]
  dsimp only
  rw [EStateM.run_bind, run_reported]
  cases (arguments.draft compiler).run world with
  | ok made after => rfl
  | error failure after => cases failure <;> rfl

theorem Arguments.treeBehind_of_unset {compiler : Option String} (h : compiler.getD "" = "")
    (arguments : Arguments) (tree : FileTree) : arguments.treeBehind compiler tree = tree := by
  have hasked : askedTree compiler tree = tree := by
    cases compiler with
    | none => rfl
    | some name =>
      cases h
      rfl
  unfold Arguments.treeBehind Settings.treeBehind
  rw [hasked]
  split
  · split <;> rfl
  · rfl

section

variable {argv : List String} {arguments : Arguments} {compiler : Option String} {tree : FileTree}
  (hread : Arguments.read argv = .ok arguments)

include hread

theorem program_of_error {ending : Ending} {final : World}
    (h : (program compiler argv).run (.start tree) = .error ending final) :
    final.output = "" ∧ final.tree = arguments.treeBehind compiler tree := by
  have hdraft := arguments.leaves_draft compiler (.start tree)
  rw [run_program hread] at h
  cases hresult : (arguments.draft compiler).run (.start tree) with
  | error failure after =>
    have hkept := hdraft.of_error hresult
    rw [hresult] at h
    cases failure <;> cases h <;> exact hkept
  | ok made after =>
    rw [hresult] at h
    obtain ⟨hbefore, hasked⟩ := hdraft.of_ok hresult
    obtain ⟨houtput, htree⟩ := failsEarly_deliver _ _ h
    exact ⟨houtput.trans hbefore, htree.trans hasked⟩

theorem program_of_failure {failure : Failure} {after : World}
    (h : (arguments.draft compiler).run (.start tree) = .error failure after) :
    ∃ final, (program compiler argv).run (.start tree) = .error failure.ending final := by
  rw [run_program hread, h]
  cases failure <;> exact ⟨_, rfl⟩

theorem program_of_printed {settings : Settings} {text : String} {after : World}
    (h : (arguments.draft compiler).run (.start tree) = .ok (settings, text) after)
    (hprinted : settings.output.content = .string "-") :
    ∃ complaints, (program compiler argv).run (.start tree) =
      .ok () ⟨text, complaints, arguments.treeBehind compiler tree⟩ := by
  obtain ⟨houtput, htree⟩ := (arguments.leaves_draft compiler (.start tree)).of_ok h
  refine ⟨after.complaints, ?_⟩
  rw [run_program hread, h]
  dsimp only
  rw [run_deliver_of_printed hprinted, houtput, htree]
  simp [World.start]

theorem program_of_written {settings : Settings} {text path : String} {after : World}
    {written : FileTree}
    (h : (arguments.draft compiler).run (.start tree) = .ok (settings, text) after)
    (hpath : path ∈ settings.output.destination?) (hname : Char.ofNat 0 ∉ path.toList)
    (hregular : (arguments.treeBehind compiler tree).device? path = none)
    (hwrite : (arguments.treeBehind compiler tree).write path text = .ok written) :
    ∃ complaints, (program compiler argv).run (.start tree) = .ok () ⟨"", complaints, written⟩ := by
  obtain ⟨houtput, htree⟩ := (arguments.leaves_draft compiler (.start tree)).of_ok h
  change after.tree = arguments.treeBehind compiler tree at htree
  rw [← htree] at hregular hwrite
  obtain ⟨complaints, hdelivered⟩ := run_deliver_of_destination hpath hname hregular hwrite
  rw [houtput] at hdelivered
  rw [run_program hread, h]
  exact ⟨complaints, hdelivered⟩

/-- A run whose document goes to no file on a disk leaves the files as the compiler left them. -/
theorem tree_after_program {settings : Settings} {text : String} {after : World}
    (h : (arguments.draft compiler).run (.start tree) = .ok (settings, text) after)
    (hdevice : ∀ path ∈ settings.output.destination?,
      ((arguments.treeBehind compiler tree).device? path).isSome) :
    ((program compiler argv).after (.start tree)).tree = arguments.treeBehind compiler tree := by
  have htree : after.tree = arguments.treeBehind compiler tree :=
    ((arguments.leaves_draft compiler (.start tree)).of_ok h).2
  rw [← htree] at hdevice
  rw [Run.after, run_program hread, h]
  exact (tree_after_deliver hdevice text).trans htree

/-- A run that is to print its document ends early or prints it, and leaves the files as the
compiler left them. -/
theorem program_leaves {settings : Settings} (hload : loadSettings tree arguments = .ok settings)
    (hprinted : settings.output.content = .string "-") :
    ∃ final, final.tree = arguments.treeBehind compiler tree ∧
      ((∃ ending, (program compiler argv).run (.start tree) = .error ending final) ∨
        ∃ text after, (arguments.draft compiler).run (.start tree) = .ok (settings, text) after ∧
          (program compiler argv).run (.start tree) = .ok () final) := by
  cases hresult : (arguments.draft compiler).run (.start tree) with
  | error failure after =>
    obtain ⟨final, hended⟩ := program_of_failure hread hresult
    exact ⟨final, (program_of_error hread hended).2, .inl ⟨_, hended⟩⟩
  | ok made after =>
    obtain ⟨loaded, text⟩ := made
    cases (Arguments.draft_eq_ok hresult).symm.trans hload
    obtain ⟨complaints, hended⟩ := program_of_printed hread hresult hprinted
    exact ⟨_, rfl, .inr ⟨text, after, rfl, hended⟩⟩

end

def plainCommand : List String := ["-m", "M", "-l", "m", "plain.h"]

def plainTree : FileTree := .ofFiles [("plain.h", "")]

def plainArguments : Arguments :=
  { Arguments.none with
    moduleName := some (.text "M")
    library := some (.text "m")
    headers := ["plain.h"] }

/-- A compiler that makes a file, whatever it is asked. -/
def makingCompiler : Option String := some "> made #"

set_option maxRecDepth 100000 in
theorem made_ne_plain : plainArguments.treeBehind makingCompiler plainTree ≠ plainTree := by
  have hmade : ((plainArguments.treeBehind makingCompiler plainTree).read "made").toOption.isSome ≠
      (plainTree.read "made").toOption.isSome := by decide +kernel
  intro h
  rw [h] at hmade
  exact hmade rfl

end HeaderBindings
