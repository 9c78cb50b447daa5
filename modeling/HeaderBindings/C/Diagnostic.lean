import HeaderBindings.C.Token

/-!
What there is to complain about in a source. Warnings that a header asks for itself belong to one
of two groups, whose treatment options and pragmas can change. After many errors a fatal one says
so, and nothing is said any more after something fatal.
-/

namespace HeaderBindings

inductive Severity where
  | warning
  | error
  | fatal
  deriving DecidableEq, Repr

structure Diagnostic where
  place : Option Place
  severity : Severity
  message : String

/-- Groups of warnings. -/
inductive WarningGroup where
  | announced
  | messages
  deriving DecidableEq, Repr

/-- The name that a group goes by in the text of a warning. -/
def WarningGroup.name : WarningGroup → String
  | .announced => "#warnings"
  | .messages => "#pragma-messages"

/-- Whether an option or a pragma for some group speaks of this one. -/
def WarningGroup.answersTo (group : WarningGroup) (name : String) : Bool :=
  name = group.name || name = "everything" || (group = .announced && name = "cpp")

/-- How the warnings of a group are treated. -/
structure WarningTreatment where
  /-- What they count as, if they are shown at all. -/
  severity : Option Severity
  /-- Whether they stay warnings when all warnings are to be errors. -/
  spared : Bool
  deriving DecidableEq, Repr

structure WarningPolicy where
  announced : WarningTreatment
  messages : WarningTreatment
  /-- Whether no warning is shown. -/
  silent : Bool
  /-- Whether warnings are errors. -/
  strict : Bool
  deriving Repr

def WarningPolicy.default : WarningPolicy :=
  ⟨⟨some .warning, false⟩, ⟨some .warning, true⟩, false, false⟩

def WarningPolicy.treatment (policy : WarningPolicy) : WarningGroup → WarningTreatment
  | .announced => policy.announced
  | .messages => policy.messages

/-- Changes the treatment of every group that a name speaks of. -/
def WarningPolicy.change (policy : WarningPolicy) (name : String)
    (change : WarningTreatment → WarningTreatment) : WarningPolicy :=
  let changed (group : WarningGroup) (treatment : WarningTreatment) : WarningTreatment :=
    if group.answersTo name then change treatment else treatment
  { policy with
    announced := changed .announced policy.announced
    messages := changed .messages policy.messages }

/-- What a warning of a group counts as, if it is shown. -/
def WarningPolicy.severity? (policy : WarningPolicy) (group : WarningGroup) : Option Severity :=
  let treatment := policy.treatment group
  match treatment.severity with
  | some .warning =>
    if policy.silent then none
    else if policy.strict && !treatment.spared then some .error
    else some .warning
  | other => other

/-- An option about warnings, without the letter in front. -/
def WarningPolicy.option (policy : WarningPolicy) (name : String) : WarningPolicy :=
  let after (start : String) : String := String.ofList (name.toList.drop start.length)
  if name = "error" then { policy with strict := true }
  else if name = "no-error" then { policy with strict := false }
  else if name.startsWith "error=" then
    policy.change (after "error=") fun _ => ⟨some .error, false⟩
  else if name.startsWith "no-error=" then
    policy.change (after "no-error=") fun treatment => { treatment with spared := true }
  else if name.startsWith "no-" then
    policy.change (after "no-") fun treatment => { treatment with severity := none }
  else policy.change name fun treatment => { treatment with severity := some .warning }

/-- The word of a pragma about warnings. -/
def Severity.ofWord? : String → Option (Option Severity)
  | "ignored" => some none
  | "warning" => some (some .warning)
  | "error" => some (some .error)
  | "fatal" => some (some .fatal)
  | _ => none

/-- How many errors are shown before the reading counts as hopeless. -/
def shownErrors : Nat := 19

/-- Adds to what was said before. -/
def addDiagnostic (said : List Diagnostic) (added : Diagnostic) : List Diagnostic :=
  if said.any (·.severity = .fatal) then said
  else if added.severity = .error ∧ (said.filter (·.severity = .error)).length = shownErrors then
    said ++ [⟨none, .fatal, "too many errors emitted, stopping now"⟩]
  else said ++ [added]

end HeaderBindings
