/-!
The commands of a shell. A word is made of parts, each of which knows whether it is quoted; what is
quoted is neither split into fields nor taken as a pattern.
-/

namespace HeaderBindings

/-- What is done with a parameter. With `whenEmpty` an empty value counts as none. -/
inductive ParameterUse where
  | value
  | length
  | default (whenEmpty : Bool)
  | assign (whenEmpty : Bool)
  | demand (whenEmpty : Bool)
  | replace (whenEmpty : Bool)
  | trimStart (longest : Bool)
  | trimEnd (longest : Bool)
  deriving DecidableEq, Repr

/-- What a redirection does with its target. -/
inductive RedirectionKind where
  | input
  | output
  | append
  | inputOutput
  /-- Another descriptor, or none for a dash. -/
  | copy
  /-- The target is the text itself. -/
  | hereText
  deriving DecidableEq, Repr

mutual

inductive WordPart where
  | text (text : List Char) (quoted : Bool)
  /-- A pair of quotes, which makes a field even when nothing is between them. -/
  | quotes
  | parameter (name : String) (use : ParameterUse) (word : List WordPart) (quoted : Bool)
  | output (command : ShellCommand) (quoted : Bool)
  | arithmetic (formula : List WordPart) (quoted : Bool)

inductive Redirection where
  | mk (descriptor : Nat) (kind : RedirectionKind) (target : List WordPart)

inductive ShellCommand where
  | nothing
  | basic (assignments : List (String × List WordPart)) (words : List (List WordPart))
      (redirections : List Redirection)
  | redirected (command : ShellCommand) (redirections : List Redirection)
  | subshell (command : ShellCommand)
  | background (command : ShellCommand)
  | pipeline (commands : List ShellCommand)
  | negation (command : ShellCommand)
  | both (first second : ShellCommand)
  | either (first second : ShellCommand)
  | sequence (first second : ShellCommand)
  | conditional (test body otherwise : ShellCommand)
  /-- Repeats as long as the test gives the wanted result. -/
  | loop (wanted : Bool) (test body : ShellCommand)
  /-- Without words it goes through the arguments. -/
  | forEach (name : String) (words : Option (List (List WordPart))) (body : ShellCommand)
  | choice (subject : List WordPart) (branches : List (List (List WordPart) × ShellCommand))
  | define (name : String) (body : ShellCommand)

end

end HeaderBindings
