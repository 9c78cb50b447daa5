import HeaderBindings.Shell.Evaluation

/-!
Command lines that a shell carries out. Of what they print all is kept, in the order in which it
was written; what they do to files is seen by everything that follows.
-/

namespace HeaderBindings

/-- How a command line ended. -/
inductive ShellEnding where
  | status (code : Nat)
  | signal (number : Nat)
  deriving DecidableEq, Repr

structure ShellReport where
  ending : ShellEnding
  output : String
  tree : FileTree

/-- How deep the commands of a line can be nested, the rounds of a loop included. -/
def shellDepth : Nat := 20000

/-- Carries out a command line for a compiler, which it knows as a variable. -/
def runShell (tree : FileTree) (compiler commandLine : String) : ShellReport :=
  let start := ShellState.initial tree (bytesOfText compiler)
  let run : Shell Unit := do
    runScript (bytesOfText commandLine).toList shellDepth
    sayFarewell shellDepth
  let (_, final) := run.run start
  { ending := match final.flow with
      | .killed signal => .signal signal
      | _ => .status final.status
    output := textOfBytes (final.collected 1)
    tree := final.tree }

/-- Pieces of a command line that can be paths. -/
def namedPaths (commandLine : String) : List String :=
  let separated := commandLine.toList.map fun c =>
    if endsShellWord c ∨ "\"'$=\x60\x7b\x7d".toList.contains c then ' ' else c
  ((words separated).map String.ofList).eraseDups

/-- The names of signals by their numbers. -/
def signalNames : List (Nat × String) :=
  [(1, "HUP"), (2, "INT"), (3, "QUIT"), (4, "ILL"), (5, "TRAP"), (6, "ABRT"), (7, "BUS"),
    (8, "FPE"), (9, "KILL"), (10, "USR1"), (11, "SEGV"), (12, "USR2"), (13, "PIPE"),
    (14, "ALRM"), (15, "TERM"), (16, "STKFLT"), (24, "XCPU"), (25, "XFSZ"), (26, "VTALRM"),
    (27, "PROF"), (29, "IO"), (30, "PWR"), (31, "SYS")]

/-- What is said about a command line that has failed. -/
def ShellEnding.message (ending : ShellEnding) (commandLine : String) : String :=
  "Command '" ++ commandLine ++ "' " ++
    match ending with
    | .status code => "returned non-zero exit status " ++ toString code ++ "."
    | .signal number =>
      match signalNames.lookup number with
      | some name => "died with <Signals.SIG" ++ name ++ ": " ++ toString number ++ ">."
      | none => "died with unknown signal " ++ toString number ++ "."

end HeaderBindings
