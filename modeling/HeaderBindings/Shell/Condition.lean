import HeaderBindings.Shell.Arithmetic
import HeaderBindings.Shell.State

/-!
Conditions of a shell on texts, integers and files.
-/

namespace HeaderBindings

/-- The words of a condition that are ahead. -/
abbrev ConditionReader := StateT (List String) (Except String)

def unaryTests : List String :=
  ["-n", "-z", "-e", "-f", "-d", "-r", "-w", "-x", "-s", "-L", "-h", "-p", "-S", "-b", "-c", "-t",
    "-u", "-g", "-k", "-O", "-G"]

def binaryTests : List String :=
  ["=", "!=", "<", ">", "-eq", "-ne", "-gt", "-ge", "-lt", "-le", "-nt", "-ot", "-ef"]

def testFile (state : ShellState) (test path : String) : Bool :=
  match test, state.find path with
  | "-e", .file _ _ | "-e", .directory _ => true
  | "-f", .file place _ => (deviceAt? place).isNone
  | "-c", .file place _ => (deviceAt? place).any fun device => device.number?.isNone
  | "-d", .directory _ => true
  | "-x", .directory _ => true
  | "-s", .file _ text => text ≠ ""
  | "-s", .directory _ => true
  | "-r", .file _ _ | "-r", .directory _ | "-w", .file _ _ | "-w", .directory _ => true
  | "-O", .file _ _ | "-O", .directory _ | "-G", .file _ _ | "-G", .directory _ => true
  | _, _ => false

def unaryHolds (state : ShellState) (test operand : String) : Bool :=
  match test with
  | "-n" => operand ≠ ""
  | "-z" => operand = ""
  | test => testFile state test operand

def binaryHolds (state : ShellState) (first test second : String) : Except String Bool := do
  match test with
  | "=" => return first = second
  | "!=" => return first ≠ second
  | "<" => return first < second
  | ">" => return second < first
  | "-nt" => return false
  | "-ot" => return false
  | "-ef" =>
    match state.find first, state.find second with
    | .file a _, .file b _ | .directory a, .directory b => return a = b
    | _, _ => return false
  | test =>
    let number (text : String) : Except String Int :=
      match signedInteger? text with
      | some value => .ok value
      | none => .error ("Illegal number: " ++ text)
    let a ← number first
    let b ← number second
    match test with
    | "-eq" => return a = b
    | "-ne" => return a ≠ b
    | "-gt" => return a > b
    | "-ge" => return a ≥ b
    | "-lt" => return a < b
    | _ => return a ≤ b

mutual

def readDisjunction (state : ShellState) (fuel : Nat) : ConditionReader Bool := do
  match fuel with
  | 0 => throw "too long"
  | fuel + 1 =>
    let first ← readConjunction state fuel
    match ← get with
    | "-o" :: rest =>
      set rest
      let second ← readDisjunction state fuel
      return first || second
    | _ => return first

def readConjunction (state : ShellState) (fuel : Nat) : ConditionReader Bool := do
  match fuel with
  | 0 => throw "too long"
  | fuel + 1 =>
    let first ← readTest state fuel
    match ← get with
    | "-a" :: rest =>
      set rest
      let second ← readConjunction state fuel
      return first && second
    | _ => return first

def readTest (state : ShellState) (fuel : Nat) : ConditionReader Bool := do
  match fuel with
  | 0 => throw "too long"
  | fuel + 1 =>
    match ← get with
    | [] => throw "argument expected"
    | first :: test :: second :: rest =>
      if binaryTests.contains test then
        set rest
        return ← binaryHolds state first test second
      readShortTest state first (test :: second :: rest) fuel
    | first :: rest => readShortTest state first rest fuel

def readShortTest (state : ShellState) (first : String) (rest : List String) (fuel : Nat) :
    ConditionReader Bool := do
  match fuel with
  | 0 => throw "too long"
  | fuel + 1 =>
    match first, rest with
    | "!", _ :: _ =>
      set rest
      return !(← readTest state fuel)
    | "(", _ :: _ =>
      set rest
      let inner ← readDisjunction state fuel
      match ← get with
      | ")" :: rest =>
        set rest
        return inner
      | _ => throw "closing paren expected"
    | test, operand :: left =>
      if unaryTests.contains test then
        set left
        return unaryHolds state test operand
      set rest
      return first ≠ ""
    | _, [] =>
      set rest
      return first ≠ ""

end

/-- Whether the words of a condition hold; without any they do not. -/
def testHolds (state : ShellState) (words : List String) : Except String Bool := do
  if words.isEmpty then return false
  let (holds, left) ← (readDisjunction state (4 * words.length + 8)).run words
  match left with
  | [] => return holds
  | word :: _ => throw (word ++ ": unexpected operator")

end HeaderBindings
