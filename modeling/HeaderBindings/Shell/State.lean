import HeaderBindings.File.Error
import HeaderBindings.Shell.Command

/-!
What a shell knows while it runs. Its words are bytes: each character of a word is below 256 and
stands for the byte of its number. Descriptors lead to streams, so two of them can share one; a
stream is read to its end, collects what is written to it, or writes to a file.
-/

namespace HeaderBindings

def isAsciiText (text : String) : Bool := text.toList.all fun c => c.toNat < 128

/-- The bytes of a text, each as the character of its number. -/
def bytesOfText (text : String) : String :=
  if isAsciiText text then text
  else String.ofList (text.toUTF8.toList.map fun byte => Char.ofNat byte.toNat)

/-- The text that bytes stand for; bytes that stand for none are left as they are. -/
def textOfBytes (bytes : String) : String :=
  if isAsciiText bytes then bytes
  else (String.fromUTF8? ⟨(bytes.toList.map fun c => c.toNat.toUInt8).toArray⟩).getD bytes

inductive ShellStream where
  | source (ahead : List Char)
  /-- What was written, last character first. -/
  | sink (behind : List Char)
  | file (place : FilePlace) (offset : Nat) (appending : Bool)

/-- Whether a shell goes on with the next command, and where it goes if not. -/
inductive ShellFlow where
  | running
  | exited
  | returned
  | breaking (levels : Nat)
  | continuing (levels : Nat)
  | killed (signal : Nat)
  deriving DecidableEq, Repr

structure ShellState where
  tree : FileTree
  streams : Array ShellStream
  descriptors : List (Nat × Nat)
  bindings : List (String × String)
  exported : List String
  locked : List String
  functions : List (String × ShellCommand)
  /-- The name that the shell was given. -/
  name : String
  arguments : List String
  status : Nat
  flow : ShellFlow
  directory : String
  options : List Char
  /-- Whether a failure is only asked for and ends nothing. -/
  guarded : Bool
  /-- Commands for the end of the shell. -/
  farewell : String
  /-- The values that variables had outside the functions that run. -/
  saved : List (String × Option String)

/-- A step of a shell. -/
abbrev Shell := StateM ShellState

/-- The name of the shell that runs a command line. -/
def shellName : String := "/bin/sh"

/-- The number of the process, which other processes cannot have. -/
def processNumber : String := "4242"

def initialVariables : List (String × String) :=
  [("PATH", "/usr/local/bin:/usr/local/sbin:/usr/bin:/usr/sbin:/bin:/sbin"), ("HOME", "/root"),
    ("COLUMNS", "80"), ("PWD", "."), ("IFS", " \t\n"), ("OPTIND", "1"), ("PS4", "+ ")]

/-- Variables that programs get, too. -/
def initialExports : List String := ["PATH", "HOME", "COLUMNS", "PWD", "CC"]

def ShellState.initial (tree : FileTree) (compiler : String) : ShellState where
  tree
  streams := #[.source [], .sink []]
  descriptors := [(0, 0), (1, 1), (2, 1)]
  bindings := ("CC", compiler) :: initialVariables
  exported := initialExports
  locked := []
  functions := []
  name := shellName
  arguments := []
  status := 0
  flow := .running
  directory := ""
  options := []
  guarded := false
  farewell := ""
  saved := []

/-! ### Variables -/

def ShellState.valueOf? (state : ShellState) (name : String) : Option String :=
  state.bindings.lookup name

def ShellState.assign (state : ShellState) (name value : String) : ShellState :=
  { state with
    bindings := (name, value) :: state.bindings.filter (·.1 ≠ name)
    exported := if state.options.contains 'a' then name :: state.exported else state.exported }

def ShellState.unset (state : ShellState) (name : String) : ShellState :=
  { state with
    bindings := state.bindings.filter (·.1 ≠ name)
    exported := state.exported.filter (· ≠ name) }

/-- The characters that separate fields. -/
def ShellState.separators (state : ShellState) : List Char :=
  ((state.valueOf? "IFS").getD " \t\n").toList

/-- The value of a parameter, if it is set. -/
def ShellState.parameter? (state : ShellState) (name : String) : Option String :=
  let separator := match state.valueOf? "IFS" with
    | none => " "
    | some text => String.ofList (text.toList.take 1)
  match name with
  | "#" => some (toString state.arguments.length)
  | "?" => some (toString state.status)
  | "$" => some processNumber
  | "-" => some (String.ofList state.options)
  | "!" => none
  | "@" =>
    if state.arguments.isEmpty then none else some (String.intercalate " " state.arguments)
  | "*" =>
    if state.arguments.isEmpty then none else some (String.intercalate separator state.arguments)
  | name =>
    match name.toNat? with
    | some 0 => some state.name
    | some place => state.arguments[place - 1]?
    | none => state.valueOf? name

/-! ### Files -/

def ShellState.path (state : ShellState) (path : String) : String :=
  let path := textOfBytes path
  if path = "" ∨ state.directory = "" ∨ path.toList.head? = some '/' then path
  else state.directory ++ "/" ++ path

def ShellState.find (state : ShellState) (path : String) : FileLookup :=
  state.tree.find (state.path path)

def ShellState.read (state : ShellState) (path : String) : Except FileError String :=
  (state.tree.read (state.path path)).map bytesOfText

/-- The descriptor that a path stands for, if it leads to an open stream. -/
def ShellState.descriptor? (state : ShellState) (path : String) : Option Nat :=
  (state.tree.device? (state.path path)).bind Device.number?

/-! ### Streams -/

/-- Lets a descriptor lead to a stream, or to none. -/
def ShellState.connect (state : ShellState) (descriptor : Nat) (stream : Option Nat) :
    ShellState :=
  let others := state.descriptors.filter (·.1 ≠ descriptor)
  { state with
    descriptors := match stream with
      | some stream => (descriptor, stream) :: others
      | none => others }

/-- A new stream, with its number. -/
def ShellState.addStream (state : ShellState) (stream : ShellStream) : Nat × ShellState :=
  (state.streams.size, { state with streams := state.streams.push stream })

def ShellState.setStream (state : ShellState) (number : Nat) (stream : ShellStream) :
    ShellState :=
  { state with streams := state.streams.setIfInBounds number stream }

/-- A file with a text put over a part of it. -/
def overwrite (old new : List Char) (offset : Nat) : List Char :=
  let gap := List.replicate (offset - old.length) (Char.ofNat 0)
  old.take offset ++ gap ++ new ++ old.drop (offset + new.length)

def ShellState.put (state : ShellState) (descriptor : Nat) (text : String) : ShellState :=
  match state.descriptors.lookup descriptor with
  | none => state
  | some number =>
    match state.streams[number]? with
    | some (.sink behind) =>
      state.setStream number (.sink (text.toList.reverse ++ behind))
    | some (.file place offset appending) =>
      let old := match state.tree.at place with
        | .file _ old => (bytesOfText old).toList
        | _ => []
      let start := if appending then old.length else offset
      let new := String.ofList (overwrite old text.toList start)
      let state := { state with tree := state.tree.set place (textOfBytes new) }
      state.setStream number (.file place (start + text.length) appending)
    | _ => state

def ShellState.write (state : ShellState) (path text : String) : Except FileError ShellState :=
  match state.descriptor? path with
  | some descriptor => .ok (state.put descriptor text)
  | none =>
    (state.tree.write (state.path path) (textOfBytes text)).map fun tree => { state with tree }

/-- What is left in the stream of a descriptor, which is then empty. -/
def ShellState.takeAll (state : ShellState) (descriptor : Nat) : String × ShellState :=
  match state.descriptors.lookup descriptor with
  | none => ("", state)
  | some number =>
    match state.streams[number]? with
    | some (.source ahead) =>
      (String.ofList ahead, state.setStream number (.source []))
    | _ => ("", state)

/-- The next line of the stream of a descriptor, and whether it has an end. -/
def ShellState.takeLine (state : ShellState) (descriptor : Nat) :
    List Char × Bool × ShellState :=
  match state.descriptors.lookup descriptor with
  | none => ([], false, state)
  | some number =>
    match state.streams[number]? with
    | some (.source ahead) =>
      let line := ahead.takeWhile (· ≠ '\n')
      let rest := ahead.drop line.length
      (line, !rest.isEmpty, state.setStream number (.source (rest.drop 1)))
    | _ => ([], false, state)

/-- What a sink has collected. -/
def ShellState.collected (state : ShellState) (stream : Nat) : String :=
  match state.streams[stream]? with
  | some (.sink behind) => String.ofList behind.reverse
  | _ => ""

/-! ### Steps -/

def say (text : String) : Shell Unit := modify fun state => state.put 1 text

/-- Writes a line to the stream of errors. -/
def complain (text : String) : Shell Unit := modify fun state => state.put 2 (text ++ "\n")

/-- A complaint of the shell itself. -/
def complainShell (text : String) : Shell Unit := do
  complain ((← get).name ++ ": 1: " ++ text)

/-- Ends the shell, as an error that no command can have by itself does. -/
def abandon (text : String) : Shell Unit := do
  complainShell text
  modify fun state => { state with status := 2, flow := .exited }

def FileLookup.error : FileLookup → FileError
  | .missing => .missing
  | .throughFile => .throughFile
  | .longName => .longName
  | .directory _ | .file _ _ => .isDirectory

end HeaderBindings
