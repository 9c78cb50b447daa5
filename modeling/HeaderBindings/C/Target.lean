/-!
The machine and the system that code is compiled for, as far as they decide the sizes of types.
-/

namespace HeaderBindings

inductive Machine where
  | x86_64
  | i386
  | aarch64
  | arm
  | riscv64
  | riscv32
  | powerpc64
  deriving DecidableEq, Repr

inductive OperatingSystem where
  | linux
  | darwin
  | windows
  | none
  deriving DecidableEq, Repr

structure Target where
  machine : Machine
  system : OperatingSystem
  charSigned : Bool
  shortEnums : Bool
  /-- Whether wide characters have two bytes. -/
  shortWide : Bool
  /-- The largest alignment of a member that no attribute or pragma asks for, in bytes. -/
  packing : Option Nat
  deriving DecidableEq, Repr

/-- The width of a pointer. -/
def Machine.wordWidth : Machine → Nat
  | .x86_64 | .aarch64 | .riscv64 | .powerpc64 => 64
  | .i386 | .arm | .riscv32 => 32

/-- Whether `char` has a sign when nothing else is asked for. -/
def charSignedOn (machine : Machine) (system : OperatingSystem) : Bool :=
  match machine with
  | .x86_64 | .i386 => true
  | .powerpc64 | .riscv64 | .riscv32 => false
  | .aarch64 | .arm => system = .darwin || system = .windows

def Target.on (machine : Machine) (system : OperatingSystem) : Target :=
  ⟨machine, system, charSignedOn machine system, false, system = .windows, none⟩

def Target.default : Target := .on .x86_64 .linux

def Target.wordWidth (target : Target) : Nat := target.machine.wordWidth

def Target.longWidth (target : Target) : Nat :=
  if target.system = .windows then 32 else target.wordWidth

/-- How many bits of a `long double` hold a value, and how many it takes. -/
inductive LongDouble where
  | double
  | extended
  | quadruple
  deriving DecidableEq, Repr

def Target.longDouble (target : Target) : LongDouble :=
  match target.machine with
  | .x86_64 | .i386 => .extended
  | .aarch64 => if target.system = .linux || target.system = .none then .quadruple else .double
  | .arm => .double
  | .riscv64 | .riscv32 | .powerpc64 => .quadruple

/-- The machine that a machine stands for when words of another width are asked for. -/
def Machine.withWordWidth (machine : Machine) (width : Nat) : Machine :=
  match machine, width with
  | .x86_64, 32 => .i386
  | .i386, 64 => .x86_64
  | .aarch64, 32 => .arm
  | .arm, 64 => .aarch64
  | .riscv64, 32 => .riscv32
  | .riscv32, 64 => .riscv64
  | other, _ => other

def Machine.ofName? (name : String) : Option Machine :=
  match name with
  | "x86_64" | "amd64" | "x86_64h" => some .x86_64
  | "i386" | "i486" | "i586" | "i686" | "x86" => some .i386
  | "aarch64" | "arm64" | "arm64e" => some .aarch64
  | "riscv64" => some .riscv64
  | "riscv32" => some .riscv32
  | "powerpc64le" | "ppc64le" | "powerpc64" | "ppc64" => some .powerpc64
  | other => if other.startsWith "arm" || other.startsWith "thumb" then some .arm else none

/-- The system that the parts of a target's name behind its machine speak of. -/
def OperatingSystem.ofParts (parts : List String) : OperatingSystem :=
  let has (start : String) : Bool := parts.any (·.startsWith start)
  if has "linux" then .linux
  else if has "darwin" || has "macos" || has "ios" then .darwin
  else if has "windows" || has "win32" || has "mingw" then .windows
  else .none

/-- The target that a name such as `aarch64-linux-gnu` stands for. -/
def Target.ofName? (name : String) : Option Target :=
  match name.splitOn "-" with
  | machine :: parts => (Machine.ofName? machine).map fun machine => .on machine (.ofParts parts)
  | [] => none

end HeaderBindings
