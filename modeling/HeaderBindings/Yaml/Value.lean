import HeaderBindings.Number.Binary64

/-!
The values that a YAML 1.1 document can hold. Mappings keep the order of their entries, and what
stands in several places is known to be one value.
-/

namespace HeaderBindings

structure Date where
  year : Nat
  month : Nat
  day : Nat
  deriving DecidableEq, Repr

/-- A moment of a day, with the distance to universal time in minutes where it is known. -/
structure Moment where
  date : Date
  hour : Nat
  minute : Nat
  second : Nat
  microsecond : Nat
  zone : Option Int
  deriving DecidableEq, Repr

/-- The days up to a date, counted in the calendar of today. -/
def Date.days (date : Date) : Nat :=
  let year := if date.month ≤ 2 then date.year - 1 else date.year
  let month := if date.month ≤ 2 then date.month + 9 else date.month - 3
  365 * year + year / 4 - year / 100 + year / 400 + (153 * month + 2) / 5 + date.day

/-- The microseconds up to a moment, its zone aside. -/
def Moment.microseconds (moment : Moment) : Int :=
  (((moment.date.days * 24 + moment.hour) * 60 + moment.minute) * 60 + moment.second) * 1000000
    + moment.microsecond

inductive Yaml where
  | null
  | boolean (value : Bool)
  | integer (value : Int)
  | float (value : Binary64)
  | string (text : String)
  | date (value : Date)
  | moment (value : Moment)
  | bytes (values : List Nat)
  | list (items : List Yaml)
  | mapping (entries : List (Yaml × Yaml))
  | set (members : List Yaml)
  | pair (first second : Yaml)
  /-- A value that stands in more than one place; in all of them it has the same number. -/
  | shared (id : Nat) (value : Yaml)
  /-- A collection inside of itself, under its number. -/
  | again (id : Nat) ( isList : Bool)

/-- A value whatever number it has. -/
def Yaml.content : Yaml → Yaml
  | .shared _ value => value.content
  | value => value

/-- A mapping whose keys are strings. -/
def Yaml.record (entries : List (String × Yaml)) : Yaml :=
  .mapping (entries.map fun entry => (.string entry.1, entry.2))

end HeaderBindings
