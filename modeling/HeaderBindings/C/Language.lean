/-!
The dialects of C. A dialect is a year of the standard, followed to the letter or with the usual
extensions.
-/

namespace HeaderBindings

structure Language where
  /-- The year of the standard. -/
  edition : Nat
  /-- Whether the standard is followed to the letter. -/
  strict : Bool
  /-- Whether some signs can be written as two question marks and another character. -/
  trigraphs : Bool
  deriving DecidableEq, Repr

/-- The dialect of an edition; later ones have no trigraphs. -/
def Language.ofEdition (edition : Nat) (strict : Bool) : Language :=
  ⟨edition, strict, strict && edition < 2023⟩

def Language.default : Language := .ofEdition 2017 false

/-- The names of the editions, those followed to the letter first. -/
def editionNames : List (Nat × List String × List String) :=
  [(1989, ["c89", "c90", "iso9899:1990"], ["gnu89", "gnu90"]),
    (1994, ["iso9899:199409"], []),
    (1999, ["c99", "c9x", "iso9899:1999", "iso9899:199x"], ["gnu99", "gnu9x"]),
    (2011, ["c11", "c1x", "iso9899:2011", "iso9899:201x"], ["gnu11", "gnu1x"]),
    (2017, ["c17", "c18", "iso9899:2017", "iso9899:2018"], ["gnu17", "gnu18"]),
    (2023, ["c23", "c2x", "iso9899:2024"], ["gnu23", "gnu2x"])]

def Language.ofName? (name : String) : Option Language :=
  editionNames.findSome? fun (edition, strict, extended) =>
    if strict.contains name then some (.ofEdition edition true)
    else if extended.contains name then some (.ofEdition edition false)
    else none

/-- Whether two slashes start a comment even in front of a star. -/
def Language.lineComments (language : Language) : Bool :=
  !(language.strict && language.edition < 1999)

/-- Whether brackets and number signs can be written with two other characters. -/
def Language.digraphs (language : Language) : Bool :=
  !(language.strict && language.edition < 1994)

/-- Whether strings and characters can have a `u` or `U` in front. -/
def Language.unicodeLiterals (language : Language) : Bool := 2011 ≤ language.edition

/-- Whether an apostrophe can separate the digits of a number. -/
def Language.digitSeparators (language : Language) : Bool := 2023 ≤ language.edition

/-- Whether a character constant can have `u8` in front. -/
def Language.byteCharacters (language : Language) : Bool := 2023 ≤ language.edition

end HeaderBindings
