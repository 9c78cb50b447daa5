import HeaderBindings.Text.LetterTables

/-!
Upper case, lower case and digits over all of Unicode. ASCII is answered by the core library and
everything else by the tables, so a statement about ASCII names never meets a table.
-/

namespace HeaderBindings

def inRanges (ranges : List CodeRange) (c : Char) : Bool :=
  ranges.any (·.holds c.toNat)

def isUpper (c : Char) : Bool :=
  if c.toNat < 128 then c.isUpper else inRanges upperRanges c

def isLower (c : Char) : Bool :=
  if c.toNat < 128 then c.isLower else inRanges lowerRanges c

/-- Decimal digits of every script, and digit forms such as superscripts. -/
def isDigit (c : Char) : Bool :=
  if c.toNat < 128 then c.isDigit else inRanges digitRanges c

def isCased (c : Char) : Bool := inRanges casedRanges c

def isCaseIgnorable (c : Char) : Bool := inRanges caseIgnorableRanges c

/-- The lower-case form of a character on its own; only `İ` has one of two characters. -/
def lowerForm (c : Char) : List Char :=
  if c.toNat < 128 then [c.toLower]
  else if c.toNat == 0x130 then ['i', Char.ofNat 0x307]
  else match lowerShifts.find? (fun entry => entry.1.holds c.toNat) with
    | some (_, distance) => [Char.ofNat (c.toNat + distance).toNat]
    | none => [c]

/-- A capital sigma at the end of a word has a form of its own. -/
def lowerSigma (before after : List Char) : Char :=
  let cased (side : List Char) : Bool :=
    match side.dropWhile isCaseIgnorable with
    | [] => false
    | c :: _ => isCased c
  if cased before && !cased after then Char.ofNat 0x3C2 else Char.ofNat 0x3C3

def lowercaseFrom (before : List Char) : List Char → List Char
  | [] => []
  | c :: rest =>
    (if c.toNat == 0x3A3 then [lowerSigma before rest] else lowerForm c)
      ++ lowercaseFrom (c :: before) rest

def lowercase (text : List Char) : List Char := lowercaseFrom [] text

end HeaderBindings
