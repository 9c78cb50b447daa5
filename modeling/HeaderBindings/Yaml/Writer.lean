import HeaderBindings.Number.Shortest
import HeaderBindings.Yaml.Scalar

/-!
YAML documents in block style. Mappings are indented by two below their key, and lists are not.
An empty collection is written with brackets, a key that is long or has several lines behind a
question mark, and a value that was written before as an alias.
-/

namespace HeaderBindings

/-- A number with so many digits at least. -/
def padded (width n : Nat) : String :=
  let digits := Nat.repr n
  String.ofList (List.replicate (width - digits.length) '0') ++ digits

def Date.text (date : Date) : String :=
  padded 4 date.year ++ "-" ++ padded 2 date.month ++ "-" ++ padded 2 date.day

def zoneText (minutes : Int) : String :=
  (if minutes < 0 then "-" else "+") ++ padded 2 (minutes.natAbs / 60) ++ ":"
    ++ padded 2 (minutes.natAbs % 60)

def Moment.text (moment : Moment) : String :=
  moment.date.text ++ " " ++ padded 2 moment.hour ++ ":" ++ padded 2 moment.minute ++ ":"
    ++ padded 2 moment.second
    ++ (if moment.microsecond = 0 then "" else "." ++ padded 6 moment.microsecond)
    ++ (match moment.zone with | some minutes => zoneText minutes | none => "")

/-- A number with a point and an exponent where it has one; the largest ones are words. -/
def Binary64.yamlText (number : Binary64) : String :=
  match number with
  | .nan => ".nan"
  | .infinity negative => if negative then "-.inf" else ".inf"
  | number =>
    let text := number.text.toList
    if text.contains '.' then number.text
    else String.ofList (replaceAll ['e'] ".0e".toList text)

/-- The text of a scalar that is no string. -/
def Yaml.plainText? : Yaml → Option String
  | .null => some "null"
  | .boolean value => some (if value then "true" else "false")
  | .integer value => some (toString value)
  | .float value => some value.yamlText
  | .date value => some value.text
  | .moment value => some value.text
  | _ => none

/-- Base 64 digits of three bytes at a time, with the equals signs at the end. -/
def base64 : List Nat → List Char
  | [] => []
  | [a] => [digit (a / 4), digit (a % 4 * 16), '=', '=']
  | [a, b] => [digit (a / 4), digit (a % 4 * 16 + b / 16), digit (b % 16 * 4), '=']
  | a :: b :: c :: rest =>
    digit (a / 4) :: digit (a % 4 * 16 + b / 16) :: digit (b % 16 * 4 + c / 64)
      :: digit (c % 64) :: base64 rest
where
  digit (n : Nat) : Char :=
    if n < 26 then Char.ofNat ('A'.toNat + n)
    else if n < 52 then Char.ofNat ('a'.toNat + n - 26)
    else if n < 62 then Char.ofNat ('0'.toNat + n - 52)
    else if n = 62 then '+' else '/'

/-- Lines of equal width. -/
def chunks (width : Nat) (text : List Char) : List (List Char) :=
  if width = 0 ∨ text.length ≤ width then [text]
  else text.take width :: chunks width (text.drop width)
termination_by text.length
decreasing_by simp only [List.length_drop]; omega

/-! Scalars. -/

/-- A scalar that starts at a column. -/
def Yaml.scalar (layout : ScalarLayout) (column : Nat) : Yaml → List Char
  | .string text => writeString layout column text
  | .bytes [] => "!!binary \"\"".toList
  | .bytes values =>
    "!!binary |".toList
      ++ ((chunks 76 (base64 values)).map fun line => '\n' :: padding layout.indent ++ line).flatten
  | other => plainFrom layout column false ((other.plainText?).getD "").toList

/-- Characters that make a key take several lines. -/
def breaksKey (c : Char) : Bool :=
  c = '\n' || c = '\r' || c.toNat = 0x85 || c.toNat = 0x2028 || c.toNat = 0x2029

/-- Whether a key stands in front of its colon without a question mark: it has one line, and at most
128 bytes. -/
def Yaml.isShortKey : Yaml → Bool
  | .string text => !text.toList.any breaksKey && text.utf8ByteSize ≤ 128
  | .bytes values => values.isEmpty
  | .integer value => (toString value).utf8ByteSize ≤ 128
  | _ => true

/-! Aliases. -/

/-- What was met on the way through a document: the numbers of shared values, and those of them that
were met again, in that order. -/
structure Encounters where
  seen : List Nat
  again : List Nat

def Encounters.meetAgain (encounters : Encounters) (id : Nat) : Encounters :=
  if encounters.again.contains id then encounters
  else { encounters with again := encounters.again ++ [id] }

mutual

def Yaml.meet (encounters : Encounters) : Yaml → Encounters
  | .shared id value =>
    if encounters.seen.contains id then encounters.meetAgain id
    else value.meet { encounters with seen := id :: encounters.seen }
  | .again id _ => encounters.meetAgain id
  | .list items => meetItems encounters items
  | .mapping entries => meetEntries encounters entries
  | .set members => meetItems encounters members
  | .pair first second => second.meet (first.meet encounters)
  | _ => encounters

def meetItems (encounters : Encounters) : List Yaml → Encounters
  | [] => encounters
  | item :: items => meetItems (item.meet encounters) items

def meetEntries (encounters : Encounters) : List (Yaml × Yaml) → Encounters
  | [] => encounters
  | (key, value) :: entries => meetEntries (value.meet (key.meet encounters)) entries

end

/-- The numbers that get an anchor, and those of them whose anchor is written. -/
structure Anchors where
  names : List Nat
  written : List Nat

def Anchors.note (anchors : Anchors) (id : Nat) : Anchors :=
  { anchors with written := id :: anchors.written }

def anchorName (names : List Nat) (id : Nat) : List Char :=
  "id".toList ++ (padded 3 (names.idxOf id + 1)).toList

/-! Layout. -/

/-- Where a node is written. -/
structure Spot where
  /-- How far the collection around it is indented. -/
  indent : Nat
  inMapping : Bool
  /-- Whether there are only marks of structure on the line. -/
  fresh : Bool
  column : Nat

/-- Puts a collection at a spot: on the same line if that is fresh, else on the next one. -/
def Spot.open (spot : Spot) (indent : Nat) (lines : List Char) : List Char :=
  if spot.fresh then ' ' :: lines.drop indent else '\n' :: lines

/-- The indentation of a list; below a key it is that of the key. -/
def Spot.listIndent (spot : Spot) : Nat :=
  if spot.inMapping && !spot.fresh then spot.indent else spot.indent + 2

def Spot.item (indent : Nat) : Spot := ⟨indent, false, true, indent + 1⟩

/-- The spot behind a question mark, or behind a colon on a line of its own. -/
def Spot.mark (indent : Nat) : Spot := ⟨indent, true, true, indent + 1⟩

def Spot.afterKey (indent : Nat) (key : List Char) : Spot :=
  ⟨indent, true, false, indent + key.length + 1⟩

/-- The spot behind some text. -/
def Spot.after (spot : Spot) (text : List Char) : Spot :=
  { spot with fresh := false, column := spot.column + text.length }

abbrev Writer := StateM Anchors

/-- A key in front of its colon. -/
def Yaml.shortKey (indent : Nat) : Yaml → Writer (List Char)
  | .shared id value => do
    let anchors ← get
    if !anchors.names.contains id then return value.scalar ⟨indent, false⟩ 0
    else if anchors.written.contains id then return '*' :: anchorName anchors.names id ++ [' ']
    else
      modify (·.note id)
      return '&' :: anchorName anchors.names id ++ ' ' :: value.scalar ⟨indent, false⟩ 0
  | key => return key.scalar ⟨indent, false⟩ 0

mutual

/-- What stands behind the mark or key of a node. -/
def Yaml.write (spot : Spot) (value : Yaml) : Writer (List Char) := do
  match value with
  | .shared id value =>
    let anchors ← get
    let name := anchorName anchors.names id
    if !anchors.names.contains id then value.write spot
    else if anchors.written.contains id then return ' ' :: '*' :: name ++ ['\n']
    else
      modify (·.note id)
      let anchor := ' ' :: '&' :: name
      return anchor ++ (← value.write (spot.after anchor))
  | .again id _ => return ' ' :: '*' :: anchorName (← get).names id ++ ['\n']
  | .list [] => return " []\n".toList
  | .list items => return spot.open spot.listIndent (← writeItems spot.listIndent items)
  | .mapping [] => return " \x7b\x7d\n".toList
  | .mapping entries =>
    return spot.open (spot.indent + 2) (← writeEntries (spot.indent + 2) entries)
  | .set [] => return " !!set \x7b\x7d\n".toList
  | .set members => return " !!set\n".toList ++ (← writeMembers (spot.indent + 2) members)
  | .pair first second =>
    let indent := (spot.after []).listIndent
    let first ← first.write (.item indent)
    let second ← second.write (.item indent)
    return " !!python/tuple\n".toList ++ padding indent ++ '-' :: first
      ++ padding indent ++ '-' :: second
  | other => return ' ' :: other.scalar ⟨spot.indent + 2, true⟩ (spot.column + 1) ++ ['\n']

def writeItems (indent : Nat) : List Yaml → Writer (List Char)
  | [] => return []
  | item :: items => do
    let item ← item.write (.item indent)
    return padding indent ++ '-' :: item ++ (← writeItems indent items)

def writeMembers (indent : Nat) : List Yaml → Writer (List Char)
  | [] => return []
  | member :: members => do
    let member ← if member.content.isShortKey then do
        pure ((← member.shortKey indent) ++ ": null\n".toList)
      else do
        pure ('?' :: (← member.write (.mark indent)) ++ padding indent ++ ": null\n".toList)
    return padding indent ++ member ++ (← writeMembers indent members)

def writeEntries (indent : Nat) : List (Yaml × Yaml) → Writer (List Char)
  | [] => return []
  | (key, value) :: entries => do
    let entry ← if key.content.isShortKey then do
        let key ← key.shortKey indent
        pure (key ++ ':' :: (← value.write (.afterKey indent key)))
      else do
        let key ← key.write (.mark indent)
        pure ('?' :: key ++ padding indent ++ ':' :: (← value.write (.mark indent)))
    return padding indent ++ entry ++ (← writeEntries indent entries)

end

/-- The lines of a document. -/
def Yaml.documentLines : Yaml → Writer (List Char)
  | .mapping [] => return "\x7b\x7d\n".toList
  | .mapping entries => writeEntries 0 entries
  | other => return other.scalar ⟨0, true⟩ 0 ++ ['\n']

/-- The text of a document that is a mapping. -/
def Yaml.document (value : Yaml) : String :=
  let encounters := value.meet ⟨[], []⟩
  String.ofList ((value.documentLines.run ⟨encounters.again, []⟩).1)

end HeaderBindings
