import HeaderBindings.Text.Blank
import HeaderBindings.Shell.Regex

/-!
Filters: programs that make one text of another, line by line or character by character. A line
keeps its end, which the last one may lack.
-/

namespace HeaderBindings

/-- The lines of a text with their ends. -/
def endedLines (text : List Char) : List (List Char) :=
  match text with
  | [] => []
  | '\n' :: rest => ['\n'] :: endedLines rest
  | c :: rest =>
    match rest, endedLines rest with
    | [], _ => [[c]]
    | _, [] => [[c]]
    | _, line :: lines => (c :: line) :: lines

/-- The lines of a text without their ends. -/
def bareLines (text : List Char) : List (List Char) :=
  (endedLines text).map fun line => if line.getLast? = some '\n' then line.dropLast else line

def endLines (lines : List (List Char)) : List Char := lines.flatMap fun line => line ++ ['\n']

/-- How much of a text is kept, from one of its ends. -/
inductive Share where
  | first (count : Nat)
  | allButLast (count : Nat)
  | last (count : Nat)
  /-- From a place on, which is counted from one. -/
  | since (place : Nat)

def Share.pick {α : Type} (share : Share) (items : List α) : List α :=
  match share with
  | .first count => items.take count
  | .allButLast count => items.take (items.length - count)
  | .last count => items.drop (items.length - count)
  | .since place => items.drop (place - 1)

def pickShare (share : Share) (byLines : Bool) (text : List Char) : List Char :=
  if byLines then (share.pick (endedLines text)).flatten else share.pick text

/-- Lines in the opposite order, each with its end in its place. -/
def reverseLines (text : List Char) : List Char := (endedLines text).reverse.flatten

/-- Each line read backwards. -/
def mirrorLines (text : List Char) : List Char :=
  (endedLines text).flatMap fun line =>
    if line.getLast? = some '\n' then line.dropLast.reverse ++ ['\n'] else line.reverse

/-! ### Characters -/

/-- The escapes of a set of characters. -/
def readSetChar (text : List Char) : Char × List Char :=
  match text with
  | '\\' :: c :: rest =>
    let digits := ((c :: rest).take 3).takeWhile fun d => '0' ≤ d && d ≤ '7'
    if !digits.isEmpty then
      let value := digits.foldl (fun n d => 8 * n + (d.toNat - '0'.toNat)) 0
      (Char.ofNat (value % 256), (c :: rest).drop digits.length)
    else
      let meant := match c with
        | 'n' => '\n'
        | 't' => '\t'
        | 'r' => '\r'
        | 'f' => Char.ofNat 12
        | 'v' => Char.ofNat 11
        | 'a' => Char.ofNat 7
        | 'b' => Char.ofNat 8
        | c => c
      (meant, rest)
  | c :: rest => (c, rest)
  | [] => ('\\', [])

def charsBetween (first last : Char) : List Char :=
  (List.range (last.toNat + 1 - first.toNat)).map fun step => Char.ofNat (first.toNat + step)

/-- The characters of a set in their order. -/
def readCharSet (text : List Char) (fuel : Nat) : List Char :=
  match fuel, text with
  | 0, _ | _, [] => []
  | fuel + 1, '[' :: ':' :: rest =>
    let name := rest.takeWhile Char.isLower
    match rest.drop name.length with
    | ':' :: ']' :: rest =>
      let ranges := (classRanges (String.ofList name)).mergeSort fun a b => a.1 ≤ b.1
      ranges.flatMap (fun range => charsBetween range.1 range.2) ++ readCharSet rest fuel
    | _ => '[' :: readCharSet (':' :: rest) fuel
  | fuel + 1, text =>
    let (first, rest) := readSetChar text
    match rest with
    | '-' :: next :: rest =>
      let (last, rest) := readSetChar (next :: rest)
      charsBetween first last ++ readCharSet rest fuel
    | rest => first :: readCharSet rest fuel

def charSet (text : String) : List Char := readCharSet text.toList (text.length + 1)

/-- Leaves one of each run of characters that are in a set. -/
def squeezeRuns (set : Char → Bool) : List Char → List Char
  | a :: b :: rest =>
    if a = b ∧ set a then squeezeRuns set (b :: rest) else a :: squeezeRuns set (b :: rest)
  | text => text

/-- The character that stands in place of another, by two sets of which the second is made as long
as the first by its last character. -/
def exchangeChar (complement : Bool) (old new : List Char) (c : Char) : Char :=
  let place := old.findIdx? (· = c)
  match complement, place with
  | true, some _ => c
  | true, none => new.getLast?.getD c
  | false, some place => (new[place]?).or new.getLast? |>.getD c
  | false, none => c

/-! ### Parts of lines -/

/-- Ranges of places, which are counted from one. -/
def readPlaces? (text : String) : Option (List (Nat × Option Nat)) :=
  (splitAtChar ',' text.toList).mapM fun piece =>
    let number (digits : List Char) : Option Nat := (String.ofList digits).toNat?
    match splitAtChar '-' piece with
    | [one] => (number one).map fun n => (n, some n)
    | [[], last] => (number last).map fun n => (1, some n)
    | [first, []] => (number first).map fun n => (n, none)
    | [first, last] => do pure (← number first, some (← number last))
    | _ => none

def chosenPlace (places : List (Nat × Option Nat)) (place : Nat) : Bool :=
  places.any fun (first, last) => first ≤ place && last.all (place ≤ ·)

def choosePlaces {α : Type} (places : List (Nat × Option Nat)) (complement : Bool)
    (items : List α) : List α :=
  (items.zipIdx.filter fun (_, index) => chosenPlace places (index + 1) != complement).map Prod.fst

/-- The chosen fields of a line; a line without a separator is kept whole. -/
def cutFields (places : List (Nat × Option Nat)) (complement : Bool) (separator : Char)
    (joint line : List Char) : List Char :=
  if line.contains separator then
    joinWith joint (choosePlaces places complement (splitAtChar separator line))
  else line

/-! ### Order -/

/-- What lines are put in order by. -/
structure LineOrder where
  numeric : Bool
  folded : Bool
  reversed : Bool
  separator : Option Char
  /-- The first and the last field of the key, if it is not the whole line. -/
  fields : Option (Nat × Option Nat)

/-- The number that a line starts with, in thousandths. -/
def leadingNumber (line : List Char) : Int :=
  let (factor, digits) := match line.dropWhile isBlank with
    | '-' :: rest => ((-1 : Int), rest)
    | rest => (1, rest)
  let (whole, rest) := readCount digits
  let fraction := match rest with
    | '.' :: rest => ((rest.takeWhile Char.isDigit) ++ ['0', '0', '0']).take 3
    | _ => ['0', '0', '0']
  factor * (whole * 1000 + (readCount fraction).1 : Nat)

/-- The fields of a line; without a separator, each with the blanks before it. -/
def lineFields (separator : Option Char) (line : List Char) (fuel : Nat) : List (List Char) :=
  match separator, fuel with
  | some separator, _ => splitAtChar separator line
  | none, 0 => []
  | none, fuel + 1 =>
    if line.isEmpty then []
    else
      let gap := line.takeWhile isBlank
      let field := (line.drop gap.length).takeWhile (!isBlank ·)
      (gap ++ field) :: lineFields none (line.drop (gap.length + field.length)) fuel

def LineOrder.key (order : LineOrder) (line : List Char) : List Char :=
  match order.fields with
  | none => line
  | some (first, last) =>
    let fields := lineFields order.separator line (line.length + 1)
    let fields := match last with
      | some last => fields.take last
      | none => fields
    let joint := match order.separator with
      | some separator => [separator]
      | none => []
    joinWith joint (fields.drop (first - 1))

/-- Whether a line may stand before another. -/
def LineOrder.precedes (order : LineOrder) (a b : List Char) : Bool :=
  let keys (line : List Char) : Int × List Char :=
    let key := order.key line
    if order.numeric then (leadingNumber key, [])
    else (0, if order.folded then key.map Char.toUpper else key)
  let x := keys a
  let y := keys b
  let less := x.1 < y.1 || (x.1 = y.1 && x.2.lex y.2)
  let greater := y.1 < x.1 || (x.1 = y.1 && y.2.lex x.2)
  let (less, greater) := if order.reversed then (greater, less) else (less, greater)
  less || (!greater && !(if order.reversed then a.lex b else b.lex a))

def LineOrder.same (order : LineOrder) (a b : List Char) : Bool :=
  let x := order.key a
  let y := order.key b
  if order.numeric then leadingNumber x = leadingNumber y
  else if order.folded then x.map Char.toUpper = y.map Char.toUpper
  else x = y

/-- The first lines of runs that are alike, with the lengths of the runs. -/
def lineRuns (same : List Char → List Char → Bool) :
    List (List Char) → List (List Char × Nat)
  | [] => []
  | line :: rest =>
    match lineRuns same rest with
    | [] => [(line, 1)]
    | (next, count) :: runs =>
      if same line next then (line, count + 1) :: runs else (line, 1) :: (next, count) :: runs

def LineOrder.sort (order : LineOrder) (unique : Bool) (lines : List (List Char)) :
    List (List Char) :=
  let sorted := lines.mergeSort order.precedes
  if unique then (lineRuns order.same sorted).map Prod.fst else sorted

/-! ### Lines that match -/

/-- Which lines a search finds, by any of some expressions. -/
structure LineSearch where
  choices : List Regex
  ignoring : Bool
  wholeLine : Bool
  wholeWord : Bool
  inverted : Bool

/-- Whether a stretch of a line is one that is searched for. -/
def LineSearch.fits (search : LineSearch) (line : List Char) (start stop : Nat) : Bool :=
  let before := start ≠ 0 && (line.drop (start - 1)).head?.any isWordChar
  let behind := (line.drop stop).head?.any isWordChar
  (!search.wholeLine || (start = 0 && stop = line.length))
    && (!search.wholeWord || (!before && !behind))

/-- The first stretch from a place on. -/
def LineSearch.next? (search : LineSearch) (line : List Char) (start : Nat) :
    Option (Nat × Nat) :=
  let found := search.choices.filterMap fun regex =>
    ((List.range (line.length + 1 - start)).findSome? fun step =>
      match regex.find? search.ignoring line (start + step) with
      | some (first, stop, _) => if search.fits line first stop then some (first, stop) else none
      | none => none)
  found.foldl (fun best next =>
    match best with
    | none => some next
    | some old =>
      if next.1 < old.1 ∨ (next.1 = old.1 ∧ old.2 < next.2) then some next else some old) none

def LineSearch.accepts (search : LineSearch) (line : List Char) : Bool :=
  (search.next? line 0).isSome != search.inverted

/-- All stretches of a line that are not empty. -/
def LineSearch.stretches (search : LineSearch) (line : List Char) (start fuel : Nat) :
    List (List Char) :=
  match fuel with
  | 0 => []
  | fuel + 1 =>
    match search.next? line start with
    | none => []
    | some (first, stop) =>
      if first = stop then
        if line.length ≤ start then [] else search.stretches line (start + 1) fuel
      else ((line.drop first).take (stop - first)) :: search.stretches line stop fuel

/-! ### Sixty-four digits -/

/-- The value of a digit of base sixty-four. -/
def sixBits? (c : Char) : Option Nat :=
  if 'A' ≤ c ∧ c ≤ 'Z' then some (c.toNat - 'A'.toNat)
  else if 'a' ≤ c ∧ c ≤ 'z' then some (c.toNat - 'a'.toNat + 26)
  else if c.isDigit then some (c.toNat - '0'.toNat + 52)
  else if c = '+' then some 62
  else if c = '/' then some 63
  else none

/-- The bytes of digits of base sixty-four. -/
def readSixBits : List Nat → List Char
  | a :: b :: c :: d :: rest =>
    let n := ((a * 64 + b) * 64 + c) * 64 + d
    [n / 65536, n / 256 % 256, n % 256].map Char.ofNat ++ readSixBits rest
  | [a, b, c] =>
    let n := (a * 64 + b) * 64 + c
    [n / 1024, n / 4 % 256].map Char.ofNat
  | [a, b] => [Char.ofNat ((a * 64 + b) / 16)]
  | _ => []

def sixBitDigits : List Char :=
  charsBetween 'A' 'Z' ++ charsBetween 'a' 'z' ++ charsBetween '0' '9' ++ ['+', '/']

/-- The digits of base sixty-four of bytes, filled up to groups of four. -/
def writeSixBits : List Char → List Char
  | a :: b :: c :: rest =>
    let n := (a.toNat * 256 + b.toNat) * 256 + c.toNat
    let digit (k : Nat) : Char := sixBitDigits.getD (n / Nat.pow 64 k % 64) '='
    [digit 3, digit 2, digit 1, digit 0] ++ writeSixBits rest
  | [a, b] =>
    let n := (a.toNat * 256 + b.toNat) * 256
    let digit (k : Nat) : Char := sixBitDigits.getD (n / Nat.pow 64 k % 64) '='
    [digit 3, digit 2, digit 1, '=']
  | [a] =>
    let n := a.toNat * 65536
    let digit (k : Nat) : Char := sixBitDigits.getD (n / Nat.pow 64 k % 64) '='
    [digit 3, digit 2, '=', '=']
  | [] => []

end HeaderBindings
