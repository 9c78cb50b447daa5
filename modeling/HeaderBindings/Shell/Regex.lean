import HeaderBindings.Shell.Pattern

/-!
Regular expressions of the two usual kinds. In the basic kind groups and bounds are written with
backslashes, in the extended kind without. A match starts as far left as it can, and every
repetition takes as much as it can.
-/

namespace HeaderBindings

inductive RegexPart where
  | one (test : CharTest)
  | lineStart
  | lineEnd
  | wordEdge
  | group (number : Nat) (choices : List (List RegexPart))
  | groupEnd (number start : Nat)
  | repeated (part : RegexPart) (least : Nat) (most : Option Nat)
  /-- What a group found before. -/
  | earlier (number : Nat)

/-- How far a reader of regular expressions is: what is ahead, and how many groups were opened. -/
structure RegexReader where
  extended : Bool
  groups : Nat
  ahead : List Char

/-- A number at the start of a text, with what follows. -/
def readCount (text : List Char) : Nat × List Char :=
  let digits := text.takeWhile Char.isDigit
  (digits.foldl (fun n c => 10 * n + (c.toNat - '0'.toNat)) 0, text.dropWhile Char.isDigit)

/-- The bounds of a repetition behind the opening brace. -/
def readBounds (text : List Char) : Nat × Option Nat × List Char :=
  let (least, rest) := readCount text
  match rest with
  | ',' :: behind =>
    if behind.head?.any Char.isDigit then
      let (most, rest) := readCount behind
      (least, some most, rest)
    else (least, none, behind)
  | rest => (least, some least, rest)

/-- The repetition that is written next, if there is one. -/
def readRepetition? (extended : Bool) (text : List Char) :
    Option ((Nat × Option Nat) × List Char) :=
  let bounds (closing : Nat) (rest : List Char) : Option ((Nat × Option Nat) × List Char) :=
    let (least, most, rest) := readBounds rest
    some ((least, most), rest.drop closing)
  match text with
  | '*' :: rest => some ((0, none), rest)
  | '\\' :: '\x7b' :: rest => if extended then none else bounds 2 rest
  | '\\' :: '+' :: rest => if extended then none else some ((1, none), rest)
  | '\\' :: '?' :: rest => if extended then none else some ((0, some 1), rest)
  | '+' :: rest => if extended then some ((1, none), rest) else none
  | '?' :: rest => if extended then some ((0, some 1), rest) else none
  | '\x7b' :: rest => if extended then bounds 1 rest else none
  | _ => none

def opensGroup (extended : Bool) (text : List Char) : Option (List Char) :=
  match extended, text with
  | true, '(' :: rest | false, '\\' :: '(' :: rest => some rest
  | _, _ => none

def closesGroup (extended : Bool) (text : List Char) : Option (List Char) :=
  match extended, text with
  | true, ')' :: rest | false, '\\' :: ')' :: rest => some rest
  | _, _ => none

def startsChoice (extended : Bool) (text : List Char) : Option (List Char) :=
  match extended, text with
  | true, '|' :: rest | false, '\\' :: '|' :: rest => some rest
  | _, _ => none

/-- A part that is no group, with what follows it. -/
def readRegexPart (extended first : Bool) (text : List Char) : RegexPart × List Char :=
  match text with
  | [] => (.lineEnd, [])
  | '^' :: rest => if extended || first then (.lineStart, rest) else (.one (.char '^'), rest)
  | '$' :: rest =>
    let ends := rest.isEmpty || (closesGroup extended rest).isSome
      || (startsChoice extended rest).isSome
    if extended || ends then (.lineEnd, rest) else (.one (.char '$'), rest)
  | '.' :: rest => (.one .any, rest)
  | '[' :: rest =>
    match readBracket? rest with
    | some (test, rest) => (.one test, rest)
    | none => (.one (.char '['), rest)
  | '\\' :: c :: rest =>
    if '1' ≤ c ∧ c ≤ '9' then (.earlier (c.toNat - '0'.toNat), rest)
    else match c with
      | 'n' => (.one (.char '\n'), rest)
      | 't' => (.one (.char '\t'), rest)
      | 'b' | '<' | '>' => (.wordEdge, rest)
      | 's' => (.one (.oneOf false (classRanges "space")), rest)
      | 'S' => (.one (.oneOf true (classRanges "space")), rest)
      | 'w' => (.one (.oneOf false (('_', '_') :: classRanges "alnum")), rest)
      | 'W' => (.one (.oneOf true (('_', '_') :: classRanges "alnum")), rest)
      | other => (.one (.char other), rest)
  | c :: rest => (.one (.char c), rest)

/-- The choices of a regular expression or of a group, up to its end. -/
def readChoices (reader : RegexReader) (found : List (List RegexPart)) (parts : List RegexPart)
    (fuel : Nat) : List (List RegexPart) × RegexReader :=
  let finished := (found ++ [parts], reader)
  match fuel with
  | 0 => finished
  | fuel + 1 =>
    if reader.ahead.isEmpty || (closesGroup reader.extended reader.ahead).isSome then finished
    else match startsChoice reader.extended reader.ahead with
      | some rest => readChoices { reader with ahead := rest } (found ++ [parts]) [] fuel
      | none =>
        let (part, reader) := match opensGroup reader.extended reader.ahead with
          | some rest =>
            let number := reader.groups + 1
            let (choices, inner) :=
              readChoices { reader with groups := number, ahead := rest } [] [] fuel
            let behind := (closesGroup reader.extended inner.ahead).getD []
            (RegexPart.group number choices, { inner with ahead := behind })
          | none =>
            let (part, rest) := readRegexPart reader.extended parts.isEmpty reader.ahead
            (part, { reader with ahead := rest })
        match readRepetition? reader.extended reader.ahead with
        | some ((least, most), rest) =>
          readChoices { reader with ahead := rest } found
            (parts ++ [.repeated part least most]) fuel
        | none => readChoices reader found (parts ++ [part]) fuel

structure Regex where
  choices : List (List RegexPart)

def Regex.read (extended : Bool) (text : String) : Regex :=
  let reader : RegexReader := ⟨extended, 0, text.toList⟩
  ⟨(readChoices reader [] [] (2 * text.length + 2)).1⟩

/-- A text in which every character stands for itself. -/
def Regex.ofText (text : String) : Regex := ⟨[text.toList.map fun c => .one (.char c)]⟩

/-- The stretches of groups, by their numbers. -/
abbrev Captures := List (Nat × Nat × Nat)

def isWordChar (c : Char) : Bool := c.isAlphanum || c = '_'

def foldCase (ignoring : Bool) (c : Char) : Char := if ignoring then c.toLower else c

/-- Whether a character passes a test, its case apart if so wanted. -/
def CharTest.passes (ignoring : Bool) (test : CharTest) (c : Char) : Bool :=
  test.accepts c || ignoring && (test.accepts c.toLower || test.accepts c.toUpper)

/-- Matches parts from a place on; what is found is the end and the groups. -/
def matchParts (ignoring : Bool) (text : Array Char) (parts : List RegexPart) (place : Nat)
    (captures : Captures) (fuel : Nat) : Option (Nat × Captures) :=
  match fuel, parts with
  | 0, _ => none
  | _, [] => some (place, captures)
  | fuel + 1, part :: rest =>
    let go (parts : List RegexPart) (place : Nat) (captures : Captures) :
        Option (Nat × Captures) := matchParts ignoring text parts place captures fuel
    match part with
    | .one test =>
      match text[place]? with
      | some c => if test.passes ignoring c then go rest (place + 1) captures else none
      | none => none
    | .lineStart => if place = 0 then go rest place captures else none
    | .lineEnd => if place = text.size then go rest place captures else none
    | .wordEdge =>
      let before := place ≠ 0 && (text[place - 1]?).any isWordChar
      let behind := (text[place]?).any isWordChar
      if before != behind then go rest place captures else none
    | .group number choices =>
      choices.findSome? fun choice => go (choice ++ .groupEnd number place :: rest) place captures
    | .groupEnd number start => go rest place ((number, start, place) :: captures)
    | .earlier number =>
      match captures.lookup number with
      | some (start, stop) =>
        let wanted := text.toList.drop start |>.take (stop - start)
        let found := text.toList.drop place |>.take (stop - start)
        if wanted.map (foldCase ignoring) = found.map (foldCase ignoring) then
          go rest (place + (stop - start)) captures
        else none
      | none => none
    | .repeated inner least most =>
      let again (least : Nat) : List RegexPart :=
        inner :: .repeated inner least (most.map (· - 1)) :: rest
      if 0 < least then go (again (least - 1)) place captures
      else if most = some 0 then go rest place captures
      else
        let longer := match go [inner] place captures with
          | some (next, _) => if place < next then go (again 0) place captures else none
          | none => none
        longer.or (go rest place captures)

/-- The first match from a place on: its start, its end and its groups. -/
def Regex.find? (regex : Regex) (ignoring : Bool) (text : List Char) (first : Nat) :
    Option (Nat × Nat × Captures) :=
  let all := text.toArray
  let fuel := 8 * (text.length + 8) * (text.length + 8)
  (List.range (text.length + 1 - first)).findSome? fun step =>
    let start := first + step
    (regex.choices.findSome? fun parts => matchParts ignoring all parts start [] fuel).map
      fun (stop, captures) => (start, stop, captures)

end HeaderBindings
