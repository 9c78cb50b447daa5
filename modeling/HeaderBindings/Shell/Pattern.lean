/-!
Patterns of a shell: a star stands for any characters, a question mark for one, and brackets for
one of some. Quoted characters stand for themselves.
-/

namespace HeaderBindings

/-- What one character of a text can be compared with. -/
inductive CharTest where
  | char (c : Char)
  | any
  | oneOf (negated : Bool) (ranges : List (Char × Char))
  deriving DecidableEq, Repr

def CharTest.accepts (test : CharTest) (c : Char) : Bool :=
  match test with
  | .char d => c = d
  | .any => true
  | .oneOf negated ranges => (ranges.any fun range => range.1 ≤ c && c ≤ range.2) != negated

inductive PatternPart where
  | one (test : CharTest)
  | many
  deriving DecidableEq, Repr

/-- The ranges of a class of characters. -/
def classRanges (name : String) : List (Char × Char) :=
  match name with
  | "digit" => [('0', '9')]
  | "upper" => [('A', 'Z')]
  | "lower" => [('a', 'z')]
  | "alpha" => [('A', 'Z'), ('a', 'z')]
  | "alnum" => [('A', 'Z'), ('a', 'z'), ('0', '9')]
  | "xdigit" => [('A', 'F'), ('a', 'f'), ('0', '9')]
  | "space" => [(' ', ' '), ('\t', '\r')]
  | "blank" => [(' ', ' '), ('\t', '\t')]
  | "punct" => [('!', '/'), (':', '@'), ('[', '\x60'), ('\x7b', '~')]
  | "print" => [(' ', '~')]
  | "graph" => [('!', '~')]
  | "cntrl" => [(Char.ofNat 0, Char.ofNat 31)]
  | _ => []

/-- The inside of brackets up to the closing one, which may also stand at the start; what follows
is given back. -/
def bracketRanges (found : List (Char × Char)) (first : Bool) :
    List Char → Option (List (Char × Char) × List Char)
  | [] => none
  | ']' :: rest => if first then bracketRanges ((']', ']') :: found) false rest else some (found, rest)
  | '[' :: ':' :: rest =>
    let name := String.ofList (rest.takeWhile Char.isLower)
    match _h : rest.dropWhile Char.isLower with
    | ':' :: ']' :: behind => bracketRanges (classRanges name ++ found) false behind
    | _ => bracketRanges (('[', '[') :: found) false (':' :: rest)
  | a :: '-' :: b :: rest =>
    if b = ']' then bracketRanges ((a, a) :: found) false ('-' :: b :: rest)
    else bracketRanges ((a, b) :: found) false rest
  | c :: rest => bracketRanges ((c, c) :: found) false rest
termination_by text => text.length
decreasing_by
  all_goals first
    | (simp only [List.length_cons]; omega)
    | (have shorter : (rest.dropWhile Char.isLower).length ≤ rest.length :=
         (List.dropWhile_sublist _).length_le
       rw [_h] at shorter
       simp only [List.length_cons] at shorter ⊢
       omega)

/-- A bracket expression behind its opening bracket, with what follows it. -/
def readBracket? (text : List Char) : Option (CharTest × List Char) :=
  let (negated, text) := match text with
    | '!' :: rest => (true, rest)
    | '^' :: rest => (true, rest)
    | rest => (false, rest)
  (bracketRanges [] true text).map fun (ranges, rest) => (.oneOf negated ranges, rest)

/-- A pattern from characters, each with the mark whether it is quoted. -/
def readPattern (text : List (Char × Bool)) (fuel : Nat) : List PatternPart :=
  match fuel, text with
  | 0, _ | _, [] => []
  | fuel + 1, (c, true) :: rest => .one (.char c) :: readPattern rest fuel
  | fuel + 1, ('*', false) :: rest => .many :: readPattern rest fuel
  | fuel + 1, ('?', false) :: rest => .one .any :: readPattern rest fuel
  | fuel + 1, ('[', false) :: rest =>
    match readBracket? (rest.map Prod.fst) with
    | some (test, left) => .one test :: readPattern (rest.drop (rest.length - left.length)) fuel
    | none => .one (.char '[') :: readPattern rest fuel
  | fuel + 1, (c, false) :: rest => .one (.char c) :: readPattern rest fuel

def patternOf (text : List (Char × Bool)) : List PatternPart := readPattern text text.length

/-- Whether a pattern is that of a whole text. -/
def patternMatches : List PatternPart → List Char → Bool
  | [], [] => true
  | [], _ :: _ => false
  | .one _ :: _, [] => false
  | .one test :: parts, c :: rest => test.accepts c && patternMatches parts rest
  | .many :: parts, [] => patternMatches parts []
  | .many :: parts, c :: rest =>
    patternMatches parts (c :: rest) || patternMatches (.many :: parts) rest
termination_by parts text => parts.length + text.length

/-- Whether a text is a pattern and not only itself. -/
def isPattern (parts : List PatternPart) : Bool :=
  parts.any fun part => match part with
    | .one (.char _) => false
    | _ => true

/-- The text without the shortest or longest part at its start that a pattern accepts. -/
def cutStart (longest : Bool) (pattern : List PatternPart) (text : List Char) : List Char :=
  let lengths := List.range (text.length + 1)
  let lengths := if longest then lengths.reverse else lengths
  match lengths.find? fun count => patternMatches pattern (text.take count) with
  | some count => text.drop count
  | none => text

/-- The text without the shortest or longest part at its end that a pattern accepts. -/
def cutEnd (longest : Bool) (pattern : List PatternPart) (text : List Char) : List Char :=
  let lengths := List.range (text.length + 1)
  let lengths := if longest then lengths else lengths.reverse
  match lengths.find? fun count => patternMatches pattern (text.drop count) with
  | some count => text.take count
  | none => text

end HeaderBindings
