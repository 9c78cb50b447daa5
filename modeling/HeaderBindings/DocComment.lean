import HeaderBindings.Text.Blank

/-!
Doxygen comments. Every line of a comment goes to one section: the free text, one of the known
parameters, or the result. A line with a marker opens a section, which stays open until the next
marker, and the marks of the comment itself are removed.
-/

namespace HeaderBindings

inductive DocSection where
  | description
  | parameter (name : String)
  | result
  deriving DecidableEq, Repr

def isCommentMark (c : Char) : Bool := c = '/' || c = '*'

/-- Removes the white space and the run of slashes and stars that a comment line starts with. -/
def dropOpening (line : List Char) : List Char :=
  match trimStart line with
  | [] => line
  | c :: rest => if isCommentMark c then rest.dropWhile isCommentMark else line

/-- Removes the end of the comment, the stars in front of it and the white space around it. -/
def dropClosing (line : List Char) : List Char :=
  match line.reverse.dropWhile isBlank with
  | '/' :: '*' :: rest => trimEnd (rest.dropWhile (· = '*')).reverse
  | _ => line

/-- Square brackets mark types in the generated documentation, so text may not hold them. -/
def roundBracket (c : Char) : Char :=
  if c = '[' then '(' else if c = ']' then ')' else c

def cleanLine (line : List Char) : List Char :=
  (replaceAll "\\brief ".toList [] (dropClosing (dropOpening line))).map roundBracket

/-- The name and the rest of a text that starts with a parameter marker: the name runs up to the
next space and may be empty. -/
def paramMarker? (text : List Char) : Option (List Char × List Char) :=
  if "\\param ".toList.isPrefixOf text then
    let after := text.drop 7
    match after.dropWhile (· ≠ ' ') with
    | [] => none
    | _ :: rest => some (after.takeWhile (· ≠ ' '), rest)
  else none

theorem paramMarker?_length {text name rest : List Char}
    (h : paramMarker? text = some (name, rest)) : rest.length < text.length := by
  unfold paramMarker? at h
  split at h
  · next start =>
    have long : 7 ≤ text.length := (List.isPrefixOf_iff_prefix.mp start).length_le
    simp only at h
    split at h
    · exact absurd h (by simp)
    · next c tail cut =>
      have bound := (List.dropWhile_sublist (fun c : Char => decide (c ≠ ' '))
        (l := text.drop 7)).length_le
      have : rest = tail := by simp_all
      subst this
      simp only [ne_eq, decide_not] at bound cut
      rw [cut] at bound
      simp only [List.length_cons, List.length_drop] at bound
      omega
  · exact absurd h (by simp)

/-- The names of the parameter markers in a line, and the line without the markers. -/
def splitParamMarkers (line : List Char) : List (List Char) × List Char :=
  match line with
  | [] => ([], [])
  | c :: rest =>
    match _h : paramMarker? (c :: rest) with
    | some (name, after) =>
      let (names, text) := splitParamMarkers after
      (name :: names, text)
    | none =>
      let (names, text) := splitParamMarkers rest
      (names, c :: text)
termination_by line.length
decreasing_by
  · exact paramMarker?_length _h
  · simp

/-- What follows a text's leading result marker. -/
def resultMarker? (text : List Char) : Option (List Char) :=
  if "\\returns ".toList.isPrefixOf text then some (text.drop 9)
  else if "\\return ".toList.isPrefixOf text then some (text.drop 8)
  else none

theorem resultMarker?_length {c : Char} {text rest : List Char}
    (h : resultMarker? (c :: text) = some rest) : rest.length < (c :: text).length := by
  unfold resultMarker? at h
  split at h
  · cases h; simp only [List.length_drop, List.length_cons]; omega
  · split at h
    · cases h; simp only [List.length_drop, List.length_cons]; omega
    · cases h

/-- Whether a line holds a result marker, and the line without its result markers. -/
def splitResultMarkers (line : List Char) : Bool × List Char :=
  match line with
  | [] => (false, [])
  | c :: rest =>
    match _h : resultMarker? (c :: rest) with
    | some after => (true, (splitResultMarkers after).2)
    | none =>
      let (found, text) := splitResultMarkers rest
      (found, c :: text)
termination_by line.length
decreasing_by
  · exact resultMarker?_length _h
  · simp

/-- The section that a line belongs to, when `current` is open before it, and its text there. The
last parameter marker decides; an unknown parameter is named in the text instead. -/
def placeLine (known : List String) (current : DocSection) (line : List Char) :
    DocSection × List Char :=
  let (names, text) := splitParamMarkers (cleanLine line)
  let (current, text) :=
    match names.getLast? with
    | none => (current, text)
    | some name =>
      if String.ofList name ∈ known then (.parameter (String.ofList name), text)
      else (current, name ++ ": ".toList ++ text)
  let (isResult, text) := splitResultMarkers text
  (if isResult then .result else current, text)

def placeLines (known : List String) (current : DocSection) :
    List (List Char) → List (DocSection × List Char)
  | [] => []
  | line :: rest =>
    let placed := placeLine known current line
    placed :: placeLines known placed.1 rest

def trimBlankLines (lines : List String) : List String :=
  let isBlankLine (line : String) : Bool := isBlankText line.toList
  (((lines.dropWhile isBlankLine).reverse).dropWhile isBlankLine).reverse

/-- Lines joined to one text, with single spaces for all white space. -/
def joinLines (lines : List String) : String :=
  String.ofList (squeeze (joinWith [' '] (lines.map String.toList)))

structure DocComment where
  description : List String
  params : List (String × List String)
  returns : List String

/-- The distinct names that are not empty, in order of first appearance. -/
def knownParameters : List String → List String
  | [] => []
  | name :: rest =>
    if name = "" then knownParameters rest
    else name :: (knownParameters rest).filter (· ≠ name)

def sectionLines (placed : List (DocSection × List Char)) (which : DocSection) : List String :=
  (placed.filter (·.1 = which)).map fun entry => String.ofList entry.2

def DocComment.parse (text : String) (names : List String) : DocComment :=
  let known := knownParameters names
  let placed := placeLines known .description (splitAtChar '\n' text.toList)
  { description := trimBlankLines (sectionLines placed .description)
    params := known.map fun name => (name, sectionLines placed (.parameter name))
    returns := sectionLines placed .result }

def DocComment.paramText (doc : DocComment) (name : String) : String :=
  joinLines ((doc.params.lookup name).getD [])

def DocComment.returnText (doc : DocComment) : String := joinLines doc.returns

end HeaderBindings
