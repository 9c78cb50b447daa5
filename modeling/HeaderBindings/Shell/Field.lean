import HeaderBindings.Shell.Pattern
import HeaderBindings.Shell.State

/-!
From expanded words to fields. What an expansion gives is split where its separators are, unless it
is quoted; a field that is a pattern stands for the files that it matches.
-/

namespace HeaderBindings

/-- A piece of an expanded word. -/
inductive ShellGlyph where
  | char (c : Char) (quoted : Bool)
  /-- Makes a field, even one without characters. -/
  | mark
  /-- Ends a field if there is one. -/
  | gap
  /-- Ends a field, even one without characters. -/
  | cut
  deriving DecidableEq, Repr

/-- A field, with the mark of each character whether it is quoted. -/
abbrev ShellField := List (Char × Bool)

def fieldsFrom (current : Option ShellField) : List ShellGlyph → List ShellField
  | [] => current.toList.map List.reverse
  | .char c quoted :: rest => fieldsFrom (some ((c, quoted) :: current.getD [])) rest
  | .mark :: rest => fieldsFrom (some (current.getD [])) rest
  | .gap :: rest =>
    match current with
    | some field => field.reverse :: fieldsFrom none rest
    | none => fieldsFrom none rest
  | .cut :: rest => (current.getD []).reverse :: fieldsFrom none rest

/-- The fields of an expanded word. -/
def fieldsOf (glyphs : List ShellGlyph) : List ShellField := fieldsFrom none glyphs

def isGapChar (c : Char) : Bool := c = ' ' || c = '\t' || c = '\n'

/-- The glyphs of an expansion that is split. Blank separators in a row are one gap, and those
around another separator belong to it. -/
def splitGlyphs (separators : List Char) (text : List Char) (fuel : Nat) : List ShellGlyph :=
  match fuel, text with
  | 0, _ | _, [] => []
  | fuel + 1, c :: rest =>
    if !separators.contains c then .char c false :: splitGlyphs separators rest fuel
    else
      let isGap (d : Char) : Bool := separators.contains d && isGapChar d
      match (c :: rest).dropWhile isGap with
      | d :: behind =>
        if separators.contains d then
          .cut :: splitGlyphs separators (behind.dropWhile isGap) fuel
        else .gap :: splitGlyphs separators (d :: behind) fuel
      | [] => [.gap]

def quotedGlyphs (text : String) (quoted : Bool) : List ShellGlyph :=
  text.toList.map fun c => .char c quoted

def plainField (field : ShellField) : String := String.ofList (field.map Prod.fst)

/-! ### Files that a pattern matches -/

/-- The paths that a list of parts matches below some starts. -/
def matchPaths (state : ShellState) (starts : List String) : List ShellField → List String
  | [] => starts
  | [part] =>
    let pattern := patternOf part
    starts.flatMap fun start => matching start part pattern
  | part :: rest =>
    let pattern := patternOf part
    let found := starts.flatMap fun start =>
      (matching start part pattern).filterMap fun path =>
        match state.find (if path = "" then "/" else path) with
        | .directory _ => some (path ++ "/")
        | _ => none
    matchPaths state found rest
where
  matching (start : String) (part : ShellField) (pattern : List PatternPart) : List String :=
    if !isPattern pattern then
      match state.find (start ++ plainField part) with
      | .file _ _ | .directory _ => [start ++ plainField part]
      | _ => if part.isEmpty then [start] else []
    else
      match state.find (if start = "" then "." else start) with
      | .directory place =>
        let names := (state.tree.names place).map bytesOfText
        let hidden := part.head?.any fun item => item.1 = '.'
        let names := if hidden then "." :: ".." :: names else names
        let names := names.filter fun name =>
          (name.toList.head? = some '.') = hidden && patternMatches pattern name.toList
        names.map fun name => start ++ name
      | _ => []

/-- The parts of a field between its slashes. -/
def fieldParts : ShellField → List ShellField
  | [] => [[]]
  | (c, quoted) :: rest =>
    if c = '/' then [] :: fieldParts rest
    else match fieldParts rest with
      | [] => [[(c, quoted)]]
      | part :: parts => ((c, quoted) :: part) :: parts

/-- What a field stands for: the paths that it matches in their order, or itself. -/
def ShellState.matchField (state : ShellState) (field : ShellField) : List String :=
  let plain := [plainField field]
  if state.options.contains 'f' || !isPattern (patternOf field) then plain
  else
    let found := matchPaths state [""] (fieldParts field)
    if found.isEmpty then plain else found.mergeSort fun a b => a ≤ b

end HeaderBindings
