/-!
Ends of lines. Where a text is read from a file, a carriage return, alone or in front of a newline,
ends a line as a newline does. Where a text is shown line by line, form feeds, separators of
information and the line and paragraph separators end lines too.
-/

namespace HeaderBindings

/-- A text whose lines all end with newlines. -/
def plainLines : List Char → List Char
  | '\r' :: '\n' :: rest => '\n' :: plainLines rest
  | '\r' :: rest => '\n' :: plainLines rest
  | c :: rest => c :: plainLines rest
  | [] => []

/-- Whether a character ends a line that is shown. -/
def endsShownLine (c : Char) : Bool :=
  let n := c.toNat
  (10 ≤ n && n ≤ 13) || (28 ≤ n && n ≤ 30) || n = 0x85 || n = 0x2028 || n = 0x2029

/-- The lines behind one that is being collected; the last line needs no end. -/
def shownLinesFrom (line : List Char) : List Char → List (List Char)
  | [] => if line.isEmpty then [] else [line.reverse]
  | '\r' :: '\n' :: rest => line.reverse :: shownLinesFrom [] rest
  | c :: rest =>
    if endsShownLine c then line.reverse :: shownLinesFrom [] rest
    else shownLinesFrom (c :: line) rest

/-- The lines of a text as they are shown, without their ends. -/
def shownLines (text : String) : List String :=
  (shownLinesFrom [] text.toList).map String.ofList

end HeaderBindings
