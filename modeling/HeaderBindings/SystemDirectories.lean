import HeaderBindings.Text.Blank
import HeaderBindings.Text.Line

/-!
The include directories of the system, as a compiler lists them between two lines of its report. A
report without the first line is read from a fixed point on, and one without the last line up to
its last character.
-/

namespace HeaderBindings

def listStart : String := "#include <...> search starts here:"

def listEnd : String := "End of search list."

/-- The text behind the first occurrence of a part, if there is one. -/
def textBehind (part text : List Char) : Option (List Char) :=
  match text with
  | [] => if part.isEmpty then some [] else none
  | c :: rest =>
    if part.isPrefixOf (c :: rest) then some ((c :: rest).drop part.length)
    else textBehind part rest

/-- The text in front of the first occurrence of a part, if there is one. -/
def textBefore (part text : List Char) : Option (List Char) :=
  match text with
  | [] => if part.isEmpty then some [] else none
  | c :: rest =>
    if part.isPrefixOf (c :: rest) then some []
    else (textBefore part rest).map (c :: ·)

/-- The part of a report that lists directories. -/
def listedPart (report : List Char) : List Char :=
  let start := (textBehind listStart.toList report).getD (report.drop (listStart.length - 1))
  (textBefore listEnd.toList start).getD start.dropLast

def systemDirectories (report : String) : List String :=
  (words (listedPart (plainLines report.toList))).map String.ofList

end HeaderBindings
