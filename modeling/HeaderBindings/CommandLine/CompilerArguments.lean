import HeaderBindings.Text.Blank

/-!
Arguments that are meant for the compiler. What follows `-Wc,` in an argument is passed on, piece by
piece, and between the marks of a group all arguments are.
-/

namespace HeaderBindings

/-- The pieces between the occurrences of a separator, leftmost first and without overlaps. -/
def splitAtText (separator : List Char) (piece text : List Char) : List (List Char) :=
  match text with
  | [] => [piece.reverse]
  | c :: rest =>
    if separator.isPrefixOf (c :: rest) && !separator.isEmpty then
      piece.reverse :: splitAtText separator [] (rest.drop (separator.length - 1))
    else splitAtText separator (c :: piece) rest
termination_by text.length
decreasing_by all_goals simp only [List.length_drop, List.length_cons]; omega

def compilerMark : String := "-Wc,"

def groupStart : String := "--startgroup"

def groupEnd : String := "--endgroup"

structure SplitArguments where
  own : List String
  compiler : List String
  deriving DecidableEq, Repr

def SplitArguments.addOwn (argument : String) (split : SplitArguments) : SplitArguments :=
  { split with own := argument :: split.own }

def SplitArguments.addCompiler (arguments : List String) (split : SplitArguments) :
    SplitArguments :=
  { split with compiler := arguments ++ split.compiler }

/-- The pieces of an argument that follow a mark. -/
def compilerPieces (argument : String) : List String :=
  ((splitAtText compilerMark.toList [] argument.toList).drop 1).map String.ofList

/-- Splits arguments; `grouped` says whether a group is open. -/
def splitArguments (grouped : Bool) : List String → SplitArguments
  | [] => ⟨[], []⟩
  | argument :: rest =>
    match compilerPieces argument with
    | [] =>
      if grouped then (splitArguments grouped rest).addCompiler [argument]
      else (splitArguments grouped rest).addOwn argument
    | [piece] =>
      if piece = groupStart then splitArguments true rest
      else if piece = groupEnd then splitArguments false rest
      else (splitArguments grouped rest).addCompiler [piece]
    | pieces => (splitArguments grouped rest).addCompiler pieces

end HeaderBindings
