import HeaderBindings.C.Lexeme

/-!
Comments between two declarations. The text from the end of one to the start of the next is read
lexeme by lexeme, directives and disabled parts included; at least one lexeme is read.
-/

namespace HeaderBindings

/-- The last comment among the lexemes from a point up to the byte offset `limit`. -/
def lastCommentFrom (limit : Nat) (found : String) (point : LexPoint) : String :=
  match _h : point.next? with
  | none => found
  | some (lexeme, after) =>
    let found := if lexeme.kind = .comment then lexeme.written else found
    if lexeme.stop < limit then lastCommentFrom limit found after else found
termination_by point.ahead.length
decreasing_by exact LexPoint.next?_length _h

def lastComment (language : Language) (text : String) (start limit : Nat) : String :=
  lastCommentFrom limit "" (filePoint language text.toList start)

end HeaderBindings
