import HeaderBindings.C.Comment
import HeaderBindings.C.Position

/-!
The comment that belongs to a declaration: the last one behind the end of the declaration before it.
A declaration that is the first of its file has the file from its start. The two ends are compared
as they are seen, and the text is read as it is spelled.
-/

namespace HeaderBindings

/-- The start of a file, where it was included first. -/
def Source.fileStart (source : Source) (name : String) : Option Mark :=
  (source.inclusions.findIdx? fun inclusion => inclusion.name = name).map fun index =>
    ⟨⟨index, 0⟩, some ⟨index, 0⟩⟩

/-- Where the text that may hold a declaration's comment starts. -/
def Source.commentStart (source : Source) (previous : Option Mark) (start : Mark) : Option Mark :=
  let name := source.fileName start.seen
  match previous with
  | some mark => if source.fileName mark.seen = name then some mark else source.fileStart name
  | none => source.fileStart name

def Source.harvest (source : Source) (previous : Option Mark) (start : Mark) : String :=
  match source.commentStart previous start with
  | none => ""
  | some mark =>
    if start.seen.offset ≤ mark.seen.offset then ""
    else match mark.spelled, start.spelled with
      | some first, some stop =>
        if first.inclusion = stop.inclusion then
          lastComment source.language (source.fileText first) first.offset stop.offset
        else ""
      | _, _ => ""

end HeaderBindings
