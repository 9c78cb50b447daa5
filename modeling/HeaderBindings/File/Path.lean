import HeaderBindings.Text.Blank

/-!
Slash-separated paths. The normal form of a path drops empty parts and dots, and lets two dots
cancel the part before them; two leading slashes are kept apart from one. Nothing here looks at
files, so a normal form can name another file where links exist.
-/

namespace HeaderBindings

abbrev PathPart := List Char

def pathParts (path : List Char) : List PathPart := splitAtChar '/' path

/-- Adds a part to a normal form that is held last part first. -/
def pushPart (rooted : Bool) (stack : List PathPart) (part : PathPart) : List PathPart :=
  if part = [] ∨ part = ['.'] then stack
  else if part = ['.', '.'] then
    match stack with
    | [] => if rooted then [] else [part]
    | top :: rest => if top = ['.', '.'] then part :: stack else rest
  else part :: stack

/-- How many of the leading slashes count: none, one, or exactly two. -/
def rootSlashes (path : List Char) : Nat :=
  match path.takeWhile (· = '/') with
  | [] => 0
  | [_, _] => 2
  | _ => 1

def normalParts (path : List Char) : List PathPart :=
  ((pathParts path).foldl (pushPart (0 < rootSlashes path)) []).reverse

def normalizePath (path : List Char) : List Char :=
  match List.replicate (rootSlashes path) '/' ++ joinWith ['/'] (normalParts path) with
  | [] => ['.']
  | text => text

/-- The part of a path before its last slash, without the slashes at its end; a path of nothing
but slashes in front stays as it is. -/
def directoryOf (path : List Char) : List Char :=
  let head := (path.reverse.dropWhile (· ≠ '/')).reverse
  if head.all (· = '/') then head else (head.reverse.dropWhile (· = '/')).reverse

/-- Whether a file is the one that a header names, either by its whole path or by its last parts:
`io.h` names `inc/io.h` and not `stdio.h`. -/
def namesFile (header file : List Char) : Bool :=
  let header := normalizePath header
  let file := normalizePath file
  file == header || ('/' :: header).isSuffixOf file

end HeaderBindings
