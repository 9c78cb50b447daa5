/-!
The characters of a C source file after escaped line ends are removed. A backslash, white space and
a line end together stand for nothing, so a glyph keeps the text that it was written as: its own
character and the escaped line ends in front of it. The written texts of all glyphs together are
the file again, apart from escaped line ends with nothing after them.
-/

namespace HeaderBindings

structure Glyph where
  char : Char
  written : List Char
  deriving Repr

def isSpaceInLine (c : Char) : Bool :=
  c = ' ' || c = '\t' || c = '\x0b' || c = '\x0c'

def isLineEnd (c : Char) : Bool := c = '\n' || c = '\r'

/-- The white space and the line end that a text starts with, when it starts so. -/
def escapedLineEnd? : List Char → Option (List Char × List Char)
  | [] => none
  | '\n' :: '\r' :: rest => some (['\n', '\r'], rest)
  | '\r' :: '\n' :: rest => some (['\r', '\n'], rest)
  | c :: rest =>
    if isLineEnd c then some ([c], rest)
    else if isSpaceInLine c then
      (escapedLineEnd? rest).map fun found => (c :: found.1, found.2)
    else none

theorem escapedLineEnd?_length {text ending rest : List Char}
    (h : escapedLineEnd? text = some (ending, rest)) : rest.length < text.length := by
  induction text using escapedLineEnd?.induct generalizing ending rest with
  | case1 => simp [escapedLineEnd?] at h
  | case2 tail => simp [escapedLineEnd?] at h; rw [← h.2]; simp only [List.length_cons]; omega
  | case3 tail => simp [escapedLineEnd?] at h; rw [← h.2]; simp only [List.length_cons]; omega
  | case4 c tail h1 h2 hc =>
    rw [escapedLineEnd?.eq_4 _ _ h1 h2, if_pos hc] at h
    simp at h; simp [← h.2]
  | case5 c tail h1 h2 hc hs ih =>
    rw [escapedLineEnd?.eq_4 _ _ h1 h2, if_neg hc, if_pos hs] at h
    obtain ⟨found, hf, he⟩ := Option.map_eq_some_iff.mp h
    have shorter : found.2.length < tail.length := ih hf
    simp at he; simp [← he.2]; omega
  | case6 c tail h1 h2 hc hs =>
    rw [escapedLineEnd?.eq_4 _ _ h1 h2, if_neg hc, if_neg hs] at h
    simp at h

/-- The sign that two question marks and a further character stand for. -/
def trigraph? : Char → Option Char
  | '=' => some '#'
  | '/' => some '\\'
  | '\'' => some '^'
  | '(' => some '['
  | ')' => some ']'
  | '!' => some '|'
  | '<' => some '\x7b'
  | '>' => some '\x7d'
  | '-' => some '~'
  | _ => none

/-- The first character of a text, how many characters it is written with, and what follows. -/
def firstCharacter? (trigraphs : Bool) (text : List Char) : Option (Char × Nat × List Char) :=
  match text with
  | [] => none
  | '?' :: '?' :: c :: rest =>
    match (if trigraphs then trigraph? c else none) with
    | some sign => some (sign, 3, rest)
    | none => some ('?', 1, '?' :: c :: rest)
  | c :: rest => some (c, 1, rest)

theorem firstCharacter?_length {trigraphs : Bool} {text rest : List Char} {c : Char} {count : Nat}
    (h : firstCharacter? trigraphs text = some (c, count, rest)) : rest.length < text.length := by
  unfold firstCharacter? at h
  split at h
  · cases h
  · split at h <;> (cases h; simp only [List.length_cons]; omega)
  · cases h; simp

/-- The glyphs of a text; `pending` holds the escaped line ends in front of it. -/
def glyphsFrom (trigraphs : Bool) (pending : List Char) (text : List Char) : List Glyph :=
  match _h : firstCharacter? trigraphs text with
  | none => []
  | some (c, count, rest) =>
    let written := pending ++ text.take count
    if c = '\\' then
      match _e : escapedLineEnd? rest with
      | some (ending, after) => glyphsFrom trigraphs (written ++ ending) after
      | none => ⟨c, written⟩ :: glyphsFrom trigraphs [] rest
    else ⟨c, written⟩ :: glyphsFrom trigraphs [] rest
termination_by text.length
decreasing_by
  · exact Nat.lt_trans (escapedLineEnd?_length _e) (firstCharacter?_length _h)
  · exact firstCharacter?_length _h
  · exact firstCharacter?_length _h

def glyphs (trigraphs : Bool) (text : List Char) : List Glyph := glyphsFrom trigraphs [] text

def utf8Length (text : List Char) : Nat := text.foldr (fun c length => c.utf8Size + length) 0

def Glyph.size (glyph : Glyph) : Nat := utf8Length glyph.written

def sizeOfGlyphs (glyphs : List Glyph) : Nat :=
  glyphs.foldr (fun glyph size => glyph.size + size) 0

def plainText (glyphs : List Glyph) : List Char := glyphs.map Glyph.char

def writtenText (glyphs : List Glyph) : List Char := glyphs.flatMap Glyph.written

/-- The glyphs from a byte offset on. -/
def glyphsAfter (offset : Nat) : List Glyph → List Glyph
  | [] => []
  | glyph :: rest => if offset = 0 then glyph :: rest else glyphsAfter (offset - glyph.size) rest

end HeaderBindings
