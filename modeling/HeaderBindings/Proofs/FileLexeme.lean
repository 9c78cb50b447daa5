import HeaderBindings.C.Comment
import Mathlib.Data.List.Basic

/-! The lexemes of a whole file, read without regard to directives. Reading from the end of one of
them gives those behind it, so that a stretch of a file can be searched by itself. -/

namespace HeaderBindings

/-! Glyphs. -/

theorem utf8Length_pos {text : List Char} (h : text ≠ []) : 0 < utf8Length text := by
  obtain ⟨c, rest, rfl⟩ := List.exists_cons_of_ne_nil h
  simp only [utf8Length, List.foldr_cons]
  have := c.utf8Size_pos
  omega

@[simp] theorem sizeOfGlyphs_nil : sizeOfGlyphs [] = 0 := rfl

@[simp] theorem sizeOfGlyphs_cons (glyph : Glyph) (rest : List Glyph) :
    sizeOfGlyphs (glyph :: rest) = glyph.size + sizeOfGlyphs rest := rfl

theorem sizeOfGlyphs_append (first second : List Glyph) :
    sizeOfGlyphs (first ++ second) = sizeOfGlyphs first + sizeOfGlyphs second := by
  induction first with
  | nil => simp
  | cons glyph first ih =>
    rw [List.cons_append, sizeOfGlyphs_cons, sizeOfGlyphs_cons, ih, Nat.add_assoc]

theorem firstCharacter?_take {trigraphs : Bool} {text rest : List Char} {c : Char} {count : Nat}
    (h : firstCharacter? trigraphs text = some (c, count, rest)) : text.take count ≠ [] := by
  unfold firstCharacter? at h
  split at h
  · cases h
  · split at h <;> (cases h; simp)
  · cases h
    simp

theorem utf8Length_written_pos {trigraphs : Bool} {pending text rest : List Char} {c : Char}
    {count : Nat} (h : firstCharacter? trigraphs text = some (c, count, rest)) :
    0 < utf8Length (pending ++ text.take count) :=
  utf8Length_pos (List.append_ne_nil_of_right_ne_nil _ (firstCharacter?_take h))

theorem size_pos_of_mem_glyphsFrom {trigraphs : Bool} {pending text : List Char} :
    ∀ glyph ∈ glyphsFrom trigraphs pending text, 0 < glyph.size := by
  fun_induction glyphsFrom trigraphs pending text with
  | case1 => simp
  | case2 _ _ _ _ _ _ _ _ _ ih => exact ih
  | case3 pending text count rest written _ first ih =>
    rintro glyph (_ | ⟨_, hglyph⟩)
    · exact utf8Length_written_pos first
    · exact ih glyph hglyph
  | case4 pending text c count rest first written _ ih =>
    rintro glyph (_ | ⟨_, hglyph⟩)
    · exact utf8Length_written_pos first
    · exact ih glyph hglyph

theorem glyphsAfter_append {read rest : List Glyph} (h : ∀ glyph ∈ read, 0 < glyph.size) :
    glyphsAfter (sizeOfGlyphs read) (read ++ rest) = rest := by
  induction read with
  | nil => cases rest <;> rfl
  | cons glyph read ih =>
    have hpos := h glyph List.mem_cons_self
    rw [sizeOfGlyphs_cons, List.cons_append, glyphsAfter, if_neg (by omega),
      Nat.add_sub_cancel_left]
    exact ih fun other hother => h other (List.mem_cons_of_mem _ hother)

/-! Points that differ at most in what is known of their line. -/

structure LexPoint.Agrees (p q : LexPoint) : Prop where
  language : p.language = q.language
  offset : p.offset = q.offset
  context : p.context = q.context
  ahead : p.ahead = q.ahead

/-- A lexeme without what is known of its line. -/
def Lexeme.bare (lexeme : Lexeme) : Lexeme :=
  { lexeme with line := 0, startsLine := false, spaced := false }

@[simp] theorem Lexeme.kind_bare (lexeme : Lexeme) : lexeme.bare.kind = lexeme.kind := rfl

@[simp] theorem Lexeme.stop_bare (lexeme : Lexeme) : lexeme.bare.stop = lexeme.stop := rfl

@[simp] theorem Lexeme.written_bare (lexeme : Lexeme) : lexeme.bare.written = lexeme.written := rfl

theorem LexPoint.Agrees.skipBlanks {p q : LexPoint} (h : p.Agrees q) (ahead : List Glyph) :
    (skipBlanks p ahead).Agrees (skipBlanks q ahead) := by
  induction ahead generalizing p q with
  | nil => exact ⟨h.language, h.offset, h.context, rfl⟩
  | cons glyph rest ih =>
    simp only [HeaderBindings.skipBlanks, h.language, h.offset, h.context]
    split
    · exact ih ⟨rfl, rfl, rfl, rfl⟩
    · split
      · exact ih ⟨rfl, rfl, rfl, rfl⟩
      · exact ⟨rfl, rfl, rfl, rfl⟩

theorem context_skipBlanks {point : LexPoint} (h : point.context = .undirected)
    (ahead : List Glyph) : (skipBlanks point ahead).context = .undirected := by
  induction ahead generalizing point with
  | nil => exact h
  | cons glyph rest ih =>
    simp only [skipBlanks]
    split
    · exact ih (by rw [h]; rfl)
    · split
      · exact ih h
      · exact h

theorem LexPoint.skip_of_undirected {point : LexPoint} (h : point.context = .undirected) :
    point.skip = skipBlanks point point.ahead := by
  simp [skip, h]

theorem LexPoint.Agrees.take {p q : LexPoint} (h : p.Agrees q) (hp : p.context = .undirected) :
    p.take.1.bare = q.take.1.bare ∧ p.take.2.Agrees q.take.2 := by
  have hq : q.context = .undirected := h.context.symm.trans hp
  constructor
  · simp only [LexPoint.take, Lexeme.bare, h.language, h.context, h.ahead, h.offset]
  · constructor
    · exact h.language
    · simp only [LexPoint.take, Lexeme.stop, h.language, h.context, h.ahead, h.offset]
    · simp only [LexPoint.take, LineContext.after, hp, hq, or_true, if_true]
    · simp only [LexPoint.take, h.language, h.context, h.ahead]

theorem LexPoint.context_take {point : LexPoint} (h : point.context = .undirected) :
    point.take.2.context = .undirected := by
  simp only [take, LineContext.after, h, or_true, if_true]

/-! The lexemes from a point on. -/

def LexPoint.lexemes (point : LexPoint) : List Lexeme :=
  match _h : point.next? with
  | none => []
  | some (lexeme, after) => lexeme.bare :: after.lexemes
termination_by point.ahead.length
decreasing_by exact LexPoint.next?_length _h

theorem LexPoint.next?_eq_none {point : LexPoint} (h : point.skip.ahead = []) :
    point.next? = none := by
  rw [next?, h]
  rfl

theorem LexPoint.next?_eq_some {point : LexPoint} (h : point.skip.ahead ≠ []) :
    point.next? = some point.skip.take := by
  rw [next?, if_neg (by simpa using h)]

theorem LexPoint.lexemes_of_empty {point : LexPoint} (h : point.skip.ahead = []) :
    point.lexemes = [] := by
  rw [lexemes]
  split
  · rfl
  · next found => rw [next?_eq_none h] at found; cases found

theorem LexPoint.lexemes_of_ne {point : LexPoint} (h : point.skip.ahead ≠ []) :
    point.lexemes = point.skip.take.1.bare :: point.skip.take.2.lexemes := by
  rw [lexemes]
  split
  · next found => rw [next?_eq_some h] at found; cases found
  · next found => rw [next?_eq_some h] at found; cases found; rfl

theorem LexPoint.length_take_skip {point : LexPoint} (h : point.skip.ahead ≠ []) :
    point.skip.take.2.ahead.length < point.ahead.length :=
  next?_length (next?_eq_some h)

/-- Points that agree have the same lexemes ahead. -/
theorem LexPoint.Agrees.lexemes {p q : LexPoint} (h : p.Agrees q)
    (hp : p.context = .undirected) : p.lexemes = q.lexemes := by
  have hq : q.context = .undirected := h.context.symm.trans hp
  have hskip : p.skip.Agrees q.skip := by
    rw [skip_of_undirected hp, skip_of_undirected hq, h.ahead]
    exact h.skipBlanks q.ahead
  have hcontext : p.skip.context = .undirected := by
    rw [skip_of_undirected hp]
    exact context_skipBlanks hp p.ahead
  by_cases hempty : p.skip.ahead = []
  · rw [lexemes_of_empty hempty, lexemes_of_empty (hskip.ahead.symm.trans hempty)]
  · have hempty' : q.skip.ahead ≠ [] := fun he => hempty (hskip.ahead.trans he)
    have hshort := length_take_skip hempty
    obtain ⟨hlexeme, hafter⟩ := hskip.take hcontext
    have hrest := LexPoint.Agrees.lexemes hafter (context_take hcontext)
    rw [lexemes_of_ne hempty, lexemes_of_ne hempty', hlexeme, hrest]
termination_by p.ahead.length

/-! Points of a file. -/

/-- A point at which a file has been read up to its offset. -/
structure LexPoint.IsIn (language : Language) (all : List Glyph) (point : LexPoint) : Prop where
  language : point.language = language
  context : point.context = .undirected
  split : ∃ read, all = read ++ point.ahead ∧ sizeOfGlyphs read = point.offset

section

variable {language : Language} {all : List Glyph} {point : LexPoint}

theorem isIn_skipBlanks (h : point.IsIn language all) :
    (skipBlanks point point.ahead).IsIn language all ∧
      point.offset ≤ (skipBlanks point point.ahead).offset := by
  generalize hahead : point.ahead = ahead
  induction ahead generalizing point with
  | nil =>
    obtain ⟨read, hread, hsize⟩ := h.split
    exact ⟨⟨h.language, h.context, read, by rw [hread, hahead]; rfl, hsize⟩, Nat.le_refl _⟩
  | cons glyph rest ih =>
    obtain ⟨read, hread, hsize⟩ := h.split
    have hmoved : ∃ read, all = read ++ rest ∧ sizeOfGlyphs read = point.offset + glyph.size := by
      refine ⟨read ++ [glyph], by rw [hread, hahead]; simp, ?_⟩
      rw [sizeOfGlyphs_append, hsize]
      rfl
    have hnext : ∀ next : LexPoint, next.IsIn language all → next.ahead = rest →
        next.offset = point.offset + glyph.size → (skipBlanks next rest).IsIn language all ∧
          point.offset ≤ (skipBlanks next rest).offset := by
      intro next hin hrest hoffset
      obtain ⟨hskipped, hle⟩ := ih hin hrest
      exact ⟨hskipped, by omega⟩
    simp only [skipBlanks]
    split
    · exact hnext _ ⟨h.language, by rw [h.context]; rfl, hmoved⟩ rfl rfl
    · split
      · exact hnext _ ⟨h.language, h.context, hmoved⟩ rfl rfl
      · exact ⟨⟨h.language, h.context, read, by rw [hread, hahead], hsize⟩, Nat.le_refl _⟩

theorem LexPoint.IsIn.skip (h : point.IsIn language all) :
    point.skip.IsIn language all ∧ point.offset ≤ point.skip.offset := by
  rw [skip_of_undirected h.context]
  exact isIn_skipBlanks h

theorem LexPoint.IsIn.take (h : point.IsIn language all) : point.take.2.IsIn language all := by
  obtain ⟨read, hread, hsize⟩ := h.split
  refine ⟨h.language, context_take h.context, read ++ point.take.1.glyphs, ?_, ?_⟩
  · rw [hread, List.append_assoc]
    exact congrArg (read ++ ·) (List.take_append_drop _ _).symm
  · rw [sizeOfGlyphs_append, hsize]
    rfl

theorem LexPoint.IsIn.glyphs_take (h : point.IsIn language all) {glyph : Glyph}
    (hglyph : glyph ∈ point.take.1.glyphs) : glyph ∈ all := by
  obtain ⟨read, hread, -⟩ := h.split
  rw [hread]
  exact List.mem_append_right _ (List.mem_of_mem_take hglyph)

theorem LexPoint.glyphs_take_ne_nil (h : point.ahead ≠ []) : point.take.1.glyphs ≠ [] := by
  obtain ⟨glyph, rest, he⟩ := List.exists_cons_of_ne_nil h
  have hcount : 0 < max 1 (scanLexeme point.language point.context point.ahead).2 := by omega
  intro hnil
  have hlength := congrArg List.length hnil
  simp only [take, List.length_take, he, List.length_cons, List.length_nil] at hlength
  rw [he] at hcount
  omega

theorem LexPoint.IsIn.start_lt_stop (h : point.IsIn language all)
    (hpos : ∀ glyph ∈ all, 0 < glyph.size) (hne : point.ahead ≠ []) :
    point.take.1.start < point.take.1.stop := by
  obtain ⟨glyph, rest, he⟩ := List.exists_cons_of_ne_nil (point.glyphs_take_ne_nil hne)
  have hglyph : 0 < glyph.size := hpos glyph (h.glyphs_take (he ▸ List.mem_cons_self))
  simp only [Lexeme.stop, he, sizeOfGlyphs_cons]
  omega

end

/-- Lexemes follow each other, and none is empty. -/
theorem LexPoint.IsIn.lexemes {language : Language} {all : List Glyph} {point : LexPoint}
    (h : point.IsIn language all)
    (hpos : ∀ glyph ∈ all, 0 < glyph.size) :
    point.lexemes.Pairwise (fun earlier later => earlier.stop ≤ later.start) ∧
      ∀ lexeme ∈ point.lexemes, point.offset ≤ lexeme.start ∧ lexeme.start < lexeme.stop := by
  obtain ⟨hin, hle⟩ := h.skip
  by_cases hempty : point.skip.ahead = []
  · rw [lexemes_of_empty hempty]
    exact ⟨List.Pairwise.nil, by simp⟩
  · have hshort := length_take_skip hempty
    obtain ⟨hsorted, hbounds⟩ := LexPoint.IsIn.lexemes hin.take hpos
    have hfirst : point.skip.take.1.bare.start < point.skip.take.1.bare.stop :=
      hin.start_lt_stop hpos hempty
    have hafter : point.skip.take.2.offset = point.skip.take.1.bare.stop := rfl
    rw [lexemes_of_ne hempty]
    refine ⟨List.pairwise_cons.mpr ⟨fun later hlater => ?_, hsorted⟩, ?_⟩
    · exact hafter ▸ (hbounds later hlater).1
    · intro lexeme hlexeme
      rcases List.mem_cons.mp hlexeme with rfl | hlexeme
      · exact ⟨hle, hfirst⟩
      · obtain ⟨hstart, hstop⟩ := hbounds lexeme hlexeme
        have hskip : point.skip.take.1.bare.start = point.skip.offset := rfl
        exact ⟨by omega, hstop⟩
termination_by point.ahead.length

/-- Behind every lexeme there is a point of the file from which the rest is read. -/
theorem LexPoint.IsIn.lexemes_split {language : Language} {all : List Glyph} {point : LexPoint}
    (h : point.IsIn language all) {lexeme : Lexeme} (hlexeme : lexeme ∈ point.lexemes) :
    ∃ before after, LexPoint.IsIn language all after ∧ after.offset = lexeme.stop ∧
      point.lexemes = before ++ lexeme :: after.lexemes := by
  obtain ⟨hin, -⟩ := h.skip
  by_cases hempty : point.skip.ahead = []
  · rw [lexemes_of_empty hempty] at hlexeme
    cases hlexeme
  · have hshort := length_take_skip hempty
    rw [lexemes_of_ne hempty] at hlexeme ⊢
    rcases List.mem_cons.mp hlexeme with rfl | hlexeme
    · exact ⟨[], point.skip.take.2, hin.take, rfl, rfl⟩
    · obtain ⟨before, after, hafter, hoffset, hsplit⟩ :=
        LexPoint.IsIn.lexemes_split hin.take hlexeme
      exact ⟨_ :: before, after, hafter, hoffset, by rw [hsplit]; rfl⟩
termination_by point.ahead.length

/-! Whole files. -/

/-- The lexemes of a file. -/
def fileLexemes (language : Language) (text : String) : List Lexeme :=
  (fileStart language .undirected text.toList).lexemes

theorem isIn_fileStart (language : Language) (text : List Char) :
    (fileStart language .undirected text).IsIn language (glyphs language.trigraphs text) := by
  unfold fileStart
  split
  · next glyph rest he =>
    split
    · exact ⟨rfl, rfl, [glyph], he, rfl⟩
    · exact ⟨rfl, rfl, [], he, rfl⟩
  · next he => exact ⟨rfl, rfl, [], he, rfl⟩

theorem size_pos_of_mem_glyphs {trigraphs : Bool} {text : List Char} :
    ∀ glyph ∈ glyphs trigraphs text, 0 < glyph.size :=
  size_pos_of_mem_glyphsFrom

theorem fileLexemes_sorted (language : Language) (text : String) :
    (fileLexemes language text).Pairwise fun earlier later => earlier.stop ≤ later.start :=
  ((isIn_fileStart language text.toList).lexemes size_pos_of_mem_glyphs).1

theorem start_lt_stop_of_mem_fileLexemes {language : Language} {text : String} {lexeme : Lexeme}
    (h : lexeme ∈ fileLexemes language text) : lexeme.start < lexeme.stop :=
  (((isIn_fileStart language text.toList).lexemes size_pos_of_mem_glyphs).2 lexeme h).2

theorem LexPoint.IsIn.agrees_filePoint {language : Language} {text : List Char} {point : LexPoint}
    (h : point.IsIn language (glyphs language.trigraphs text)) (hoffset : point.offset ≠ 0) :
    point.Agrees (filePoint language text point.offset) := by
  obtain ⟨read, hread, hsize⟩ := h.split
  have hpos : ∀ glyph ∈ read, 0 < glyph.size := fun glyph hglyph =>
    size_pos_of_mem_glyphs glyph (hread ▸ List.mem_append_left _ hglyph)
  rw [filePoint, if_neg hoffset]
  refine ⟨h.language, rfl, h.context, ?_⟩
  dsimp only
  rw [hread, ← hsize, glyphsAfter_append hpos]

/-- Reading from the end of a lexeme, or from the start of the file, gives what lies behind. -/
theorem lexemes_filePoint {language : Language} {text : String} {offset : Nat}
    (h : offset = 0 ∨ ∃ lexeme ∈ fileLexemes language text, lexeme.stop = offset) :
    (filePoint language text.toList offset).lexemes =
      (fileLexemes language text).filter (offset ≤ ·.start) := by
  rcases h with rfl | ⟨lexeme, hlexeme, rfl⟩
  · simp [filePoint, fileLexemes]
  · have hpositive := start_lt_stop_of_mem_fileLexemes hlexeme
    obtain ⟨before, after, hafter, hoffset, hsplit⟩ :=
      (isIn_fileStart language text.toList).lexemes_split hlexeme
    have hsorted := fileLexemes_sorted language text
    rw [fileLexemes, hsplit] at hsorted
    have hbefore : before.filter (lexeme.stop ≤ ·.start) = [] := by
      refine List.filter_eq_nil_iff.mpr fun earlier hearlier => ?_
      have hle := (List.pairwise_append.mp hsorted).2.2 earlier hearlier lexeme List.mem_cons_self
      have hmem : earlier ∈ fileLexemes language text := by
        rw [fileLexemes, hsplit]
        exact List.mem_append_left _ hearlier
      have hlt := start_lt_stop_of_mem_fileLexemes hmem
      simp only [decide_eq_true_eq]
      omega
    have hbehind : after.lexemes.filter (lexeme.stop ≤ ·.start) = after.lexemes := by
      refine List.filter_eq_self.mpr fun later hlater => ?_
      have hle := (hafter.lexemes size_pos_of_mem_glyphs).2 later hlater
      simp only [decide_eq_true_eq]
      omega
    rw [← hoffset, ← (hafter.agrees_filePoint (by omega)).lexemes hafter.context, hoffset,
      fileLexemes, hsplit, List.filter_append, hbefore, List.filter_cons_of_neg (by simpa using
        hpositive), hbehind, List.nil_append]

end HeaderBindings
