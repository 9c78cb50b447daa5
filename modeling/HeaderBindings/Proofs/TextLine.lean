import HeaderBindings.Ruby.Block
import HeaderBindings.Text.Line

/-! Words and lines of a text. -/

namespace HeaderBindings

/-! Words. -/

theorem wordsFrom_eq_nil_iff {word text : List Char} :
    wordsFrom word text = [] ↔ word = [] ∧ isBlankText text = true := by
  induction text generalizing word with
  | nil => simp [wordsFrom, isBlankText]
  | cons c rest ih =>
    unfold isBlankText at ih ⊢
    by_cases hblank : isBlank c = true
    · by_cases hword : word = []
      · simp [wordsFrom, hblank, hword, ih]
      · simp [wordsFrom, hblank, hword]
    · simp [wordsFrom, hblank, ih]

theorem words_eq_nil_iff {text : List Char} : words text = [] ↔ isBlankText text = true :=
  wordsFrom_eq_nil_iff.trans (and_iff_right rfl)

theorem mem_wordsFrom {word text found : List Char} (h : found ∈ wordsFrom word text) :
    found ≠ [] ∧ ∀ c ∈ found, c ∈ word ∨ c ∈ text ∧ isBlank c = false := by
  induction text generalizing word with
  | nil =>
    unfold wordsFrom at h
    split at h
    · cases h
    · next hword =>
      rw [List.mem_singleton.mp h]
      exact ⟨by simpa using hword, fun c hc => .inl (List.mem_reverse.mp hc)⟩
  | cons c rest ih =>
    have hnil : found ∈ wordsFrom [] rest → found ≠ [] ∧
        ∀ d ∈ found, d ∈ word ∨ d ∈ c :: rest ∧ isBlank d = false := by
      intro h
      obtain ⟨hne, hchars⟩ := ih h
      refine ⟨hne, fun d hd => ?_⟩
      rcases hchars d hd with hd | hd
      · cases hd
      · exact .inr ⟨List.mem_cons_of_mem _ hd.1, hd.2⟩
    unfold wordsFrom at h
    split at h
    · split at h
      · exact hnil h
      · next hword =>
        rcases List.mem_cons.mp h with rfl | h
        · exact ⟨by simpa using hword, fun d hd => .inl (List.mem_reverse.mp hd)⟩
        · exact hnil h
    · next hblank =>
      obtain ⟨hne, hchars⟩ := ih h
      refine ⟨hne, fun d hd => ?_⟩
      rcases hchars d hd with hd | hd
      · rcases List.mem_cons.mp hd with rfl | hd
        · exact .inr ⟨List.mem_cons_self, by simpa using hblank⟩
        · exact .inl hd
      · exact .inr ⟨List.mem_cons_of_mem _ hd.1, hd.2⟩

/-! Joined texts. -/

theorem mem_joinWith {separator : List Char} {pieces : List (List Char)} {c : Char}
    (h : c ∈ joinWith separator pieces) : c ∈ separator ∨ ∃ piece ∈ pieces, c ∈ piece := by
  fun_induction joinWith separator pieces with
  | case1 => cases h
  | case2 piece => exact .inr ⟨piece, List.mem_singleton_self piece, h⟩
  | case3 piece rest _ ih =>
    rw [List.mem_append, List.mem_append] at h
    rcases h with (h | h) | h
    · exact .inr ⟨piece, List.mem_cons_self, h⟩
    · exact .inl h
    · exact (ih h).imp_right fun ⟨other, hother, hc⟩ =>
        ⟨other, List.mem_cons_of_mem _ hother, hc⟩

theorem mem_joinWith_of_mem {separator piece : List Char} {pieces : List (List Char)} {c : Char}
    (hpiece : piece ∈ pieces) (hc : c ∈ piece) : c ∈ joinWith separator pieces := by
  fun_induction joinWith separator pieces with
  | case1 => cases hpiece
  | case2 only => rwa [← List.mem_singleton.mp hpiece]
  | case3 first rest _ ih =>
    rcases List.mem_cons.mp hpiece with rfl | hpiece
    · exact List.mem_append_left _ (List.mem_append_left _ hc)
    · exact List.mem_append_right _ (ih hpiece)

theorem squeeze_eq_nil_iff {text : List Char} : squeeze text = [] ↔ isBlankText text = true := by
  rw [← words_eq_nil_iff]
  refine ⟨fun h => ?_, fun h => by rw [squeeze, h]; rfl⟩
  refine List.eq_nil_iff_forall_not_mem.mpr fun found hfound => ?_
  obtain ⟨c, hc⟩ := List.exists_mem_of_ne_nil _ (mem_wordsFrom hfound).1
  have hjoined : c ∈ squeeze text := mem_joinWith_of_mem hfound hc
  rw [h] at hjoined
  cases hjoined

theorem wordsFrom_append_space (word text rest : List Char) :
    wordsFrom word (text ++ ' ' :: rest) = wordsFrom word text ++ words rest := by
  have hspace : isBlank ' ' = true := rfl
  induction text generalizing word with
  | nil => by_cases hword : word.isEmpty = true <;> simp [wordsFrom, hspace, hword, words]
  | cons c text ih =>
    by_cases hblank : isBlank c = true
    · by_cases hword : word.isEmpty = true <;> simp [wordsFrom, hblank, hword, ih]
    · simp [wordsFrom, hblank, ih]

theorem words_joinWith (pieces : List (List Char)) :
    words (joinWith [' '] pieces) = pieces.flatMap words := by
  fun_induction joinWith [' '] pieces with
  | case1 => rfl
  | case2 piece => simp
  | case3 piece rest _ ih =>
    have hcut := wordsFrom_append_space [] piece (joinWith [' '] rest)
    rw [List.append_assoc, List.singleton_append, words, hcut, ih, List.flatMap_cons, words]

/-- The words of all lines, with a space between neighbours. -/
theorem joinLines_eq (lines : List String) :
    joinLines lines =
      String.ofList (joinWith [' '] (lines.flatMap fun line => words line.toList)) := by
  rw [joinLines, squeeze, words_joinWith, List.flatMap_map]

/-- Joined lines are empty only if there is nothing in the lines but white space. -/
theorem joinLines_eq_empty_iff {lines : List String} :
    joinLines lines = "" ↔ ∀ line ∈ lines, isBlankText line.toList = true := by
  rw [joinLines, String.ofList_eq_empty_iff, squeeze_eq_nil_iff]
  simp only [isBlankText, List.all_eq_true]
  constructor
  · intro h line hline c hc
    exact h c (mem_joinWith_of_mem (List.mem_map_of_mem hline) hc)
  · intro h c hc
    rcases mem_joinWith hc with hc | ⟨piece, hpiece, hc⟩
    · rw [List.mem_singleton.mp hc]
      rfl
    · obtain ⟨line, hline, rfl⟩ := List.mem_map.mp hpiece
      exact h line hline c hc

/-- Lines with the blank ones taken off at both ends start with one that is not blank. -/
theorem trimBlankLines_eq_nil_iff {lines : List String} :
    trimBlankLines lines = [] ↔ ∀ line ∈ trimBlankLines lines, isBlankText line.toList = true := by
  refine ⟨fun h => by simp [h], fun h => ?_⟩
  unfold trimBlankLines at h ⊢
  dsimp only at h ⊢
  generalize (lines.dropWhile fun line => isBlankText line.toList).reverse = rest at h ⊢
  rw [List.reverse_eq_nil_iff]
  cases hrest : rest.dropWhile fun line => isBlankText line.toList with
  | nil => rfl
  | cons first others =>
    have hfirst := List.head?_dropWhile_not (fun line => isBlankText line.toList) rest
    rw [hrest] at hfirst h
    have hblank := h first (List.mem_reverse.mpr List.mem_cons_self)
    exact absurd hblank (by simpa using hfirst)

/-! Splitting and joining are those of the library. -/

theorem splitAtChar_eq_splitOn (separator : Char) (text : List Char) :
    splitAtChar separator text = text.splitOn separator := by
  induction text with
  | nil => rfl
  | cons c rest ih =>
    rw [splitAtChar, List.splitOn_cons_eq_if_modifyHead, ih]
    simp only [beq_iff_eq]
    split
    · rfl
    · cases hrest : rest.splitOn separator with
      | nil => exact absurd hrest (List.splitOn_ne_nil separator rest)
      | cons piece pieces => rfl

theorem joinWith_eq_intercalate (separator : List Char) (pieces : List (List Char)) :
    joinWith separator pieces = separator.intercalate pieces := by
  fun_induction joinWith separator pieces with
  | case1 => rfl
  | case2 piece => exact List.intercalate_singleton.symm
  | case3 piece rest hrest ih => rw [List.intercalate_cons_of_ne_nil hrest, ih]

theorem modifyHead_nil_append (pieces : List (List Char)) :
    pieces.modifyHead ([] ++ ·) = pieces := by
  cases pieces <;> rfl

theorem wordsFrom_eq (word text : List Char) :
    wordsFrom word text =
      ((text.splitOnP isBlank).modifyHead (word.reverse ++ ·)).filter (· ≠ []) := by
  induction text generalizing word with
  | nil => by_cases hword : word = [] <;> simp [wordsFrom, hword]
  | cons c rest ih =>
    by_cases hblank : isBlank c = true
    · rw [wordsFrom, if_pos hblank, ih [], List.reverse_nil, modifyHead_nil_append,
        List.splitOnP_cons_eq_if_modifyHead, if_pos hblank]
      by_cases hword : word = [] <;> simp [hword]
    · rw [wordsFrom, if_neg hblank, ih (c :: word), List.splitOnP_cons_eq_if_modifyHead,
        if_neg hblank, List.modifyHead_modifyHead]
      simp [Function.comp_def]

/-- The words of some lines, with one space between neighbours. -/
def spacedWords (lines : List String) : String :=
  String.ofList ([' '].intercalate
    (lines.flatMap fun line => (line.toList.splitOnP isBlank).filter (· ≠ [])))

theorem joinLines_eq_spacedWords (lines : List String) : joinLines lines = spacedWords lines := by
  have hwords : ∀ text : List Char, words text = (text.splitOnP isBlank).filter (· ≠ []) := by
    intro text
    rw [words, wordsFrom_eq, List.reverse_nil, modifyHead_nil_append]
  rw [joinLines_eq, joinWith_eq_intercalate, spacedWords]
  simp only [hwords]

theorem not_mem_of_mem_splitAtChar {separator : Char} {text piece : List Char}
    (h : piece ∈ splitAtChar separator text) : separator ∉ piece := by
  induction text generalizing piece with
  | nil =>
    rw [List.mem_singleton.mp h]
    exact List.not_mem_nil
  | cons c rest ih =>
    rw [splitAtChar] at h
    split at h
    · rcases List.mem_cons.mp h with rfl | h
      · exact List.not_mem_nil
      · exact ih h
    · next hc =>
      cases hrest : splitAtChar separator rest with
      | nil =>
        rw [hrest] at h
        rw [List.mem_singleton.mp h, List.mem_singleton]
        exact Ne.symm hc
      | cons first others =>
        rw [hrest] at h ih
        rcases List.mem_cons.mp h with rfl | h
        · rw [List.mem_cons, not_or]
          exact ⟨Ne.symm hc, ih List.mem_cons_self⟩
        · exact ih (List.mem_cons_of_mem _ h)

/-! Lines. -/

/-- A text without newlines. -/
def OneLine (text : String) : Prop := '\n' ∉ text.toList

instance (text : String) : Decidable (OneLine text) := inferInstanceAs (Decidable (¬ _))

theorem oneLine_append {first second : String} :
    OneLine (first ++ second) ↔ OneLine first ∧ OneLine second := by
  simp [OneLine, not_or]

theorem oneLine_ofList {text : List Char} : OneLine (String.ofList text) ↔ '\n' ∉ text := by
  rw [OneLine, String.toList_ofList]

theorem oneLine_joinStrings {separator : String} {pieces : List String}
    (hseparator : OneLine separator) (hpieces : ∀ piece ∈ pieces, OneLine piece) :
    OneLine (joinStrings separator pieces) := by
  rw [joinStrings, oneLine_ofList]
  intro h
  rcases mem_joinWith h with h | ⟨_, hmem, h⟩
  · exact hseparator h
  · obtain ⟨piece, hpiece, rfl⟩ := List.mem_map.mp hmem
    exact hpieces piece hpiece h

/-- The lines of a text, without their newlines. -/
def linesOf (text : String) : List String := (splitAtChar '\n' text.toList).map String.ofList

theorem joinStrings_linesOf (text : String) : joinStrings "\n" (linesOf text) = text := by
  rw [joinStrings, linesOf, List.map_map, splitAtChar_eq_splitOn, joinWith_eq_intercalate]
  have htoList : String.toList ∘ String.ofList = id := funext fun _ => String.toList_ofList
  rw [htoList, List.map_id]
  exact (congrArg String.ofList (List.intercalate_splitOn '\n')).trans String.ofList_toList

theorem linesOf_joinStrings {lines : List String} (hne : lines ≠ [])
    (h : ∀ line ∈ lines, OneLine line) : linesOf (joinStrings "\n" lines) = lines := by
  rw [linesOf, joinStrings, String.toList_ofList, splitAtChar_eq_splitOn, joinWith_eq_intercalate]
  have hpieces : ∀ piece ∈ lines.map String.toList, '\n' ∉ piece := by
    intro piece hpiece
    obtain ⟨line, hline, rfl⟩ := List.mem_map.mp hpiece
    exact h line hline
  have hsplit := List.splitOn_intercalate '\n' hpieces (by simpa using hne)
  have hofList : String.ofList ∘ String.toList = id := funext fun _ => String.ofList_toList
  rw [show "\n".toList = ['\n'] from rfl, hsplit, List.map_map, hofList, List.map_id]

theorem linesOf_append_newline (first second : String) :
    linesOf (first ++ "\n" ++ second) = linesOf first ++ linesOf second := by
  have hlist : (first ++ "\n" ++ second).toList = first.toList ++ '\n' :: second.toList := by
    simp
  simp only [linesOf, hlist, splitAtChar_eq_splitOn, List.splitOn_append_cons_self, List.map_append]

/-! Lines of white space only. -/

def isBlankLine (line : String) : Bool := isBlankText line.toList

/-- The stretches of a text between its blank lines. -/
def paragraphs (text : String) : List String :=
  ((linesOf text).splitOnP isBlankLine).map (joinStrings "\n")

/-- Texts without blank lines are found again between the blank lines that stand between them. -/
theorem paragraphs_joinStrings {blocks : List String} (hne : blocks ≠ [])
    (h : ∀ block ∈ blocks, ∀ line ∈ linesOf block, isBlankLine line = false) :
    paragraphs (joinStrings "\n\n" blocks) = blocks := by
  induction blocks with
  | nil => exact absurd rfl hne
  | cons block rest ih =>
    have hblock := h block List.mem_cons_self
    cases rest with
    | nil =>
      have honly : joinStrings "\n\n" [block] = block := String.ofList_toList
      rw [honly, paragraphs, List.splitOnP_eq_singleton hblock, List.map_singleton,
        joinStrings_linesOf]
    | cons next others =>
      have hjoin : joinStrings "\n\n" (block :: next :: others) =
          block ++ "\n" ++ ("" ++ "\n" ++ joinStrings "\n\n" (next :: others)) := by
        simp [joinStrings, joinWith, String.ext_iff]
      have hlines : linesOf (joinStrings "\n\n" (block :: next :: others)) =
          linesOf block ++ "" :: linesOf (joinStrings "\n\n" (next :: others)) := by
        rw [hjoin, linesOf_append_newline, linesOf_append_newline]
        rfl
      have hrest := ih (List.cons_ne_nil _ _) fun other hother =>
        h other (List.mem_cons_of_mem _ hother)
      rw [paragraphs] at hrest ⊢
      rw [hlines, List.splitOnP_append_cons_of_forall_mem hblock "" rfl, List.map_cons,
        joinStrings_linesOf, hrest]

/-- Whether every line of a text has something but white space, where the first line may have been
begun before. -/
def isFilled (begun : Bool) : List Char → Bool
  | [] => begun
  | c :: rest =>
    if c = '\n' then begun && isFilled false rest else isFilled (begun || !isBlank c) rest

theorem isFilled_mono {begun : Bool} {text : List Char} (h : isFilled begun text = true) :
    isFilled true text = true := by
  induction text generalizing begun with
  | nil => rfl
  | cons c rest ih =>
    rw [isFilled] at h ⊢
    split at h
    · next hc => rw [if_pos hc, (Bool.and_eq_true_iff.mp h).2, Bool.and_true]
    · next hc => exact (if_neg hc).trans (ih h)

theorem isFilled_append {begun : Bool} {first second : List Char}
    (hfirst : isFilled begun first = true) (hsecond : isFilled true second = true) :
    isFilled begun (first ++ second) = true := by
  induction first generalizing begun with
  | nil =>
    have hbegun : begun = true := hfirst
    rwa [hbegun]
  | cons c rest ih =>
    rw [isFilled] at hfirst
    rw [List.cons_append, isFilled]
    split
    · next hc =>
      rw [if_pos hc, Bool.and_eq_true] at hfirst
      rw [hfirst.1, ih hfirst.2]
      rfl
    · next hc =>
      rw [if_neg hc] at hfirst
      exact ih hfirst

theorem isFilled_of_not_mem {text : List Char} (h : '\n' ∉ text) : isFilled true text = true := by
  induction text with
  | nil => rfl
  | cons c rest ih =>
    rw [List.mem_cons, not_or] at h
    rw [isFilled, if_neg (Ne.symm h.1)]
    exact ih h.2

theorem isFilled_joinWith {begun : Bool} {separator : List Char} {pieces : List (List Char)}
    (hseparator : ∀ text, isFilled begun text = true → isFilled true (separator ++ text) = true)
    (hpieces : ∀ piece ∈ pieces, isFilled begun piece = true) (hnone : pieces = [] → begun = true) :
    isFilled begun (joinWith separator pieces) = true := by
  fun_induction joinWith separator pieces with
  | case1 => exact hnone rfl
  | case2 piece => exact hpieces piece (List.mem_singleton_self piece)
  | case3 piece rest hrest ih =>
    rw [List.append_assoc]
    refine isFilled_append (hpieces piece List.mem_cons_self) (hseparator _ (ih ?_ ?_))
    · exact fun other hother => hpieces other (List.mem_cons_of_mem _ hother)
    · exact fun hnil => absurd hnil hrest

theorem exists_lines_of_isFilled {begun : Bool} {text : List Char}
    (h : isFilled begun text = true) :
    ∃ first rest, splitAtChar '\n' text = first :: rest ∧
      (begun = false → isBlankText first = false) ∧ ∀ line ∈ rest, isBlankText line = false := by
  induction text generalizing begun with
  | nil =>
    have hbegun : begun = true := h
    exact ⟨[], [], rfl, by simp [hbegun], by simp⟩
  | cons c rest ih =>
    rw [isFilled] at h
    split at h
    · next hc =>
      rw [Bool.and_eq_true] at h
      obtain ⟨first, others, hsplit, hfirst, hothers⟩ := ih h.2
      refine ⟨[], first :: others, by rw [splitAtChar, if_pos hc, hsplit], by simp [h.1], ?_⟩
      exact List.forall_mem_cons.mpr ⟨hfirst rfl, hothers⟩
    · next hc =>
      obtain ⟨first, others, hsplit, hfirst, hothers⟩ := ih h
      refine ⟨c :: first, others, by rw [splitAtChar, if_neg hc, hsplit], ?_, hothers⟩
      intro hbegun
      rw [isBlankText, List.all_cons]
      cases hblank : isBlank c with
      | false => rfl
      | true => exact hfirst (by rw [hbegun, hblank]; rfl)

/-! Lines as they are shown. -/

/-- A text that no character ends the line of. -/
def IsShownLine (text : String) : Prop := text.toList.all (!endsShownLine ·) = true

instance (text : String) : Decidable (IsShownLine text) := inferInstanceAs (Decidable (_ = true))

theorem isShownLine_append {first second : String} (hfirst : IsShownLine first)
    (hsecond : IsShownLine second) : IsShownLine (first ++ second) := by
  unfold IsShownLine at *
  rw [String.toList_append, List.all_append, hfirst, hsecond]
  rfl

theorem shownLinesFrom_eq {text line : List Char} (h : text.all (!endsShownLine ·) = true) :
    shownLinesFrom line text = if line = [] ∧ text = [] then [] else [line.reverse ++ text] := by
  induction text generalizing line with
  | nil => cases line <;> simp [shownLinesFrom]
  | cons c rest ih =>
    rw [List.all_cons, Bool.and_eq_true] at h
    have hplain : endsShownLine c = false := by simpa using h.1
    rw [shownLinesFrom, if_neg (by simp [hplain]), ih h.2]
    · simp
    · rintro rest rfl
      cases hplain

theorem shownLines_eq {text : String} (h : IsShownLine text) (hnonempty : text ≠ "") :
    shownLines text = [text] := by
  have htext : text.toList ≠ [] := by simpa using hnonempty
  rw [shownLines, shownLinesFrom_eq h, if_neg fun hnil => htext hnil.2]
  simp

end HeaderBindings
