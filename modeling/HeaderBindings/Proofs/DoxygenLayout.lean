import HeaderBindings.C.Lexeme
import HeaderBindings.Proofs.CommentSection
import HeaderBindings.Proofs.FirstOccurrence

/-! Comments in the layout of Doxygen. A star stands in front of every line, and the first line about a
parameter or the result is marked; whatever the texts are, reading such a comment gives them back. -/

namespace HeaderBindings

/-! Joined lines. -/

theorem joinLines_trimBlankLines (lines : List String) :
    joinLines (trimBlankLines lines) = joinLines lines := by
  obtain ⟨⟨front, back, hlines, hblank⟩, -⟩ := trimBlankLines_spec lines
  have hnone : ∀ part : List String, (∀ line ∈ part, isBlankLine line = true) →
      (part.flatMap fun line => words line.toList) = [] := by
    intro part hpart
    rw [List.flatMap_eq_nil_iff]
    exact fun line hline => words_eq_nil_iff.mpr (hpart line hline)
  rw [List.forall_mem_append] at hblank
  have hwords := congrArg (List.flatMap fun line : String => words line.toList) hlines
  rw [List.flatMap_append, List.flatMap_append, hnone front hblank.1, hnone back hblank.2,
    List.nil_append, List.append_nil] at hwords
  rw [joinLines_eq, joinLines_eq, hwords]

theorem joinLines_spaced (lines : List String) :
    joinLines (lines.map (" " ++ ·)) = joinLines lines := by
  have hspace : isBlank ' ' = true := rfl
  rw [joinLines_eq, joinLines_eq, List.flatMap_map]
  simp [words, wordsFrom, hspace]

theorem joinLines_empty_line (front back : List String) :
    joinLines (front ++ "" :: back) = joinLines (front ++ back) := by
  have hnone : words "".toList = [] := rfl
  rw [joinLines_eq, joinLines_eq, List.flatMap_append, List.flatMap_append, List.flatMap_cons,
    hnone, List.nil_append]

/-! Lines without marks. -/

/-- A line of text that holds nothing of the markup. -/
structure IsPlainLine (line : String) : Prop where
  newline : '\n' ∉ line.toList
  backslash : '\\' ∉ line.toList
  bracket : '[' ∉ line.toList ∧ ']' ∉ line.toList
  ending : ¬ "*/".toList <:+: line.toList

instance (line : String) : Decidable (IsPlainLine line) :=
  decidable_of_iff ('\n' ∉ line.toList ∧ '\\' ∉ line.toList ∧
      ('[' ∉ line.toList ∧ ']' ∉ line.toList) ∧ ¬ "*/".toList <:+: line.toList)
    ⟨fun h => ⟨h.1, h.2.1, h.2.2.1, h.2.2.2⟩, fun h => ⟨h.1, h.2, h.3, h.4⟩⟩

theorem replaceAll_of_not_infix {old text : List Char} (h : ¬ old <:+: text) (new : List Char) :
    replaceAll old new text = text := by
  fun_induction replaceAll old new text with
  | case1 => rfl
  | case2 c rest hfound _ =>
    have hprefix := List.isPrefixOf_iff_prefix.mp (Bool.and_eq_true_iff.mp hfound).1
    exact absurd hprefix.isInfix h
  | case3 c rest _ ih =>
    rw [ih fun hpart => h (hpart.trans (List.suffix_cons c rest).isInfix)]

theorem dropClosing_of_not_infix {line : List Char} (h : ¬ "*/".toList <:+: line) :
    dropClosing line = line := by
  unfold dropClosing
  split
  · next rest hend =>
    have hcut := List.takeWhile_append_dropWhile (p := isBlank) (l := line.reverse)
    rw [hend] at hcut
    generalize line.reverse.takeWhile isBlank = blanks at hcut
    have hline : rest.reverse ++ "*/".toList ++ blanks.reverse = line := by
      have hreverse := congrArg List.reverse hcut
      rw [List.reverse_reverse] at hreverse
      simp [← hreverse]
    exact absurd ⟨_, _, hline⟩ h
  · rfl

/-- The star in front of a line is taken off, and the space behind it stays. -/
theorem cleanLine_starred {text : List Char} (hending : ¬ "*/".toList <:+: text)
    (hbrief : ¬ "\\brief ".toList <:+: text) (hopen : '[' ∉ text) (hclose : ']' ∉ text) :
    cleanLine (" * ".toList ++ text) = ' ' :: text := by
  have hopening : dropOpening (" * ".toList ++ text) = ' ' :: text := rfl
  have hnot : ∀ {mark : List Char}, ¬ mark <:+: text → ¬ mark <+: ' ' :: text →
      ¬ mark <:+: ' ' :: text := fun hrest hstart hpart =>
    (List.infix_cons_iff.mp hpart).elim hstart hrest
  have hending' := hnot hending (by simp)
  have hbrief' := hnot hbrief (by simp)
  rw [cleanLine, hopening, dropClosing_of_not_infix hending', replaceAll_of_not_infix hbrief']
  have hround : ∀ c ∈ ' ' :: text, roundBracket c = id c := by
    intro c hc
    have hspace : ∀ {d : Char}, d ∉ text → d ≠ ' ' → c ≠ d := by
      rintro d hd hne rfl
      exact hd ((List.mem_cons.mp hc).resolve_left hne)
    rw [roundBracket, if_neg (hspace hopen (by decide)), if_neg (hspace hclose (by decide)), id]
  rw [List.map_congr_left hround, List.map_id]

/-! Markers. -/

theorem splitParamMarkers_of_not_infix {text : List Char} (h : ¬ "\\param ".toList <:+: text) :
    splitParamMarkers text = ([], text) := by
  refine splitParamMarkers_eq_iff.mpr (.plain ?_)
  rintro back hback ⟨name, rest, -, rfl⟩
  rw [paramMark_append] at hback
  exact h ((List.prefix_append _ _).isInfix.trans hback.isInfix)

theorem splitParamMarkers_of_not_mem {text : List Char} (h : '\\' ∉ text) :
    splitParamMarkers text = ([], text) :=
  splitParamMarkers_of_not_infix fun hpart => h (hpart.subset List.mem_cons_self)

theorem splitParamMarkers_marked {name text : List Char} (hname : ' ' ∉ name) (h : '\\' ∉ text) :
    splitParamMarkers (' ' :: (paramMark name ++ text)) = ([name], ' ' :: text) := by
  have hcut : CutAtParams [] text text :=
    splitParamMarkers_eq_iff.mp (splitParamMarkers_of_not_mem h)
  refine splitParamMarkers_eq_iff.mpr (@CutAtParams.marker [] name [' '] text text hname ?_ hcut)
  -- a marker starts with a backslash, and only the space is in front
  rintro front back hlead hne ⟨other, rest, -, hback⟩
  obtain ⟨c, more, rfl⟩ := List.exists_cons_of_ne_nil hne
  rw [paramMark_append other rest] at hback
  have hc : c ∈ [' '] := hlead ▸ by simp
  have hslash : c = '\\' := (List.cons.inj hback).1
  rw [hslash] at hc
  simp at hc

/-- The marker of the result is none of a parameter. -/
theorem splitParamMarkers_result {text : List Char} (h : '\\' ∉ text) :
    splitParamMarkers (' ' :: ("\\returns ".toList ++ text)) =
      ([], ' ' :: ("\\returns ".toList ++ text)) := by
  have hmark : "\\returns ".toList = '\\' :: ['r', 'e', 't', 'u', 'r', 'n', 's', ' '] := rfl
  have hparam : "\\param ".toList = ['\\', 'p', 'a', 'r', 'a', 'm', ' '] := rfl
  refine splitParamMarkers_of_not_infix fun hpart => ?_
  rw [hmark, hparam] at hpart
  rcases List.infix_cons_iff.mp hpart with hstart | hpart
  · simp at hstart
  · rcases List.infix_cons_iff.mp hpart with hstart | hpart
    · simp at hstart
    · exact h ((infix_append_of_not_mem (by simp) hpart).subset List.mem_cons_self)

theorem splitResultMarkers_of_not_mem {text : List Char} (h : '\\' ∉ text) :
    splitResultMarkers text = (false, text) := by
  fun_induction splitResultMarkers text with
  | case1 => rfl
  | case2 c rest after hmarker _ =>
    have hstart := resultMarker?_isSome_iff.mp (Option.isSome_of_eq_some hmarker)
    exact absurd (hstart.elim (·.subset List.mem_cons_self) (·.subset List.mem_cons_self)) h
  | case3 c rest _ found text hsplit ih =>
    rw [List.mem_cons, not_or] at h
    rw [ih h.2] at hsplit
    obtain ⟨rfl, rfl⟩ := Prod.mk.inj hsplit
    rfl

theorem splitResultMarkers_marked {text : List Char} (h : '\\' ∉ text) :
    splitResultMarkers (' ' :: ("\\returns ".toList ++ text)) = (true, ' ' :: text) := by
  have hmarker : resultMarker? ("\\returns ".toList ++ text) = some text := rfl
  have hspace : resultMarker? (' ' :: ("\\returns ".toList ++ text)) = none := rfl
  have hrest : splitResultMarkers ("\\returns ".toList ++ text) = (true, text) := by
    generalize hline : "\\returns ".toList ++ text = line at hmarker
    cases line with
    | nil => cases hline
    | cons c line =>
      rw [splitResultMarkers]
      split
      · next after hafter =>
        rw [hmarker] at hafter
        rw [← Option.some.inj hafter, splitResultMarkers_of_not_mem h]
      · next hnone =>
        rw [hmarker] at hnone
        cases hnone
  rw [splitResultMarkers]
  split
  · next hsome =>
    rw [hspace] at hsome
    cases hsome
  · rw [hrest]

/-! One line of the layout. -/

/-- A name as the C language has it. -/
def IsIdentifier (name : String) : Prop :=
  name.toList.head?.any isNameStart = true ∧ name.toList.all isNameChar = true

instance (name : String) : Decidable (IsIdentifier name) := inferInstanceAs (Decidable (_ ∧ _))

theorem not_mem_of_all {p : Char → Bool} {text : List Char} (h : text.all p = true) {c : Char}
    (hc : p c = false) : c ∉ text := by
  intro hmem
  have hfits := List.all_eq_true.mp h c hmem
  rw [hc] at hfits
  cases hfits

theorem IsIdentifier.ne_empty {name : String} (h : IsIdentifier name) : name ≠ "" := by
  rintro rfl
  cases h.1

/-- The characters of a marker behind its backslash, a name of a parameter included. -/
def isMarkerChar (c : Char) : Bool := c = ' ' || isNameChar c

theorem IsIdentifier.all_isMarkerChar {name : String} (h : IsIdentifier name) :
    name.toList.all isMarkerChar = true := by
  rw [List.all_eq_true]
  intro c hc
  rw [isMarkerChar, List.all_eq_true.mp h.2 c hc, Bool.or_true]

theorem paramMark_cons (name : List Char) :
    paramMark name = '\\' :: ("param ".toList ++ name ++ [' ']) := by
  have hparam : "\\param ".toList = '\\' :: "param ".toList := rfl
  unfold paramMark
  rw [hparam]
  exact congrArg (· ++ [' ']) (List.cons_append ..)

theorem toList_param (name : String) :
    ("\\param " ++ name ++ " ").toList = paramMark name.toList := by
  have hspace : " ".toList = [' '] := rfl
  unfold paramMark
  rw [String.toList_append, String.toList_append, hspace]

theorem placeLine_of_dropOpening {known : List String} {current : DocSection} {line : List Char}
    (h : dropOpening line = []) : placeLine known current line = (current, []) := by
  rw [placeLine, cleanLine, h]
  simp [dropClosing, replaceAll, splitParamMarkers, splitResultMarkers]

section

variable {line : String} (h : IsPlainLine line)

include h

theorem IsPlainLine.brief : ¬ "\\brief ".toList <:+: line.toList :=
  fun hpart => h.backslash (hpart.subset List.mem_cons_self)

/-- A marker that is not the brief one stays in its line. -/
theorem cleanLine_marked {word : List Char} (hword : word.all isMarkerChar = true)
    (hbrief : ¬ "brief ".toList <+: word ++ line.toList) :
    cleanLine (" * ".toList ++ ('\\' :: word ++ line.toList)) =
      ' ' :: ('\\' :: word ++ line.toList) := by
  have hmark : ∀ c, isMarkerChar c = false → c ≠ '\\' → c ∉ '\\' :: word := by
    intro c hc hne hmem
    exact not_mem_of_all hword hc ((List.mem_cons.mp hmem).resolve_left hne)
  refine cleanLine_starred ?_ ?_ ?_ ?_
  · exact fun hpart => h.ending (infix_append_of_not_mem (hmark '*' rfl (by decide)) hpart)
  · intro hpart
    rcases List.infix_cons_iff.mp hpart with hstart | hrest
    · exact hbrief (List.cons_prefix_cons.mp hstart).2
    · exact h.brief (infix_append_of_not_mem (not_mem_of_all hword rfl) hrest)
  · rw [List.mem_append, not_or]
    exact ⟨hmark '[' rfl (by decide), h.bracket.1⟩
  · rw [List.mem_append, not_or]
    exact ⟨hmark ']' rfl (by decide), h.bracket.2⟩

theorem IsPlainLine.spaced : '\\' ∉ ' ' :: line.toList := by
  simpa using h.backslash

variable (known : List String) (current : DocSection)

theorem placeLine_plain :
    placeLine known current (" * " ++ line).toList = (current, ' ' :: line.toList) := by
  have hclean := cleanLine_starred h.ending h.brief h.bracket.1 h.bracket.2
  have hnames := splitParamMarkers_of_not_mem h.spaced
  have hresult := splitResultMarkers_of_not_mem h.spaced
  rw [String.toList_append, placeLine, hclean, hnames]
  simp [hresult]

theorem placeLine_param {name : String} (hname : IsIdentifier name) (hknown : name ∈ known) :
    placeLine known current (" * " ++ ("\\param " ++ name ++ " " ++ line)).toList =
      (.parameter name, ' ' :: line.toList) := by
  have hparam : "param ".toList = ['p', 'a', 'r', 'a', 'm', ' '] := rfl
  have hbrief : "brief ".toList = ['b', 'r', 'i', 'e', 'f', ' '] := rfl
  have hword : ("param ".toList ++ name.toList ++ [' ']).all isMarkerChar = true := by
    rw [List.all_append, List.all_append, hname.all_isMarkerChar]
    decide
  have hclean := cleanLine_marked h hword (by
    rw [hparam, hbrief]
    simp)
  have hspace : ' ' ∉ name.toList := not_mem_of_all hname.2 rfl
  have hnames := splitParamMarkers_marked hspace h.backslash
  have hresult := splitResultMarkers_of_not_mem h.spaced
  rw [← paramMark_cons] at hclean
  rw [String.toList_append, String.toList_append, toList_param, placeLine, hclean, hnames]
  simp [hresult, hknown]

theorem placeLine_result :
    placeLine known current (" * " ++ ("\\returns " ++ line)).toList =
      (.result, ' ' :: line.toList) := by
  have hmark : "\\returns ".toList = '\\' :: "returns ".toList := rfl
  have hreturns : "returns ".toList = ['r', 'e', 't', 'u', 'r', 'n', 's', ' '] := rfl
  have hbrief : "brief ".toList = ['b', 'r', 'i', 'e', 'f', ' '] := rfl
  have hword : "returns ".toList.all isMarkerChar = true := by decide
  have hclean := cleanLine_marked h hword (by
    rw [hreturns, hbrief]
    simp)
  have hnames := splitParamMarkers_result h.backslash
  have hresult := splitResultMarkers_marked h.backslash
  rw [List.cons_append, ← List.cons_append, ← hmark] at hclean
  rw [String.toList_append, String.toList_append, placeLine, hclean, hnames]
  simp only [List.getLast?_nil, hresult, if_true]

end

/-! Sections. -/

/-- The lines of a section, the first one behind the mark. -/
def marked (mark : String) : List String → List String
  | [] => []
  | first :: more => (mark ++ first) :: more

def starred (lines : List String) : List (List Char) :=
  lines.map fun line => (" * " ++ line).toList

def saidIn (which : DocSection) (lines : List String) : List (DocSection × List Char) :=
  lines.map fun line => (which, ' ' :: line.toList)

theorem starred_append (first second : List String) :
    starred (first ++ second) = starred first ++ starred second :=
  List.map_append

theorem mem_marked {mark line : String} {lines : List String} (h : line ∈ marked mark lines) :
    ∃ text ∈ lines, line = text ∨ line = mark ++ text := by
  cases lines with
  | nil => cases h
  | cons first more =>
    rcases List.mem_cons.mp h with rfl | h
    · exact ⟨first, List.mem_cons_self, .inr rfl⟩
    · exact ⟨line, List.mem_cons_of_mem _ h, .inl rfl⟩

section

variable {known : List String} {lines : List String} (h : ∀ line ∈ lines, IsPlainLine line)

include h

theorem placeLines_plain (current : DocSection) (rest : List (List Char)) :
    placeLines known current (starred lines ++ rest) =
      saidIn current lines ++ placeLines known current rest := by
  induction lines with
  | nil => rfl
  | cons line lines ih =>
    rw [List.forall_mem_cons] at h
    rw [starred, List.map_cons, List.cons_append, placeLines, placeLine_plain h.1 known current]
    exact congrArg _ (ih h.2)

theorem placeLines_marked {mark : String} {which : DocSection}
    (hmark : ∀ line, IsPlainLine line → ∀ current, placeLine known current
      (" * " ++ (mark ++ line)).toList = (which, ' ' :: line.toList))
    (hne : lines ≠ []) (current : DocSection) (rest : List (List Char)) :
    placeLines known current (starred (marked mark lines) ++ rest) =
      saidIn which lines ++ placeLines known which rest := by
  cases lines with
  | nil => exact absurd rfl hne
  | cons first more =>
    rw [List.forall_mem_cons] at h
    rw [marked, starred, List.map_cons, List.cons_append, placeLines, hmark first h.1 current]
    exact congrArg _ (placeLines_plain h.2 which rest)

end

def paramLines (params : List (String × List String)) : List String :=
  params.flatMap fun entry => marked ("\\param " ++ entry.1 ++ " ") entry.2

/-- Whatever section is open in front of them, the parameters get their own lines. -/
theorem placeLines_params {known : List String} {params : List (String × List String)}
    (hname : ∀ entry ∈ params, IsIdentifier entry.1 ∧ entry.1 ∈ known)
    (hlines : ∀ entry ∈ params, entry.2 ≠ [] ∧ ∀ line ∈ entry.2, IsPlainLine line)
    (current : DocSection) (rest : List (List Char)) :
    ∃ last, placeLines known current (starred (paramLines params) ++ rest) =
      (params.flatMap fun entry => saidIn (.parameter entry.1) entry.2) ++
        placeLines known last rest := by
  induction params generalizing current with
  | nil => exact ⟨current, rfl⟩
  | cons entry params ih =>
    rw [List.forall_mem_cons] at hname hlines
    obtain ⟨last, hrest⟩ := ih hname.2 hlines.2 (.parameter entry.1)
    have hmark := fun line (hline : IsPlainLine line) current =>
      placeLine_param hline known current hname.1.1 hname.1.2
    refine ⟨last, ?_⟩
    rw [paramLines, List.flatMap_cons, starred_append, List.append_assoc,
      placeLines_marked hlines.1.2 hmark hlines.1.1, List.flatMap_cons, List.append_assoc, ← hrest]
    rfl

theorem sectionLines_append (first second : List (DocSection × List Char)) (which : DocSection) :
    sectionLines (first ++ second) which = sectionLines first which ++ sectionLines second which := by
  rw [sectionLines, List.filter_append, List.map_append]
  rfl

theorem sectionLines_saidIn (which other : DocSection) (lines : List String) :
    sectionLines (saidIn which lines) other =
      if which = other then lines.map (" " ++ ·) else [] := by
  induction lines with
  | nil => simp [sectionLines, saidIn]
  | cons line lines ih =>
    have hline : String.ofList (' ' :: line.toList) = " " ++ line := by
      rw [← String.ofList_toList (s := " " ++ line), String.toList_append]
      rfl
    have hcut : saidIn which (line :: lines) = [(which, ' ' :: line.toList)] ++ saidIn which lines :=
      rfl
    rw [hcut, sectionLines_append, ih]
    by_cases hsame : which = other <;> simp [sectionLines, hsame, hline]

theorem sectionLines_params {params : List (String × List String)} {which : DocSection}
    (h : ∀ entry ∈ params, which ≠ .parameter entry.1) :
    sectionLines (params.flatMap fun entry => saidIn (.parameter entry.1) entry.2) which = [] := by
  induction params with
  | nil => rfl
  | cons entry params ih =>
    rw [List.forall_mem_cons] at h
    rw [List.flatMap_cons, sectionLines_append, sectionLines_saidIn, if_neg h.1.symm, ih h.2,
      List.nil_append]

theorem sectionLines_param {params : List (String × List String)}
    (hdistinct : (params.map Prod.fst).Nodup) {entry : String × List String} (h : entry ∈ params) :
    sectionLines (params.flatMap fun entry => saidIn (.parameter entry.1) entry.2)
      (.parameter entry.1) = entry.2.map (" " ++ ·) := by
  induction params with
  | nil => cases h
  | cons first params ih =>
    rw [List.map_cons, List.nodup_cons] at hdistinct
    have hother : ∀ other ∈ params, other.1 ≠ first.1 := fun other hmem heq =>
      hdistinct.1 (heq ▸ List.mem_map_of_mem hmem)
    rw [List.flatMap_cons, sectionLines_append]
    rcases List.mem_cons.mp h with rfl | h
    · rw [sectionLines_saidIn, if_pos rfl, sectionLines_params, List.append_nil]
      intro other hmem heq
      exact hother other hmem (DocSection.parameter.inj heq).symm
    · have hne : DocSection.parameter first.1 ≠ .parameter entry.1 := fun heq =>
        hother entry h (DocSection.parameter.inj heq).symm
      rw [ih hdistinct.2 h, sectionLines_saidIn, if_neg hne, List.nil_append]

/-! The whole comment. -/

/-- What a comment says. A section with a mark has a line for it. -/
structure DoxygenText where
  description : List String
  params : List (String × List String)
  result : List String
  plain : ∀ line ∈ description ++ params.flatMap Prod.snd ++ result, IsPlainLine line
  named : ∀ entry ∈ params, IsIdentifier entry.1
  distinct : (params.map Prod.fst).Nodup
  filled : result ≠ [] ∧ ∀ entry ∈ params, entry.2 ≠ []

namespace DoxygenText

variable (said : DoxygenText)

def body : List String :=
  said.description ++ (paramLines said.params ++ marked "\\returns " said.result)

def comment : String := joinStrings "\n" ("/**" :: (said.body.map (" * " ++ ·) ++ [" */"]))

theorem oneLine_body : ∀ line ∈ said.body, OneLine line := by
  have hplain := said.plain
  rw [List.forall_mem_append, List.forall_mem_append, List.forall_mem_flatMap] at hplain
  obtain ⟨⟨hdescription, hparams⟩, hresult⟩ := hplain
  intro line hline
  rw [body, List.mem_append, List.mem_append] at hline
  rcases hline with hline | hline | hline
  · exact (hdescription line hline).newline
  · obtain ⟨entry, hentry, hline⟩ := List.mem_flatMap.mp hline
    obtain ⟨text, htext, rfl | rfl⟩ := mem_marked hline
    · exact (hparams entry hentry line htext).newline
    · have hname : OneLine entry.1 := not_mem_of_all (said.named entry hentry).2 rfl
      rw [oneLine_append, oneLine_append, oneLine_append]
      exact ⟨⟨⟨by decide, hname⟩, by decide⟩, (hparams entry hentry text htext).newline⟩
  · obtain ⟨text, htext, rfl | rfl⟩ := mem_marked hline
    · exact (hresult line htext).newline
    · exact oneLine_append.mpr ⟨by decide, (hresult text htext).newline⟩

theorem split_comment :
    splitAtChar '\n' said.comment.toList =
      "/**".toList :: (starred said.body ++ [" */".toList]) := by
  have hlines : ∀ line ∈ "/**" :: (said.body.map (" * " ++ ·) ++ [" */"]), OneLine line := by
    rw [List.forall_mem_cons, List.forall_mem_append, List.forall_mem_map,
      List.forall_mem_singleton]
    exact ⟨by decide, fun line hline =>
      oneLine_append.mpr ⟨by decide, said.oneLine_body line hline⟩, by decide⟩
  have hsplit := congrArg (List.map String.toList)
    (linesOf_joinStrings (List.cons_ne_nil _ _) hlines)
  have htext : String.toList ∘ String.ofList = id := funext fun _ => String.toList_ofList
  rw [linesOf, List.map_map, htext, List.map_id, List.map_cons, List.map_append,
    List.map_map] at hsplit
  exact hsplit

/-- The two lines of the frame are empty texts; the others go to their own sections. -/
theorem place_comment {known : List String} (h : ∀ entry ∈ said.params, entry.1 ∈ known) :
    placeLines known .description (splitAtChar '\n' said.comment.toList) =
      (.description, []) :: (saidIn .description said.description ++
        ((said.params.flatMap fun entry => saidIn (.parameter entry.1) entry.2) ++
          (saidIn .result said.result ++ [(.result, [])]))) := by
  have hplain := said.plain
  rw [List.forall_mem_append, List.forall_mem_append, List.forall_mem_flatMap] at hplain
  obtain ⟨last, hparams⟩ := placeLines_params
    (fun entry hentry => ⟨said.named entry hentry, h entry hentry⟩)
    (fun entry hentry => ⟨said.filled.2 entry hentry, hplain.1.2 entry hentry⟩) .description
    (starred (marked "\\returns " said.result) ++ [" */".toList])
  have hresult := placeLines_marked hplain.2 (fun line hline current =>
    placeLine_result hline known current) said.filled.1 last [" */".toList]
  have hopening : dropOpening "/**".toList = [] := rfl
  have hending : dropOpening " */".toList = [] := rfl
  rw [split_comment, placeLines, placeLine_of_dropOpening hopening, body, starred_append,
    starred_append, List.append_assoc, List.append_assoc, placeLines_plain hplain.1.1, hparams,
    hresult, placeLines, placeLine_of_dropOpening hending, placeLines]

/-- The frame leaves an empty line in front of the description and one behind the result. -/
theorem sections_comment {known : List String} (h : ∀ entry ∈ said.params, entry.1 ∈ known) :
    let placed := placeLines known .description (splitAtChar '\n' said.comment.toList)
    sectionLines placed .description = "" :: said.description.map (" " ++ ·) ∧
      (∀ entry ∈ said.params,
        sectionLines placed (.parameter entry.1) = entry.2.map (" " ++ ·)) ∧
      (∀ name, name ∉ said.params.map Prod.fst → sectionLines placed (.parameter name) = []) ∧
      sectionLines placed .result = said.result.map (" " ++ ·) ++ [""] := by
  intro placed
  have hframe : ∀ which other : DocSection, sectionLines [(which, [])] other =
      if which = other then [""] else [] := by
    intro which other
    by_cases hsame : which = other <;> simp [sectionLines, hsame]
  have hsections : ∀ which, sectionLines placed which =
      sectionLines [(.description, [])] which ++
        (sectionLines (saidIn .description said.description) which ++
          (sectionLines (said.params.flatMap fun entry => saidIn (.parameter entry.1) entry.2) which
            ++ (sectionLines (saidIn .result said.result) which ++
              sectionLines [(.result, [])] which))) := by
    intro which
    rw [← sectionLines_append, ← sectionLines_append, ← sectionLines_append,
      ← sectionLines_append, List.singleton_append, ← said.place_comment h]
  simp only [hsections, hframe, sectionLines_saidIn]
  refine ⟨?_, fun entry hentry => ?_, fun name hname => ?_, ?_⟩
  · rw [sectionLines_params fun _ _ => DocSection.noConfusion]
    simp
  · rw [sectionLines_param said.distinct hentry]
    simp
  · have hother : ∀ entry ∈ said.params, DocSection.parameter name ≠ .parameter entry.1 := by
      intro entry hentry heq
      exact hname (DocSection.parameter.inj heq ▸ List.mem_map_of_mem hentry)
    rw [sectionLines_params hother]
    simp
  · rw [sectionLines_params fun _ _ => DocSection.noConfusion]
    simp

end DoxygenText

section

variable (text : String) (names : List String)

/-- The lines of a comment, each with its section. -/
def placedLines : List (DocSection × List Char) :=
  placeLines (knownParameters names) .description (splitAtChar '\n' text.toList)

theorem joined_parse :
    joinLines (DocComment.parse text names).description =
        joinLines (sectionLines (placedLines text names) .description) ∧
      (DocComment.parse text names).returnText =
        joinLines (sectionLines (placedLines text names) .result) := by
  rw [DocComment.returnText, DocComment.parse]
  exact ⟨joinLines_trimBlankLines _, rfl⟩

theorem paramText_parse (name : String) :
    (DocComment.parse text names).paramText name =
      if name ∈ knownParameters names then
        joinLines (sectionLines (placedLines text names) (.parameter name))
      else "" := by
  have hparams : (DocComment.parse text names).params = (knownParameters names).map
      fun name => (name, sectionLines (placedLines text names) (.parameter name)) := by
    rw [DocComment.parse]
    rfl
  rw [DocComment.paramText, hparams]
  split
  · next hknown => rw [List.lookup_graph _ hknown, Option.getD_some]
  · next hunknown =>
    rw [List.lookup_eq_none_iff.mpr, Option.getD_none]
    · rfl
    · rw [List.forall_mem_map]
      exact fun other hother => bne_iff_ne.mpr fun heq => hunknown (heq ▸ hother)

end

/-- Reading a comment gives back what it says, each section with its own texts. -/
theorem parse_doxygen_layout (said : DoxygenText) {names : List String}
    (h : ∀ entry ∈ said.params, entry.1 ∈ names) :
    let read := DocComment.parse said.comment names
    joinLines read.description = spacedWords said.description ∧
      (∀ entry ∈ said.params, read.paramText entry.1 = spacedWords entry.2) ∧
      (∀ name, name ∉ said.params.map Prod.fst → read.paramText name = "") ∧
      read.returnText = spacedWords said.result := by
  intro read
  have hknown : ∀ entry ∈ said.params, entry.1 ∈ knownParameters names := fun entry hentry =>
    mem_knownParameters.mpr ⟨h entry hentry, (said.named entry hentry).ne_empty⟩
  obtain ⟨hdescription, hparams, hothers, hresult⟩ := said.sections_comment hknown
  obtain ⟨hfree, hreturn⟩ := joined_parse said.comment names
  refine ⟨hfree.trans ?_, fun entry hentry => ?_, fun name hname => ?_, hreturn.trans ?_⟩
  · rw [placedLines, hdescription, ← List.nil_append ("" :: _), joinLines_empty_line,
      List.nil_append, joinLines_spaced, joinLines_eq_spacedWords]
  · rw [paramText_parse, if_pos (hknown entry hentry), placedLines, hparams entry hentry,
      joinLines_spaced, joinLines_eq_spacedWords]
  · rw [paramText_parse, placedLines, hothers name hname]
    exact ite_self _
  · rw [placedLines, hresult, joinLines_empty_line, List.append_nil, joinLines_spaced,
      joinLines_eq_spacedWords]

/-- A comment whose texts have stars, slashes and odd white space. -/
def paintText : DoxygenText where
  description := ["Fills *one* pixel,", "", "\t* or // none.  "]
  params := [("ink", ["/ a colour /", "", "*  of the palette *"]), ("_row2", ["0 / 1"])]
  result := ["**", "/ zero"]
  plain := by decide
  named := by decide
  distinct := by decide
  filled := by decide

theorem paint_comment_read :
    (∀ entry ∈ paintText.params, entry.1 ∈ ["_row2", "", "gap", "ink", "_row2"]) ∧
      paintText.comment = "/**\n * Fills *one* pixel,\n * \n * \t* or // none.  \n" ++
        " * \\param ink / a colour /\n * \n * *  of the palette *\n" ++
        " * \\param _row2 0 / 1\n * \\returns **\n * / zero\n */" ∧
      let read := DocComment.parse paintText.comment ["_row2", "", "gap", "ink", "_row2"]
      joinLines read.description = "Fills *one* pixel, * or // none." ∧
        read.paramText "ink" = "/ a colour / * of the palette *" ∧
        read.paramText "_row2" = "0 / 1" ∧ read.paramText "gap" = "" ∧
        read.returnText = "** / zero" := by
  have hnames : ∀ entry ∈ paintText.params, entry.1 ∈ ["_row2", "", "gap", "ink", "_row2"] := by
    decide
  obtain ⟨hdescription, hparams, hothers, hresult⟩ := parse_doxygen_layout paintText hnames
  refine ⟨hnames, by decide +kernel, hdescription.trans (by decide), ?_, ?_, ?_,
    hresult.trans (by decide)⟩
  · exact (hparams ("ink", ["/ a colour /", "", "*  of the palette *"]) (by decide)).trans
      (by decide)
  · exact (hparams ("_row2", ["0 / 1"]) (by decide)).trans (by decide)
  · exact hothers "gap" (by decide)

end HeaderBindings
