import HeaderBindings.Proofs.CommentText
import Mathlib.Data.List.TakeWhile

/-! Where the lines of a comment go. A line with a marker opens a section, and every line goes to
the section that is open behind it, so that no line is lost or made up. -/

namespace HeaderBindings

/-! Parameter markers. -/

def paramMark (name : List Char) : List Char := "\\param ".toList ++ name ++ [' ']

theorem paramMark_append (name rest : List Char) :
    paramMark name ++ rest = "\\param ".toList ++ (name ++ ' ' :: rest) := by
  unfold paramMark
  rw [List.append_assoc, List.append_assoc]
  rfl

def StartsWithParam (text : List Char) : Prop :=
  ∃ name rest, ' ' ∉ name ∧ text = paramMark name ++ rest

/-- The names of the parameter markers in a line, and the line without them. A name goes up to the
next space, and each marker is the first one behind those before it. -/
inductive CutAtParams : List (List Char) → List Char → List Char → Prop
  | plain {line : List Char} (unmarked : ∀ back, back <:+ line → ¬ StartsWithParam back) :
      CutAtParams [] line line
  | marker {names : List (List Char)} {name lead text rest : List Char} (word : ' ' ∉ name)
      (first : ∀ front back, lead = front ++ back → back ≠ [] →
        ¬ StartsWithParam (back ++ (paramMark name ++ rest)))
      (cut : CutAtParams names text rest) :
      CutAtParams (name :: names) (lead ++ text) (lead ++ (paramMark name ++ rest))

theorem takeWhile_word {name : List Char} (h : ' ' ∉ name) (rest : List Char) :
    (name ++ ' ' :: rest).takeWhile (· ≠ ' ') = name ∧
      (name ++ ' ' :: rest).dropWhile (· ≠ ' ') = ' ' :: rest := by
  have hname : ∀ c ∈ name, decide (c ≠ ' ') = true := fun c hc =>
    decide_eq_true fun heq => h (heq ▸ hc)
  constructor
  · rw [List.takeWhile_append_of_pos hname, List.takeWhile_cons_of_neg (by simp), List.append_nil]
  · rw [List.dropWhile_append_of_pos hname, List.dropWhile_cons_of_neg (by simp)]

theorem paramMarker?_eq_some_iff {text name rest : List Char} :
    paramMarker? text = some (name, rest) ↔ ' ' ∉ name ∧ text = paramMark name ++ rest := by
  have hdrop : ∀ after : List Char, ("\\param ".toList ++ after).drop 7 = after := by simp
  constructor
  · intro h
    unfold paramMarker? at h
    split at h
    · next hstart =>
      obtain ⟨after, rfl⟩ := List.isPrefixOf_iff_prefix.mp hstart
      rw [hdrop] at h
      dsimp only at h
      split at h
      · cases h
      · next c tail htail =>
        obtain ⟨rfl, rfl⟩ := Prod.mk.inj (Option.some.inj h)
        have hspace : c = ' ' := by
          have hhead := List.head?_dropWhile_not (· ≠ ' ') after
          rw [htail] at hhead
          simpa using hhead
        have hafter := List.takeWhile_append_dropWhile (p := (· ≠ ' ')) (l := after)
        rw [htail, hspace] at hafter
        refine ⟨fun hmem => by simpa using List.mem_takeWhile_imp hmem, ?_⟩
        rw [paramMark_append, hafter]
    · cases h
  · rintro ⟨hword, rfl⟩
    obtain ⟨htake, hrest⟩ := takeWhile_word hword rest
    unfold paramMarker?
    rw [paramMark_append, if_pos (List.isPrefixOf_iff_prefix.mpr (List.prefix_append _ _)), hdrop]
    dsimp only
    rw [hrest, htake]

theorem paramMarker?_eq_none_iff {text : List Char} :
    paramMarker? text = none ↔ ¬ StartsWithParam text := by
  rw [Option.eq_none_iff_forall_ne_some]
  constructor
  · rintro h ⟨name, rest, hmarker⟩
    exact h (name, rest) (paramMarker?_eq_some_iff.mpr hmarker)
  · rintro h ⟨name, rest⟩ hmarker
    exact h ⟨name, rest, paramMarker?_eq_some_iff.mp hmarker⟩

theorem cutAtParams_cons {names : List (List Char)} {text rest : List Char} {c : Char}
    (hplain : ¬ StartsWithParam (c :: rest)) (h : CutAtParams names text rest) :
    CutAtParams names (c :: text) (c :: rest) := by
  cases h with
  | plain unmarked =>
    refine .plain fun back hback => ?_
    rcases List.suffix_cons_iff.mp hback with rfl | hback
    · exact hplain
    · exact unmarked back hback
  | @marker names name lead text rest word first cut =>
    refine @CutAtParams.marker names name (c :: lead) text rest word
      (fun front back hlead hback => ?_) cut
    cases front with
    | nil =>
      rw [List.nil_append] at hlead
      rw [← hlead]
      exact hplain
    | cons d front => exact first front back (List.cons.inj hlead).2 hback

theorem cutAtParams_splitParamMarkers (line : List Char) :
    CutAtParams (splitParamMarkers line).1 (splitParamMarkers line).2 line := by
  fun_induction splitParamMarkers line with
  | case1 =>
    refine .plain fun back hback => ?_
    rintro ⟨name, rest, -, hmark⟩
    rw [List.suffix_nil.mp hback, paramMark_append] at hmark
    cases hmark
  | case2 c rest name after hmarker names text hsplit ih =>
    obtain ⟨hword, hline⟩ := paramMarker?_eq_some_iff.mp hmarker
    rw [hsplit] at ih
    rw [hline]
    refine @CutAtParams.marker names name [] text after hword
      (fun front back hlead hback => ?_) ih
    exact absurd (List.append_eq_nil_iff.mp hlead.symm).2 hback
  | case3 c rest hnone names text hsplit ih =>
    rw [hsplit] at ih
    exact cutAtParams_cons (paramMarker?_eq_none_iff.mp hnone) ih

/-- The markers of a line are found from left to right. -/
theorem splitParamMarkers_eq_iff {names : List (List Char)} {text line : List Char} :
    splitParamMarkers line = (names, text) ↔ CutAtParams names text line := by
  constructor
  · intro h
    have hcut := cutAtParams_splitParamMarkers line
    rwa [h] at hcut
  · intro h
    induction h with
    | @plain line unmarked =>
      induction line with
      | nil => rw [splitParamMarkers]
      | cons c rest ih =>
        have hnone := paramMarker?_eq_none_iff.mpr (unmarked _ (List.suffix_refl _))
        have hrest := ih fun back hback => unmarked back (hback.trans (List.suffix_cons c rest))
        rw [splitParamMarkers]
        split
        · next hmarker => simp [hnone] at hmarker
        · simp [hrest]
    | @marker names name lead text rest word first cut ih =>
      induction lead with
      | nil =>
        have hmarker : paramMarker? (paramMark name ++ rest) = some (name, rest) :=
          paramMarker?_eq_some_iff.mpr ⟨word, rfl⟩
        cases hline : paramMark name ++ rest with
        | nil => cases (paramMark_append name rest).symm.trans hline
        | cons c line =>
          rw [hline] at hmarker
          rw [List.nil_append, List.nil_append, splitParamMarkers]
          split
          · next found after hfound =>
            rw [hmarker] at hfound
            cases hfound
            rw [ih]
          · next hnone => simp [hmarker] at hnone
      | cons c lead ih' =>
        have hnone := paramMarker?_eq_none_iff.mpr (first [] (c :: lead) rfl (List.cons_ne_nil _ _))
        have hlead := ih' fun front back hsplit => first (c :: front) back (by rw [hsplit]; rfl)
        rw [List.cons_append] at hnone ⊢
        rw [splitParamMarkers]
        split
        · next hmarker => simp [hnone] at hmarker
        · rw [hlead]
          rfl

/-! Result markers. -/

def HasResultMark (text : List Char) : Prop :=
  "\\returns ".toList <:+: text ∨ "\\return ".toList <:+: text

theorem resultMarker?_isSome_iff {text : List Char} :
    (resultMarker? text).isSome = true ↔
      "\\returns ".toList <+: text ∨ "\\return ".toList <+: text := by
  rw [← List.isPrefixOf_iff_prefix, ← List.isPrefixOf_iff_prefix]
  unfold resultMarker?
  split
  · next h => exact iff_of_true rfl (.inl h)
  · next h =>
    split
    · next h' => exact iff_of_true rfl (.inr h')
    · next h' => exact iff_of_false Bool.false_ne_true (not_or.mpr ⟨h, h'⟩)

theorem splitResultMarkers_found_iff {text : List Char} :
    (splitResultMarkers text).1 = true ↔ HasResultMark text := by
  fun_induction splitResultMarkers text with
  | case1 => exact iff_of_false Bool.false_ne_true (by simp [HasResultMark])
  | case2 c rest after hmarker ih =>
    have hstart := resultMarker?_isSome_iff.mp (Option.isSome_of_eq_some hmarker)
    exact iff_of_true rfl (hstart.imp List.IsPrefix.isInfix List.IsPrefix.isInfix)
  | case3 c rest hnone found text hsplit ih =>
    have hstart := mt resultMarker?_isSome_iff.mpr (by rw [hnone]; exact Bool.false_ne_true)
    rw [not_or] at hstart
    rw [hsplit] at ih
    rw [ih]
    unfold HasResultMark
    rw [List.infix_cons_iff, List.infix_cons_iff, or_iff_right hstart.1, or_iff_right hstart.2]

theorem not_prefix_named {mark name rest : List Char} (hcolon : ':' ∉ mark) (hspace : ' ' ∈ mark)
    (h : ' ' ∉ name) : ¬ mark <+: name ++ ':' :: rest := by
  induction name generalizing mark with
  | nil =>
    intro hprefix
    rcases List.prefix_cons_iff.mp hprefix with rfl | ⟨tail, rfl, -⟩
    · cases hspace
    · exact hcolon List.mem_cons_self
  | cons c name ih =>
    rw [List.mem_cons, not_or] at h
    intro hprefix
    rcases List.prefix_cons_iff.mp hprefix with rfl | ⟨tail, rfl, htail⟩
    · cases hspace
    · rw [List.mem_cons, not_or] at hcolon
      exact ih hcolon.2 (List.mem_of_ne_of_mem h.1 hspace) h.2 htail

/-- A name with a colon behind it does not become part of a marker. -/
theorem infix_named_iff {mark name text : List Char} (hcolon : ':' ∉ mark) (hspace : ' ' ∈ mark)
    (hhead : mark.head? ≠ some ' ') (h : ' ' ∉ name) :
    mark <:+: name ++ ": ".toList ++ text ↔ mark <:+: text := by
  have hsign : ": ".toList = [':', ' '] := rfl
  rw [hsign, List.append_assoc]
  induction name with
  | nil =>
    have hblank : ¬ mark <+: ' ' :: text := by
      intro hprefix
      rcases List.prefix_cons_iff.mp hprefix with rfl | ⟨tail, rfl, -⟩
      · cases hspace
      · exact hhead rfl
    have hstart : ¬ mark <+: ':' :: ' ' :: text := not_prefix_named hcolon hspace h
    exact (List.infix_cons_iff.trans (or_iff_right hstart)).trans
      (List.infix_cons_iff.trans (or_iff_right hblank))
  | cons c name ih =>
    have hstart : ¬ mark <+: c :: name ++ ':' :: ' ' :: text := not_prefix_named hcolon hspace h
    rw [List.mem_cons, not_or] at h
    exact (List.infix_cons_iff.trans (or_iff_right hstart)).trans (ih h.2)

theorem hasResultMark_named {name text : List Char} (h : ' ' ∉ name) :
    HasResultMark (name ++ ": ".toList ++ text) ↔ HasResultMark text := by
  unfold HasResultMark
  rw [infix_named_iff (by decide) (by decide) (by decide) h,
    infix_named_iff (by decide) (by decide) (by decide) h]

/-! Sections. -/

/-- The section that a line opens. -/
inductive Opens (names : List String) (line : List Char) : DocSection → Prop
  | result {marked : List (List Char)} {text : List Char}
      (cut : CutAtParams marked text (cleanLine line)) (mark : HasResultMark text) :
      Opens names line .result
  | parameter {earlier : List (List Char)} {name text : List Char}
      (cut : CutAtParams (earlier ++ [name]) text (cleanLine line))
      (unmarked : ¬ HasResultMark text) (known : String.ofList name ∈ names) (named : name ≠ []) :
      Opens names line (.parameter (String.ofList name))

/-- The text that a line leaves in its section; the name of an unknown parameter stands in front. -/
inductive Says (names : List String) (line : List Char) : List Char → Prop
  | plain {text : List Char} (cut : CutAtParams [] text (cleanLine line)) :
      Says names line (splitResultMarkers text).2
  | known {earlier : List (List Char)} {name text : List Char}
      (cut : CutAtParams (earlier ++ [name]) text (cleanLine line))
      (known : String.ofList name ∈ names) (named : name ≠ []) :
      Says names line (splitResultMarkers text).2
  | unknown {earlier : List (List Char)} {name text : List Char}
      (cut : CutAtParams (earlier ++ [name]) text (cleanLine line))
      (unknown : ¬ (String.ofList name ∈ names ∧ name ≠ [])) :
      Says names line (splitResultMarkers (name ++ ": ".toList ++ text)).2

/-- The section that is open behind some lines is that of the last one that opens any. -/
inductive OpenBehind (names : List String) (lines : List (List Char)) : DocSection → Prop
  | line {earlier later : List (List Char)} {line : List Char} {which : DocSection}
      (split : lines = earlier ++ line :: later) (opens : Opens names line which)
      (last : ∀ other ∈ later, ∀ another, ¬ Opens names other another) :
      OpenBehind names lines which
  | start (none : ∀ line ∈ lines, ∀ which, ¬ Opens names line which) :
      OpenBehind names lines .description

theorem CutAtParams.unique {names others : List (List Char)} {text other line : List Char}
    (h : CutAtParams names text line) (h' : CutAtParams others other line) :
    names = others ∧ text = other := by
  have hsame := (splitParamMarkers_eq_iff.mpr h).symm.trans (splitParamMarkers_eq_iff.mpr h')
  exact Prod.mk.inj hsame

theorem CutAtParams.word {names : List (List Char)} {text line : List Char}
    (h : CutAtParams names text line) : ∀ name ∈ names, ' ' ∉ name := by
  induction h with
  | plain => simp
  | marker word _ _ ih => exact List.forall_mem_cons.mpr ⟨word, ih⟩

section

variable {names : List String} {line : List Char}

theorem Opens.unique {which other : DocSection} (h : Opens names line which)
    (h' : Opens names line other) : which = other := by
  cases h with
  | result cut mark =>
    cases h' with
    | result => rfl
    | parameter cut' unmarked =>
      obtain ⟨-, rfl⟩ := cut.unique cut'
      exact absurd mark unmarked
  | parameter cut unmarked =>
    cases h' with
    | result cut' mark =>
      obtain ⟨-, rfl⟩ := cut.unique cut'
      exact absurd mark unmarked
    | parameter cut' =>
      obtain ⟨hnames, -⟩ := cut.unique cut'
      rw [List.singleton_inj.mp (List.append_inj' hnames rfl).2]

theorem OpenBehind.unique {lines : List (List Char)} {which other : DocSection}
    (h : OpenBehind names lines which) (h' : OpenBehind names lines other) : which = other := by
  cases h with
  | @line earlier later line _ split opens last =>
    cases h' with
    | @line earlier' later' line' _ split' opens' last' =>
      -- of two last lines, neither comes behind the other
      rcases List.append_eq_append_iff.mp (split.symm.trans split') with
        ⟨between, -, hbetween⟩ | ⟨between, -, hbetween⟩
      · cases between with
        | nil =>
          obtain ⟨rfl, -⟩ := List.cons.inj hbetween
          exact opens.unique opens'
        | cons _ between =>
          have hmem : line' ∈ later := (List.cons.inj hbetween).2 ▸ by simp
          exact absurd opens' (last line' hmem other)
      · cases between with
        | nil =>
          obtain ⟨rfl, -⟩ := List.cons.inj hbetween
          exact opens.unique opens'
        | cons _ between =>
          have hmem : line ∈ later' := (List.cons.inj hbetween).2 ▸ by simp
          exact absurd opens (last' line hmem which)
    | start none => exact absurd opens (none line (by simp [split]) which)
  | start none =>
    cases h' with
    | @line _ _ line' _ split opens => exact absurd opens (none line' (by simp [split]) other)
    | start => rfl

theorem mem_knownParameters {name : String} :
    name ∈ knownParameters names ↔ name ∈ names ∧ name ≠ "" := by
  induction names with
  | nil => simp [knownParameters]
  | cons first rest ih =>
    rw [knownParameters]
    split
    · next hfirst =>
      rw [ih, List.mem_cons]
      refine ⟨fun h => ⟨.inr h.1, h.2⟩, fun h => ⟨h.1.resolve_left ?_, h.2⟩⟩
      rintro rfl
      exact h.2 hfirst
    · next hfirst =>
      rw [List.mem_cons, List.mem_filter, ih, List.mem_cons]
      by_cases hname : name = first
      · simp [hname, hfirst]
      · simp [hname]

theorem nodup_knownParameters (names : List String) : (knownParameters names).Nodup := by
  induction names with
  | nil => exact List.nodup_nil
  | cons first rest ih =>
    rw [knownParameters]
    split
    · exact ih
    · exact List.nodup_cons.mpr ⟨by simp, ih.filter _⟩

/-- What one line does: it goes to the section that it opens, or to the open one. -/
theorem placeLine_spec (names : List String) (current : DocSection) (line : List Char) :
    (Opens names line (placeLine (knownParameters names) current line).1 ∨
      (∀ which, ¬ Opens names line which) ∧
        (placeLine (knownParameters names) current line).1 = current) ∧
    Says names line (placeLine (knownParameters names) current line).2 := by
  obtain ⟨marked, text, hsplit⟩ : ∃ marked text,
      splitParamMarkers (cleanLine line) = (marked, text) := ⟨_, _, rfl⟩
  have hcut := splitParamMarkers_eq_iff.mp hsplit
  have hclosed : ¬ HasResultMark text → (∀ earlier name, marked = earlier ++ [name] →
      ¬ (String.ofList name ∈ names ∧ name ≠ [])) → ∀ which, ¬ Opens names line which := by
    rintro hmark hnone _ (⟨cut, mark⟩ | ⟨cut, -, known, named⟩)
    · exact hmark ((hcut.unique cut).2 ▸ mark)
    · exact hnone _ _ (hcut.unique cut).1 ⟨known, named⟩
  unfold placeLine
  rw [hsplit]
  dsimp only
  rcases List.eq_nil_or_concat marked with rfl | ⟨earlier, name, hmarked⟩
  · rw [List.getLast?_nil]
    dsimp only
    refine ⟨?_, .plain hcut⟩
    by_cases hmark : HasResultMark text
    · rw [if_pos (splitResultMarkers_found_iff.mpr hmark)]
      exact .inl (.result hcut hmark)
    · rw [if_neg (mt splitResultMarkers_found_iff.mp hmark)]
      exact .inr ⟨hclosed hmark (by simp), rfl⟩
  · rw [List.concat_eq_append] at hmarked
    subst hmarked
    have hknown : String.ofList name ∈ knownParameters names ↔
        String.ofList name ∈ names ∧ name ≠ [] := by
      rw [mem_knownParameters, Ne, String.ofList_eq_empty_iff]
    rw [List.getLast?_concat]
    dsimp only
    split
    · next hmem =>
      obtain ⟨hname, hnamed⟩ := hknown.mp hmem
      refine ⟨.inl ?_, .known hcut hname hnamed⟩
      by_cases hmark : HasResultMark text
      · rw [if_pos (splitResultMarkers_found_iff.mpr hmark)]
        exact .result hcut hmark
      · rw [if_neg (mt splitResultMarkers_found_iff.mp hmark)]
        exact .parameter hcut hmark hname hnamed
    · next hmem =>
      rw [hknown] at hmem
      refine ⟨?_, .unknown hcut hmem⟩
      have hword : ' ' ∉ name := hcut.word name (by simp)
      by_cases hmark : HasResultMark text
      · rw [if_pos (splitResultMarkers_found_iff.mpr ((hasResultMark_named hword).mpr hmark))]
        exact .inl (.result hcut hmark)
      · rw [if_neg fun h =>
          hmark ((hasResultMark_named hword).mp (splitResultMarkers_found_iff.mp h))]
        refine .inr ⟨hclosed hmark ?_, rfl⟩
        intro _ other hsame
        rwa [← List.singleton_inj.mp (List.append_inj' hsame rfl).2]

theorem OpenBehind.concat {lines : List (List Char)} {current : DocSection}
    (h : OpenBehind names lines current) (line : List Char) :
    OpenBehind names (lines ++ [line]) (placeLine (knownParameters names) current line).1 := by
  rcases (placeLine_spec names current line).1 with hopens | ⟨hnone, hsame⟩
  · exact .line rfl hopens (by simp)
  · rw [hsame]
    cases h with
    | @line earlier later last _ split opens none =>
      refine .line (split ▸ List.append_assoc earlier (last :: later) [line]) opens ?_
      intro other hother
      rcases List.mem_append.mp hother with hother | hother
      · exact none other hother
      · rwa [List.mem_singleton.mp hother]
    | start none =>
      refine .start fun other hother => ?_
      rcases List.mem_append.mp hother with hother | hother
      · exact none other hother
      · rwa [List.mem_singleton.mp hother]

/-- What all lines do: each one goes to the section that is open behind it. -/
theorem placeLines_spec {front : List (List Char)} {current : DocSection}
    (h : OpenBehind names front current) {lines earlier later : List (List Char)}
    (hlines : lines = earlier ++ line :: later) :
    ∃ entry, (placeLines (knownParameters names) current lines)[earlier.length]? = some entry ∧
      OpenBehind names (front ++ (earlier ++ [line])) entry.1 ∧ Says names line entry.2 := by
  induction earlier generalizing front current lines with
  | nil =>
    rw [hlines]
    exact ⟨_, rfl, h.concat line, (placeLine_spec names current line).2⟩
  | cons first earlier ih =>
    obtain ⟨entry, hentry, hopen, hmeant⟩ := ih (h.concat first) rfl
    rw [hlines]
    refine ⟨entry, hentry, ?_, hmeant⟩
    rwa [List.append_assoc] at hopen

theorem mem_placeLines {current : DocSection} {lines : List (List Char)}
    {entry : DocSection × List Char}
    (h : entry ∈ placeLines (knownParameters names) current lines) :
    (entry.1 = current ∨ ∃ line, Opens names line entry.1) ∧
      ∃ line ∈ lines, Says names line entry.2 := by
  induction lines generalizing current with
  | nil => cases h
  | cons line rest ih =>
    obtain ⟨hsection, hmeant⟩ := placeLine_spec names current line
    rcases List.mem_cons.mp h with rfl | h
    · refine ⟨?_, line, List.mem_cons_self, hmeant⟩
      exact hsection.symm.imp And.right fun hopens => ⟨line, hopens⟩
    · obtain ⟨hopen, other, hother, htext⟩ := ih h
      refine ⟨?_, other, List.mem_cons_of_mem _ hother, htext⟩
      rcases hopen with hopen | hopen
      · rw [hopen]
        exact hsection.symm.imp And.right fun hopens => ⟨line, hopens⟩
      · exact .inr hopen

theorem Opens.cases_of_known {which : DocSection} (h : Opens names line which) :
    which = .result ∨ ∃ name ∈ knownParameters names, which = .parameter name := by
  cases h with
  | result => exact .inl rfl
  | @parameter _ name _ _ _ known named =>
    refine .inr ⟨String.ofList name, mem_knownParameters.mpr ⟨known, ?_⟩, rfl⟩
    rwa [Ne, String.ofList_eq_empty_iff]

theorem length_placeLines (known : List String) (current : DocSection)
    (lines : List (List Char)) : (placeLines known current lines).length = lines.length := by
  induction lines generalizing current with
  | nil => rfl
  | cons line rest ih => exact congrArg (· + 1) (ih _)

end

/-! The ends of a description. -/

theorem trimBlankLines_spec (lines : List String) :
    (∃ front back, lines = front ++ trimBlankLines lines ++ back ∧
      ∀ line ∈ front ++ back, isBlankLine line = true) ∧
    (∀ line ∈ (trimBlankLines lines).head?, isBlankLine line = false) ∧
    ∀ line ∈ (trimBlankLines lines).getLast?, isBlankLine line = false := by
  unfold trimBlankLines
  dsimp only
  have hblank : (fun line : String => isBlankText line.toList) = isBlankLine := rfl
  rw [hblank]
  have hfront := List.takeWhile_append_dropWhile (p := isBlankLine) (l := lines)
  have hstart := List.head?_dropWhile_not isBlankLine lines
  generalize lines.dropWhile isBlankLine = rest at hfront hstart ⊢
  have hback := List.takeWhile_append_dropWhile (p := isBlankLine) (l := rest.reverse)
  have hend := List.head?_dropWhile_not isBlankLine rest.reverse
  generalize hkept : rest.reverse.dropWhile isBlankLine = kept at hback hend ⊢
  have hrest : rest = kept.reverse ++ (rest.reverse.takeWhile isBlankLine).reverse := by
    rw [← List.reverse_append, hback, List.reverse_reverse]
  refine ⟨⟨lines.takeWhile isBlankLine, (rest.reverse.takeWhile isBlankLine).reverse, ?_, ?_⟩,
    ?_, ?_⟩
  · rw [List.append_assoc, ← hrest, hfront]
  · intro line hline
    rcases List.mem_append.mp hline with hline | hline
    · exact List.mem_takeWhile_imp hline
    · exact List.mem_takeWhile_imp (List.mem_reverse.mp hline)
  · intro line hline
    cases hkeep : kept.reverse with
    | nil =>
      rw [hkeep] at hline
      cases hline
    | cons first others =>
      rw [hkeep] at hline hrest
      rw [hrest] at hstart
      cases hline
      simpa using hstart
  · intro line hline
    rw [List.getLast?_reverse] at hline
    rw [hline] at hend
    simpa using hend

/-! Characters. -/

theorem Says.mem {names : List String} {line text : List Char} (h : Says names line text) {c : Char}
    (hc : c ∈ text) : c ∈ cleanLine line ∨ c ∈ ": ".toList := by
  have hcut : ∀ {marked : List (List Char)} {rest : List Char},
      CutAtParams marked rest (cleanLine line) →
        (∀ name ∈ marked, name.Sublist (cleanLine line)) ∧ rest.Sublist (cleanLine line) := by
    intro marked rest cut
    have hsub := splitParamMarkers_sublist (cleanLine line)
    rwa [splitParamMarkers_eq_iff.mpr cut] at hsub
  cases h with
  | plain cut => exact .inl ((hcut cut).2.subset ((splitResultMarkers_sublist _).subset hc))
  | known cut => exact .inl ((hcut cut).2.subset ((splitResultMarkers_sublist _).subset hc))
  | @unknown earlier name text cut =>
    have hmem := (splitResultMarkers_sublist _).subset hc
    rw [List.mem_append, List.mem_append] at hmem
    rcases hmem with (hmem | hmem) | hmem
    · exact .inl (((hcut cut).1 name (by simp)).subset hmem)
    · exact .inr hmem
    · exact .inl ((hcut cut).2.subset hmem)

theorem bracket_not_mem_cleanLine (line : List Char) :
    '[' ∉ cleanLine line ∧ ']' ∉ cleanLine line := by
  constructor <;>
  · intro h
    obtain ⟨c, -, hc⟩ := List.mem_map.mp h
    unfold roundBracket at hc
    split at hc
    · cases hc
    · split at hc
      · cases hc
      · next hopen hclose => first | exact hopen hc | exact hclose hc

/-- Every line of a comment goes to the section that is open behind it, and a section has the texts
of its lines in their order; only the description loses the blank lines at its ends. -/
theorem parse_keeps_lines (text : String) (names : List String) :
    let lines := splitAtChar '\n' text.toList
    let doc := DocComment.parse text names
    ∃ placed : List (DocSection × List Char), placed.length = lines.length ∧
      (∀ earlier line later, lines = earlier ++ line :: later →
        ∃ entry, placed[earlier.length]? = some entry ∧
          (∀ which, OpenBehind names (earlier ++ [line]) which ↔ which = entry.1) ∧
          Says names line entry.2) ∧
      (∀ entry ∈ placed, (entry.1 = .description ∨ entry.1 = .result ∨
          ∃ name ∈ doc.params.map Prod.fst, entry.1 = .parameter name) ∧
        '[' ∉ entry.2 ∧ ']' ∉ entry.2 ∧ '\n' ∉ entry.2) ∧
      (doc.params.map Prod.fst).Nodup ∧
      (∀ name, name ∈ doc.params.map Prod.fst ↔ name ∈ names ∧ name ≠ "") ∧
      (∀ entry ∈ doc.params, entry.2 = sectionLines placed (.parameter entry.1)) ∧
      doc.returns = sectionLines placed .result ∧
      (∃ front back, sectionLines placed .description = front ++ doc.description ++ back ∧
        ∀ line ∈ front ++ back, isBlankLine line = true) ∧
      (∀ line ∈ doc.description.head?, isBlankLine line = false) ∧
      ∀ line ∈ doc.description.getLast?, isBlankLine line = false := by
  intro lines doc
  have hkeys : doc.params.map Prod.fst = knownParameters names := by
    exact List.map_map.trans (List.map_id _)
  have hstart : OpenBehind names [] .description := .start (by simp)
  refine ⟨placeLines (knownParameters names) .description lines, length_placeLines _ _ _,
    ?_, ?_, ?_, ?_, ?_, rfl, trimBlankLines_spec _⟩
  · intro earlier line later hlines
    obtain ⟨entry, hentry, hopen, hmeant⟩ := placeLines_spec hstart hlines
    exact ⟨entry, hentry, fun which => ⟨fun h => h.unique hopen, fun h => h ▸ hopen⟩, hmeant⟩
  · intro entry hentry
    obtain ⟨hsection, line, hline, hmeant⟩ := mem_placeLines hentry
    have hclean := bracket_not_mem_cleanLine line
    have hnewline := newline_not_mem_cleanLine (not_mem_of_mem_splitAtChar hline)
    refine ⟨?_, fun h => (hmeant.mem h).elim hclean.1 (by decide),
      fun h => (hmeant.mem h).elim hclean.2 (by decide),
      fun h => (hmeant.mem h).elim hnewline (by decide)⟩
    rw [hkeys]
    exact hsection.imp_right fun ⟨line, hopens⟩ => hopens.cases_of_known
  · rw [hkeys]
    exact nodup_knownParameters names
  · intro name
    rw [hkeys]
    exact mem_knownParameters
  · intro entry hentry
    obtain ⟨name, -, rfl⟩ := List.mem_map.mp hentry
    rfl

end HeaderBindings
