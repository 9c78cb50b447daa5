import HeaderBindings.Proofs.CompilerFlag
import HeaderBindings.Proofs.FirstOccurrence

/-! What each argument adds to a split. It is meant to add itself, the flag behind a mark at its start,
or nothing if it begins or ends a group. But an argument is cut at every mark in it, wherever it stands,
and what is in front of the first one is dropped. So a split is the one that is meant exactly if no
argument has a mark inside. -/

namespace HeaderBindings

/-- Whether an argument has the mark of the compiler in it, but not at its start. -/
def HasMarkInside (argument : String) : Prop := compilerMark.toList <:+: argument.toList.drop 1

instance (argument : String) : Decidable (HasMarkInside argument) :=
  inferInstanceAs (Decidable (compilerMark.toList <:+: argument.toList.drop 1))

/-- What arguments are meant to come to, by one rule for each thing that an argument can be; `grouped`
says whether a group is open. -/
inductive Assigns : Bool → List String → SplitArguments → Prop
  | none {grouped : Bool} : Assigns grouped [] ⟨[], []⟩
  | own {argument : String} {rest : List String} {split : SplitArguments}
      (word : ¬ compilerMark.toList <+: argument.toList) (others : Assigns false rest split) :
      Assigns false (argument :: rest) (split.addOwn argument)
  | inside {argument : String} {rest : List String} {split : SplitArguments}
      (word : ¬ compilerMark.toList <+: argument.toList) (others : Assigns true rest split) :
      Assigns true (argument :: rest) (split.addCompiler [argument])
  | flag {grouped : Bool} {argument flag : String} {rest : List String} {split : SplitArguments}
      (marked : argument = compilerMark ++ flag) (ne_start : flag ≠ groupStart)
      (ne_end : flag ≠ groupEnd) (others : Assigns grouped rest split) :
      Assigns grouped (argument :: rest) (split.addCompiler [flag])
  | opening {grouped : Bool} {argument : String} {rest : List String} {split : SplitArguments}
      (marked : argument = compilerMark ++ groupStart) (others : Assigns true rest split) :
      Assigns grouped (argument :: rest) split
  | closing {grouped : Bool} {argument : String} {rest : List String} {split : SplitArguments}
      (marked : argument = compilerMark ++ groupEnd) (others : Assigns false rest split) :
      Assigns grouped (argument :: rest) split

/-! Marks in an argument. -/

section

variable {argument flag piece : String}

theorem compilerMark_toList : compilerMark.toList = '-' :: "Wc,".toList := rfl

theorem mark_prefix_iff :
    compilerMark.toList <+: argument.toList ↔ ∃ flag, argument = compilerMark ++ flag := by
  constructor
  · rintro ⟨rest, hrest⟩
    exact ⟨String.ofList rest, by rw [← String.toList_inj, String.toList_append, ← hrest]; simp⟩
  · rintro ⟨flag, rfl⟩
    exact ⟨flag.toList, String.toList_append.symm⟩

theorem mark_append_inj {other : String} (h : compilerMark ++ flag = compilerMark ++ other) :
    flag = other := by
  rw [← String.toList_inj, String.toList_append, String.toList_append] at h
  exact String.toList_inj.mp (List.append_cancel_left h)

/-- Every argument is a word, or has a flag behind a mark. -/
theorem word_or_marked (argument : String) :
    ¬ compilerMark.toList <+: argument.toList ∨ ∃ flag, argument = compilerMark ++ flag := by
  rw [← mark_prefix_iff]
  exact (em _).symm

theorem isMarked_iff : IsMarked argument ↔
    compilerMark.toList <+: argument.toList ∨ HasMarkInside argument := by
  rw [IsMarked, HasMarkInside]
  cases argument.toList with
  | nil => simp [compilerMark_toList]
  | cons c rest => exact List.infix_cons_iff

theorem hasMarkInside_mark_append : HasMarkInside (compilerMark ++ flag) ↔ IsMarked flag := by
  have hdrop : (compilerMark ++ flag).toList.drop 1 = "Wc,".toList ++ flag.toList := by
    rw [String.toList_append, compilerMark_toList]
    rfl
  rw [HasMarkInside, hdrop, IsMarked, compilerMark_toList]
  exact ⟨infix_append_of_not_mem (by decide), fun h => h.trans (List.suffix_append _ _).isInfix⟩

end

/-! The pieces of an argument. -/

theorem splitAtText_of_isFirstCut {first : Char} {others before after text : List Char}
    (hfirst : first ∉ others) (h : IsFirstCut (first :: others) before after text) :
    splitAtText (first :: others) [] text = before :: splitAtText (first :: others) [] after := by
  have hsplit : splitAtText (first :: others) [] (before ++ (first :: (others ++ after))) =
      ([].reverse ++ before) :: splitAtText (first :: others) [] after :=
    splitAtText_append hfirst (h.not_infix_before (List.cons_ne_nil first others))
  rw [h.text_eq]
  simpa using hsplit

theorem splitAtText_ne_nil {first : Char} {others text : List Char} (hfirst : first ∉ others) :
    splitAtText (first :: others) [] text ≠ [] := by
  by_cases hinfix : first :: others <:+: text
  · obtain ⟨before, after, hcut⟩ := exists_isFirstCut hinfix
    rw [splitAtText_of_isFirstCut hfirst hcut]
    exact List.cons_ne_nil _ _
  · have hwhole : splitAtText (first :: others) [] text = [text] :=
      splitAtText_of_not_infix hinfix
    rw [hwhole]
    exact List.cons_ne_nil _ _

/-- No piece between separators has a separator in it. -/
theorem not_infix_of_mem_splitAtText {first : Char} {others piece text : List Char}
    (hfirst : first ∉ others) (h : piece ∈ splitAtText (first :: others) [] text) :
    ¬ first :: others <:+: piece := by
  by_cases hinfix : first :: others <:+: text
  · obtain ⟨before, after, hcut⟩ := exists_isFirstCut hinfix
    have hshorter : after.length < text.length := by
      rw [hcut.text_eq]
      simp only [List.length_append, List.length_cons]
      omega
    rw [splitAtText_of_isFirstCut hfirst hcut] at h
    rcases List.mem_cons.mp h with rfl | hafter
    · exact hcut.not_infix_before (List.cons_ne_nil first others)
    · exact not_infix_of_mem_splitAtText hfirst hafter
  · have hwhole : splitAtText (first :: others) [] text = [text] :=
      splitAtText_of_not_infix hinfix
    rw [hwhole] at h
    rwa [List.mem_singleton.mp h]
termination_by text.length

section

variable {argument piece : String} {grouped : Bool} {arguments : List String}

theorem not_isMarked_of_mem_compilerPieces (h : piece ∈ compilerPieces argument) :
    ¬ IsMarked piece := by
  obtain ⟨text, htext, rfl⟩ := List.mem_map.mp h
  rw [IsMarked, String.toList_ofList]
  exact not_infix_of_mem_splitAtText (by decide) (List.mem_of_mem_drop htext)

theorem compilerPieces_ne_nil (h : IsMarked argument) : compilerPieces argument ≠ [] := by
  obtain ⟨before, after, hcut⟩ := exists_isFirstCut h
  have hsplit : splitAtText compilerMark.toList [] argument.toList =
      before :: splitAtText compilerMark.toList [] after :=
    splitAtText_of_isFirstCut (by decide) hcut
  have hrest : splitAtText compilerMark.toList [] after ≠ [] := splitAtText_ne_nil (by decide)
  rw [compilerPieces, hsplit]
  simpa using hrest

/-! What comes out of a split. -/

def SplitArguments.entries (split : SplitArguments) : List String := split.own ++ split.compiler

theorem SplitArguments.mem_entries_append {first second : SplitArguments} :
    piece ∈ (first ++ second).entries ↔ piece ∈ first.entries ∨ piece ∈ second.entries := by
  simp only [entries, own_append, compiler_append, List.mem_append]
  tauto

theorem mem_entries_addCompiler {split : SplitArguments} :
    piece ∈ (split.addCompiler [argument]).entries ↔ piece = argument ∨ piece ∈ split.entries := by
  simp only [SplitArguments.entries, SplitArguments.addCompiler, List.mem_append,
    List.mem_singleton]
  tauto

theorem mem_entries_singleton (h : piece ∈ (splitArguments grouped [argument]).entries) :
    piece ∈ compilerPieces argument ∨ compilerPieces argument = [] ∧ piece = argument := by
  simp only [splitArguments] at h
  cases hpieces : compilerPieces argument with
  | nil =>
    rw [hpieces] at h
    cases grouped <;> exact .inr ⟨rfl, List.mem_singleton.mp h⟩
  | cons first pieces =>
    rw [hpieces] at h
    cases pieces with
    | nil =>
      dsimp only at h
      split at h
      · cases h
      · split at h
        · cases h
        · exact .inl h
    | cons second pieces =>
      exact .inl (by simpa [SplitArguments.entries, SplitArguments.addCompiler] using h)

theorem not_isMarked_of_mem_splitArguments
    (h : piece ∈ (splitArguments grouped arguments).entries) : ¬ IsMarked piece := by
  induction arguments generalizing grouped with
  | nil => cases h
  | cons argument rest ih =>
    rw [splitArguments_cons, SplitArguments.mem_entries_append] at h
    rcases h with hfirst | hrest
    · rcases mem_entries_singleton hfirst with hpiece | ⟨hnil, rfl⟩
      · exact not_isMarked_of_mem_compilerPieces hpiece
      · exact fun hmarked => compilerPieces_ne_nil hmarked hnil
    · exact ih hrest

end

/-! What arguments are meant to come to. -/

section

variable {grouped : Bool} {argument flag : String} {rest arguments : List String}
  {split other : SplitArguments}

theorem assigns_word_iff (word : ¬ compilerMark.toList <+: argument.toList) :
    Assigns grouped (argument :: rest) split ↔
      ∃ others, Assigns grouped rest others ∧
        split = if grouped then others.addCompiler [argument] else others.addOwn argument := by
  constructor
  · intro h
    cases h with
    | own _ others | inside _ others => exact ⟨_, others, rfl⟩
    | flag marked | opening marked | closing marked =>
      exact absurd (mark_prefix_iff.mpr ⟨_, marked⟩) word
  · rintro ⟨others, hothers, rfl⟩
    cases grouped with
    | true => exact .inside word hothers
    | false => exact .own word hothers

theorem assigns_flag_iff (ne_start : flag ≠ groupStart) (ne_end : flag ≠ groupEnd) :
    Assigns grouped ((compilerMark ++ flag) :: rest) split ↔
      ∃ others, Assigns grouped rest others ∧ split = others.addCompiler [flag] := by
  constructor
  · intro h
    cases h with
    | own word | inside word => exact absurd (mark_prefix_iff.mpr ⟨flag, rfl⟩) word
    | flag marked _ _ others => exact ⟨_, others, by rw [mark_append_inj marked]⟩
    | opening marked => exact absurd (mark_append_inj marked) ne_start
    | closing marked => exact absurd (mark_append_inj marked) ne_end
  · rintro ⟨others, hothers, rfl⟩
    exact .flag rfl ne_start ne_end hothers

theorem assigns_opening_iff :
    Assigns grouped ((compilerMark ++ groupStart) :: rest) split ↔ Assigns true rest split := by
  constructor
  · intro h
    cases h with
    | own word | inside word => exact absurd (mark_prefix_iff.mpr ⟨groupStart, rfl⟩) word
    | flag marked ne_start => exact absurd (mark_append_inj marked).symm ne_start
    | opening _ others => exact others
    | closing marked => exact absurd (mark_append_inj marked) (by decide)
  · exact .opening rfl

theorem assigns_closing_iff :
    Assigns grouped ((compilerMark ++ groupEnd) :: rest) split ↔ Assigns false rest split := by
  constructor
  · intro h
    cases h with
    | own word | inside word => exact absurd (mark_prefix_iff.mpr ⟨groupEnd, rfl⟩) word
    | flag marked _ ne_end => exact absurd (mark_append_inj marked).symm ne_end
    | opening marked => exact absurd (mark_append_inj marked) (by decide)
    | closing _ others => exact others
  · exact .closing rfl

/-- The rules fit every row of arguments, in one way only. -/
theorem existsUnique_assigns (grouped : Bool) (arguments : List String) :
    ∃! split, Assigns grouped arguments split := by
  induction arguments generalizing grouped with
  | nil => exact ⟨_, .none, fun split h => by cases h; rfl⟩
  | cons argument rest ih =>
    rcases word_or_marked argument with hword | ⟨flag, rfl⟩
    · obtain ⟨others, hothers, hunique⟩ := ih grouped
      simp only [assigns_word_iff hword]
      exact ⟨_, ⟨others, hothers, rfl⟩, fun split ⟨_, h, hsplit⟩ => hunique _ h ▸ hsplit⟩
    · by_cases hstart : flag = groupStart
      · simpa only [hstart, assigns_opening_iff] using ih true
      · by_cases hend : flag = groupEnd
        · simpa only [hend, assigns_closing_iff] using ih false
        · obtain ⟨others, hothers, hunique⟩ := ih grouped
          simp only [assigns_flag_iff hstart hend]
          exact ⟨_, ⟨others, hothers, rfl⟩, fun split ⟨_, h, hsplit⟩ => hunique _ h ▸ hsplit⟩

theorem assigns_splitArguments (h : ∀ argument ∈ arguments, ¬ HasMarkInside argument) :
    Assigns grouped arguments (splitArguments grouped arguments) := by
  induction arguments generalizing grouped with
  | nil => exact .none
  | cons argument rest ih =>
    obtain ⟨hargument, hrest⟩ := List.forall_mem_cons.mp h
    rcases word_or_marked argument with hword | ⟨flag, rfl⟩
    · have hunmarked : ¬ IsMarked argument := fun hmarked =>
        (isMarked_iff.mp hmarked).elim hword hargument
      rw [splitArguments, compilerPieces_of_not_isMarked hunmarked, assigns_word_iff hword]
      exact ⟨_, ih hrest, rfl⟩
    · rw [hasMarkInside_mark_append] at hargument
      rw [splitArguments, compilerPieces_mark_append hargument]
      dsimp only
      split
      · next hstart => exact .opening (hstart ▸ rfl) (ih hrest)
      · next hstart =>
        split
        · next hend => exact .closing (hend ▸ rfl) (ih hrest)
        · next hend => exact .flag rfl hstart hend (ih hrest)

/-- A mark inside an argument is meant to stay, so that there is an entry with a mark in it. -/
theorem Assigns.exists_isMarked (h : Assigns grouped arguments split)
    (hargument : argument ∈ arguments) (hinside : HasMarkInside argument) :
    ∃ entry ∈ split.entries, IsMarked entry := by
  induction h with
  | none => cases hargument
  | own word others ih =>
    rcases List.mem_cons.mp hargument with rfl | hrest
    · exact ⟨_, List.mem_cons_self, isMarked_iff.mpr (.inr hinside)⟩
    · obtain ⟨entry, hentry, hmarked⟩ := ih hrest
      exact ⟨entry, List.mem_cons_of_mem _ hentry, hmarked⟩
  | inside word others ih =>
    rcases List.mem_cons.mp hargument with rfl | hrest
    · exact ⟨_, mem_entries_addCompiler.mpr (.inl rfl), isMarked_iff.mpr (.inr hinside)⟩
    · obtain ⟨entry, hentry, hmarked⟩ := ih hrest
      exact ⟨entry, mem_entries_addCompiler.mpr (.inr hentry), hmarked⟩
  | flag marked ne_start ne_end others ih =>
    rcases List.mem_cons.mp hargument with rfl | hrest
    · rw [marked, hasMarkInside_mark_append] at hinside
      exact ⟨_, mem_entries_addCompiler.mpr (.inl rfl), hinside⟩
    · obtain ⟨entry, hentry, hmarked⟩ := ih hrest
      exact ⟨entry, mem_entries_addCompiler.mpr (.inr hentry), hmarked⟩
  | opening marked others ih =>
    refine ih ((List.mem_cons.mp hargument).resolve_left ?_)
    rintro rfl
    rw [marked] at hinside
    exact absurd hinside (by decide)
  | closing marked others ih =>
    refine ih ((List.mem_cons.mp hargument).resolve_left ?_)
    rintro rfl
    rw [marked] at hinside
    exact absurd hinside (by decide)

end

/-- The rules give one split of the arguments, and it is the one that is made exactly if no argument has
a mark inside. -/
theorem splitArguments_assigns_iff (arguments : List String) :
    (∃! split, Assigns false arguments split) ∧
      (Assigns false arguments (splitArguments false arguments) ↔
        ∀ argument ∈ arguments, ¬ HasMarkInside argument) := by
  refine ⟨existsUnique_assigns false arguments, fun h argument hargument hinside => ?_,
    assigns_splitArguments⟩
  obtain ⟨entry, hentry, hmarked⟩ := h.exists_isMarked hargument hinside
  exact not_isMarked_of_mem_splitArguments hentry hmarked

/-- The name of the output is cut at the mark, and its front is lost. -/
theorem cutOutput_not_assigned :
    splitArguments false ["-o", "lib-Wc,x.rb", "a.h"] = ⟨["-o", "a.h"], ["x.rb"]⟩ ∧
      Assigns false ["-o", "lib-Wc,x.rb", "a.h"] ⟨["-o", "lib-Wc,x.rb", "a.h"], []⟩ ∧
      ¬ Assigns false ["-o", "lib-Wc,x.rb", "a.h"]
        (splitArguments false ["-o", "lib-Wc,x.rb", "a.h"]) := by
  have hsplit : splitArguments false ["-o", "lib-Wc,x.rb", "a.h"] = ⟨["-o", "a.h"], ["x.rb"]⟩ := by
    decide +kernel
  have hmeant : Assigns false ["-o", "lib-Wc,x.rb", "a.h"] ⟨["-o", "lib-Wc,x.rb", "a.h"], []⟩ :=
    .own (by decide) (.own (by decide) (.own (by decide) .none))
  refine ⟨hsplit, hmeant, fun h => ?_⟩
  have hsame := (existsUnique_assigns false _).unique h hmeant
  rw [hsplit] at hsame
  exact absurd hsame (by decide)

end HeaderBindings
