import HeaderBindings.Proofs.HarvestedComment

/-! The comment directly in front of a function. It is harvested if the search starts in front of
it, and lost if a declaration that was visited before ends behind it. -/

namespace HeaderBindings

section

variable {language : Language} {text : String} {front rest : List Lexeme} {direct token : Lexeme}

/-- Every other lexeme lies in front of the first of two neighbours or behind the second one. -/
theorem fileLexemes_neighbours (hfile : fileLexemes language text = front ++ direct :: token :: rest)
    {lexeme : Lexeme} (h : lexeme ∈ fileLexemes language text) :
    lexeme.stop ≤ direct.start ∨ lexeme = direct ∨ lexeme = token ∨ token.stop ≤ lexeme.start := by
  have hsorted := fileLexemes_sorted language text
  rw [hfile] at hsorted h
  obtain ⟨-, hback, hcross⟩ := List.pairwise_append.mp hsorted
  rcases List.mem_append.mp h with h | h
  · exact .inl (hcross lexeme h direct List.mem_cons_self)
  · rcases List.mem_cons.mp h with rfl | h
    · exact .inr (.inl rfl)
    · rcases List.mem_cons.mp h with rfl | h
      · exact .inr (.inr (.inl rfl))
      · exact .inr (.inr (.inr ((List.pairwise_cons.mp (List.pairwise_cons.mp hback).2).1 lexeme h)))

/-- The comment in front of a token is the last one up to it, wherever reading starts before. -/
theorem isLastComment_iff_of_neighbours
    (hfile : fileLexemes language text = front ++ direct :: token :: rest)
    (hdirect : direct.kind = .comment) (htoken : token.kind ≠ .comment) (first : Nat) :
    IsLastComment (fileLexemes language text) first token.start direct ↔ first ≤ direct.start := by
  have hmem : direct ∈ fileLexemes language text := by simp [hfile]
  have hmem' : token ∈ fileLexemes language text := by simp [hfile]
  have hpositive := start_lt_stop_of_mem_fileLexemes hmem
  have hpositive' := start_lt_stop_of_mem_fileLexemes hmem'
  have hsorted := fileLexemes_sorted language text
  rw [hfile] at hsorted
  have hnext : direct.stop ≤ token.start :=
    (List.pairwise_cons.mp (List.pairwise_append.mp hsorted).2.1).1 token List.mem_cons_self
  refine ⟨fun h => h.read.2.1, fun hfirst => ⟨⟨hmem, hfirst, ?_⟩, hdirect, ?_⟩⟩
  · intro earlier hearlier _ hlt
    have hproper := start_lt_stop_of_mem_fileLexemes hearlier
    rcases fileLexemes_neighbours hfile hearlier with h | rfl | rfl | h <;> omega
  · intro later ⟨hlater, _, hbefore⟩ hkind
    have hproper := start_lt_stop_of_mem_fileLexemes hlater
    rcases fileLexemes_neighbours hfile hlater with h | rfl | rfl | h
    · omega
    · exact Nat.le_refl _
    · exact absurd hkind htoken
    · have hstop := hbefore token hmem' (by omega) (by omega)
      omega

end

/-- The comment of a function is that of its visit, and that is the comment directly in front of it
just if it is the last one in the stretch that is searched; where the first token of the function
is spelled where it is seen, just if that stretch starts at or in front of the comment. -/
theorem run_direct_comment_iff (context : PassContext) (declarations : List Declaration)
    (hends : ∀ declaration ∈ declarations, context.isInScope declaration = true →
      context.source.EndsLexeme declaration.stop)
    {before after : List Visit} {visit : Visit}
    (hvisits : context.visits .start declarations = before ++ visit :: after)
    {artifact : Artifact} {comment : String} (hadded : artifact ∈ context.added visit)
    (hcomment : comment ∈ artifact.comment?) {front rest : List Lexeme} {direct token : Lexeme}
    (hfile : context.source.lexemesOf visit.declaration.start.seen =
      front ++ direct :: token :: rest)
    (hdirect : direct.kind = .comment) (htoken : token.kind ≠ .comment)
    (hstart : token.start = visit.declaration.start.seen.offset) :
    let start := visit.declaration.start
    let previous := before.getLast?.map (·.declaration.stop)
    comment = ((context.harvested visit).map (·.lexeme.written)).getD "" ∧
      (context.harvested visit = some ⟨start.seen.inclusion, direct⟩ ↔
        ∃ stretch, context.source.commentStretch previous start = some stretch ∧
          stretch.start.inclusion = start.seen.inclusion ∧
          IsLastComment (context.source.lexemesOf start.seen) stretch.start.offset
            stretch.stop.offset direct) ∧
      (start.spelled = some start.seen →
        (context.harvested visit = some ⟨start.seen.inclusion, direct⟩ ↔
          ∃ first, context.source.commentStretch previous start = some ⟨first, start.seen⟩ ∧
            first.offset ≤ direct.start)) := by
  intro start previous
  have hmem : visit ∈ context.visits .start declarations := by simp [hvisits]
  have hprevious : visit.before.previousEnd = previous := PassContext.previousEnd_of_visits hvisits
  have hsame : ∀ {place : Place}, place.inclusion = start.seen.inclusion →
      context.source.lexemesOf place = context.source.lexemesOf start.seen := by
    intro place hplace
    simp only [Source.lexemesOf, Source.fileText, hplace]
  have hgeneral : context.harvested visit = some ⟨start.seen.inclusion, direct⟩ ↔
      ∃ stretch, context.source.commentStretch previous start = some stretch ∧
        stretch.start.inclusion = start.seen.inclusion ∧
        IsLastComment (context.source.lexemesOf start.seen) stretch.start.offset
          stretch.stop.offset direct := by
    rw [PassContext.harvested, hprevious, Source.harvested_eq_some_iff]
    refine exists_congr fun stretch => and_congr_right fun _ =>
      and_congr_right fun hinclusion => ?_
    rw [hsame hinclusion]
  refine ⟨PassContext.comment_eq_harvested hends hmem hadded hcomment, hgeneral,
    fun hspelled => hgeneral.trans ?_⟩
  constructor
  · rintro ⟨stretch, hstretch, -, hlast⟩
    obtain ⟨-, -, -, -, hstop, -⟩ := Source.commentStretch_eq_some_iff.mp hstretch
    have hseen : stretch.stop = start.seen := Option.some.inj (hstop.symm.trans hspelled)
    exact ⟨stretch.start, by rw [hstretch, ← hseen], hlast.read.2.1⟩
  · rintro ⟨first, hstretch, hfirst⟩
    obtain ⟨-, -, -, -, -, hinclusion⟩ := Source.commentStretch_eq_some_iff.mp hstretch
    refine ⟨_, hstretch, hinclusion, ?_⟩
    dsimp only
    rw [← hstart]
    exact (isLastComment_iff_of_neighbours hfile hdirect htoken first.offset).mpr hfirst

/-! A header with one function, where its struct is known, and where the function is the first to
mention it. -/

def widgetContext : PassContext where
  source := ⟨.default, [],
    [⟨"./widget.h", "/* Opens a widget. */\nstruct widget *open_widget(void);\n"⟩], []⟩
  target := ⟨.x86_64, .linux, true, false, false, none⟩
  tags := [⟨.struct, some "widget", none, .incomplete⟩]
  files := ["widget.h"]
  blacklist := []
  prefixes := []
  oddPrefix := none

def widgetTag : Declaration :=
  ⟨"widget", ⟨0, 29⟩, ⟨⟨0, 22⟩, some ⟨0, 22⟩⟩, ⟨⟨0, 35⟩, some ⟨0, 35⟩⟩, .tag 0 []⟩

def widgetFunction : Declaration :=
  ⟨"open_widget", ⟨0, 37⟩, ⟨⟨0, 22⟩, some ⟨0, 22⟩⟩, ⟨⟨0, 54⟩, some ⟨0, 54⟩⟩,
    .function (.function (.pointer (.tag 0 false)) [] .fixed) false⟩

theorem widget_lexemes : ∃ direct token rest,
    widgetContext.source.lexemesOf widgetFunction.start.seen = [] ++ direct :: token :: rest ∧
      direct.kind = .comment ∧ direct.start = 0 ∧ direct.written = "/* Opens a widget. */" ∧
      token.kind ≠ .comment ∧ token.start = 22 := by
  have hfirst : ((widgetContext.source.lexemesOf widgetFunction.start.seen).take 2).map
      (fun lexeme => (lexeme.kind, lexeme.start, lexeme.written)) =
        [(.comment, 0, "/* Opens a widget. */"), (.identifier, 22, "struct")] := by decide +kernel
  generalize widgetContext.source.lexemesOf widgetFunction.start.seen = lexemes at hfirst ⊢
  match lexemes, hfirst with
  | [_], hfirst => simp at hfirst
  | direct :: token :: rest, hfirst =>
    simp only [List.take, List.map, List.cons.injEq, Prod.mk.injEq] at hfirst
    obtain ⟨⟨hdirect, hzero, hwritten⟩, ⟨htoken, hstart, -⟩, -⟩ := hfirst
    exact ⟨direct, token, rest, rfl, hdirect, hzero, hwritten, by rw [htoken]; decide, hstart⟩

theorem widget_comment_kept : ∃ direct token rest,
    widgetContext.source.lexemesOf widgetFunction.start.seen = [] ++ direct :: token :: rest ∧
      widgetContext.harvested ⟨.start, widgetFunction⟩ = some ⟨0, direct⟩ ∧
      direct.written = "/* Opens a widget. */" := by
  obtain ⟨direct, token, rest, hfile, hdirect, hzero, hwritten, htoken, hstart⟩ := widget_lexemes
  have hvisits : widgetContext.visits .start [widgetFunction] =
      [] ++ ⟨.start, widgetFunction⟩ :: _ :=
    PassContext.visits_cons [] (by decide) (by decide +kernel)
  have hends : ∀ declaration ∈ [widgetFunction], widgetContext.isInScope declaration = true →
      widgetContext.source.EndsLexeme declaration.stop := by
    intro declaration hdeclaration _ place hplace
    rw [List.mem_singleton.mp hdeclaration] at hplace
    cases hplace
    decide +kernel
  obtain ⟨artifact, hadded, hcomment⟩ := PassContext.exists_of_comments (by decide +kernel :
    (widgetContext.added ⟨.start, widgetFunction⟩).filterMap Artifact.comment? =
      ["/* Opens a widget. */"])
  obtain ⟨-, -, hplain⟩ := run_direct_comment_iff widgetContext [widgetFunction] hends hvisits
    hadded hcomment hfile hdirect htoken hstart
  exact ⟨direct, token, rest, hfile,
    (hplain rfl).mpr ⟨⟨0, 0⟩, by decide, hzero ▸ Nat.le_refl _⟩, hwritten⟩

theorem widget_comment_lost :
    ¬ ∀ before visit after, widgetContext.visits .start [widgetTag, widgetFunction] =
          before ++ visit :: after →
        ∀ artifact ∈ widgetContext.added visit, ∀ comment ∈ artifact.comment?,
          ∀ front direct token rest,
            widgetContext.source.lexemesOf visit.declaration.start.seen =
              front ++ direct :: token :: rest →
            direct.kind = .comment → token.kind ≠ .comment →
            token.start = visit.declaration.start.seen.offset → comment = direct.written := by
  intro h
  have hfirst := PassContext.visits_cons [widgetFunction]
    (by decide : widgetContext.isInScope widgetTag)
    (by decide +kernel : (widgetContext.visit .start widgetTag).2 = none)
  have hsecond := PassContext.visits_cons [] (by decide : widgetContext.isInScope widgetFunction)
    (by decide +kernel : (widgetContext.visit (widgetContext.visit .start widgetTag).1
      widgetFunction).2 = none)
  rw [hsecond] at hfirst
  obtain ⟨artifact, hadded, hcomment⟩ := PassContext.exists_of_comments (by decide +kernel :
    (widgetContext.added ⟨(widgetContext.visit .start widgetTag).1, widgetFunction⟩).filterMap
      Artifact.comment? = [""])
  obtain ⟨direct, token, rest, hfile, hdirect, -, hwritten, htoken, hstart⟩ := widget_lexemes
  have hempty := h [_] _ _ hfirst artifact hadded "" hcomment [] direct token rest hfile hdirect
    htoken hstart
  rw [hwritten] at hempty
  exact absurd hempty (by decide)

end HeaderBindings
