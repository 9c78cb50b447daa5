import HeaderBindings.Proofs.HarvestedComment

/-! Comments of two functions. The end behind which a comment is looked for belongs to the
declaration visited last, in whatever file, so the search may go back behind a function that
already has the comment. -/

namespace HeaderBindings

/-- Where the file of a comment has it, whichever inclusion it was read in. -/
def Source.commentPlace (source : Source) (token : CommentToken) : String × Nat :=
  (source.fileName ⟨token.inclusion, 0⟩, token.lexeme.start)

/-- The search from a mark to the start of a declaration ends with the comment at a place. -/
def Source.Finds (source : Source) (mark start : Mark) (place : String × Nat) : Prop :=
  mark.seen.offset < start.seen.offset ∧ ∃ first ∈ mark.spelled, ∃ stop ∈ start.spelled,
    first.inclusion = stop.inclusion ∧ source.fileName first = place.1 ∧
    ∃ lexeme, lexeme.start = place.2 ∧
      IsLastComment (source.lexemesOf first) first.offset stop.offset lexeme

theorem Source.exists_harvested_iff {source : Source} {previous : Option Mark} {start : Mark}
    {place : String × Nat} :
    (∃ token ∈ source.harvested previous start, source.commentPlace token = place) ↔
      ∃ mark ∈ source.commentStart previous start, source.Finds mark start place := by
  constructor
  · rintro ⟨token, htoken, rfl⟩
    obtain ⟨stretch, hstretch, hinclusion, hlast⟩ := harvested_eq_some_iff.mp htoken
    obtain ⟨mark, hmark, hlt, hfirst, hstop, hsame⟩ := commentStretch_eq_some_iff.mp hstretch
    refine ⟨mark, hmark, hlt, _, hfirst, _, hstop, hsame, ?_, _, rfl, hlast⟩
    simp only [commentPlace, fileName, hinclusion]
  · rintro ⟨mark, hmark, hlt, first, hfirst, stop, hstop, hsame, hname, lexeme, hstart, hlast⟩
    have hstretch : source.commentStretch previous start = some ⟨first, stop⟩ :=
      commentStretch_eq_some_iff.mpr ⟨mark, hmark, hlt, hfirst, hstop, hsame⟩
    refine ⟨⟨first.inclusion, lexeme⟩, harvested_eq_some_iff.mpr ⟨_, hstretch, rfl, hlast⟩, ?_⟩
    exact Prod.ext hname hstart

theorem Source.Finds.offset_le {source : Source} {mark start : Mark} {place : String × Nat}
    {first : Place} (h : source.Finds mark start place) (hfirst : first ∈ mark.spelled) :
    first.offset ≤ place.2 := by
  obtain ⟨_, own, hown, _, _, _, _, lexeme, hstart, hlast⟩ := h
  rw [← hstart, Option.some.inj (hfirst.symm.trans hown)]
  exact hlast.read.2.1

/-- Two visits harvest the same comment of a file, in one inclusion of it or in two. -/
def PassContext.SharesComment (context : PassContext) (earlier later : Visit) : Prop :=
  ∃ token ∈ context.harvested earlier, ∃ token' ∈ context.harvested later,
    context.source.commentPlace token' = context.source.commentPlace token

/-- Two functions have one comment just if the search for the later one's goes back to it: from the
end of the declaration visited before, if that lies in the same file, and else from the start of
the file. The former cannot be where that declaration ends behind the comment. -/
theorem run_shared_comment_iff (context : PassContext) (declarations : List Declaration)
    (hends : ∀ declaration ∈ declarations, context.isInScope declaration = true →
      context.source.EndsLexeme declaration.stop)
    {before between after : List Visit} {earlier later : Visit}
    (hvisits : context.visits .start declarations =
      before ++ earlier :: between ++ later :: after)
    {function function' : Artifact} {comment comment' : String}
    (hadded : function ∈ context.added earlier) (hcomment : comment ∈ function.comment?)
    (hadded' : function' ∈ context.added later) (hcomment' : comment' ∈ function'.comment?) :
    let source := context.source
    let start := later.declaration.start
    let last := (between.getLast?.getD earlier).declaration.stop
    comment = ((context.harvested earlier).map (·.lexeme.written)).getD "" ∧
      comment' = ((context.harvested later).map (·.lexeme.written)).getD "" ∧
      (context.SharesComment earlier later ↔ ∃ token ∈ context.harvested earlier,
        if source.fileName last.seen = source.fileName start.seen then
          source.Finds last start (source.commentPlace token)
        else ∃ mark ∈ source.fileStart (source.fileName start.seen),
          source.Finds mark start (source.commentPlace token)) ∧
      (source.fileName last.seen = source.fileName start.seen →
        (∀ token ∈ context.harvested earlier, ∀ stop ∈ last.spelled,
          token.lexeme.start < stop.offset) →
        ¬ context.SharesComment earlier later) := by
  intro source start last
  have hmem : earlier ∈ context.visits .start declarations := by simp [hvisits]
  have hmem' : later ∈ context.visits .start declarations := by simp [hvisits]
  have hprevious : later.before.previousEnd = some last := by
    rw [PassContext.previousEnd_of_visits hvisits, List.getLast?_append, List.getLast?_cons]
    rfl
  have hstart : source.commentStart (some last) start =
      if source.fileName last.seen = source.fileName start.seen then some last
      else source.fileStart (source.fileName start.seen) := rfl
  have hshares : context.SharesComment earlier later ↔ ∃ token ∈ context.harvested earlier,
      if source.fileName last.seen = source.fileName start.seen then
        source.Finds last start (source.commentPlace token)
      else ∃ mark ∈ source.fileStart (source.fileName start.seen),
        source.Finds mark start (source.commentPlace token) := by
    refine exists_congr fun token => and_congr_right fun _ => ?_
    rw [PassContext.harvested, hprevious, Source.exists_harvested_iff, hstart]
    split
    · simp only [Option.mem_def, Option.some.injEq, exists_eq_left']
      exact Iff.rfl
    · exact Iff.rfl
  refine ⟨PassContext.comment_eq_harvested hends hmem hadded hcomment,
    PassContext.comment_eq_harvested hends hmem' hadded' hcomment', hshares, ?_⟩
  intro hsame hbehind h
  obtain ⟨token, htoken, hfinds⟩ := hshares.mp h
  rw [if_pos hsame] at hfinds
  obtain ⟨stop, hstop⟩ : ∃ stop, stop ∈ last.spelled := by
    obtain ⟨-, stop, hstop, -⟩ := hfinds
    exact ⟨stop, hstop⟩
  have hle := hfinds.offset_le hstop
  have hlt := hbehind token htoken stop hstop
  exact absurd hle (Nat.not_le_of_lt hlt)

/-! A header with two functions, and one that is included between them. -/

def shapesContext : PassContext where
  source := ⟨.default, [],
    [⟨"./shapes.h",
      "/* Draws a line. */\nvoid line(void);\n#include \"text.h\"\nvoid circle(void);\n"⟩,
      ⟨"./text.h", "void text(void);\n"⟩], []⟩
  target := ⟨.x86_64, .linux, true, false, false, none⟩
  tags := []
  files := ["shapes.h", "text.h"]
  blacklist := []
  prefixes := []
  oddPrefix := none

/-- A function without parameters, by the inclusion and the offsets where it starts and stops. -/
def shapesFunction (name : String) (inclusion start stop : Nat) : Declaration :=
  ⟨name, ⟨inclusion, start⟩, ⟨⟨inclusion, start⟩, some ⟨inclusion, start⟩⟩,
    ⟨⟨inclusion, stop⟩, some ⟨inclusion, stop⟩⟩, .function (.function (.basic .void) [] .fixed) false⟩

def lineFunction : Declaration := shapesFunction "line" 0 20 35

def textFunction : Declaration := shapesFunction "text" 1 0 15

def circleFunction : Declaration := shapesFunction "circle" 0 55 72

theorem PassContext.sharesComment_of_places {context : PassContext} {earlier later : Visit}
    {place : String × Nat}
    (h : (context.harvested earlier).map context.source.commentPlace = some place)
    (h' : (context.harvested later).map context.source.commentPlace = some place) :
    context.SharesComment earlier later := by
  obtain ⟨token, htoken, rfl⟩ := Option.map_eq_some_iff.mp h
  obtain ⟨token', htoken', hplace⟩ := Option.map_eq_some_iff.mp h'
  exact ⟨token, htoken, token', htoken', hplace⟩

def afterLine : PassState := (shapesContext.visit .start lineFunction).1

theorem visits_line (rest : List Declaration) :
    shapesContext.visits .start (lineFunction :: rest) =
      ⟨.start, lineFunction⟩ :: shapesContext.visits afterLine rest :=
  PassContext.visits_cons rest (by decide) (by decide +kernel)

theorem exists_line : ∃ line ∈ shapesContext.added ⟨.start, lineFunction⟩,
    "/* Draws a line. */" ∈ line.comment? :=
  PassContext.exists_of_comments (by decide +kernel)

theorem shapes_comment_own :
    ¬ shapesContext.SharesComment ⟨.start, lineFunction⟩ ⟨afterLine, circleFunction⟩ := by
  have hcircle : shapesContext.visits afterLine [circleFunction] =
      ⟨afterLine, circleFunction⟩ :: _ :=
    PassContext.visits_cons [] (by decide) (by decide +kernel)
  have hvisits : shapesContext.visits .start [lineFunction, circleFunction] =
      [] ++ ⟨.start, lineFunction⟩ :: [] ++ ⟨afterLine, circleFunction⟩ :: _ :=
    (visits_line _).trans (congrArg (_ :: ·) hcircle)
  have hends : ∀ declaration ∈ [lineFunction, circleFunction],
      shapesContext.isInScope declaration = true →
        shapesContext.source.EndsLexeme declaration.stop := by
    intro declaration hdeclaration _ place hplace
    simp only [List.mem_cons, List.not_mem_nil, or_false] at hdeclaration
    rcases hdeclaration with rfl | rfl <;> (cases hplace; decide +kernel)
  obtain ⟨line, hline, hcomment⟩ := exists_line
  obtain ⟨circle, hadded, hcomment'⟩ := PassContext.exists_of_comments (by decide +kernel :
    (shapesContext.added ⟨afterLine, circleFunction⟩).filterMap Artifact.comment? = [""])
  obtain ⟨-, -, -, hbehind⟩ := run_shared_comment_iff shapesContext [lineFunction, circleFunction]
    hends hvisits hline hcomment hadded hcomment'
  refine hbehind rfl fun token htoken stop hstop => ?_
  have hstart : (shapesContext.harvested ⟨.start, lineFunction⟩).map (·.lexeme.start) = some 0 := by
    decide +kernel
  rw [Option.mem_def.mp htoken] at hstart
  have hzero : token.lexeme.start = 0 := Option.some.inj hstart
  cases hstop
  rw [hzero]
  decide

theorem shapes_comment_shared :
    ¬ ∀ before earlier between later after,
        shapesContext.visits .start [lineFunction, textFunction, circleFunction] =
          before ++ earlier :: between ++ later :: after →
        ∀ function ∈ shapesContext.added earlier, ∀ function' ∈ shapesContext.added later,
          function.comment?.isSome → function'.comment?.isSome →
          earlier.declaration.start ≠ later.declaration.start →
          ¬ shapesContext.SharesComment earlier later := by
  intro h
  have htext : shapesContext.visits afterLine [textFunction, circleFunction] =
      ⟨afterLine, textFunction⟩ :: _ :=
    PassContext.visits_cons [circleFunction] (by decide) (by decide +kernel)
  let afterText : PassState := (shapesContext.visit afterLine textFunction).1
  have hcircle : shapesContext.visits afterText [circleFunction] =
      ⟨afterText, circleFunction⟩ :: _ :=
    PassContext.visits_cons [] (by decide) (by decide +kernel)
  have hvisits : shapesContext.visits .start [lineFunction, textFunction, circleFunction] =
      [] ++ ⟨.start, lineFunction⟩ :: [⟨afterLine, textFunction⟩] ++
        ⟨afterText, circleFunction⟩ :: _ :=
    (visits_line _).trans (congrArg (_ :: ·) (htext.trans (congrArg (_ :: ·) hcircle)))
  obtain ⟨line, hline, hcomment⟩ := exists_line
  obtain ⟨circle, hadded, hcomment'⟩ := PassContext.exists_of_comments (by decide +kernel :
    (shapesContext.added ⟨afterText, circleFunction⟩).filterMap Artifact.comment? =
      ["/* Draws a line. */"])
  have hplace : (shapesContext.harvested ⟨.start, lineFunction⟩).map
      shapesContext.source.commentPlace = some ("./shapes.h", 0) := by decide +kernel
  have hplace' : (shapesContext.harvested ⟨afterText, circleFunction⟩).map
      shapesContext.source.commentPlace = some ("./shapes.h", 0) := by decide +kernel
  exact h _ _ _ _ _ hvisits line hline circle hadded
    (Option.isSome_of_mem hcomment) (Option.isSome_of_mem hcomment') (by decide)
    (PassContext.sharesComment_of_places hplace hplace')

end HeaderBindings
