import HeaderBindings.Proofs.FileLexeme
import HeaderBindings.Proofs.Visit

/-! The comment that is harvested for a declaration, as a lexeme of its file: the last comment in a
stretch between two marks. A function has the text of the comment harvested in its visit. -/

namespace HeaderBindings

/-! Reading up to an offset. -/

/-- The lexemes that are read up to a byte offset, of which there is at least one. -/
def readUpTo (limit : Nat) : List Lexeme → List Lexeme
  | [] => []
  | lexeme :: rest => if lexeme.stop < limit then lexeme :: readUpTo limit rest else [lexeme]

def lastCommentAmong (lexemes : List Lexeme) : Option Lexeme :=
  (lexemes.filter (·.kind = .comment)).getLast?

theorem lastCommentAmong_cons (lexeme : Lexeme) (rest : List Lexeme) :
    lastCommentAmong (lexeme :: rest) =
      (lastCommentAmong rest).or (if lexeme.kind = .comment then some lexeme else none) := by
  unfold lastCommentAmong
  by_cases h : lexeme.kind = .comment
  · rw [List.filter_cons_of_pos (by simpa using h), List.getLast?_cons, if_pos h]
    cases (rest.filter (·.kind = .comment)).getLast? <;> rfl
  · rw [List.filter_cons_of_neg (by simpa using h), if_neg h, Option.or_none]

theorem lastCommentFrom_eq (limit : Nat) (found : String) (point : LexPoint) :
    lastCommentFrom limit found point =
      ((lastCommentAmong (readUpTo limit point.lexemes)).map Lexeme.written).getD found := by
  by_cases hempty : point.skip.ahead = []
  · rw [LexPoint.lexemes_of_empty hempty, lastCommentFrom]
    split
    · rfl
    · next hsome =>
      rw [LexPoint.next?_eq_none hempty] at hsome
      cases hsome
  · rw [LexPoint.lexemes_of_ne hempty, lastCommentFrom]
    split
    · next hnone =>
      rw [LexPoint.next?_eq_some hempty] at hnone
      cases hnone
    · next lexeme after hnext =>
      have hshort := LexPoint.next?_length hnext
      rw [LexPoint.next?_eq_some hempty] at hnext
      rw [Option.some.inj hnext]
      dsimp only
      rw [readUpTo, Lexeme.stop_bare]
      by_cases hlimit : lexeme.stop < limit
      · rw [if_pos hlimit, if_pos hlimit, lastCommentFrom_eq, lastCommentAmong_cons,
          Lexeme.kind_bare]
        cases lastCommentAmong (readUpTo limit after.lexemes) with
        | none => split <;> rfl
        | some comment => rfl
      · rw [if_neg hlimit, if_neg hlimit, lastCommentAmong_cons, Lexeme.kind_bare]
        split <;> rfl
termination_by point.ahead.length

/-- A lexeme that is read from one offset up to another. -/
def IsReadBetween (lexemes : List Lexeme) (first limit : Nat) (lexeme : Lexeme) : Prop :=
  lexeme ∈ lexemes ∧ first ≤ lexeme.start ∧
    ∀ earlier ∈ lexemes, first ≤ earlier.start → earlier.start < lexeme.start → earlier.stop < limit

/-- The last comment that is read from one offset up to another. -/
structure IsLastComment (lexemes : List Lexeme) (first limit : Nat) (comment : Lexeme) : Prop where
  read : IsReadBetween lexemes first limit comment
  kind : comment.kind = .comment
  last : ∀ later, IsReadBetween lexemes first limit later → later.kind = .comment →
    later.start ≤ comment.start

theorem readUpTo_sublist (limit : Nat) (lexemes : List Lexeme) :
    (readUpTo limit lexemes).Sublist lexemes := by
  induction lexemes with
  | nil => exact List.Sublist.refl _
  | cons lexeme rest ih =>
    rw [readUpTo]
    split
    · exact ih.cons_cons lexeme
    · exact (List.nil_sublist rest).cons_cons lexeme

theorem mem_readUpTo_iff {limit : Nat} {lexemes : List Lexeme} {lexeme : Lexeme}
    (hsorted : lexemes.Pairwise fun earlier later => earlier.start < later.start) :
    lexeme ∈ readUpTo limit lexemes ↔ lexeme ∈ lexemes ∧
      ∀ earlier ∈ lexemes, earlier.start < lexeme.start → earlier.stop < limit := by
  induction lexemes with
  | nil => simp [readUpTo]
  | cons head rest ih =>
    obtain ⟨hhead, hrest⟩ := List.pairwise_cons.mp hsorted
    have hfirst : ∀ earlier ∈ head :: rest, ¬ earlier.start < head.start := by
      intro earlier hearlier
      rcases List.mem_cons.mp hearlier with rfl | hearlier
      · exact Nat.lt_irrefl _
      · exact Nat.lt_asymm (hhead earlier hearlier)
    rw [readUpTo]
    by_cases hlimit : head.stop < limit
    · rw [if_pos hlimit, List.mem_cons, ih hrest]
      constructor
      · rintro (rfl | ⟨hmem, hbefore⟩)
        · exact ⟨List.mem_cons_self, fun earlier hearlier hlt =>
            absurd hlt (hfirst earlier hearlier)⟩
        · refine ⟨List.mem_cons_of_mem _ hmem, fun earlier hearlier hlt => ?_⟩
          rcases List.mem_cons.mp hearlier with rfl | hearlier
          · exact hlimit
          · exact hbefore earlier hearlier hlt
      · rintro ⟨hmem, hbefore⟩
        rcases List.mem_cons.mp hmem with rfl | hmem
        · exact .inl rfl
        · exact .inr ⟨hmem, fun earlier hearlier =>
            hbefore earlier (List.mem_cons_of_mem _ hearlier)⟩
    · rw [if_neg hlimit, List.mem_singleton]
      constructor
      · rintro rfl
        exact ⟨List.mem_cons_self, fun earlier hearlier hlt =>
          absurd hlt (hfirst earlier hearlier)⟩
      · rintro ⟨hmem, hbefore⟩
        rcases List.mem_cons.mp hmem with rfl | hmem
        · rfl
        · exact absurd (hbefore head List.mem_cons_self (hhead lexeme hmem)) hlimit

theorem getLast?_eq_some_iff_of_sorted {lexemes : List Lexeme} {lexeme : Lexeme}
    (hsorted : lexemes.Pairwise fun earlier later => earlier.start < later.start) :
    lexemes.getLast? = some lexeme ↔
      lexeme ∈ lexemes ∧ ∀ other ∈ lexemes, other.start ≤ lexeme.start := by
  constructor
  · intro h
    obtain ⟨before, rfl⟩ := List.getLast?_eq_some_iff.mp h
    refine ⟨List.mem_append_right _ (List.mem_singleton_self _), fun other hother => ?_⟩
    rcases List.mem_append.mp hother with hother | hother
    · exact Nat.le_of_lt ((List.pairwise_append.mp hsorted).2.2 other hother lexeme
        (List.mem_singleton_self _))
    · exact Nat.le_of_eq (congrArg Lexeme.start (List.mem_singleton.mp hother))
  · rintro ⟨hmem, hlast⟩
    cases he : lexemes.getLast? with
    | none =>
      rw [List.getLast?_eq_none_iff.mp he] at hmem
      cases hmem
    | some last =>
      obtain ⟨before, rfl⟩ := List.getLast?_eq_some_iff.mp he
      rcases List.mem_append.mp hmem with hbefore | hlexeme
      · have hlt := (List.pairwise_append.mp hsorted).2.2 lexeme hbefore last
          (List.mem_singleton_self _)
        have hle := hlast last (List.mem_append_right _ (List.mem_singleton_self _))
        omega
      · rw [List.mem_singleton.mp hlexeme]

theorem lastCommentAmong_eq_some_iff {lexemes : List Lexeme} {comment : Lexeme}
    (hsorted : lexemes.Pairwise fun earlier later => earlier.start < later.start) :
    lastCommentAmong lexemes = some comment ↔ comment ∈ lexemes ∧ comment.kind = .comment ∧
      ∀ later ∈ lexemes, later.kind = .comment → later.start ≤ comment.start := by
  unfold lastCommentAmong
  rw [getLast?_eq_some_iff_of_sorted (hsorted.filter _)]
  simp only [List.mem_filter, decide_eq_true_eq, and_imp, and_assoc]

theorem fileLexemes_increasing (language : Language) (text : String) :
    (fileLexemes language text).Pairwise fun earlier later => earlier.start < later.start := by
  refine (fileLexemes_sorted language text).imp_of_mem fun hearlier _ hle => ?_
  exact Nat.lt_of_lt_of_le (start_lt_stop_of_mem_fileLexemes hearlier) hle

theorem lastCommentAmong_fileLexemes {language : Language} {text : String} {first limit : Nat}
    {comment : Lexeme} :
    lastCommentAmong (readUpTo limit ((fileLexemes language text).filter (first ≤ ·.start))) =
        some comment ↔
      IsLastComment (fileLexemes language text) first limit comment := by
  have hsorted := (fileLexemes_increasing language text).filter (first ≤ ·.start)
  have hread : ∀ lexeme, lexeme ∈ readUpTo limit ((fileLexemes language text).filter
      (first ≤ ·.start)) ↔ IsReadBetween (fileLexemes language text) first limit lexeme := by
    intro lexeme
    rw [mem_readUpTo_iff hsorted]
    simp only [List.mem_filter, decide_eq_true_eq, and_imp, and_assoc, IsReadBetween]
  rw [lastCommentAmong_eq_some_iff (hsorted.sublist (readUpTo_sublist limit _))]
  constructor
  · rintro ⟨hmem, hkind, hlast⟩
    exact ⟨(hread comment).mp hmem, hkind, fun later hlater => hlast later ((hread later).mpr hlater)⟩
  · rintro ⟨hmem, hkind, hlast⟩
    exact ⟨(hread comment).mpr hmem, hkind, fun later hlater => hlast later ((hread later).mp hlater)⟩

/-! Stretches of a source. -/

/-- The stretch of text that is searched for a declaration's comment. -/
def Source.commentStretch (source : Source) (previous : Option Mark) (start : Mark) :
    Option Stretch :=
  match source.commentStart previous start with
  | none => none
  | some mark =>
    if start.seen.offset ≤ mark.seen.offset then none
    else match mark.spelled, start.spelled with
      | some first, some stop => if first.inclusion = stop.inclusion then some ⟨first, stop⟩ else none
      | _, _ => none

theorem Source.commentStretch_eq_some_iff {source : Source} {previous : Option Mark} {start : Mark}
    {stretch : Stretch} :
    source.commentStretch previous start = some stretch ↔
      ∃ mark, source.commentStart previous start = some mark ∧
        mark.seen.offset < start.seen.offset ∧ mark.spelled = some stretch.start ∧
        start.spelled = some stretch.stop ∧ stretch.start.inclusion = stretch.stop.inclusion := by
  constructor
  · intro h
    unfold commentStretch at h
    split at h
    · cases h
    · next mark hmark =>
      split at h
      · cases h
      · next hlt =>
        split at h
        · next first stop hfirst hstop =>
          split at h
          · next hsame =>
            cases h
            exact ⟨mark, hmark, Nat.lt_of_not_le hlt, hfirst, hstop, hsame⟩
          · cases h
        · cases h
  · rintro ⟨mark, hmark, hlt, hfirst, hstop, hsame⟩
    unfold commentStretch
    rw [hmark]
    dsimp only
    rw [if_neg (Nat.not_le_of_lt hlt), hfirst, hstop]
    dsimp only
    rw [if_pos hsame]

theorem Source.harvest_eq_lastComment (source : Source) (previous : Option Mark) (start : Mark) :
    source.harvest previous start = match source.commentStretch previous start with
      | none => ""
      | some stretch => lastComment source.language (source.fileText stretch.start)
          stretch.start.offset stretch.stop.offset := by
  unfold harvest commentStretch
  cases source.commentStart previous start with
  | none => rfl
  | some mark =>
    dsimp only
    by_cases hle : start.seen.offset ≤ mark.seen.offset
    · rw [if_pos hle, if_pos hle]
    · rw [if_neg hle, if_neg hle]
      cases mark.spelled with
      | none => rfl
      | some first =>
        cases start.spelled with
        | none => rfl
        | some stop =>
          dsimp only
          split <;> rfl

/-- A comment, and the inclusion in which it stands. -/
structure CommentToken where
  inclusion : Nat
  lexeme : Lexeme

/-- The lexemes of the file in which a place lies. -/
def Source.lexemesOf (source : Source) (place : Place) : List Lexeme :=
  fileLexemes source.language (source.fileText place)

/-- The comment that is harvested for a declaration. -/
def Source.harvested (source : Source) (previous : Option Mark) (start : Mark) :
    Option CommentToken :=
  (source.commentStretch previous start).bind fun stretch =>
    (lastCommentAmong (readUpTo stretch.stop.offset
      ((source.lexemesOf stretch.start).filter (stretch.start.offset ≤ ·.start)))).map
        (⟨stretch.start.inclusion, ·⟩)

/-- A mark at the end of a lexeme of the file in which it is spelled. -/
def Source.EndsLexeme (source : Source) (mark : Mark) : Prop :=
  ∀ place ∈ mark.spelled, ∃ lexeme ∈ source.lexemesOf place, lexeme.stop = place.offset

theorem Source.commentStretch_start {source : Source} {previous : Option Mark} {start : Mark}
    {stretch : Stretch} (h : ∀ mark ∈ previous, source.EndsLexeme mark)
    (hstretch : source.commentStretch previous start = some stretch) :
    stretch.start.offset = 0 ∨
      ∃ lexeme ∈ source.lexemesOf stretch.start, lexeme.stop = stretch.start.offset := by
  obtain ⟨mark, hmark, -, hfirst, -, -⟩ := commentStretch_eq_some_iff.mp hstretch
  have hfile : ∀ name, source.fileStart name = some mark → stretch.start.offset = 0 := by
    intro name hname
    obtain ⟨index, -, rfl⟩ := Option.map_eq_some_iff.mp hname
    exact congrArg Place.offset (Option.some.inj hfirst).symm
  cases previous with
  | none => exact .inl (hfile _ hmark)
  | some last =>
    simp only [commentStart] at hmark
    split at hmark
    · cases hmark
      exact .inr (h mark rfl stretch.start hfirst)
    · exact .inl (hfile _ hmark)

/-- The harvested text is that of the harvested comment. -/
theorem Source.harvest_eq {source : Source} {previous : Option Mark} {start : Mark}
    (h : ∀ mark ∈ previous, source.EndsLexeme mark) :
    source.harvest previous start =
      ((source.harvested previous start).map (·.lexeme.written)).getD "" := by
  rw [harvest_eq_lastComment, harvested]
  cases hstretch : source.commentStretch previous start with
  | none => rfl
  | some stretch =>
    dsimp only
    rw [lastComment, lastCommentFrom_eq, lexemes_filePoint (commentStretch_start h hstretch),
      Option.bind_some, Option.map_map]
    rfl

theorem Source.harvested_eq_some_iff {source : Source} {previous : Option Mark} {start : Mark}
    {token : CommentToken} :
    source.harvested previous start = some token ↔
      ∃ stretch, source.commentStretch previous start = some stretch ∧
        stretch.start.inclusion = token.inclusion ∧
        IsLastComment (source.lexemesOf stretch.start) stretch.start.offset stretch.stop.offset
          token.lexeme := by
  simp only [harvested, Option.bind_eq_some_iff, Option.map_eq_some_iff, lexemesOf,
    lastCommentAmong_fileLexemes]
  refine exists_congr fun stretch => and_congr_right fun _ => ?_
  constructor
  · rintro ⟨lexeme, hlast, rfl⟩
    exact ⟨rfl, hlast⟩
  · rintro ⟨hinclusion, hlast⟩
    exact ⟨token.lexeme, hlast, by rw [hinclusion]⟩

/-! Visits. -/

def PassContext.harvested (context : PassContext) (visit : Visit) : Option CommentToken :=
  context.source.harvested visit.before.previousEnd visit.declaration.start

def Artifact.comment? : Artifact → Option String
  | .function _ _ comment _ => some comment
  | _ => none

theorem PassContext.comment_of_mem_added {context : PassContext} {visit : Visit}
    {artifact : Artifact} {comment : String} (hadded : artifact ∈ context.added visit)
    (hcomment : comment ∈ artifact.comment?) :
    comment = context.source.harvest visit.before.previousEnd visit.declaration.start := by
  obtain ⟨-, ⟨aliases, hmade⟩ | hmade⟩ := makes_of_mem_added hadded
  · cases hmade <;> cases hcomment
  · cases hmade
    cases hcomment
    rfl

/-- The comment of a function is that of its visit, if declarations end with lexemes. -/
theorem PassContext.comment_eq_harvested {context : PassContext} {declarations : List Declaration}
    (hends : ∀ declaration ∈ declarations, context.isInScope declaration = true →
      context.source.EndsLexeme declaration.stop)
    {visit : Visit} (hvisit : visit ∈ context.visits .start declarations) {artifact : Artifact}
    {comment : String} (hadded : artifact ∈ context.added visit)
    (hcomment : comment ∈ artifact.comment?) :
    comment = ((context.harvested visit).map (·.lexeme.written)).getD "" := by
  obtain ⟨before, after, hvisits⟩ := List.append_of_mem hvisit
  rw [comment_of_mem_added hadded hcomment]
  refine Source.harvest_eq fun mark hmark => ?_
  rw [previousEnd_of_visits hvisits] at hmark
  obtain ⟨last, hlast, rfl⟩ := Option.map_eq_some_iff.mp hmark
  have hmem : last ∈ context.visits .start declarations := by
    rw [hvisits]
    exact List.mem_append_left _ (List.mem_of_getLast? hlast)
  exact hends _ (mem_of_mem_visits hmem).1 (mem_of_mem_visits hmem).2

theorem PassContext.exists_of_comments {context : PassContext} {visit : Visit} {comment : String}
    (h : (context.added visit).filterMap Artifact.comment? = [comment]) :
    ∃ artifact ∈ context.added visit, comment ∈ artifact.comment? := by
  have hmem : comment ∈ (context.added visit).filterMap Artifact.comment? := by simp [h]
  exact List.mem_filterMap.mp hmem

end HeaderBindings
