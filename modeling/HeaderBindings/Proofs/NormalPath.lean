import HeaderBindings.Proofs.DefinitionOrder
import HeaderBindings.Proofs.WrittenFile

/-! Normal forms of paths. A normal form is its slashes in front and its parts: none of them is empty
or a dot, and two dots only stand in front of all others. It is its own normal form, and its directory
and the files below a directory can be told by the parts. -/

namespace HeaderBindings

/-! The parts of a normal form. -/

/-- Parts as a normal form has them. -/
structure IsNormal (rooted : Bool) (parts : List PathPart) : Prop where
  plain : ∀ part ∈ parts, part ≠ [] ∧ part ≠ ['.'] ∧ '/' ∉ part
  climbs : parts.Pairwise fun before part => part = ['.', '.'] → before = ['.', '.']
  rooted : rooted = true → ['.', '.'] ∉ parts

section

variable {rooted : Bool} {parts others : List PathPart} {part : PathPart}

theorem isNormal_nil : IsNormal rooted [] := ⟨by simp, .nil, by simp⟩

theorem IsNormal.of_front (h : IsNormal rooted parts) (hfront : others <+: parts) :
    IsNormal rooted others where
  plain := fun part hpart => h.plain part (hfront.subset hpart)
  climbs := h.climbs.sublist hfront.sublist
  rooted := fun hrooted hmem => h.rooted hrooted (hfront.subset hmem)

theorem IsNormal.concat (h : IsNormal rooted parts)
    (hpart : part ≠ [] ∧ part ≠ ['.'] ∧ '/' ∉ part)
    (hclimbs : part = ['.', '.'] → rooted = false ∧ ∀ before ∈ parts, before = ['.', '.']) :
    IsNormal rooted (parts ++ [part]) where
  plain := by
    intro other hother
    rcases List.mem_append.mp hother with hother | hother
    · exact h.plain other hother
    · rw [List.mem_singleton.mp hother]
      exact hpart
  climbs := by
    refine List.pairwise_append.mpr ⟨h.climbs, List.pairwise_singleton _ _, ?_⟩
    intro before hbefore last hlast hup
    rw [List.mem_singleton.mp hlast] at hup
    exact (hclimbs hup).2 before hbefore
  rooted := by
    intro hrooted hmem
    rcases List.mem_append.mp hmem with hmem | hmem
    · exact h.rooted hrooted hmem
    · have hfalse := (hclimbs (List.mem_singleton.mp hmem).symm).1
      rw [hrooted] at hfalse
      cases hfalse

theorem isNormal_pushPart {stack : List PathPart} (h : IsNormal rooted stack.reverse)
    (hpart : '/' ∉ part) : IsNormal rooted (pushPart rooted stack part).reverse := by
  unfold pushPart
  split
  · exact h
  · next hfilled =>
    rw [not_or] at hfilled
    have hplain : part ≠ [] ∧ part ≠ ['.'] ∧ '/' ∉ part := ⟨hfilled.1, hfilled.2, hpart⟩
    split
    · next hup =>
      cases stack with
      | nil =>
        cases rooted with
        | true => exact isNormal_nil
        | false => exact h.concat hplain fun _ => ⟨rfl, by simp⟩
      | cons top rest =>
        rw [List.reverse_cons] at h
        show IsNormal rooted (if top = ['.', '.'] then part :: top :: rest else rest).reverse
        split
        · next htop =>
          -- two dots only follow two dots, so the whole stack is made of them
          rw [List.reverse_cons, List.reverse_cons]
          refine h.concat hplain fun _ => ⟨?_, fun before hbefore => ?_⟩
          · rw [← Bool.not_eq_true]
            intro hrooted
            exact h.rooted hrooted (by simp [htop])
          · rcases List.mem_append.mp hbefore with hbefore | hbefore
            · exact (List.pairwise_append.mp h.climbs).2.2 before hbefore top
                (List.mem_singleton_self top) htop
            · rw [List.mem_singleton.mp hbefore, htop]
        · exact h.of_front (List.prefix_append _ _)
    · next hother =>
      rw [List.reverse_cons]
      exact h.concat hplain fun hup => absurd hup hother

theorem isNormal_foldl {stack : List PathPart} (h : IsNormal rooted stack.reverse)
    (hparts : ∀ part ∈ parts, '/' ∉ part) :
    IsNormal rooted (parts.foldl (pushPart rooted) stack).reverse := by
  induction parts generalizing stack with
  | nil => exact h
  | cons part rest ih =>
    rw [List.forall_mem_cons] at hparts
    exact ih (isNormal_pushPart h hparts.1) hparts.2

/-- Parts that are normal behind a stack are put on it one by one. -/
theorem foldl_pushPart {stack : List PathPart} (h : IsNormal rooted (stack.reverse ++ parts)) :
    parts.foldl (pushPart rooted) stack = parts.reverse ++ stack := by
  induction parts generalizing stack with
  | nil => rfl
  | cons part rest ih =>
    have hmem : part ∈ stack.reverse ++ part :: rest := by simp
    obtain ⟨hempty, hdot, -⟩ := h.plain part hmem
    have hpush : pushPart rooted stack part = part :: stack := by
      unfold pushPart
      rw [if_neg (not_or.mpr ⟨hempty, hdot⟩)]
      split
      · next hup =>
        cases stack with
        | nil =>
          have hrelative : ¬ rooted = true := fun hrooted => h.rooted hrooted (hup ▸ hmem)
          exact if_neg hrelative
        | cons top below =>
          have htop := (List.pairwise_append.mp h.climbs).2.2 top (by simp) part (by simp) hup
          exact if_pos htop
      · rfl
    rw [List.foldl_cons, hpush, ih (by simpa using h), List.reverse_cons, List.append_assoc]
    rfl

end

/-! The text of a normal form. -/

/-- Slashes and parts as a path; the working directory is a dot. -/
def normalText (slashes : Nat) (parts : List PathPart) : List Char :=
  match List.replicate slashes '/' ++ joinWith ['/'] parts with
  | [] => ['.']
  | text => text

theorem rootSlashes_le (path : List Char) : rootSlashes path ≤ 2 := by
  unfold rootSlashes
  split <;> omega

theorem isNormal_normalParts (path : List Char) :
    IsNormal (0 < rootSlashes path) (normalParts path) :=
  isNormal_foldl isNormal_nil fun _ => not_mem_of_mem_splitAtChar

theorem joinWith_append {separator : List Char} {first second : List (List Char)}
    (hfirst : first ≠ []) (hsecond : second ≠ []) :
    joinWith separator (first ++ second) =
      joinWith separator first ++ separator ++ joinWith separator second := by
  cases first with
  | nil => exact absurd rfl hfirst
  | cons piece rest =>
    cases second with
    | nil => exact absurd rfl hsecond
    | cons next others => simp [joinWith_cons]

section

variable {rooted : Bool} {slashes : Nat} {parts : List PathPart}

theorem joinWith_eq_nil_iff (h : IsNormal rooted parts) : joinWith ['/'] parts = [] ↔ parts = [] := by
  refine ⟨fun hnil => ?_, fun hnil => by rw [hnil]; rfl⟩
  cases parts with
  | nil => rfl
  | cons part rest =>
    rw [joinWith_cons, List.append_eq_nil_iff] at hnil
    exact absurd hnil.1 (h.plain part List.mem_cons_self).1

theorem head?_joinWith (h : IsNormal rooted parts) : (joinWith ['/'] parts).head? ≠ some '/' := by
  cases parts with
  | nil => simp [joinWith]
  | cons part rest =>
    obtain ⟨hne, -, hslash⟩ := h.plain part List.mem_cons_self
    rw [joinWith_cons, List.head?_append_of_ne_nil _ hne]
    exact fun hhead => hslash (List.mem_of_mem_head? hhead)

theorem pathParts_joinWith (h : IsNormal rooted parts) (hne : parts ≠ []) :
    pathParts (joinWith ['/'] parts) = parts := by
  rw [pathParts, splitAtChar_eq_splitOn, joinWith_eq_intercalate]
  exact List.splitOn_intercalate '/' (fun part hpart => (h.plain part hpart).2.2) hne

theorem normalText_eq (h : IsNormal rooted parts) :
    normalText slashes parts = if slashes = 0 ∧ parts = [] then ['.'] else
      List.replicate slashes '/' ++ joinWith ['/'] parts := by
  unfold normalText
  split
  · next hnil =>
    rw [List.append_eq_nil_iff, List.replicate_eq_nil_iff, joinWith_eq_nil_iff h] at hnil
    exact (if_pos hnil).symm
  · next hfilled =>
    refine (if_neg fun hnil => hfilled ?_).symm
    rw [hnil.1, hnil.2]
    rfl

theorem takeWhile_slashes {text : List Char} (h : text.head? ≠ some '/') (count : Nat) :
    (List.replicate count '/' ++ text).takeWhile (· = '/') = List.replicate count '/' := by
  have hnone : text.takeWhile (· = '/') = [] := by
    cases text with
    | nil => rfl
    | cons c rest =>
      have hc : c ≠ '/' := fun heq => h (by rw [heq]; rfl)
      exact List.takeWhile_cons_of_neg (by simpa using hc)
  rw [List.takeWhile_append_of_pos (by simp), hnone, List.append_nil]

theorem rootSlashes_append {text : List Char} (h : text.head? ≠ some '/') (hslashes : slashes ≤ 2) :
    rootSlashes (List.replicate slashes '/' ++ text) = slashes := by
  unfold rootSlashes
  rw [takeWhile_slashes h]
  obtain rfl | rfl | rfl : slashes = 0 ∨ slashes = 1 ∨ slashes = 2 := by omega
  · rfl
  · rfl
  · rfl

theorem rootSlashes_normalText (h : IsNormal rooted parts) (hslashes : slashes ≤ 2) :
    rootSlashes (normalText slashes parts) = slashes := by
  rw [normalText_eq h]
  split
  · next hnone =>
    rw [hnone.1]
    rfl
  · exact rootSlashes_append (head?_joinWith h) hslashes

theorem pathParts_replicate (text : List Char) (count : Nat) :
    pathParts (List.replicate count '/' ++ text) = List.replicate count [] ++ pathParts text := by
  induction count with
  | zero => rfl
  | succ count ih =>
    have hslash := pathParts_slash [] (List.replicate count '/' ++ text)
    rw [List.nil_append] at hslash
    rw [List.replicate_succ, List.cons_append, hslash, ih]
    rfl

theorem foldl_pathParts_append (text : List Char) (count : Nat) :
    (pathParts (List.replicate count '/' ++ text)).foldl (pushPart rooted) [] =
      (pathParts text).foldl (pushPart rooted) [] := by
  have hskip : (List.replicate count []).foldl (pushPart rooted) [] = [] := by
    induction count with
    | zero => rfl
    | succ count ih => exact ih
  rw [pathParts_replicate, List.foldl_append, hskip]

theorem normalParts_normalText (h : IsNormal (0 < slashes) parts) (hslashes : slashes ≤ 2) :
    normalParts (normalText slashes parts) = parts := by
  have hfold : (pathParts (normalText slashes parts)).foldl (pushPart (0 < slashes)) [] =
      parts.reverse := by
    rw [normalText_eq h]
    split
    · next hnone =>
      rw [hnone.1, hnone.2]
      rfl
    · rw [foldl_pathParts_append]
      by_cases hnil : parts = []
      · rw [hnil]
        rfl
      · rw [pathParts_joinWith h hnil, foldl_pushPart h, List.append_nil]
  rw [normalParts, rootSlashes_normalText h hslashes, hfold, List.reverse_reverse]

end

section

variable (path : List Char)

theorem normalizePath_eq :
    normalizePath path = normalText (rootSlashes path) (normalParts path) := rfl

@[simp] theorem rootSlashes_normalizePath : rootSlashes (normalizePath path) = rootSlashes path :=
  rootSlashes_normalText (isNormal_normalParts path) (rootSlashes_le path)

@[simp] theorem normalParts_normalizePath : normalParts (normalizePath path) = normalParts path :=
  normalParts_normalText (isNormal_normalParts path) (rootSlashes_le path)

@[simp] theorem normalizePath_normalizePath :
    normalizePath (normalizePath path) = normalizePath path := by
  rw [normalizePath_eq, rootSlashes_normalizePath, normalParts_normalizePath, normalizePath_eq]

end

/-- Cutting a normal form at its slashes gives its parts, and an empty one for each slash in front. -/
theorem filter_pathParts_normalizePath {path : List Char} (h : normalizePath path ≠ ['.']) :
    (pathParts (normalizePath path)).filter (· ≠ []) = normalParts path := by
  have hnormal := isNormal_normalParts path
  rw [normalizePath_eq, normalText_eq hnormal] at h ⊢
  have hfilled : ¬ (rootSlashes path = 0 ∧ normalParts path = []) := fun hnone => h (if_pos hnone)
  have hslashes : (List.replicate (rootSlashes path) ([] : PathPart)).filter (· ≠ []) = [] := by
    simp
  rw [if_neg hfilled, pathParts_replicate, List.filter_append, hslashes, List.nil_append]
  by_cases hnil : normalParts path = []
  · rw [hnil]
    rfl
  · rw [pathParts_joinWith hnormal hnil, List.filter_eq_self]
    exact fun part hpart => decide_eq_true (hnormal.plain part hpart).1

/-! The directory of a normal form. -/

/-- The parts of the directory that a path is in. -/
def directoryParts (path : List Char) : List PathPart := (normalParts path).dropLast

theorem isNormal_directoryParts (path : List Char) :
    IsNormal (0 < rootSlashes path) (directoryParts path) :=
  (isNormal_normalParts path).of_front (List.dropLast_prefix _)

theorem directoryOf_append {front last : List Char} (hlast : '/' ∉ last)
    (hfront : front = [] ∨ ∃ lead, front = lead ++ ['/']) :
    directoryOf (front ++ last) =
      if front.all (· = '/') then front else (front.reverse.dropWhile (· = '/')).reverse := by
  have hhead : ((front ++ last).reverse.dropWhile (· ≠ '/')).reverse = front := by
    have hskip : ∀ c ∈ last.reverse, decide (c ≠ '/') = true := by
      intro c hc
      exact decide_eq_true fun heq => hlast (heq ▸ List.mem_reverse.mp hc)
    rw [List.reverse_append, List.dropWhile_append_of_pos hskip]
    rcases hfront with rfl | ⟨lead, rfl⟩
    · rfl
    · rw [List.reverse_append, List.reverse_singleton, List.singleton_append,
        List.dropWhile_cons_of_neg (by simp), List.reverse_cons, List.reverse_reverse]
  simp only [directoryOf, hhead]

theorem exists_joinWith_concat {rooted : Bool} {parts : List PathPart} (h : IsNormal rooted parts)
    (hne : parts ≠ []) : ∃ lead c, joinWith ['/'] parts = lead ++ [c] ∧ c ≠ '/' := by
  obtain ⟨before, last, rfl⟩ := List.eq_nil_or_concat' parts |>.resolve_left hne
  obtain ⟨hlast, -, hslash⟩ := h.plain last (by simp)
  obtain ⟨lead, c, rfl⟩ := List.eq_nil_or_concat' last |>.resolve_left hlast
  refine ⟨before.flatMap (· ++ ['/']) ++ lead, c, ?_, fun heq => hslash (by simp [heq])⟩
  rw [joinWith_append_cons, List.flatMap_nil, List.append_nil, List.append_assoc]

theorem directoryOf_normalizePath (path : List Char) :
    directoryOf (normalizePath path) =
      List.replicate (rootSlashes path) '/' ++ joinWith ['/'] (directoryParts path) := by
  have hnormal := isNormal_normalParts path
  have hdirectory := isNormal_directoryParts path
  have hroot : ∀ count : Nat, List.replicate count '/' = [] ∨
      ∃ lead, List.replicate count '/' = lead ++ ['/'] := by
    intro count
    cases count with
    | zero => exact .inl rfl
    | succ count => exact .inr ⟨_, List.replicate_succ'⟩
  have hslashes : ∀ (count : Nat) {last : List Char}, '/' ∉ last →
      directoryOf (List.replicate count '/' ++ last) = List.replicate count '/' := by
    intro count last hlast
    rw [directoryOf_append hlast (hroot count), if_pos (by simp)]
  rw [normalizePath_eq, normalText_eq hnormal]
  unfold directoryParts at hdirectory ⊢
  generalize rootSlashes path = count at hnormal ⊢
  rcases List.eq_nil_or_concat' (normalParts path) with hparts | ⟨directory, last, hparts⟩
  · rw [hparts]
    split
    · next hnone =>
      rw [hnone.1]
      rfl
    · exact (hslashes count (by simp [joinWith])).trans (List.append_nil _).symm
  · rw [hparts, List.dropLast_concat] at hdirectory ⊢
    have hlast : '/' ∉ last := (hnormal.plain last (by simp [hparts])).2.2
    rw [if_neg (by simp)]
    by_cases hnone : directory = []
    · rw [hnone]
      exact (hslashes count hlast).trans (List.append_nil _).symm
    · obtain ⟨lead, c, hjoin, hc⟩ := exists_joinWith_concat hdirectory hnone
      rw [joinWith_append hnone (by simp), show joinWith ['/'] [last] = last from rfl,
        ← List.append_assoc, ← List.append_assoc,
        directoryOf_append hlast (.inr ⟨_, rfl⟩), hjoin, if_neg (by simp [hc])]
      simp [hc]

section

variable {count slashes : Nat} {rooted : Bool} {directory parts : List PathPart}

theorem slashes_prefix_iff {text : List Char} (h : text.head? ≠ some '/') :
    List.replicate count '/' <+: List.replicate slashes '/' ++ text ↔ count ≤ slashes := by
  constructor
  · rintro ⟨rest, htext⟩
    have hlength := congrArg (fun text => (text.takeWhile (· = '/')).length) htext
    simp only [takeWhile_slashes h] at hlength
    rw [List.takeWhile_append_of_pos (by simp)] at hlength
    simp only [List.length_append, List.length_replicate] at hlength
    omega
  · intro hle
    obtain ⟨more, rfl⟩ : ∃ more, slashes = count + more := ⟨slashes - count, by omega⟩
    have hmore : List.replicate (count + more) '/' =
        List.replicate count '/' ++ List.replicate more '/' := List.replicate_add _ _ _
    rw [hmore, List.append_assoc]
    exact List.prefix_append _ _

theorem replicate_append_inj {text other : List Char} (h : text.head? ≠ some '/')
    (hother : other.head? ≠ some '/')
    (heq : List.replicate count '/' ++ text = List.replicate slashes '/' ++ other) :
    count = slashes ∧ text = other := by
  have hlength := congrArg (fun text => (text.takeWhile (· = '/')).length) heq
  simp only [takeWhile_slashes h, takeWhile_slashes hother, List.length_replicate] at hlength
  subst hlength
  exact ⟨rfl, List.append_cancel_left heq⟩

theorem directory_text_prefix_iff {inner : Bool} (hdirectory : IsNormal inner directory)
    (hne : directory ≠ []) (hparts : IsNormal rooted parts) :
    List.replicate count '/' ++ joinWith ['/'] directory ++ ['/'] <+:
        List.replicate slashes '/' ++ joinWith ['/'] parts ↔
      count = slashes ∧ ∃ rest, rest ≠ [] ∧ parts = directory ++ rest := by
  constructor
  · rintro ⟨rest, htext⟩
    rw [List.append_assoc, List.append_assoc, List.singleton_append] at htext
    have hhead : (joinWith ['/'] directory ++ '/' :: rest).head? ≠ some '/' := by
      rw [List.head?_append_of_ne_nil _ (mt (joinWith_eq_nil_iff hdirectory).mp hne)]
      exact head?_joinWith hdirectory
    obtain ⟨hcount, hjoin⟩ := replicate_append_inj hhead (head?_joinWith hparts) htext
    have hfilled : parts ≠ [] := by
      rintro rfl
      simp [joinWith] at hjoin
    have hcut := pathParts_joinWith hparts hfilled
    rw [← hjoin, pathParts_slash, pathParts_joinWith hdirectory hne] at hcut
    refine ⟨hcount, pathParts rest, ?_, hcut.symm⟩
    rw [pathParts, splitAtChar_eq_splitOn]
    exact List.splitOn_ne_nil _ _
  · rintro ⟨rfl, rest, hrest, rfl⟩
    rw [joinWith_append hne hrest, ← List.append_assoc, ← List.append_assoc]
    exact List.prefix_append _ _

end

/-- What stands in or below a directory begins with its path and a slash, but for a directory without
parts: there, one more slash in front is all that is asked for. -/
theorem directory_prefix_iff (path file : List Char) :
    directoryOf (normalizePath path) ++ ['/'] <+: normalizePath file ↔
      (directoryParts path = [] ∧ rootSlashes path < rootSlashes file) ∨
        (directoryParts path ≠ [] ∧ rootSlashes path = rootSlashes file ∧
          ∃ rest, rest ≠ [] ∧ normalParts file = directoryParts path ++ rest) := by
  have hdirectory := isNormal_directoryParts path
  have hfile := isNormal_normalParts file
  rw [directoryOf_normalizePath, normalizePath_eq, normalText_eq hfile]
  split
  · next hdot =>
    constructor
    · intro hfront
      exact absurd (hfront.subset (List.mem_append_right _ List.mem_cons_self)) (by simp)
    · rintro (⟨-, hless⟩ | ⟨-, -, rest, hrest, hparts⟩)
      · omega
      · rw [hdot.2] at hparts
        exact absurd (List.append_eq_nil_iff.mp hparts.symm).2 hrest
  · by_cases hnone : directoryParts path = []
    · have htext : List.replicate (rootSlashes path) '/' ++ joinWith ['/'] [] ++ ['/'] =
          List.replicate (rootSlashes path + 1) '/' := by
        rw [List.replicate_succ', joinWith, List.append_nil]
      rw [hnone, htext, slashes_prefix_iff (head?_joinWith hfile)]
      constructor
      · intro hless
        exact .inl ⟨rfl, hless⟩
      · rintro (⟨-, hless⟩ | ⟨hfilled, -⟩)
        · exact hless
        · exact absurd rfl hfilled
    · rw [directory_text_prefix_iff hdirectory hnone hfile]
      simp [hnone]

end HeaderBindings
