import HeaderBindings.Proofs.HeaderScope

/-! Which files a header names. Header and file are compared in their normal forms, part by part from the
end, so a header names the same files however it is spelled. -/

namespace HeaderBindings

/-! Whole parts. -/

section

variable {text other : List Char}

theorem joinWith_pathParts (text : List Char) : joinWith ['/'] (pathParts text) = text := by
  rw [pathParts, splitAtChar_eq_splitOn, joinWith_eq_intercalate]
  exact List.intercalate_splitOn '/'

theorem pathParts_ne_nil (text : List Char) : pathParts text ≠ [] := by
  rw [pathParts, splitAtChar_eq_splitOn]
  exact List.splitOn_ne_nil _ _

/-- A text ends with all the parts of another one exactly if it is that text, or ends with it behind a
slash. -/
theorem pathParts_suffix_iff :
    pathParts text <:+ pathParts other ↔ other = text ∨ '/' :: text <:+ other := by
  constructor
  · rintro ⟨front, hparts⟩
    have hjoin := congrArg (joinWith ['/']) hparts
    rw [joinWith_pathParts] at hjoin
    by_cases hfront : front = []
    · left
      rw [← hjoin, hfront, List.nil_append, joinWith_pathParts]
    · right
      rw [joinWith_append hfront (pathParts_ne_nil text), joinWith_pathParts] at hjoin
      exact ⟨joinWith ['/'] front, by rw [← hjoin, List.append_assoc]; rfl⟩
  · rintro (rfl | ⟨front, rfl⟩)
    · exact List.suffix_rfl
    · rw [pathParts_slash]
      exact List.suffix_append _ _

end

/-! Other spellings. -/

/-- Parts that lead nowhere: an empty one, a dot, and a name with two dots behind it. -/
inductive IsDetour : List PathPart → Prop
  | empty : IsDetour [[]]
  | dot : IsDetour [['.']]
  | back {name : PathPart} (hempty : name ≠ []) (hdot : name ≠ ['.']) (hup : name ≠ ['.', '.']) :
    IsDetour [name, ['.', '.']]

theorem IsDetour.foldl_pushPart {detour : List PathPart} (h : IsDetour detour) (rooted : Bool)
    (stack : List PathPart) : detour.foldl (pushPart rooted) stack = stack := by
  cases h with
  | empty => rfl
  | dot => rfl
  | back hempty hdot hup =>
    simp [pushPart, hempty, hdot, hup]

/-- Whether a path is another one with a detour more. The slashes in front are no detour. -/
def IsDetoured (path other : List Char) : Prop :=
  rootSlashes path = rootSlashes other ∧ ∃ before detour after, IsDetour detour ∧
    pathParts path = before ++ detour ++ after ∧ pathParts other = before ++ after

theorem IsDetoured.normalizePath_eq {path other : List Char} (h : IsDetoured path other) :
    normalizePath path = normalizePath other := by
  obtain ⟨hroot, before, detour, after, hdetour, hpath, hother⟩ := h
  have hparts : normalParts path = normalParts other := by
    rw [normalParts, normalParts, hroot, hpath, hother, List.foldl_append, List.foldl_append,
      hdetour.foldl_pushPart, ← List.foldl_append]
  rw [HeaderBindings.normalizePath_eq, HeaderBindings.normalizePath_eq, hroot, hparts]

/-! What a header names. -/

section

variable {header file : List Char}

theorem namesFile_iff_suffix :
    namesFile header file = true ↔
      pathParts (normalizePath header) <:+ pathParts (normalizePath file) := by
  rw [namesFile_iff, pathParts_suffix_iff]

theorem namesFile_congr {spelled shown : List Char}
    (hheader : normalizePath spelled = normalizePath header)
    (hfile : normalizePath shown = normalizePath file) :
    namesFile spelled shown = namesFile header file := by
  rw [namesFile, namesFile, hheader, hfile]

end

/-- A header names the files whose normal forms end with all parts of its own normal form. So names are
reflexive and transitive, and it does not matter how header and file are spelled, in particular not
whether there are detours in them. -/
theorem namesFile_by_parts (header file : List Char) :
    (namesFile header file = true ↔
        pathParts (normalizePath header) <:+ pathParts (normalizePath file)) ∧
      namesFile file file = true ∧
      (∀ other, namesFile header file = true → namesFile file other = true →
        namesFile header other = true) ∧
      (∀ spelled shown, normalizePath spelled = normalizePath header →
        normalizePath shown = normalizePath file →
        namesFile spelled shown = namesFile header file) ∧
      ∀ path other, IsDetoured path other → normalizePath path = normalizePath other := by
  refine ⟨namesFile_iff_suffix, namesFile_iff_suffix.mpr List.suffix_rfl, ?_, ?_, ?_⟩
  · intro other hfile hother
    rw [namesFile_iff_suffix] at hfile hother ⊢
    exact hfile.trans hother
  · exact fun _ _ => namesFile_congr
  · exact fun _ _ => IsDetoured.normalizePath_eq

/-- Detours in the header and in the file are passed over, and half a part is no match. -/
theorem namesFile_io_spelled :
    IsDetoured "./io.h".toList "io.h".toList ∧
      IsDetoured "/usr/inc/../io.h".toList "/usr/io.h".toList ∧
      namesFile "./io.h".toList "/usr/inc/../io.h".toList = true ∧
      namesFile "io.h".toList "/usr/stdio.h".toList = false := by
  have hheader : IsDetoured "./io.h".toList "io.h".toList :=
    ⟨by decide, [], [['.']], ["io.h".toList], .dot, by decide, by decide⟩
  have hfile : IsDetoured "/usr/inc/../io.h".toList "/usr/io.h".toList :=
    ⟨by decide, [[], "usr".toList], ["inc".toList, "..".toList], ["io.h".toList],
      .back (by decide) (by decide) (by decide), by decide, by decide⟩
  obtain ⟨hparts, -, -, hcongr, hdetour⟩ := namesFile_by_parts "io.h".toList "/usr/io.h".toList
  refine ⟨hheader, hfile, ?_, ?_⟩
  · rw [hcongr _ _ (hdetour _ _ hheader) (hdetour _ _ hfile), hparts]
    decide
  · rw [← Bool.not_eq_true, (namesFile_by_parts _ _).1]
    decide

end HeaderBindings
