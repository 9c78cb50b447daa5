import HeaderBindings.Proofs.TextLine

/-! Comment text on its way into documentation. Markers and marks are cut out of a line, and nothing on
the way puts a newline in, so that every piece of text that a comment gives is one line. -/

namespace HeaderBindings

theorem trimEnd_sublist (text : List Char) : (trimEnd text).Sublist text := by
  have h := (List.dropWhile_sublist isBlank (l := text.reverse)).reverse
  rwa [List.reverse_reverse] at h

theorem dropOpening_sublist (line : List Char) : (dropOpening line).Sublist line := by
  unfold dropOpening
  split
  · exact .refl line
  · next c rest htrim =>
    split
    · have hrest : rest.Sublist (trimStart line) := htrim ▸ List.sublist_cons_self c rest
      exact ((List.dropWhile_sublist _).trans hrest).trans (List.dropWhile_sublist _)
    · exact .refl line

theorem dropClosing_sublist (line : List Char) : (dropClosing line).Sublist line := by
  unfold dropClosing
  split
  · next rest hline =>
    have hrest : rest.Sublist line.reverse :=
      (((List.sublist_cons_self '*' rest).trans (List.sublist_cons_self '/' _)).trans
        (hline ▸ .refl _)).trans (List.dropWhile_sublist isBlank)
    have hreverse := ((List.dropWhile_sublist (· = '*')).trans hrest).reverse
    rw [List.reverse_reverse] at hreverse
    exact (trimEnd_sublist _).trans hreverse
  · exact .refl line

theorem replaceAll_nil_sublist (old text : List Char) : (replaceAll old [] text).Sublist text := by
  fun_induction replaceAll old [] text with
  | case1 => exact .slnil
  | case2 c rest _ ih =>
    exact (ih.trans (List.drop_sublist _ rest)).trans (List.sublist_cons_self c rest)
  | case3 c rest _ ih => exact ih.cons_cons c

theorem newline_not_mem_cleanLine {line : List Char} (h : '\n' ∉ line) : '\n' ∉ cleanLine line := by
  intro hmem
  obtain ⟨c, hc, hround⟩ := List.mem_map.mp hmem
  have hnewline : c = '\n' := by
    unfold roundBracket at hround
    split at hround
    · cases hround
    · split at hround
      · cases hround
      · exact hround
  have hsub := (replaceAll_nil_sublist "\\brief ".toList (dropClosing (dropOpening line))).trans
    ((dropClosing_sublist _).trans (dropOpening_sublist line))
  exact h (hnewline ▸ hsub.subset hc)

/-! Markers. -/

theorem paramMarker?_sublist {text name rest : List Char} (h : paramMarker? text = some (name, rest)) :
    name.Sublist text ∧ rest.Sublist text := by
  unfold paramMarker? at h
  split at h
  · dsimp only at h
    split at h
    · cases h
    · next c tail htail =>
      obtain ⟨rfl, rfl⟩ := Prod.mk.inj (Option.some.inj h)
      have hafter := List.drop_sublist 7 text
      refine ⟨(List.takeWhile_sublist _).trans hafter, ?_⟩
      have hdrop := List.dropWhile_sublist (· ≠ ' ') (l := text.drop 7)
      rw [htail] at hdrop
      exact ((List.sublist_cons_self c tail).trans hdrop).trans hafter
  · cases h

theorem splitParamMarkers_sublist (line : List Char) :
    (∀ name ∈ (splitParamMarkers line).1, name.Sublist line) ∧
      (splitParamMarkers line).2.Sublist line := by
  fun_induction splitParamMarkers line with
  | case1 => exact ⟨by simp, .slnil⟩
  | case2 c rest name after hmarker names text hsplit ih =>
    rw [hsplit] at ih
    obtain ⟨hname, hafter⟩ := paramMarker?_sublist hmarker
    refine ⟨List.forall_mem_cons.mpr ⟨hname, fun other hother => ?_⟩, ih.2.trans hafter⟩
    exact (ih.1 other hother).trans hafter
  | case3 c rest _ names text hsplit ih =>
    rw [hsplit] at ih
    exact ⟨fun name hname => (ih.1 name hname).cons c, ih.2.cons_cons c⟩

theorem resultMarker?_sublist {text rest : List Char} (h : resultMarker? text = some rest) :
    rest.Sublist text := by
  unfold resultMarker? at h
  split at h
  · cases h
    exact List.drop_sublist 9 text
  · split at h
    · cases h
      exact List.drop_sublist 8 text
    · cases h

theorem splitResultMarkers_sublist (line : List Char) : (splitResultMarkers line).2.Sublist line := by
  fun_induction splitResultMarkers line with
  | case1 => exact .slnil
  | case2 c rest after hmarker ih => exact ih.trans (resultMarker?_sublist hmarker)
  | case3 c rest _ found text hsplit ih =>
    rw [hsplit] at ih
    exact ih.cons_cons c

/-! Sections. -/

theorem newline_not_mem_placeLine (known : List String) (current : DocSection) {line : List Char}
    (h : '\n' ∉ line) : '\n' ∉ (placeLine known current line).2 := by
  have hclean := newline_not_mem_cleanLine h
  obtain ⟨hnames, htext⟩ := splitParamMarkers_sublist (cleanLine line)
  have hplain : '\n' ∉ (splitParamMarkers (cleanLine line)).2 := fun hmem => hclean (htext.subset hmem)
  -- only the name of an unknown parameter is written into the text
  have hunknown : ∀ name ∈ (splitParamMarkers (cleanLine line)).1,
      '\n' ∉ name ++ ": ".toList ++ (splitParamMarkers (cleanLine line)).2 := by
    intro name hname
    have hline : '\n' ∉ name := fun hmem => hclean ((hnames name hname).subset hmem)
    simp [hline, hplain]
  have hresult : ∀ text : List Char, '\n' ∉ text → '\n' ∉ (splitResultMarkers text).2 :=
    fun text htext hmem => htext ((splitResultMarkers_sublist text).subset hmem)
  unfold placeLine
  dsimp only
  split
  · exact hresult _ hplain
  · next name hlast =>
    split
    · exact hresult _ hplain
    · exact hresult _ (hunknown name (List.mem_of_getLast? hlast))

theorem newline_not_mem_placeLines {known : List String} {lines : List (List Char)}
    (h : ∀ line ∈ lines, '\n' ∉ line) (current : DocSection) :
    ∀ entry ∈ placeLines known current lines, '\n' ∉ entry.2 := by
  induction lines generalizing current with
  | nil => simp [placeLines]
  | cons line rest ih =>
    obtain ⟨hline, hrest⟩ := List.forall_mem_cons.mp h
    rw [placeLines]
    exact List.forall_mem_cons.mpr
      ⟨newline_not_mem_placeLine known current hline, ih hrest _⟩

theorem trimBlankLines_sublist (lines : List String) : (trimBlankLines lines).Sublist lines := by
  unfold trimBlankLines
  dsimp only
  generalize hfront : lines.dropWhile (fun line => isBlankText line.toList) = front
  have h := (List.dropWhile_sublist (fun line : String => isBlankText line.toList)
    (l := front.reverse)).reverse
  rw [List.reverse_reverse] at h
  exact h.trans (hfront ▸ List.dropWhile_sublist _)

theorem oneLine_of_mem_description {comment line : String} {names : List String}
    (h : line ∈ (DocComment.parse comment names).description) : OneLine line := by
  obtain ⟨entry, hentry, rfl⟩ := List.mem_map.mp ((trimBlankLines_sublist _).subset h)
  rw [oneLine_ofList]
  exact newline_not_mem_placeLines (fun _ => not_mem_of_mem_splitAtChar) _ entry
    (List.mem_filter.mp hentry).1

theorem newline_not_mem_squeeze (text : List Char) : '\n' ∉ squeeze text := by
  intro h
  rcases mem_joinWith h with h | ⟨word, hword, h⟩
  · cases List.mem_singleton.mp h
  · rcases (mem_wordsFrom hword).2 '\n' h with h | ⟨_, hblank⟩
    · cases h
    · cases hblank

theorem oneLine_joinLines (lines : List String) : OneLine (joinLines lines) :=
  oneLine_ofList.mpr (newline_not_mem_squeeze _)

end HeaderBindings
