import HeaderBindings.SystemDirectories
import Mathlib.Data.List.Infix

/-! Where a part comes in a text for the first time. -/

namespace HeaderBindings

/-- A text cut into what stands in front of the first occurrence of a part, and what stands behind. -/
structure IsFirstCut (part before after text : List Char) : Prop where
  text_eq : text = before ++ part ++ after
  first : ∀ front back, text = front ++ part ++ back → before.length ≤ front.length

variable {part before after text front back : List Char} {c : Char}

theorem IsFirstCut.isInfix (h : IsFirstCut part before after text) : part <:+: text :=
  ⟨before, after, h.text_eq.symm⟩

theorem IsFirstCut.unique (h : IsFirstCut part before after text)
    (hother : IsFirstCut part front back text) : before = front ∧ after = back := by
  have hle := h.first front back hother.text_eq
  have hge := hother.first before after h.text_eq
  have htext : before ++ (part ++ after) = front ++ (part ++ back) := by
    simpa only [List.append_assoc] using h.text_eq.symm.trans hother.text_eq
  obtain ⟨rfl, hrest⟩ := List.append_inj htext (by omega)
  exact ⟨rfl, List.append_cancel_left hrest⟩

/-- A part does not come in front of its first occurrence. -/
theorem IsFirstCut.not_infix_before (h : IsFirstCut part before after text) (hpart : part ≠ []) :
    ¬ part <:+: before := by
  rintro ⟨front, back, rfl⟩
  have hle := h.first front (back ++ part ++ after) (by rw [h.text_eq]; simp only [List.append_assoc])
  have hpos := List.length_pos_iff.mpr hpart
  simp only [List.length_append] at hle
  omega

theorem isFirstCut_at_start (h : text = part ++ after) : IsFirstCut part [] after text :=
  ⟨h, fun _ _ _ => Nat.zero_le _⟩

/-- A part that a text does not start with comes first where it does in the rest. -/
theorem isFirstCut_cons_iff (h : ¬ part <+: c :: text) :
    IsFirstCut part before after (c :: text) ↔
      ∃ lead, before = c :: lead ∧ IsFirstCut part lead after text := by
  constructor
  · intro hcut
    cases before with
    | nil => exact absurd ⟨after, hcut.text_eq.symm⟩ h
    | cons d lead =>
      obtain ⟨rfl, htext⟩ := List.cons.inj hcut.text_eq
      refine ⟨lead, rfl, htext, fun front back hfront => ?_⟩
      have hle := hcut.first (c :: front) back (congrArg (c :: ·) hfront)
      simpa using hle
  · rintro ⟨lead, rfl, hcut⟩
    refine ⟨congrArg (c :: ·) hcut.text_eq, fun front back hfront => ?_⟩
    cases front with
    | nil => exact absurd ⟨back, hfront.symm⟩ h
    | cons d front =>
      have hle := hcut.first front back (List.cons.inj hfront).2
      simpa using hle

theorem exists_isFirstCut (h : part <:+: text) : ∃ before after, IsFirstCut part before after text := by
  induction text with
  | nil => exact ⟨[], [], isFirstCut_at_start (by simp [List.infix_nil.mp h])⟩
  | cons c text ih =>
    by_cases hprefix : part <+: c :: text
    · obtain ⟨after, hafter⟩ := hprefix
      exact ⟨[], after, isFirstCut_at_start hafter.symm⟩
    · have hrest : part <:+: text := (List.infix_cons_iff.mp h).resolve_left hprefix
      obtain ⟨lead, after, hcut⟩ := ih hrest
      exact ⟨c :: lead, after, (isFirstCut_cons_iff hprefix).mpr ⟨lead, rfl, hcut⟩⟩

/-- A part whose first character is not in the front of a text comes behind that front. -/
theorem infix_append_of_not_mem {tail : List Char} (hc : c ∉ front)
    (h : c :: tail <:+: front ++ text) : c :: tail <:+: text := by
  induction front with
  | nil => exact h
  | cons d front ih =>
    rw [List.mem_cons, not_or] at hc
    rcases List.infix_cons_iff.mp h with hstart | hrest
    · exact absurd (List.cons_prefix_cons.mp hstart).1 hc.1
    · exact ih hc.2 hrest

/-! Searches for a part. -/

theorem IsFirstCut.searches (h : IsFirstCut part before after text) :
    textBehind part text = some after ∧ textBefore part text = some before := by
  induction text generalizing before with
  | nil =>
    have hempty : before = [] ∧ part = [] ∧ after = [] := by simpa [and_assoc] using h.text_eq
    obtain ⟨rfl, rfl, rfl⟩ := hempty
    exact ⟨rfl, rfl⟩
  | cons c text ih =>
    rw [textBehind, textBefore]
    by_cases hprefix : part <+: c :: text
    · obtain ⟨rest, hrest⟩ := hprefix
      obtain ⟨rfl, rfl⟩ := h.unique (isFirstCut_at_start hrest.symm)
      have hstart : part.isPrefixOf (c :: text) = true :=
        List.isPrefixOf_iff_prefix.mpr ⟨after, hrest⟩
      rw [if_pos hstart, if_pos hstart, ← hrest, List.drop_left]
      exact ⟨rfl, rfl⟩
    · have hstart : ¬ part.isPrefixOf (c :: text) = true := by simpa using hprefix
      obtain ⟨lead, rfl, hlead⟩ := (isFirstCut_cons_iff hprefix).mp h
      obtain ⟨hbehind, hbefore⟩ := ih hlead
      rw [if_neg hstart, if_neg hstart, hbehind, hbefore]
      exact ⟨rfl, rfl⟩

theorem searches_eq_none (h : ¬ part <:+: text) :
    textBehind part text = none ∧ textBefore part text = none := by
  induction text with
  | nil =>
    have hpart : part ≠ [] := fun hpart => h (hpart ▸ List.nil_infix)
    simp [textBehind, textBefore, hpart]
  | cons c text ih =>
    rw [List.infix_cons_iff, not_or] at h
    have hstart : ¬ part.isPrefixOf (c :: text) = true := by simpa using h.1
    rw [textBehind, textBefore, if_neg hstart, if_neg hstart, (ih h.2).1, (ih h.2).2]
    exact ⟨rfl, rfl⟩

end HeaderBindings
