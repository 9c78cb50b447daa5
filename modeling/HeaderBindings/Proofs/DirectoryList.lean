import HeaderBindings.Proofs.FirstOccurrence
import HeaderBindings.Proofs.TextLine

/-! The directories in the report of a compiler. They are the words between two marks where the report
has both in order. A report without one of the marks is read all the same, from a fixed place on or up
to its last character, so that it has no directories only if there is nothing but white space there. -/

namespace HeaderBindings

/-- What stands between the first occurrence of a mark and the first one of another mark behind it. -/
def IsBetween (start finish part text : List Char) : Prop :=
  ∃ before behind after, IsFirstCut start before behind text ∧ IsFirstCut finish part after behind

/-- What is read of a report that has not both marks in order. -/
inductive IsReadInstead (text part : List Char) : Prop
  | unended {before behind : List Char} (start : IsFirstCut listStart.toList before behind text)
      (unended : ¬ listEnd.toList <:+: behind) (part_eq : part = behind.dropLast)
  | unstarted {after : List Char} (unstarted : ¬ listStart.toList <:+: text)
      (ending : IsFirstCut listEnd.toList part after (text.drop (listStart.length - 1)))
  | unmarked (unstarted : ¬ listStart.toList <:+: text)
      (unended : ¬ listEnd.toList <:+: text.drop (listStart.length - 1))
      (part_eq : part = (text.drop (listStart.length - 1)).dropLast)

/-- The directories that a report lists: the words between the marks, and none if it has not both marks
in order. -/
def ListsDirectories (text : List Char) (directories : List String) : Prop :=
  (∃ part, IsBetween listStart.toList listEnd.toList part text ∧
      directories = (words part).map String.ofList) ∨
    (¬ ∃ part, IsBetween listStart.toList listEnd.toList part text) ∧ directories = []

section

variable {part other text : List Char} {report : String}

theorem IsReadInstead.not_isBetween (h : IsReadInstead text part) :
    ¬ IsBetween listStart.toList listEnd.toList other text := by
  rintro ⟨before, behind, after, hstart, hend⟩
  cases h with
  | unended start unended =>
    obtain ⟨-, rfl⟩ := hstart.unique start
    exact unended hend.isInfix
  | unstarted unstarted => exact unstarted hstart.isInfix
  | unmarked unstarted => exact unstarted hstart.isInfix

/-- Every report has a part that is read: the case distinction is that of the two searches. -/
theorem exists_isBetween_or (text : List Char) :
    ∃ part, IsBetween listStart.toList listEnd.toList part text ∨ IsReadInstead text part := by
  by_cases hstart : listStart.toList <:+: text
  · obtain ⟨before, behind, hcut⟩ := exists_isFirstCut hstart
    by_cases hend : listEnd.toList <:+: behind
    · obtain ⟨part, after, hpart⟩ := exists_isFirstCut hend
      exact ⟨part, .inl ⟨before, behind, after, hcut, hpart⟩⟩
    · exact ⟨behind.dropLast, .inr (.unended hcut hend rfl)⟩
  · by_cases hend : listEnd.toList <:+: text.drop (listStart.length - 1)
    · obtain ⟨part, after, hpart⟩ := exists_isFirstCut hend
      exact ⟨part, .inr (.unstarted hstart hpart)⟩
    · exact ⟨_, .inr (.unmarked hstart hend rfl)⟩

theorem listedPart_of_isBetween (h : IsBetween listStart.toList listEnd.toList part text) :
    listedPart text = part := by
  obtain ⟨before, behind, after, hstart, hend⟩ := h
  rw [listedPart, hstart.searches.1, Option.getD_some, hend.searches.2, Option.getD_some]

theorem listedPart_of_isReadInstead (h : IsReadInstead text part) : listedPart text = part := by
  cases h with
  | unended start unended hpart =>
    rw [listedPart, start.searches.1, Option.getD_some, (searches_eq_none unended).2,
      Option.getD_none, hpart]
  | unstarted unstarted ending =>
    rw [listedPart, (searches_eq_none unstarted).1, Option.getD_none, ending.searches.2,
      Option.getD_some]
  | unmarked unstarted unended hpart =>
    rw [listedPart, (searches_eq_none unstarted).1, Option.getD_none,
      (searches_eq_none unended).2, Option.getD_none, hpart]

theorem listedPart_cases (text : List Char) :
    IsBetween listStart.toList listEnd.toList (listedPart text) text ∨
      IsReadInstead text (listedPart text) := by
  obtain ⟨part, hpart | hpart⟩ := exists_isBetween_or text
  · exact .inl (listedPart_of_isBetween hpart ▸ hpart)
  · exact .inr (listedPart_of_isReadInstead hpart ▸ hpart)

theorem listedPart_eq_iff :
    listedPart text = part ↔
      IsBetween listStart.toList listEnd.toList part text ∨ IsReadInstead text part := by
  constructor
  · rintro rfl
    exact listedPart_cases text
  · exact fun h => h.elim listedPart_of_isBetween listedPart_of_isReadInstead

theorem systemDirectories_eq_nil_iff :
    systemDirectories report = [] ↔ isBlankText (listedPart (plainLines report.toList)) = true := by
  rw [systemDirectories, List.map_eq_nil_iff, words_eq_nil_iff]

end

/-- The directories that are read are those that the report lists exactly if the report has both marks
in order, or has only white space in the part that is read instead. -/
theorem systemDirectories_listed_iff (report : String) :
    let text := plainLines report.toList
    (∀ directories, systemDirectories report = directories ↔
      ∃ part, (IsBetween listStart.toList listEnd.toList part text ∨ IsReadInstead text part) ∧
        directories = (words part).map String.ofList) ∧
      (ListsDirectories text (systemDirectories report) ↔
        (∃ part, IsBetween listStart.toList listEnd.toList part text) ∨
          ∃ part, IsReadInstead text part ∧ isBlankText part = true) := by
  intro text
  have hread : systemDirectories report = (words (listedPart text)).map String.ofList := rfl
  constructor
  · intro directories
    simp only [← listedPart_eq_iff, exists_eq_left']
    rw [hread, eq_comm]
  · rcases listedPart_cases text with hpart | hpart
    · exact iff_of_true (.inl ⟨_, hpart, hread⟩) (.inl ⟨_, hpart⟩)
    · have hnone : ¬ ∃ part, IsBetween listStart.toList listEnd.toList part text :=
        fun ⟨_, hother⟩ => hpart.not_isBetween hother
      have hwanted : ListsDirectories text (systemDirectories report) ↔
          systemDirectories report = [] :=
        ⟨fun h => (h.resolve_left fun ⟨part, hother, _⟩ => hnone ⟨part, hother⟩).2,
          fun h => .inr ⟨hnone, h⟩⟩
      rw [hwanted, systemDirectories_eq_nil_iff, or_iff_right hnone]
      refine ⟨fun hblank => ⟨_, hpart, hblank⟩, fun ⟨part, hother, hblank⟩ => ?_⟩
      rwa [← listedPart_of_isReadInstead hother] at hblank

example :
    systemDirectories "#include <...> search starts here:\n /usr/include\nEnd of search list.\n" =
      ["/usr/include"] := by
  decide +kernel

/-- The report of a compiler that speaks another language. -/
def foreignReport : String :=
  "#include <...> - Suche beginnt hier:\n /usr/include\nEnde der Suchliste.\n"

/-- A report without the marks is read from the 34th character on. -/
theorem foreignReport_misread :
    systemDirectories foreignReport = ["er:", "/usr/include", "Ende", "der", "Suchliste."] ∧
      ¬ ListsDirectories (plainLines foreignReport.toList) (systemDirectories foreignReport) := by
  have hread : systemDirectories foreignReport =
      ["er:", "/usr/include", "Ende", "der", "Suchliste."] := by decide +kernel
  have hstart : ¬ listStart.toList <:+: plainLines foreignReport.toList := by decide +kernel
  refine ⟨hread, fun h => ?_⟩
  rcases h with ⟨part, ⟨before, behind, after, hcut, -⟩, -⟩ | ⟨-, hnone⟩
  · exact hstart hcut.isInfix
  · rw [hread] at hnone
    cases hnone

end HeaderBindings
