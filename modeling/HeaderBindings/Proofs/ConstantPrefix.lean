import HeaderBindings.Ruby.Block
import Mathlib.Data.List.TakeWhile

/-! The part that the names of all constants of an enum start with. It is looked for in the first name,
but any other name would give the same part or none, so that the order of the constants does not
matter. -/

namespace HeaderBindings

/-- What all names start with, without the underscore at its end, the only one in it. -/
structure IsSharedLead (names : List String) (lead : List Char) : Prop where
  unbroken : '_' ∉ lead
  shared : ∀ name ∈ names, lead ++ ['_'] <+: name.toList

theorem takeWhile_of_lead {lead text : List Char} (hlead : '_' ∉ lead)
    (h : lead ++ ['_'] <+: text) : text.takeWhile (· ≠ '_') = lead := by
  obtain ⟨rest, rfl⟩ := h
  have hletters : ∀ c ∈ lead, decide (c ≠ '_') = true := by
    intro c hc
    exact decide_eq_true fun heq => hlead (heq ▸ hc)
  rw [List.append_assoc, List.takeWhile_append_of_pos hletters, List.singleton_append,
    List.takeWhile_cons_of_neg (by simp), List.append_nil]

theorem constantPrefixLength_of_lead {names : List String} {lead : List Char} (hne : names ≠ [])
    (h : IsSharedLead names lead) : constantPrefixLength names = lead.length + 1 := by
  cases names with
  | nil => exact absurd rfl hne
  | cons first rest =>
    have hfirst := h.shared first List.mem_cons_self
    have hlead : first.toList.takeWhile (· ≠ '_') = lead := takeWhile_of_lead h.unbroken hfirst
    have hunderscore : '_' ∈ first.toList := hfirst.subset (by simp)
    have hall : (first :: rest).all (fun name => (lead ++ ['_']).isPrefixOf name.toList) = true := by
      rw [List.all_eq_true]
      exact fun name hname => List.isPrefixOf_iff_prefix.mpr (h.shared name hname)
    simp only [constantPrefixLength]
    rw [hlead, if_pos ⟨hunderscore, hall⟩]

theorem exists_lead_of_constantPrefixLength {names : List String}
    (h : 0 < constantPrefixLength names) :
    names ≠ [] ∧ ∃ lead, IsSharedLead names lead ∧ constantPrefixLength names = lead.length + 1 := by
  cases names with
  | nil => exact absurd h (Nat.lt_irrefl 0)
  | cons first rest =>
    refine ⟨List.cons_ne_nil _ _, first.toList.takeWhile (· ≠ '_'), ?_⟩
    simp only [constantPrefixLength] at h ⊢
    split at h
    · next hshared =>
      refine ⟨⟨fun hmem => ?_, fun name hname => ?_⟩, if_pos hshared⟩
      · simpa using List.mem_takeWhile_imp hmem
      · exact List.isPrefixOf_iff_prefix.mp (List.all_eq_true.mp hshared.2 name hname)
    · exact absurd h (Nat.lt_irrefl 0)

/-- Only which names there are matters. -/
theorem constantPrefixLength_congr {names others : List String}
    (h : ∀ name, name ∈ names ↔ name ∈ others) :
    constantPrefixLength names = constantPrefixLength others := by
  have hcarry : ∀ {names others : List String}, (∀ name, name ∈ names ↔ name ∈ others) →
      0 < constantPrefixLength names → constantPrefixLength others = constantPrefixLength names := by
    intro names others h hpos
    obtain ⟨hne, lead, hlead, hlength⟩ := exists_lead_of_constantPrefixLength hpos
    obtain ⟨name, hname⟩ := List.exists_mem_of_ne_nil names hne
    have hshared : IsSharedLead others lead :=
      ⟨hlead.unbroken, fun name hname => hlead.shared name ((h name).mpr hname)⟩
    rw [hlength]
    exact constantPrefixLength_of_lead (List.ne_nil_of_mem ((h name).mp hname)) hshared
  by_cases hnames : 0 < constantPrefixLength names
  · exact (hcarry h hnames).symm
  · by_cases hothers : 0 < constantPrefixLength others
    · exact hcarry (fun name => (h name).symm) hothers
    · omega

/-- The length is the same for every order of the constants. It is that of the part which all names
start with and which ends with their first underscore, and nought where there is none. Names without
that part are as different as the names. -/
theorem constantPrefixLength_perm {constants others : List (String × Option String)}
    (h : constants.Perm others) :
    let names := constants.map (·.1)
    let length := constantPrefixLength names
    constantPrefixLength (others.map (·.1)) = length ∧
      (0 < length ↔ names ≠ [] ∧ ∃ lead, IsSharedLead names lead) ∧
      (0 < length → ∃ start : List Char, start.length = length ∧
        (∀ name ∈ names, name.toList.take length = start) ∧
        ∀ i, start[i]? = some '_' ↔ i + 1 = length) ∧
      ∀ name ∈ names, ∀ other ∈ names, name ≠ other →
        name.toList.drop length ≠ other.toList.drop length := by
  intro names length
  have htake : 0 < length → ∃ lead, IsSharedLead names lead ∧ length = lead.length + 1 ∧
      ∀ name ∈ names, name.toList.take length = lead ++ ['_'] := by
    intro hpos
    obtain ⟨-, lead, hlead, hlength⟩ := exists_lead_of_constantPrefixLength hpos
    refine ⟨lead, hlead, hlength, fun name hname => ?_⟩
    have hcut := List.prefix_iff_eq_take.mp (hlead.shared name hname)
    rw [List.length_append, List.length_singleton, ← hlength] at hcut
    exact hcut.symm
  refine ⟨(constantPrefixLength_congr fun name => (h.map (·.1)).mem_iff).symm, ?_, ?_, ?_⟩
  · constructor
    · intro hpos
      obtain ⟨hne, lead, hlead, -⟩ := exists_lead_of_constantPrefixLength hpos
      exact ⟨hne, lead, hlead⟩
    · rintro ⟨hne, lead, hlead⟩
      have hlength := constantPrefixLength_of_lead hne hlead
      omega
  · intro hpos
    obtain ⟨lead, hlead, hlength, hnames⟩ := htake hpos
    refine ⟨lead ++ ['_'], by rw [hlength]; simp, hnames, fun i => ?_⟩
    constructor
    · intro hi
      by_cases hless : i < lead.length
      · rw [List.getElem?_append_left hless] at hi
        exact absurd (List.mem_of_getElem? hi) hlead.unbroken
      · have hbound := (List.getElem?_eq_some_iff.mp hi).1
        rw [List.length_append, List.length_singleton] at hbound
        omega
    · intro hi
      have hlast : i = lead.length := by omega
      rw [hlast, List.getElem?_append_right (Nat.le_refl _), Nat.sub_self]
      rfl
  · intro name hname other hother hne hdrop
    have hsame : name.toList.take length = other.toList.take length := by
      by_cases hpos : 0 < length
      · obtain ⟨lead, -, -, hnames⟩ := htake hpos
        rw [hnames name hname, hnames other hother]
      · have hzero : length = 0 := by omega
        rw [hzero, List.take_zero, List.take_zero]
    apply hne
    rw [← String.toList_inj, ← List.take_append_drop length name.toList,
      ← List.take_append_drop length other.toList, hsame, hdrop]

theorem constantPrefixLength_color_perm :
    let constants := [("COLOR_RED", none), ("COLOR_DEEP_BLUE", some "4"), ("COLOR_", none)]
    let others := [("COLOR_", none), ("COLOR_RED", none), ("COLOR_DEEP_BLUE", some "4")]
    constants.Perm others ∧ constantPrefixLength (constants.map (·.1)) = 6 ∧
      constantPrefixLength (others.map (·.1)) = constantPrefixLength (constants.map (·.1)) := by
  intro constants others
  have hperm : constants.Perm others := by decide
  exact ⟨hperm, by decide, (constantPrefixLength_perm hperm).1⟩

end HeaderBindings
