import HeaderBindings.Proofs.TextLine

/-! Names of a binding hold the letters of the names in C, in lower case, and underscores. None of
these letters is a sign, such as a comma, a bracket or a newline. -/

namespace HeaderBindings

/-! Characters of ASCII. -/

theorem of_ascii {P : Char → Prop} (h : ∀ n < 128, P (Char.ofNat n)) {c : Char}
    (hc : c.toNat < 128) : P c :=
  Char.ofNat_toNat c ▸ h c.toNat hc

theorem lowercase_of_ascii {text : List Char} (h : ∀ c ∈ text, c.toNat < 128) :
    lowercase text = text.map Char.toLower := by
  have hfrom : ∀ before, lowercaseFrom before text = text.map Char.toLower := by
    induction text with
    | nil => exact fun before => rfl
    | cons c rest ih =>
      intro before
      rw [List.forall_mem_cons] at h
      have hsigma : ¬ (c.toNat == 0x3A3) = true := by
        rw [beq_iff_eq]
        omega
      rw [lowercaseFrom, if_neg hsigma, lowerForm, if_pos h.1, ih h.2]
      rfl
  exact hfrom []

/-! Signs. -/

/-- Whether a character stands in front of the lower-case letters and is no underscore. -/
def isNameSign (d : Char) : Bool := 0 < d.toNat && d.toNat < 'a'.toNat && d ≠ '_'

section

variable {d : Char} (hd : isNameSign d = true)

include hd

theorem isNameSign_bounds : 0 < d.toNat ∧ d.toNat < 97 ∧ d ≠ '_' := by
  simpa [isNameSign, and_assoc] using hd

theorem sign_ne_ofNat {n : Nat} (h : 97 ≤ n) : d ≠ Char.ofNat n := by
  have hbounds := isNameSign_bounds hd
  have hcode : (Char.ofNat n).toNat = n ∨ (Char.ofNat n).toNat = 0 := by
    unfold Char.ofNat
    by_cases hvalid : n.isValidChar
    · rw [dif_pos hvalid]
      exact .inl rfl
    · rw [dif_neg hvalid]
      exact .inr rfl
  intro heq
  rw [← heq] at hcode
  omega

omit hd in
theorem lowerShifts_code : ∀ entry ∈ lowerShifts, 97 ≤ entry.1.first + entry.2 := by
  decide +kernel

theorem sign_ne_toLower {c : Char} (h : c ≠ d) : d ≠ c.toLower := by
  have hbounds := isNameSign_bounds hd
  unfold Char.toLower
  split
  · next hupper =>
    intro heq
    have hcode : d.toNat = (c.val + 32).toNat := congrArg Char.toNat heq
    have hfirst : 65 ≤ c.val.toNat := UInt32.le_iff_toNat_le.mp hupper.1
    have hlast : c.val.toNat ≤ 90 := UInt32.le_iff_toNat_le.mp hupper.2
    rw [UInt32.toNat_add, show (32 : UInt32).toNat = 32 from rfl] at hcode
    omega
  · exact Ne.symm h

theorem sign_not_mem_of_lower {letters : List Char} (h : letters.all (97 ≤ ·.toNat) = true) :
    d ∉ letters := by
  intro hmem
  have hcode := of_decide_eq_true (List.all_eq_true.mp h d hmem)
  have hbounds := isNameSign_bounds hd
  omega

theorem sign_not_mem_lowerForm {c : Char} (h : c ≠ d) : d ∉ lowerForm c := by
  unfold lowerForm
  split
  · exact mt List.mem_singleton.mp (sign_ne_toLower hd h)
  · split
    · exact sign_not_mem_of_lower hd (by decide)
    · split
      · next range distance hfound =>
        have hcode := lowerShifts_code _ (List.mem_of_find?_eq_some hfound)
        have hrange := List.find?_some hfound
        simp only [CodeRange.holds, Bool.and_eq_true, decide_eq_true_eq] at hrange hcode
        exact mt List.mem_singleton.mp (sign_ne_ofNat hd (by omega))
      · exact mt List.mem_singleton.mp (Ne.symm h)

theorem sign_not_mem_lowercaseFrom {text : List Char} (h : d ∉ text) (before : List Char) :
    d ∉ lowercaseFrom before text := by
  induction text generalizing before with
  | nil => exact List.not_mem_nil
  | cons c rest ih =>
    rw [List.mem_cons, not_or] at h
    rw [lowercaseFrom, List.mem_append, not_or]
    refine ⟨?_, ih h.2 (c :: before)⟩
    split
    · unfold lowerSigma
      dsimp only
      split <;> exact sign_not_mem_of_lower hd (by decide)
    · exact sign_not_mem_lowerForm hd (Ne.symm h.1)

end

/-! Words and separators. -/

theorem spelling_of_mem_flushWord {word : List Char} {token : NameToken}
    (h : token ∈ flushWord word) : token.spelling = word := by
  unfold flushWord at h
  split at h
  · cases h
  · rw [List.mem_singleton.mp h]
    rfl

theorem mem_nameTokensFrom {word text : List Char} {token : NameToken}
    (h : token ∈ nameTokensFrom word text) {c : Char} (hc : c ∈ token.spelling) :
    c = '_' ∨ c ∈ word ∨ c ∈ text := by
  fun_induction nameTokensFrom word text with
  | case1 word =>
    rw [spelling_of_mem_flushWord h] at hc
    exact .inr (.inl hc)
  | case2 word rest ih =>
    rcases List.mem_append.mp h with h | h
    · rw [spelling_of_mem_flushWord h] at hc
      exact .inr (.inl hc)
    · rcases List.mem_cons.mp h with rfl | h
      · exact .inl (List.mem_singleton.mp hc)
      · exact (ih h).imp_right fun h => .inr (List.mem_cons_of_mem _ (by simpa using h))
  | case3 word d rest _ _ ih =>
    rcases List.mem_cons.mp h with rfl | h
    · exact .inr (.inl hc)
    · rcases List.mem_cons.mp h with rfl | h
      · exact .inl (List.mem_singleton.mp hc)
      · exact (ih h).imp_right fun h => .inr (by simpa using h)
  | case4 word d rest _ _ ih => exact (ih h).imp_right fun h => by simpa [or_assoc] using h

theorem collapseSeparators_sublist (tokens : List NameToken) :
    (collapseSeparators tokens).Sublist tokens := by
  fun_induction collapseSeparators tokens with
  | case1 => exact .slnil
  | case2 rest ih => exact ih.trans (List.sublist_cons_self _ _)
  | case3 token rest _ ih => exact ih.cons_cons token

theorem sign_not_mem_snakeCase {d : Char} (hd : isNameSign d = true) {name : List Char}
    (h : d ∉ name) : d ∉ snakeCase name := by
  have hunderscore := (isNameSign_bounds hd).2.2
  refine sign_not_mem_lowercaseFrom hd (fun hmem => ?_) []
  obtain ⟨token, htoken, hc⟩ := List.mem_flatMap.mp hmem
  have hfrom := (collapseSeparators_sublist _).subset htoken
  rcases mem_nameTokensFrom ((List.dropWhile_sublist _).subset hfrom) hc with hc | hc | hc
  · exact hunderscore hc
  · cases hc
  · exact h hc

/-! Identifiers. -/

theorem sign_not_mem_memberIdentifier (prefixes : List String) {d : Char}
    (hd : isNameSign d = true) {name : String} (h : d ∉ name.toList) :
    d ∉ (memberIdentifier prefixes name).toList := by
  unfold memberIdentifier stripPrefix
  rw [String.toList_ofList, String.toList_ofList]
  exact sign_not_mem_snakeCase hd fun hmem => h ((List.drop_sublist _ _).subset hmem)

section

variable (prefixes : List String) {name : String} (h : OneLine name)

include h

theorem oneLine_typeIdentifier : OneLine (typeIdentifier prefixes name) :=
  oneLine_ofList.mpr fun hmem => h ((List.drop_sublist _ _).subset hmem)

theorem oneLine_memberIdentifier : OneLine (memberIdentifier prefixes name) :=
  sign_not_mem_memberIdentifier prefixes rfl h

end

end HeaderBindings
