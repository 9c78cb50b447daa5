import HeaderBindings.Proofs.RubySyntax

/-! Names of C in Ruby source. Without its prefix a name is an identifier there if it has no dollar
sign and a letter comes first behind the underscores. -/

namespace HeaderBindings

variable {prefixes : List String} {name : String}

/-! Letters. -/

theorem code_of_isNameLetter {c : Char} (h : isNameLetter c = true) : c.toNat < 128 := by
  have hle : ∀ last : Char, c.val ≤ last.val → c.toNat ≤ last.toNat :=
    fun _ => UInt32.le_iff_toNat_le.mp
  have hcases : (c.isUpper || c.isLower || c.isDigit || decide (c = '_') || decide (c = '$')) =
      true := h
  simp only [Bool.or_eq_true, decide_eq_true_eq] at hcases
  rcases hcases with (((hupper | hlower) | hdigit) | rfl) | rfl
  · exact Nat.lt_of_le_of_lt (hle 'Z' (of_decide_eq_true hupper).2) (by decide)
  · have hbounds := Bool.and_eq_true_iff.mp hlower
    exact Nat.lt_of_le_of_lt (hle 'z' (of_decide_eq_true hbounds.2)) (by decide)
  · have hbounds := Bool.and_eq_true_iff.mp hdigit
    exact Nat.lt_of_le_of_lt (hle '9' (of_decide_eq_true hbounds.2)) (by decide)
  · decide
  · decide

theorem isNameLetter_of_isWordChar {c : Char} (h : isWordChar c = true) : isNameLetter c = true := by
  rw [isNameLetter, h, Bool.true_or]

theorem of_isNameLetter {P : Char → Prop} (h : ∀ n < 128, P (Char.ofNat n)) {c : Char}
    (hc : isNameLetter c = true) : P c :=
  of_ascii h (code_of_isNameLetter hc)

theorem isNameLetter_toLower {c : Char} (h : isNameLetter c = true) :
    isNameLetter c.toLower = true ∧ isWordChar c.toLower = isWordChar c :=
  of_isNameLetter (P := fun c => isNameLetter c = true →
    isNameLetter c.toLower = true ∧ isWordChar c.toLower = isWordChar c) (by decide +kernel) h h

theorem isDigit_toLower {c : Char} (h : isWordChar c = true) (hne : c ≠ '_') :
    c.toLower.isDigit = !c.isAlpha :=
  of_isNameLetter (P := fun c => isWordChar c = true → c ≠ '_' → c.toLower.isDigit = !c.isAlpha)
    (by decide +kernel) (isNameLetter_of_isWordChar h) h hne

theorem lowercase_of_letters {text : List Char} (h : ∀ c ∈ text, isNameLetter c = true) :
    lowercase text = text.map Char.toLower :=
  lowercase_of_ascii fun c hc => code_of_isNameLetter (h c hc)

/-! Words of a name. -/

theorem collapseSeparators_word (letters : List Char) (rest : List NameToken) :
    collapseSeparators (.word letters :: rest) = .word letters :: collapseSeparators rest := by
  rw [collapseSeparators.eq_3]
  rintro _ ⟨⟩

theorem flatMap_spelling_word (letters : List Char) (rest : List NameToken) :
    (collapseSeparators ((NameToken.word letters :: rest).dropWhile (· == .separator))).flatMap
      NameToken.spelling = letters ++ (collapseSeparators rest).flatMap NameToken.spelling := by
  rw [List.dropWhile_cons_of_neg (by simp), collapseSeparators_word, List.flatMap_cons,
    NameToken.spelling]

theorem head?_append_of_word {word rest : List Char} (hne : word ≠ []) (h : '_' ∉ word)
    (text : List Char) : (word ++ rest).head? = ((word ++ text).dropWhile (· = '_')).head? := by
  obtain ⟨c, more, rfl⟩ := List.exists_cons_of_ne_nil hne
  have hc : c ≠ '_' := by
    rintro rfl
    exact h List.mem_cons_self
  rw [List.cons_append, List.cons_append, List.dropWhile_cons_of_neg (by simpa using hc)]
  rfl

/-- The first word begins where the leading underscores end. -/
theorem head?_nameTokensFrom {word text : List Char} (h : '_' ∉ word) :
    ((collapseSeparators ((nameTokensFrom word text).dropWhile (· == .separator))).flatMap
      NameToken.spelling).head? = ((word ++ text).dropWhile (· = '_')).head? := by
  fun_induction nameTokensFrom word text with
  | case1 word =>
    unfold flushWord
    by_cases hword : word = []
    · subst hword
      rfl
    · rw [if_neg (by simpa using hword), flatMap_spelling_word]
      exact head?_append_of_word hword h []
  | case2 word rest ih =>
    unfold flushWord
    by_cases hword : word = []
    · subst hword
      simpa using ih List.not_mem_nil
    · rw [if_neg (by simpa using hword), List.singleton_append, flatMap_spelling_word]
      exact head?_append_of_word hword h _
  | case3 word c rest hc hstarts ih =>
    have hword : word ≠ [] := by
      rintro rfl
      simp [startsWord] at hstarts
    rw [flatMap_spelling_word]
    exact head?_append_of_word hword h _
  | case4 word c rest hc hstays ih =>
    have hgrown : '_' ∉ word ++ [c] := by
      rw [List.mem_append, List.mem_singleton, not_or]
      exact ⟨h, Ne.symm hc⟩
    simpa using ih hgrown

theorem exists_word_of_mem {word text : List Char} {c : Char} (hne : c ≠ '_')
    (h : c ∈ word ∨ c ∈ text) :
    ∃ letters, NameToken.word letters ∈ nameTokensFrom word text ∧ c ∈ letters := by
  fun_induction nameTokensFrom word text with
  | case1 word =>
    have hword : c ∈ word := h.resolve_right List.not_mem_nil
    unfold flushWord
    rw [if_neg (by simpa using List.ne_nil_of_mem hword)]
    exact ⟨word, List.mem_singleton_self _, hword⟩
  | case2 word rest ih =>
    rcases h with hword | hrest
    · unfold flushWord
      rw [if_neg (by simpa using List.ne_nil_of_mem hword)]
      exact ⟨word, List.mem_append_left _ (List.mem_singleton_self _), hword⟩
    · obtain ⟨letters, hmem, hc⟩ := ih (.inr ((List.mem_cons.mp hrest).resolve_left hne))
      exact ⟨letters, List.mem_append_right _ (List.mem_cons_of_mem _ hmem), hc⟩
  | case3 word d rest _ _ ih =>
    rcases h with hword | hrest
    · exact ⟨word, List.mem_cons_self, hword⟩
    · obtain ⟨letters, hmem, hc⟩ := ih ((List.mem_cons.mp hrest).imp_left List.mem_singleton.mpr)
      exact ⟨letters, List.mem_cons_of_mem _ (List.mem_cons_of_mem _ hmem), hc⟩
  | case4 word d rest _ _ ih =>
    refine ih ?_
    simpa [or_assoc] using h

theorem word_mem_collapseSeparators {letters : List Char} {tokens : List NameToken}
    (h : .word letters ∈ tokens) : .word letters ∈ collapseSeparators tokens := by
  fun_induction collapseSeparators tokens with
  | case1 => exact h
  | case2 rest ih =>
    refine ih ?_
    simpa using h
  | case3 token rest _ ih =>
    rcases List.mem_cons.mp h with rfl | h
    · exact List.mem_cons_self
    · exact List.mem_cons_of_mem _ (ih h)

/-- What a name is written with in words, before it is written in lower case. -/
def joinedWords (name : List Char) : List Char :=
  (collapseSeparators ((nameTokens name).dropWhile (· == .separator))).flatMap NameToken.spelling

theorem snakeCase_eq (name : List Char) : snakeCase name = lowercase (joinedWords name) := rfl

theorem eq_underscore_or_mem_of_joinedWords {name : List Char} {c : Char}
    (h : c ∈ joinedWords name) : c = '_' ∨ c ∈ name := by
  obtain ⟨token, htoken, hc⟩ := List.mem_flatMap.mp h
  have hfrom := (List.dropWhile_sublist _).subset ((collapseSeparators_sublist _).subset htoken)
  exact (mem_nameTokensFrom hfrom hc).imp_right fun h => h.resolve_left List.not_mem_nil

theorem mem_joinedWords {name : List Char} {c : Char} (hne : c ≠ '_') (h : c ∈ name) :
    c ∈ joinedWords name := by
  obtain ⟨letters, hmem, hc⟩ := @exists_word_of_mem [] name c hne (.inr h)
  refine List.mem_flatMap.mpr ⟨.word letters, word_mem_collapseSeparators ?_, hc⟩
  rw [← nameTokens, ← @List.takeWhile_append_dropWhile _ (· == .separator) (nameTokens name),
    List.mem_append] at hmem
  rcases hmem with hdropped | hkept
  · have hseparator := List.mem_takeWhile_imp hdropped
    cases hseparator
  · exact hkept

theorem snakeCase_of_letters {name : List Char} (h : ∀ c ∈ name, isNameLetter c = true) :
    snakeCase name = (joinedWords name).map Char.toLower := by
  rw [snakeCase_eq]
  refine lowercase_of_letters fun c hc => ?_
  rcases eq_underscore_or_mem_of_joinedWords hc with rfl | hc
  · rfl
  · exact h c hc

theorem head?_snakeCase {name : List Char} (h : ∀ c ∈ name, isNameLetter c = true) :
    (snakeCase name).head? = (name.dropWhile (· = '_')).head?.map Char.toLower := by
  rw [snakeCase_of_letters h, List.head?_map, joinedWords, nameTokens,
    head?_nameTokensFrom List.not_mem_nil, List.nil_append]

theorem isNameLetter_of_mem_snakeCase {name : List Char} (h : ∀ c ∈ name, isNameLetter c = true) :
    ∀ c ∈ snakeCase name, isNameLetter c = true := by
  rw [snakeCase_of_letters h, List.forall_mem_map]
  intro c hc
  rcases eq_underscore_or_mem_of_joinedWords hc with rfl | hc
  · rfl
  · exact (isNameLetter_toLower (h c hc)).1

theorem isWordChar_snakeCase_iff {name : List Char} (h : ∀ c ∈ name, isNameLetter c = true) :
    (∀ c ∈ snakeCase name, isWordChar c = true) ↔ ∀ c ∈ name, isWordChar c = true := by
  rw [snakeCase_of_letters h, List.forall_mem_map]
  constructor
  · intro hwords c hc
    by_cases hne : c = '_'
    · rw [hne]
      rfl
    · rw [← (isNameLetter_toLower (h c hc)).2]
      exact hwords c (mem_joinedWords hne hc)
  · intro hwords c hc
    rcases eq_underscore_or_mem_of_joinedWords hc with rfl | hc
    · rfl
    · rw [(isNameLetter_toLower (h c hc)).2]
      exact hwords c hc

/-! Names. -/

/-- Whether all letters of a name are those of C. -/
def IsLettered (name : String) : Prop := ∀ c ∈ name.toList, isNameLetter c = true

/-- Whether a name does without dollar signs too. -/
def IsWord (name : String) : Prop := ∀ c ∈ name.toList, isWordChar c = true

instance (name : String) : Decidable (IsWord name) :=
  inferInstanceAs (Decidable (∀ c ∈ name.toList, isWordChar c = true))

/-- An identifier in ASCII, or no name at all. -/
def isCName (name : String) : Bool :=
  name.toList.all isNameLetter && !name.toList.head?.any Char.isDigit

theorem isCName_iff : isCName name = true ↔
    IsLettered name ∧ name.toList.head?.any Char.isDigit = false := by
  rw [isCName, Bool.and_eq_true, List.all_eq_true, Bool.not_eq_true', IsLettered]

/-- Whether a name without its prefix has a letter behind the underscores there. -/
def FitsSymbol (prefixes : List String) (name : String) : Prop :=
  IsWord (stripPrefix prefixes name) ∧
    ((stripPrefix prefixes name).toList.dropWhile (· = '_')).head?.any Char.isAlpha = true

/-- Whether a name without its prefix begins with an upper-case letter; two names that do so mean
something else. -/
def FitsClass (prefixes : List String) (name : String) : Prop :=
  IsWord (stripPrefix prefixes name) ∧
    (stripPrefix prefixes name).toList.head?.any Char.isUpper = true ∧
    stripPrefix prefixes name ≠ "BEGIN" ∧ stripPrefix prefixes name ≠ "END"

instance (prefixes : List String) (name : String) : Decidable (FitsSymbol prefixes name) :=
  inferInstanceAs (Decidable (_ ∧ _))

instance (prefixes : List String) (name : String) : Decidable (FitsClass prefixes name) :=
  inferInstanceAs (Decidable (_ ∧ _))

example : FitsSymbol ["pal_"] "pal_Ink" ∧ ¬ FitsSymbol ["pal_"] "pal_3d" ∧
    ¬ FitsClass ["pal_"] "pal_ink" := by decide

section

variable (h : IsLettered name)

include h

theorem isLettered_drop (n : Nat) : IsLettered (String.ofList (name.toList.drop n)) := by
  intro c hc
  rw [String.toList_ofList] at hc
  exact h c ((List.drop_sublist _ _).subset hc)

theorem isLettered_memberIdentifier : IsLettered (memberIdentifier prefixes name) := by
  unfold IsLettered
  rw [memberIdentifier, String.toList_ofList]
  exact isNameLetter_of_mem_snakeCase (isLettered_drop h _)

theorem isSymbol_memberIdentifier_iff :
    IsWord (memberIdentifier prefixes name) ∧
        (memberIdentifier prefixes name).toList.head?.any (!·.isDigit) = true ↔
      FitsSymbol prefixes name := by
  have hstripped : IsLettered (stripPrefix prefixes name) := isLettered_drop h _
  unfold FitsSymbol IsWord
  rw [memberIdentifier, String.toList_ofList, isWordChar_snakeCase_iff hstripped,
    head?_snakeCase hstripped]
  refine and_congr_right fun hwords => ?_
  cases hrest : (stripPrefix prefixes name).toList.dropWhile (· = '_') with
  | nil => simp
  | cons c rest =>
    have hc : c ∈ (stripPrefix prefixes name).toList :=
      (List.dropWhile_sublist _).subset (hrest ▸ List.mem_cons_self)
    have hne : c ≠ '_' := by
      have hhead := List.head?_dropWhile_not (· = '_') (stripPrefix prefixes name).toList
      rw [hrest] at hhead
      simpa using hhead
    simp [isDigit_toLower (hwords c hc) hne]

end

/-- A name that has a letter behind its prefix does not start with a digit as it is. -/
theorem head?_of_fitsSymbol (h : isCName name = true) (hfits : FitsSymbol prefixes name) :
    name.toList.head?.any (!·.isDigit) = true := by
  obtain ⟨-, hdigit⟩ := isCName_iff.mp h
  cases hname : name.toList with
  | nil => simp [FitsSymbol, stripPrefix, hname] at hfits
  | cons c rest =>
    rw [hname] at hdigit
    simpa using hdigit

end HeaderBindings
