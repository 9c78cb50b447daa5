import HeaderBindings.C.Glyph
import HeaderBindings.Proofs.RubyName

/-! Literals of C in Ruby source. A literal is written as it stands in its file, with the escaped line
ends in it, and is an integer there only if it is nothing but digits behind the sign of their base. -/

namespace HeaderBindings

/-! Literals. -/

theorem exists_isPlainLiteral {text : String} {base : Nat} {digits : List Char}
    (hquote : '\'' ∉ text.toList) (hne : digits ≠ [])
    (hsplit : splitLiteral text.toList = (base, digits, [])) :
    ∃ value, IsPlainLiteral text value := by
  have hfilter : text.toList.filter (· ≠ '\'') = text.toList := by
    rw [List.filter_eq_self]
    intro c hc
    exact decide_eq_true fun heq => hquote (heq ▸ hc)
  have hread : readInteger? text = some ⟨digitsValue base digits, base = 10, .none⟩ := by
    unfold readInteger?
    rw [hfilter, hsplit]
    dsimp only
    rw [if_neg (by simpa using hne)]
    rfl
  exact ⟨_, hquote, _, hread, rfl, rfl⟩

theorem quote_not_mem_digits {base : Nat} {digits : List Char}
    (h : digits.all (isDigitOf base) = true) : '\'' ∉ digits := by
  intro hmem
  cases List.all_eq_true.mp h _ hmem

theorem cut_digits {base : Nat} {digits : List Char} (h : digits.all (isDigitOf base) = true) :
    digits.takeWhile (isDigitOf base) = digits ∧ digits.dropWhile (isDigitOf base) = [] := by
  rw [List.all_eq_true] at h
  exact ⟨List.takeWhile_eq_self_iff.mpr h, List.dropWhile_eq_nil_iff.mpr h⟩

theorem exists_isPlainLiteral_decimal {digits : List Char} (hne : digits ≠ [])
    (hdigits : digits.all (isDigitOf 10) = true) (hzero : ∀ x rest, digits ≠ '0' :: x :: rest) :
    ∃ value, IsPlainLiteral (String.ofList digits) value := by
  refine @exists_isPlainLiteral _ 10 digits ?_ hne ?_
  · rw [String.toList_ofList]
    exact quote_not_mem_digits hdigits
  · obtain ⟨htake, hdrop⟩ := cut_digits hdigits
    rw [String.toList_ofList, splitLiteral]
    · dsimp only
      rw [htake, hdrop]
    · exact hzero

theorem isDigitOf_of_isDigit {c : Char} (h : c.isDigit = true) : isDigitOf 10 c = true :=
  of_isNameLetter (P := fun c => c.isDigit = true → isDigitOf 10 c = true) (by decide +kernel)
    (by simp [isNameLetter, isWordChar, Char.isAlphanum, h]) h

theorem head?_toDigits_ne_zero {n : Nat} (h : 0 < n) : (Nat.toDigits 10 n).head? ≠ some '0' := by
  induction n using Nat.strong_induction_on with
  | _ n ih =>
    by_cases hsmall : n < 10
    · rw [Nat.toDigits_of_lt_base hsmall]
      have hdigits : ∀ n < 10, 0 < n → [n.digitChar].head? ≠ some '0' := by decide
      exact hdigits n hsmall h
    · rw [Nat.toDigits_of_base_le (by decide) (by omega), List.head?_append_of_ne_nil _
        Nat.toDigits_ne_nil]
      exact ih (n / 10) (by omega) (by omega)

theorem exists_isPlainLiteral_toDigits (n : Nat) :
    ∃ value, IsPlainLiteral (String.ofList (Nat.toDigits 10 n)) value := by
  refine exists_isPlainLiteral_decimal Nat.toDigits_ne_nil ?_ fun x rest heq => ?_
  · rw [List.all_eq_true]
    exact fun c hc =>
      isDigitOf_of_isDigit (Nat.isDigit_of_mem_toDigits (by decide) (by decide) hc)
  · cases n with
    | zero => cases heq
    | succ n => exact head?_toDigits_ne_zero n.succ_pos (by rw [heq]; rfl)

/-- Letters behind a leading zero that tell a base in Ruby only. -/
theorem readInteger?_of_base {text : String} {x : Char} {rest : List Char}
    (htext : text.toList = '0' :: x :: rest) (hx : x ∈ ['d', 'D', 'o', 'O']) :
    readInteger? text = none := by
  have hzero : isDigitOf 8 '0' = true := by decide
  have hfalse : isDigitOf 8 x = false ∧ x ≠ '\'' ∧ ¬ (x = 'x' ∨ x = 'X') ∧
      ¬ (x = 'b' ∨ x = 'B') ∧ ∀ letters, LiteralSuffix.none.read? (x :: letters) = none := by
    simp only [List.mem_cons, List.not_mem_nil, or_false] at hx
    rcases hx with rfl | rfl | rfl | rfl <;>
      exact ⟨by decide, by decide, by decide, by decide, fun letters => by
        simp [LiteralSuffix.read?]⟩
  obtain ⟨hdigit, hquote, hhex, hbinary, hsuffix⟩ := hfalse
  unfold readInteger?
  rw [htext, List.filter_cons_of_pos (by decide), List.filter_cons_of_pos (by simpa using hquote)]
  simp [splitLiteral, hhex, hbinary, hzero, hdigit, hsuffix]

/-- A number of Ruby is nothing but digits behind the sign of their base. In C two of these signs
are none. -/
theorem rubyNumber?_parts {text : List Char} (h : (rubyNumber? text).isSome = true) :
    ∃ base digits, digits ≠ [] ∧ digits.all (isDigitOf base) = true ∧
      (text = digits ∨ ∃ x, text = '0' :: x :: digits ∧ isNameLetter x = true) ∧
      (splitLiteral text = (base, digits, []) ∨
        ∃ x ∈ ['d', 'D', 'o', 'O'], text = '0' :: x :: digits) := by
  have hread : ∀ {base : Nat} {digits : List Char},
      (if digits ≠ [] ∧ digits.all (isDigitOf base) then some (digitsValue base digits)
        else none).isSome = true → digits ≠ [] ∧ digits.all (isDigitOf base) = true := by
    intro base digits h
    split at h
    · next hdigits => exact hdigits
    · cases h
  have hcut : ∀ {base : Nat} {digits : List Char}, digits.all (isDigitOf base) = true →
      (base, digits.takeWhile (isDigitOf base), digits.dropWhile (isDigitOf base)) =
        (base, digits, []) := by
    intro base digits hall
    rw [(cut_digits hall).1, (cut_digits hall).2]
  unfold rubyNumber? at h
  dsimp only at h
  split at h
  · next x rest =>
    split at h
    · next hx =>
      obtain ⟨hne, hall⟩ := hread h
      refine ⟨16, rest, hne, hall, .inr ⟨x, rfl, ?_⟩, .inl ((if_pos hx).trans (hcut hall))⟩
      rcases hx with rfl | rfl <;> decide
    · next hhex =>
      split at h
      · next hx =>
        obtain ⟨hne, hall⟩ := hread h
        refine ⟨2, rest, hne, hall, .inr ⟨x, rfl, ?_⟩,
          .inl ((if_neg hhex).trans ((if_pos hx).trans (hcut hall)))⟩
        rcases hx with rfl | rfl <;> decide
      · next hbinary =>
        split at h
        · next hx =>
          obtain ⟨hne, hall⟩ := hread h
          refine ⟨10, rest, hne, hall, .inr ⟨x, rfl, ?_⟩, .inr ⟨x, ?_, rfl⟩⟩ <;>
            rcases hx with rfl | rfl <;> decide
        · split at h
          · next hx =>
            obtain ⟨hne, hall⟩ := hread h
            refine ⟨8, rest, hne, hall, .inr ⟨x, rfl, ?_⟩, .inr ⟨x, ?_, rfl⟩⟩ <;>
              rcases hx with rfl | rfl <;> decide
          · obtain ⟨-, hall⟩ := hread h
            have hoctal : ('0' :: x :: rest).all (isDigitOf 8) = true := by
              rw [List.all_cons, hall]
              rfl
            exact ⟨8, _, List.cons_ne_nil _ _, hoctal, .inl rfl,
              .inl ((if_neg hhex).trans ((if_neg hbinary).trans (hcut hoctal)))⟩
  · next hplain =>
    obtain ⟨hne, hall⟩ := hread h
    exact ⟨10, text, hne, hall, .inl rfl,
      .inl ((splitLiteral.eq_2 text hplain).trans (hcut hall))⟩

theorem isNameLetter_of_isDigitOf {base : Nat} {c : Char} (h : isDigitOf base c = true) :
    isNameLetter c = true := by
  have hcode : c.toNat < 128 := Nat.lt_of_le_of_lt (code_of_isDigitOf h).2 (by decide)
  obtain ⟨value, hvalue, -⟩ := (Option.any_eq_true _ _).mp h
  exact of_ascii (P := fun c => (hexValue? c).isSome = true → isNameLetter c = true)
    (by decide +kernel) hcode (Option.isSome_of_eq_some hvalue)

theorem isNameLetter_of_rubyNumber? {text : List Char} (h : (rubyNumber? text).isSome = true) :
    ∀ c ∈ text, isNameLetter c = true := by
  obtain ⟨base, digits, -, hall, htext, -⟩ := rubyNumber?_parts h
  have hdigits : ∀ c ∈ digits, isNameLetter c = true :=
    fun c hc => isNameLetter_of_isDigitOf (List.all_eq_true.mp hall c hc)
  rcases htext with rfl | ⟨x, rfl, hx⟩
  · exact hdigits
  · exact List.forall_mem_cons.mpr ⟨rfl, List.forall_mem_cons.mpr ⟨hx, hdigits⟩⟩

/-- A literal of C that is a number of Ruby has no suffix and no digit separators. -/
theorem exists_isPlainLiteral_of_rubyNumber? {text : String}
    (hread : (readInteger? text).isSome = true) (h : (rubyNumber? text.toList).isSome = true) :
    ∃ value, IsPlainLiteral text value := by
  obtain ⟨base, digits, hne, -, -, hsplit | ⟨x, hx, htext⟩⟩ := rubyNumber?_parts h
  · refine exists_isPlainLiteral (fun hquote => ?_) hne hsplit
    cases isNameLetter_of_rubyNumber? h _ hquote
  · rw [readInteger?_of_base htext hx] at hread
    cases hread

theorem LiteralSuffix.code_of_read? {found : LiteralSuffix} {letters : List Char}
    (h : (found.read? letters).isSome = true) : ∀ c ∈ letters, 48 ≤ c.toNat := by
  fun_induction LiteralSuffix.read? found letters with
  | case1 => simp
  | _ => simp_all

theorem code_of_splitLiteral {text : List Char} {base : Nat} {digits suffix : List Char}
    (h : splitLiteral text = (base, digits, suffix)) {c : Char} (hc : c ∈ text) :
    48 ≤ c.toNat ∨ c ∈ suffix := by
  have hcut : ∀ {own : Nat} {body : List Char},
      (own, body.takeWhile (isDigitOf own), body.dropWhile (isDigitOf own)) =
        (base, digits, suffix) → c ∈ body → 48 ≤ c.toNat ∨ c ∈ suffix := by
    intro own body heq hbody
    have hparts : c ∈ body.takeWhile (isDigitOf own) ++ body.dropWhile (isDigitOf own) := by
      rwa [List.takeWhile_append_dropWhile]
    rcases List.mem_append.mp hparts with hbody | hbody
    · exact .inl (code_of_isDigitOf (List.mem_takeWhile_imp hbody)).1
    · obtain ⟨-, rest⟩ := Prod.mk.inj heq
      exact .inr ((Prod.mk.inj rest).2 ▸ hbody)
  have hmark : ∀ {x : Char} {rest : List Char}, 48 ≤ x.toNat → c ∈ '0' :: x :: rest →
      48 ≤ c.toNat ∨ c ∈ rest := by
    intro x rest hx hc
    rcases List.mem_cons.mp hc with rfl | hc
    · exact .inl (by decide)
    · rcases List.mem_cons.mp hc with rfl | hc
      · exact .inl hx
      · exact .inr hc
  unfold splitLiteral at h
  dsimp only at h
  split at h
  · next x rest =>
    split at h
    · next hx =>
      exact (hmark (by rcases hx with rfl | rfl <;> decide) hc).elim .inl (hcut h)
    · split at h
      · next hx =>
        exact (hmark (by rcases hx with rfl | rfl <;> decide) hc).elim .inl (hcut h)
      · exact hcut h hc
  · exact hcut h hc

/-- There is no comma in a literal. -/
theorem comma_not_mem_of_readInteger? {text : String} (h : (readInteger? text).isSome = true) :
    ',' ∉ text.toList := by
  intro hcomma
  have hfilter : ',' ∈ text.toList.filter (· ≠ '\'') :=
    List.mem_filter.mpr ⟨hcomma, by decide⟩
  unfold readInteger? at h
  split at h
  next base digits suffix hsplit =>
    rcases code_of_splitLiteral hsplit hfilter with hcode | hsuffix
    · exact absurd hcode (by decide)
    · split at h
      · cases h
      · split at h
        · next found hfound =>
          have hcode := LiteralSuffix.code_of_read? (Option.isSome_of_mem hfound) ',' hsuffix
          exact absurd hcode (by decide)
        · cases h

/-! Escaped line ends. -/

/-- A text without the escaped line ends in it. -/
def unescaped (trigraphs : Bool) (text : String) : String :=
  String.ofList (plainText (glyphs trigraphs text.toList))

theorem eq_nil_of_firstCharacter? {trigraphs : Bool} {text : List Char}
    (h : firstCharacter? trigraphs text = none) : text = [] := by
  unfold firstCharacter? at h
  split at h
  · rfl
  · split at h <;> cases h
  · cases h

theorem eq_cons_of_firstCharacter? {trigraphs : Bool} {text rest : List Char} {c : Char}
    {count : Nat} (h : firstCharacter? trigraphs text = some (c, count, rest))
    (hmark : '?' ∉ text) : text = c :: rest := by
  unfold firstCharacter? at h
  split at h
  · cases h
  · exact absurd List.mem_cons_self hmark
  · cases h
    rfl

theorem comma_mem_of_firstCharacter? {trigraphs : Bool} {text rest : List Char} {c : Char}
    {count : Nat} (h : firstCharacter? trigraphs text = some (c, count, rest)) (hcomma : ',' ∈ text) :
    c = ',' ∨ ',' ∈ rest := by
  unfold firstCharacter? at h
  split at h
  · cases h
  · next d more =>
    split at h
    · next sign hsign =>
      cases h
      have hd : d ≠ ',' := by
        rintro rfl
        cases trigraphs <;> cases hsign
      exact .inr (by simpa [Ne.symm hd] using hcomma)
    · cases h
      exact .inr (by simpa using hcomma)
  · cases h
    exact (List.mem_cons.mp hcomma).imp_left Eq.symm

theorem comma_mem_of_escapedLineEnd? {text ending rest : List Char}
    (h : escapedLineEnd? text = some (ending, rest)) (hcomma : ',' ∈ text) : ',' ∈ rest := by
  fun_induction escapedLineEnd? text generalizing ending with
  | case1 => cases hcomma
  | case2 | case3 =>
    cases h
    simpa using hcomma
  | case4 c more _ _ hend =>
    cases h
    refine (List.mem_cons.mp hcomma).resolve_left ?_
    rintro rfl
    cases hend
  | case5 c more _ _ _ hspace ih =>
    obtain ⟨found, hfound, heq⟩ := Option.map_eq_some_iff.mp h
    obtain ⟨-, rfl⟩ := Prod.mk.inj heq
    refine ih hfound ((List.mem_cons.mp hcomma).resolve_left ?_)
    rintro rfl
    cases hspace
  | case6 => cases h

/-- A comma is no part of an escaped line end. -/
theorem comma_mem_plainText {trigraphs : Bool} {pending text : List Char} (h : ',' ∈ text) :
    ',' ∈ plainText (glyphsFrom trigraphs pending text) := by
  fun_induction glyphsFrom trigraphs pending text with
  | case1 pending text hnone =>
    rw [eq_nil_of_firstCharacter? hnone] at h
    cases h
  | case2 pending text count rest written ending after hend first ih =>
    have hrest := (comma_mem_of_firstCharacter? first h).resolve_left (by decide)
    exact ih (comma_mem_of_escapedLineEnd? hend hrest)
  | case3 pending text count rest written hend first ih =>
    have hrest := (comma_mem_of_firstCharacter? first h).resolve_left (by decide)
    exact List.mem_cons_of_mem _ (ih hrest)
  | case4 pending text c count rest first written hplain ih =>
    rcases comma_mem_of_firstCharacter? first h with rfl | hrest
    · exact List.mem_cons_self
    · exact List.mem_cons_of_mem _ (ih hrest)

/-- A text without backslashes and question marks has no escaped line ends. -/
theorem plainText_of_not_mem {trigraphs : Bool} {pending text : List Char}
    (hslash : '\\' ∉ text) (hmark : '?' ∉ text) :
    plainText (glyphsFrom trigraphs pending text) = text := by
  fun_induction glyphsFrom trigraphs pending text with
  | case1 pending text hnone => exact (eq_nil_of_firstCharacter? hnone).symm
  | case2 pending text count rest written ending after hend first ih =>
    rw [eq_cons_of_firstCharacter? first hmark] at hslash
    exact absurd List.mem_cons_self hslash
  | case3 pending text count rest written hend first ih =>
    rw [eq_cons_of_firstCharacter? first hmark] at hslash
    exact absurd List.mem_cons_self hslash
  | case4 pending text c count rest first written hplain ih =>
    have htext := eq_cons_of_firstCharacter? first hmark
    rw [htext, List.mem_cons, not_or] at hslash hmark
    rw [htext]
    exact congrArg (c :: ·) (ih hslash.2 hmark.2)

theorem comma_not_mem_of_unescaped {trigraphs : Bool} {text : String}
    (h : (readInteger? (unescaped trigraphs text)).isSome = true) : ',' ∉ text.toList := by
  intro hcomma
  refine comma_not_mem_of_readInteger? h ?_
  rw [unescaped, String.toList_ofList]
  exact comma_mem_plainText hcomma

theorem unescaped_of_rubyNumber? {text : String} (trigraphs : Bool)
    (h : (rubyNumber? text.toList).isSome = true) : unescaped trigraphs text = text := by
  have hletters := isNameLetter_of_rubyNumber? h
  rw [unescaped, glyphs, plainText_of_not_mem, String.ofList_toList]
  · intro hmem
    cases hletters _ hmem
  · intro hmem
    cases hletters _ hmem

/-! Values of constants. -/

/-- Whether a value that is given by a literal is nothing but digits behind the sign of their
base. -/
def IsPlainValue (text : String) : Prop :=
  text.toList.head?.any Char.isDigit = true → ∃ value, IsPlainLiteral text value

theorem isRubyInteger_of_head {text : String} (h : text.toList.head?.any Char.isDigit = true) :
    IsRubyInteger text ↔ (rubyNumber? text.toList).isSome = true := by
  unfold IsRubyInteger
  split
  · next digits htext =>
    rw [htext] at h
    cases h
  · exact Iff.rfl

/-- A literal of C is an integer of Ruby exactly if it is plain as it stands in its file. -/
theorem isRubyInteger_iff_of_literal {trigraphs : Bool} {text : String}
    (hread : (readInteger? (unescaped trigraphs text)).isSome = true)
    (hhead : text.toList.head?.any Char.isDigit = true) :
    IsRubyInteger text ↔ IsPlainValue text := by
  rw [isRubyInteger_of_head hhead, IsPlainValue, forall_prop_of_true hhead]
  constructor
  · intro hnumber
    rw [unescaped_of_rubyNumber? trigraphs hnumber] at hread
    exact exists_isPlainLiteral_of_rubyNumber? hread hnumber
  · rintro ⟨value, hplain⟩
    exact Option.isSome_of_mem hplain.rubyNumber?

theorem isRubyInteger_toString (n : Int) :
    IsRubyInteger (toString n) ∧ IsPlainValue (toString n) := by
  cases n with
  | ofNat m =>
    obtain ⟨value, hplain⟩ := exists_isPlainLiteral_toDigits m
    refine ⟨(isRubyInteger_of_head hplain.characters.1).mpr ?_, fun _ => ⟨value, hplain⟩⟩
    exact Option.isSome_of_mem hplain.rubyNumber?
  | negSucc m =>
    obtain ⟨value, hplain⟩ := exists_isPlainLiteral_toDigits (m + 1)
    unfold IsRubyInteger IsPlainValue
    rw [toString_negSucc, String.toList_append]
    refine ⟨Option.isSome_of_mem hplain.rubyNumber?, ?_⟩
    rintro ⟨⟩

/-- A text that is written for a value: Ruby takes it as an integer if it is plain. -/
structure IsWrittenValue (text : String) : Prop where
  unbroken : ',' ∉ text.toList
  integer : IsRubyInteger text ↔ IsPlainValue text

theorem isWrittenValue_toString (n : Int) : IsWrittenValue (toString n) where
  unbroken := sign_not_mem_toString rfl (by decide) n
  integer := iff_of_true (isRubyInteger_toString n).1 (isRubyInteger_toString n).2

theorem isWrittenValue_of_literal {trigraphs : Bool} {text : String}
    (hread : (readInteger? (unescaped trigraphs text)).isSome = true)
    (hhead : text.toList.head?.any Char.isDigit = true) : IsWrittenValue text where
  unbroken := comma_not_mem_of_unescaped hread
  integer := isRubyInteger_iff_of_literal hread hhead

end HeaderBindings
