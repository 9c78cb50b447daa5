import HeaderBindings.Proofs.NameText
import Mathlib.Data.List.Chain
import Mathlib.Data.List.Induction

/-! Words of a name. The letters around a place tell whether a word starts there, and a name that is
written out with its separators is cut into the same words again. -/

namespace HeaderBindings

/-- Whether a word starts inside a name: at an upper-case letter with a lower-case letter or a digit
in front of it, or with a letter in front and a lower-case one behind. -/
def startsWordAt (name : List Char) (i : Nat) : Bool :=
  0 < i && name[i]?.any isUpper && name[i - 1]?.any fun previous =>
    previous ≠ '_' && (isLower previous || isDigit previous || name[i + 1]?.any isLower)

/-- A name with an underscore put in wherever a word starts inside it. -/
def separated (name : List Char) : List Char :=
  (name.mapIdx fun i c => if startsWordAt name i then ['_', c] else [c]).flatten

/-- What comes out behind the word that is being collected. -/
def spelledFrom (word : List Char) : List Char → List Char
  | [] => []
  | c :: rest =>
    if c = '_' then '_' :: spelledFrom [] rest
    else if startsWord word c rest then '_' :: c :: spelledFrom [c] rest
    else c :: spelledFrom (word ++ [c]) rest

theorem flatMap_flushWord (word : List Char) :
    (flushWord word).flatMap NameToken.spelling = word := by
  cases word with
  | nil => rfl
  | cons c rest => simp [flushWord, NameToken.spelling]

theorem flatMap_nameTokensFrom (word text : List Char) :
    (nameTokensFrom word text).flatMap NameToken.spelling = word ++ spelledFrom word text := by
  fun_induction nameTokensFrom word text with
  | case1 word => rw [flatMap_flushWord, spelledFrom, List.append_nil]
  | case2 word rest ih =>
    rw [List.flatMap_append, flatMap_flushWord, List.flatMap_cons, ih, spelledFrom, if_pos rfl]
    rfl
  | case3 word c rest hc hstarts ih =>
    rw [List.flatMap_cons, List.flatMap_cons, ih, spelledFrom, if_neg hc, if_pos hstarts]
    rfl
  | case4 word c rest hc hstays ih =>
    rw [ih, spelledFrom, if_neg hc, if_neg hstays, List.append_assoc]
    rfl

/-! Places. -/

/-- The word that is being collected in front of a place ends like the text there, unless the text
ends with an underscore. -/
theorem startsWord_eq {front word : List Char}
    (h : word.getLast? = front.getLast?.filter (· ≠ '_')) (c : Char) (rest : List Char) :
    startsWord word c rest = startsWordAt (front ++ c :: rest) front.length := by
  unfold startsWord startsWordAt
  rw [h]
  cases front using List.reverseRecOn with
  | nil => simp
  | append_singleton earlier previous =>
    have hnext : (earlier ++ [previous] ++ c :: rest)[(earlier ++ [previous]).length + 1]? =
        rest.head? := by
      rw [List.getElem?_append_right (Nat.le_add_right _ _), Nat.add_sub_cancel_left]
      exact List.head?_eq_getElem?.symm
    rw [hnext]
    by_cases hprevious : previous = '_' <;> simp [hprevious, Option.filter]

theorem spelledFrom_eq {front word : List Char}
    (h : word.getLast? = front.getLast?.filter (· ≠ '_')) (text : List Char) :
    spelledFrom word text = (text.mapIdx fun i c =>
      if startsWordAt (front ++ text) (front.length + i) then ['_', c] else [c]).flatten := by
  induction text generalizing front word with
  | nil => rfl
  | cons c rest ih =>
    have hrest : ∀ next : List Char, next.getLast? = (some c).filter (· ≠ '_') →
        spelledFrom next rest = (rest.mapIdx fun i d =>
          if startsWordAt (front ++ c :: rest) (front.length + (i + 1)) then ['_', d]
          else [d]).flatten := by
      intro next hnext
      have hlast : next.getLast? = (front ++ [c]).getLast?.filter (· ≠ '_') := by
        rw [hnext, List.getLast?_concat]
      rw [ih hlast, List.append_assoc, List.length_append]
      simp only [List.singleton_append, List.length_singleton, Nat.add_assoc, Nat.add_comm 1]
    have hstarts := startsWord_eq h c rest
    rw [spelledFrom, List.mapIdx_cons, List.flatten_cons, Nat.add_zero, ← hstarts]
    by_cases hc : c = '_'
    · have hplain : startsWord word c rest = false := by simp [startsWord, hc, isUpper]
      rw [if_pos hc, if_neg (by simp [hplain]), hrest [] (by simp [hc, Option.filter]), hc]
      rfl
    · rw [if_neg hc]
      by_cases hword : startsWord word c rest = true
      · rw [if_pos hword, if_pos hword, hrest [c] (by simp [hc, Option.filter])]
        rfl
      · rw [if_neg hword, if_neg hword, hrest (word ++ [c]) (by simp [hc, Option.filter])]
        rfl

theorem flatMap_nameTokens (name : List Char) :
    (nameTokens name).flatMap NameToken.spelling = separated name := by
  have hplaces := @spelledFrom_eq [] [] rfl name
  rw [nameTokens, flatMap_nameTokensFrom, List.nil_append, hplaces]
  simp [separated]

/-! Letters. -/

theorem filter_spelledFrom (word text : List Char) :
    (spelledFrom word text).filter (· ≠ '_') = text.filter (· ≠ '_') := by
  fun_induction spelledFrom word text with
  | case1 => rfl
  | case2 word rest ih => simpa using ih
  | case3 word c rest hc _ ih => simpa [hc] using ih
  | case4 word c rest hc _ ih => simpa [hc] using ih

/-! Tokens. -/

/-- A separator, or a word that is not empty and holds no underscore. -/
def NameToken.IsPlain : NameToken → Prop
  | .separator => True
  | .word letters => letters ≠ [] ∧ '_' ∉ letters

theorem isPlain_of_mem_flushWord {word : List Char} (h : '_' ∉ word) :
    ∀ token ∈ flushWord word, token.IsPlain := by
  intro token htoken
  unfold flushWord at htoken
  split at htoken
  · cases htoken
  · next hword =>
    rw [List.mem_singleton.mp htoken]
    exact ⟨by simpa using hword, h⟩

theorem isPlain_of_mem_nameTokensFrom {word text : List Char} (h : '_' ∉ word) :
    ∀ token ∈ nameTokensFrom word text, token.IsPlain := by
  fun_induction nameTokensFrom word text with
  | case1 word => exact isPlain_of_mem_flushWord h
  | case2 word rest ih =>
    intro token htoken
    rcases List.mem_append.mp htoken with htoken | htoken
    · exact isPlain_of_mem_flushWord h token htoken
    · rcases List.mem_cons.mp htoken with rfl | htoken
      · trivial
      · exact ih List.not_mem_nil token htoken
  | case3 word c rest hc hstarts ih =>
    have hword : word ≠ [] := by
      rintro rfl
      simp [startsWord] at hstarts
    have hone : '_' ∉ [c] := by simpa using Ne.symm hc
    refine List.forall_mem_cons.mpr ⟨⟨hword, h⟩, List.forall_mem_cons.mpr ⟨trivial, ih hone⟩⟩
  | case4 word c rest hc _ ih => exact ih (by simp [h, Ne.symm hc])

/-- Of two neighbours, one is a separator. -/
def Alternates (tokens : List NameToken) : Prop :=
  tokens.IsChain fun first second => first = .separator ∨ second = .separator

theorem alternates_separator {tokens : List NameToken} (h : Alternates tokens) :
    Alternates (.separator :: tokens) :=
  List.isChain_cons.mpr ⟨fun _ _ => .inl rfl, h⟩

theorem alternates_word {tokens : List NameToken} (h : Alternates tokens) (letters : List Char) :
    Alternates (.word letters :: .separator :: tokens) :=
  List.isChain_cons_cons.mpr ⟨.inr rfl, alternates_separator h⟩

theorem alternates_nameTokensFrom (word text : List Char) :
    Alternates (nameTokensFrom word text) := by
  fun_induction nameTokensFrom word text with
  | case1 word =>
    unfold flushWord
    split
    · exact .nil
    · exact .singleton _
  | case2 word rest ih =>
    unfold flushWord
    split
    · exact alternates_separator ih
    · exact alternates_word ih word
  | case3 word c rest _ _ ih => exact alternates_word ih word
  | case4 word c rest _ _ ih => exact ih

/-! Names with separators. -/

/-- A letter that is in lower case comes first in what is spelled out only if it came first before. -/
theorem head?_spelledFrom {word text : List Char}
    (h : (spelledFrom word text).head?.any isLower = true) : text.head?.any isLower = true := by
  have hsign : isLower '_' = false := by decide
  cases text with
  | nil => simp [spelledFrom] at h
  | cons c rest =>
    rw [spelledFrom] at h
    split at h
    · simp [hsign] at h
    · split at h
      · simp [hsign] at h
      · exact h

/-- No further word starts in a name that has its separators. -/
theorem nameTokensFrom_spelledFrom (word text : List Char) :
    nameTokensFrom word (spelledFrom word text) = nameTokensFrom word text := by
  fun_induction spelledFrom word text with
  | case1 => rfl
  | case2 word rest ih => rw [nameTokensFrom, if_pos rfl, ih, nameTokensFrom, if_pos rfl]
  | case3 word c rest hc hstarts ih =>
    have hword : word ≠ [] := by
      rintro rfl
      simp [startsWord] at hstarts
    have hflush : flushWord word = [.word word] := by simp [flushWord, hword]
    have hfirst : ¬ startsWord [] c (spelledFrom [c] rest) = true := by simp [startsWord]
    rw [nameTokensFrom, if_pos rfl, hflush, nameTokensFrom, if_neg hc, if_neg hfirst,
      List.nil_append, ih, nameTokensFrom.eq_2 word c rest, if_neg hc, if_pos hstarts]
    rfl
  | case4 word c rest hc hstays ih =>
    have hnext : ¬ startsWord word c (spelledFrom (word ++ [c]) rest) = true := by
      intro hstarts
      apply hstays
      unfold startsWord at hstarts ⊢
      cases hlast : word.getLast? with
      | none => simp [hlast] at hstarts
      | some previous =>
        simp only [hlast, Bool.and_eq_true, Bool.or_eq_true] at hstarts ⊢
        exact hstarts.imp_right fun h => h.imp_right head?_spelledFrom
    rw [nameTokensFrom, if_neg hc, if_neg hnext, ih, nameTokensFrom.eq_2 word c rest, if_neg hc,
      if_neg hstays]

/-- A name is cut where the letters around a place say so, and nowhere else; no letter of it is lost,
and with its separators put in it is cut in the same way. -/
theorem nameTokens_local (name : List Char) :
    let tokens := nameTokens name
    let text := tokens.flatMap NameToken.spelling
    (∀ token ∈ tokens, token.IsPlain) ∧ Alternates tokens ∧
      text.filter (· ≠ '_') = name.filter (· ≠ '_') ∧ text = separated name ∧
      nameTokens text = tokens := by
  intro tokens text
  have htext : text = spelledFrom [] name := flatMap_nameTokensFrom [] name
  refine ⟨isPlain_of_mem_nameTokensFrom List.not_mem_nil, alternates_nameTokensFrom [] name, ?_,
    flatMap_nameTokens name, ?_⟩
  · rw [htext, filter_spelledFrom]
  · rw [htext]
    exact nameTokensFrom_spelledFrom [] name

example : separated "ABBRevWord_wordStart".toList = "ABB_Rev_Word_word_Start".toList := by
  decide

end HeaderBindings
