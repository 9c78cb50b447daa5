import HeaderBindings.Proofs.NameToken
import HeaderBindings.Proofs.RubyName
import Mathlib.Data.List.Destutter

/-! Names of members in normal form. Such a name is in lower case, and its underscores stand alone and
behind a letter; a name that has this form already is left as it is. -/

namespace HeaderBindings

/-! Underscores. -/

/-- Of two neighbours, one is a letter. -/
def Apart (a b : Char) : Prop := ¬ (a = '_' ∧ b = '_')

instance : DecidableRel Apart := fun a b => inferInstanceAs (Decidable (¬ (a = '_' ∧ b = '_')))

theorem isChain_apart_iff {text : List Char} :
    text.IsChain Apart ↔ ¬ ['_', '_'] <:+: text := by
  rw [List.isChain_iff_forall_rel_of_append_cons_cons]
  constructor
  · rintro h ⟨front, back, rfl⟩
    exact h (by simp : _ = front ++ '_' :: '_' :: back) ⟨rfl, rfl⟩
  · rintro h a b front back rfl ⟨rfl, rfl⟩
    exact h ⟨front, back, by simp⟩

theorem destutter_cons_of_ne {c : Char} (h : c ≠ '_') (text : List Char) :
    (c :: text).destutter Apart = c :: text.destutter Apart := by
  cases text with
  | nil => rfl
  | cons d rest =>
    have hapart : Apart c d := fun hboth => h hboth.1
    rw [List.destutter_cons_cons, if_pos hapart, List.destutter_cons']

theorem destutter_append_of_not_mem {word : List Char} (h : '_' ∉ word) (text : List Char) :
    (word ++ text).destutter Apart = word ++ text.destutter Apart := by
  induction word with
  | nil => rfl
  | cons c rest ih =>
    rw [List.mem_cons, not_or] at h
    rw [List.cons_append, destutter_cons_of_ne (Ne.symm h.1), ih h.2, List.cons_append]

theorem filter_destutter (text : List Char) :
    (text.destutter Apart).filter (· ≠ '_') = text.filter (· ≠ '_') := by
  cases text with
  | nil => rfl
  | cons c rest =>
    rw [List.destutter_cons']
    induction rest generalizing c with
    | nil => rfl
    | cons d rest ih =>
      by_cases hapart : Apart c d
      · rw [List.destutter'_cons_pos _ hapart, List.filter_cons (x := c), ih,
          List.filter_cons (x := c)]
      · obtain ⟨rfl, rfl⟩ := not_not.mp hapart
        rw [List.destutter'_cons_neg _ hapart, ih]
        simp

theorem getLast?_destutter (text : List Char) :
    (text.destutter Apart).getLast? = text.getLast? := by
  cases text with
  | nil => rfl
  | cons c rest =>
    rw [List.destutter_cons']
    induction rest generalizing c with
    | nil => rfl
    | cons d rest ih =>
      by_cases hapart : Apart c d
      · rw [List.destutter'_cons_pos _ hapart, List.getLast?_cons, ih, ← List.getLast?_cons]
      · obtain ⟨rfl, rfl⟩ := not_not.mp hapart
        rw [List.destutter'_cons_neg _ hapart, ih]
        simp [List.getLast?_cons]

theorem filter_dropWhile (text : List Char) :
    (text.dropWhile (· = '_')).filter (· ≠ '_') = text.filter (· ≠ '_') := by
  induction text with
  | nil => rfl
  | cons c rest ih =>
    by_cases hc : c = '_'
    · simpa [hc] using ih
    · simp [hc]

theorem getLast?_dropWhile {text : List Char} (h : text.dropWhile (· = '_') ≠ []) :
    (text.dropWhile (· = '_')).getLast? = text.getLast? := by
  have hcut := List.takeWhile_append_dropWhile (p := (· = '_')) (l := text)
  have hlast := congrArg List.getLast? hcut
  rw [List.getLast?_append, List.getLast?_eq_some_getLast h] at hlast
  rw [List.getLast?_eq_some_getLast h, ← hlast]
  rfl

/-! Names with separators. -/

theorem spelledFrom_nil (name : List Char) : spelledFrom [] name = separated name :=
  (flatMap_nameTokensFrom [] name).symm.trans (flatMap_nameTokens name)

theorem filter_separated (name : List Char) :
    (separated name).filter (· ≠ '_') = name.filter (· ≠ '_') := by
  rw [← spelledFrom_nil, filter_spelledFrom]

theorem getLast?_spelledFrom (word text : List Char) :
    (spelledFrom word text).getLast? = text.getLast? := by
  fun_induction spelledFrom word text with
  | case1 => rfl
  | case2 word rest ih => rw [List.getLast?_cons, ih, List.getLast?_cons]
  | case3 word c rest _ _ ih =>
    rw [List.getLast?_cons, List.getLast?_cons, ih, List.getLast?_cons]
    rfl
  | case4 word c rest _ _ ih => rw [List.getLast?_cons, ih, List.getLast?_cons]

theorem spelledFrom_of_lower {text : List Char} (h : ∀ c ∈ text, isUpper c = false)
    (word : List Char) : spelledFrom word text = text := by
  fun_induction spelledFrom word text with
  | case1 => rfl
  | case2 word rest ih => rw [ih (List.forall_mem_cons.mp h).2]
  | case3 word c rest _ hstarts _ =>
    have hupper := (Bool.and_eq_true_iff.mp hstarts).1
    rw [(List.forall_mem_cons.mp h).1] at hupper
    cases hupper
  | case4 word c rest _ _ ih => rw [ih (List.forall_mem_cons.mp h).2]

/-! Tokens. -/

theorem flatMap_dropWhile {tokens : List NameToken} (h : ∀ token ∈ tokens, token.IsPlain) :
    (tokens.dropWhile (· == .separator)).flatMap NameToken.spelling =
      (tokens.flatMap NameToken.spelling).dropWhile (· = '_') := by
  induction tokens with
  | nil => rfl
  | cons token rest ih =>
    obtain ⟨htoken, hrest⟩ := List.forall_mem_cons.mp h
    cases token with
    | separator =>
      rw [List.dropWhile_cons_of_pos (by rfl), ih hrest, List.flatMap_cons, NameToken.spelling,
        List.singleton_append, List.dropWhile_cons_of_pos (by rfl)]
    | word letters =>
      obtain ⟨c, more, rfl⟩ := List.exists_cons_of_ne_nil htoken.1
      have hc : ¬ decide (c = '_') = true := by
        rw [decide_eq_true_eq]
        rintro rfl
        exact htoken.2 List.mem_cons_self
      rw [List.dropWhile_cons_of_neg (by simp), List.flatMap_cons, NameToken.spelling,
        List.cons_append, List.dropWhile_cons_of_neg (p := fun c => decide (c = '_')) hc]

theorem flatMap_collapseSeparators {tokens : List NameToken}
    (h : ∀ token ∈ tokens, token.IsPlain) :
    (collapseSeparators tokens).flatMap NameToken.spelling =
      (tokens.flatMap NameToken.spelling).destutter Apart := by
  fun_induction collapseSeparators tokens with
  | case1 => rfl
  | case2 rest ih =>
    rw [ih (List.forall_mem_cons.mp h).2]
    have hboth : ¬ Apart '_' '_' := fun hapart => hapart ⟨rfl, rfl⟩
    exact (List.destutter'_cons_neg _ hboth).symm
  | case3 token rest hsingle ih =>
    obtain ⟨htoken, hrest⟩ := List.forall_mem_cons.mp h
    rw [List.flatMap_cons, List.flatMap_cons, ih hrest]
    cases token with
    | word letters => exact (destutter_append_of_not_mem htoken.2 _).symm
    | separator =>
      -- what follows a single separator begins with a letter
      cases rest with
      | nil => rfl
      | cons next others =>
        cases next with
        | separator => exact absurd rfl (hsingle others rfl)
        | word letters =>
          have hnext := (List.forall_mem_cons.mp hrest).1
          obtain ⟨c, more, rfl⟩ := List.exists_cons_of_ne_nil hnext.1
          have hapart : Apart '_' c := by
            rintro ⟨-, rfl⟩
            exact hnext.2 List.mem_cons_self
          exact (List.destutter'_cons_pos _ hapart).symm

/-- The words of a name, joined: the underscores in front are taken off, and runs of them are made
one. -/
theorem joinedWords_eq (name : List Char) :
    joinedWords name = ((separated name).dropWhile (· = '_')).destutter Apart := by
  have hplain : ∀ token ∈ nameTokens name, token.IsPlain :=
    isPlain_of_mem_nameTokensFrom List.not_mem_nil
  have hrest : ∀ token ∈ (nameTokens name).dropWhile (· == .separator), token.IsPlain :=
    fun token htoken => hplain token ((List.dropWhile_sublist _).subset htoken)
  rw [joinedWords, flatMap_collapseSeparators hrest, flatMap_dropWhile hplain, flatMap_nameTokens]

section

variable (name : List Char)

theorem filter_joinedWords : (joinedWords name).filter (· ≠ '_') = name.filter (· ≠ '_') := by
  rw [joinedWords_eq, filter_destutter, filter_dropWhile, filter_separated]

theorem joinedWords_eq_nil_iff : joinedWords name = [] ↔ ∀ c ∈ name, c = '_' := by
  have hletters := filter_separated name
  have hnone : ∀ text : List Char, text.filter (· ≠ '_') = [] ↔ ∀ c ∈ text, c = '_' := by simp
  rw [joinedWords_eq, List.destutter_eq_nil, List.dropWhile_eq_nil_iff, ← hnone, ← hletters, hnone]
  simp

theorem getLast?_joinedWords (h : joinedWords name ≠ []) :
    (joinedWords name).getLast? = name.getLast? := by
  rw [joinedWords_eq] at h ⊢
  rw [Ne, List.destutter_eq_nil] at h
  rw [getLast?_destutter, getLast?_dropWhile h, ← spelledFrom_nil, getLast?_spelledFrom]

theorem head?_joinedWords : (joinedWords name).head? ≠ some '_' := by
  rw [joinedWords, nameTokens, head?_nameTokensFrom List.not_mem_nil, List.nil_append]
  intro h
  have hhead := List.head?_dropWhile_not (· = '_') name
  rw [h] at hhead
  cases hhead

theorem isChain_joinedWords : (joinedWords name).IsChain Apart := by
  rw [joinedWords_eq]
  exact List.isChain_destutter Apart _

end

/-! Names in lower case. -/

def IsAscii (text : List Char) : Prop := ∀ c ∈ text, c.toNat < 128

instance (text : List Char) : Decidable (IsAscii text) := List.decidableBAll _ text

/-- The normal form: lower case, no underscore in front, and no two of them in a row. -/
structure IsSnakeCase (text : List Char) : Prop where
  lower : ∀ c ∈ text, isUpper c = false
  lead : text.head? ≠ some '_'
  single : ¬ ['_', '_'] <:+: text

theorem toLower_ascii {c : Char} (h : c.toNat < 128) :
    c.toLower.toNat < 128 ∧ isUpper c.toLower = false ∧ (c.toLower = '_' ↔ c = '_') ∧
      (isUpper c = false → c.toLower = c) :=
  of_ascii (P := fun c => c.toLower.toNat < 128 ∧ isUpper c.toLower = false ∧
    (c.toLower = '_' ↔ c = '_') ∧ (isUpper c = false → c.toLower = c)) (by decide +kernel) h

section

variable {name : List Char} (h : IsAscii name)

include h

theorem isAscii_joinedWords : IsAscii (joinedWords name) := by
  intro c hc
  rcases eq_underscore_or_mem_of_joinedWords hc with rfl | hc
  · decide
  · exact h c hc

theorem snakeCase_of_ascii : snakeCase name = (joinedWords name).map Char.toLower := by
  rw [snakeCase_eq, lowercase_of_ascii (isAscii_joinedWords h)]

theorem isAscii_snakeCase : IsAscii (snakeCase name) := by
  rw [snakeCase_of_ascii h]
  exact List.forall_mem_map.mpr fun c hc => (toLower_ascii (isAscii_joinedWords h c hc)).1

theorem isSnakeCase_snakeCase : IsSnakeCase (snakeCase name) := by
  have hascii := isAscii_joinedWords h
  rw [snakeCase_of_ascii h]
  refine ⟨?_, ?_, ?_⟩
  · exact List.forall_mem_map.mpr fun c hc => (toLower_ascii (hascii c hc)).2.1
  · intro hhead
    rw [List.head?_map, Option.map_eq_some_iff] at hhead
    obtain ⟨c, hc, hlower⟩ := hhead
    have hsign := (toLower_ascii (hascii c (List.mem_of_head? hc))).2.2.1.mp hlower
    exact head?_joinedWords name (hsign ▸ hc)
  · rw [← isChain_apart_iff, List.isChain_map]
    refine (isChain_joinedWords name).imp_of_mem_imp fun a b ha hb hapart hboth => hapart ?_
    exact ⟨(toLower_ascii (hascii a ha)).2.2.1.mp hboth.1,
      (toLower_ascii (hascii b hb)).2.2.1.mp hboth.2⟩

theorem filter_snakeCase :
    (snakeCase name).filter (· ≠ '_') = (name.filter (· ≠ '_')).map Char.toLower := by
  have hascii := isAscii_joinedWords h
  rw [snakeCase_of_ascii h, List.filter_map, ← filter_joinedWords]
  refine congrArg (List.map Char.toLower) (List.filter_congr fun c hc => ?_)
  exact decide_eq_decide.mpr (not_congr (toLower_ascii (hascii c hc)).2.2.1)

theorem snakeCase_eq_nil_iff : snakeCase name = [] ↔ ∀ c ∈ name, c = '_' := by
  rw [snakeCase_of_ascii h, List.map_eq_nil_iff, joinedWords_eq_nil_iff]

theorem getLast?_snakeCase_iff (hne : snakeCase name ≠ []) :
    (snakeCase name).getLast? = some '_' ↔ name.getLast? = some '_' := by
  have hascii := isAscii_joinedWords h
  rw [snakeCase_of_ascii h] at hne ⊢
  have hjoined : joinedWords name ≠ [] := fun hnil => hne (by rw [hnil]; rfl)
  rw [List.getLast?_map, ← getLast?_joinedWords name hjoined, Option.map_eq_some_iff]
  constructor
  · rintro ⟨c, hc, hlower⟩
    rwa [← (toLower_ascii (hascii c (List.mem_of_getLast? hc))).2.2.1.mp hlower]
  · exact fun hlast => ⟨'_', hlast, rfl⟩

theorem snakeCase_eq_self_iff : snakeCase name = name ↔ IsSnakeCase name := by
  constructor
  · intro hself
    rw [← hself]
    exact isSnakeCase_snakeCase h
  · rintro ⟨hlower, hlead, hsingle⟩
    have hspelled : separated name = name := by
      rw [← spelledFrom_nil, spelledFrom_of_lower hlower]
    have hfront : name.dropWhile (· = '_') = name := by
      cases name with
      | nil => rfl
      | cons c rest => exact List.dropWhile_cons_of_neg (by simpa using hlead)
    have hjoined : joinedWords name = name := by
      rw [joinedWords_eq, hspelled, hfront]
      exact List.destutter_of_isChain Apart name (isChain_apart_iff.mpr hsingle)
    rw [snakeCase_of_ascii h, hjoined]
    have hletters : ∀ c ∈ name, c.toLower = c :=
      fun c hc => (toLower_ascii (h c hc)).2.2.2 (hlower c hc)
    exact (List.map_congr_left hletters).trans (List.map_id name)

end

theorem memberIdentifier_nil (name : String) :
    (memberIdentifier [] name).toList = snakeCase name.toList := by
  rw [memberIdentifier, String.toList_ofList, stripPrefix, String.toList_ofList]
  rfl

/-- The identifier of a member is in normal form and has the letters of the name without its prefix;
names in normal form are those that stay as they are. -/
theorem memberIdentifier_normal (prefixes : List String) {name : String}
    (h : IsAscii name.toList) :
    let stripped := (stripPrefix prefixes name).toList
    let result := (memberIdentifier prefixes name).toList
    IsSnakeCase result ∧
      result.filter (· ≠ '_') = (stripped.filter (· ≠ '_')).map Char.toLower ∧
      (result = [] ↔ ∀ c ∈ stripped, c = '_') ∧
      (result ≠ [] → (result.getLast? = some '_' ↔ stripped.getLast? = some '_')) ∧
      (memberIdentifier [] name = name ↔ IsSnakeCase name.toList) ∧
      memberIdentifier [] (memberIdentifier prefixes name) = memberIdentifier prefixes name := by
  intro stripped result
  have hstripped : IsAscii stripped := by
    intro c hc
    refine h c ((List.drop_sublist (prefixLength prefixes name) name.toList).subset ?_)
    rwa [← String.toList_ofList (l := name.toList.drop _)]
  have hresult : result = snakeCase stripped := String.toList_ofList
  have hfixed : ∀ other : String, IsAscii other.toList →
      (memberIdentifier [] other = other ↔ IsSnakeCase other.toList) := by
    intro other hother
    rw [← snakeCase_eq_self_iff hother, ← memberIdentifier_nil, String.toList_inj]
  have hnormal : IsSnakeCase result := hresult ▸ isSnakeCase_snakeCase hstripped
  refine ⟨hnormal, ?_, ?_, ?_, hfixed name h, ?_⟩
  · rw [hresult, filter_snakeCase hstripped]
  · rw [hresult, snakeCase_eq_nil_iff hstripped]
  · rw [hresult]
    exact getLast?_snakeCase_iff hstripped
  · have hascii : IsAscii result := hresult ▸ isAscii_snakeCase hstripped
    exact (hfixed _ hascii).mpr hnormal

theorem httpServer_normal :
    let result := memberIdentifier ["lib_", "li"] "lib__getHTTPServer__2D_"
    IsAscii "lib__getHTTPServer__2D_".toList ∧ result = "get_http_server_2_d_" ∧
      IsSnakeCase result.toList ∧ memberIdentifier [] result = result := by
  have hascii : IsAscii "lib__getHTTPServer__2D_".toList := by decide
  obtain ⟨hnormal, -, -, -, -, htwice⟩ := memberIdentifier_normal ["lib_", "li"] hascii
  exact ⟨hascii, by decide, hnormal, htwice⟩

end HeaderBindings
