import HeaderBindings.Proofs.ValidBlock

/-! The lists in rendered blocks can be read back. Their entries are what stands between commas, but
for the commas in brackets, which belong to one entry; an entry in brackets is a list itself. So the
parameters of a signature, the fields of a layout and the lengths of arrays are found again. -/

namespace HeaderBindings

/-! Reading a list. -/

/-- How many brackets are open behind a character. -/
def depthBehind (depth : Nat) (c : Char) : Nat :=
  if c = '[' then depth + 1 else if c = ']' then depth - 1 else depth

/-- The pieces of a text between the commas that no bracket is open at. -/
def splitOutside (depth : Nat) : List Char → List (List Char)
  | [] => [[]]
  | c :: rest =>
    if c = ',' ∧ depth = 0 then [] :: splitOutside 0 rest
    else (splitOutside (depthBehind depth c) rest).modifyHead (c :: ·)

def withoutSpace (text : List Char) : List Char :=
  (text.dropWhile isRubySpace).rdropWhile isRubySpace

/-- The entries of a list, without the white space around them. -/
def listEntries (text : List Char) : List (List Char) :=
  if text.all isRubySpace then [] else (splitOutside 0 text).map withoutSpace

/-- What stands between a bracket at the start and a bracket at the end. -/
def bracketContent? : List Char → Option (List Char)
  | '[' :: rest => if rest.getLast? = some ']' then some rest.dropLast else none
  | _ => none

/-- The types of the parameters and the type of the result. -/
def readSignature? (text : String) : Option (List String × String) :=
  match listEntries text.toList with
  | [parameters, result] => (bracketContent? parameters).map fun content =>
    ((listEntries content).map String.ofList, String.ofList result)
  | _ => none

/-- Symbols and types, one after the other. -/
def readLayout (text : String) : List String := (listEntries text.toList).map String.ofList

/-- A type as a list shows it: the element and the length of an array, or a text. -/
inductive ListedType where
  | text (name : List Char)
  | array (element : ListedType) (length : List Char)
  deriving DecidableEq, Repr

theorem length_le_of_mem_splitOutside {depth : Nat} {text piece : List Char}
    (h : piece ∈ splitOutside depth text) : piece.length ≤ text.length := by
  induction text generalizing depth piece with
  | nil =>
    rw [List.mem_singleton.mp h]
  | cons c rest ih =>
    rw [splitOutside] at h
    rw [List.length_cons]
    split at h
    · rcases List.mem_cons.mp h with rfl | h
      · exact Nat.zero_le _
      · exact (ih h).trans (Nat.le_succ _)
    · cases hpieces : splitOutside (depthBehind depth c) rest with
      | nil =>
        rw [hpieces] at h
        cases h
      | cons first others =>
        rw [hpieces] at h
        rcases List.mem_cons.mp h with rfl | h
        · have hfirst : first.length ≤ rest.length := ih (hpieces ▸ List.mem_cons_self)
          simpa using hfirst
        · have hpiece : piece.length ≤ rest.length := ih (hpieces ▸ List.mem_cons_of_mem _ h)
          omega

theorem length_lt_of_mem_listEntries {text content entry : List Char}
    (hcontent : bracketContent? text = some content) (h : entry ∈ listEntries content) :
    entry.length < text.length := by
  have hshorter : content.length < text.length := by
    unfold bracketContent? at hcontent
    split at hcontent
    · split at hcontent
      · cases hcontent
        simp only [List.length_dropLast, List.length_cons]
        omega
      · cases hcontent
    · cases hcontent
  unfold listEntries at h
  split at h
  · cases h
  · obtain ⟨piece, hpiece, rfl⟩ := List.mem_map.mp h
    have hpieces := length_le_of_mem_splitOutside hpiece
    have hfront := (List.dropWhile_sublist isRubySpace (l := piece)).length_le
    have hback := (List.rdropWhile_prefix isRubySpace (piece.dropWhile isRubySpace)).length_le
    unfold withoutSpace
    omega

/-- Reads an array entry by entry, and takes anything else as it is. -/
def readType (text : List Char) : ListedType :=
  match _hcontent : bracketContent? text with
  | none => .text text
  | some content =>
    match _hentries : listEntries content with
    | [element, length] => .array (readType element) length
    | _ => .text text
termination_by text.length
decreasing_by
  exact length_lt_of_mem_listEntries _hcontent (_hentries ▸ List.mem_cons_self)

/-! Texts that are not cut. -/

/-- A text that is not cut where so many brackets are open around it. -/
def IsUncut (around : Nat) (text : List Char) : Prop :=
  ∀ depth, around ≤ depth → ∀ rest,
    splitOutside depth (text ++ rest) = (splitOutside depth rest).modifyHead (text ++ ·)

theorem isUncut_nil (around : Nat) : IsUncut around [] := by
  intro depth _ rest
  rw [List.nil_append, modifyHead_nil_append]

section

variable {around : Nat} {text other : List Char}

theorem IsUncut.mono {more : Nat} (h : IsUncut around text) (hmore : around ≤ more) :
    IsUncut more text :=
  fun depth hdepth => h depth (hmore.trans hdepth)

theorem IsUncut.append (h : IsUncut around text) (hother : IsUncut around other) :
    IsUncut around (text ++ other) := by
  intro depth hdepth rest
  rw [List.append_assoc, h depth hdepth, hother depth hdepth, List.modifyHead_modifyHead]
  exact congrArg (List.modifyHead · _) (funext fun piece => (List.append_assoc _ _ _).symm)

theorem isUncut_singleton {c : Char} (hcomma : c = ',' → 0 < around) (hopen : c ≠ '[')
    (hclose : c ≠ ']') : IsUncut around [c] := by
  intro depth hdepth rest
  have hkept : ¬ (c = ',' ∧ depth = 0) := by
    rintro ⟨hc, hzero⟩
    have hpos := hcomma hc
    omega
  rw [List.singleton_append, splitOutside, if_neg hkept, depthBehind, if_neg hopen, if_neg hclose]
  rfl

theorem isUncut_of_forall (h : ∀ c ∈ text, (c = ',' → 0 < around) ∧ c ≠ '[' ∧ c ≠ ']') :
    IsUncut around text := by
  induction text with
  | nil => exact isUncut_nil around
  | cons c rest ih =>
    rw [List.forall_mem_cons] at h
    obtain ⟨hcomma, hopen, hclose⟩ := h.1
    exact (isUncut_singleton hcomma hopen hclose).append (ih h.2)

theorem isUncut_word (h : IsListWord text) : IsUncut 0 text := by
  refine isUncut_of_forall fun c hc => ⟨?_, ?_, ?_⟩ <;> rintro rfl
  · exact absurd hc (h.not_mem rfl)
  · exact absurd hc (h.not_mem rfl)
  · exact absurd hc (h.not_mem rfl)

theorem isUncut_brackets (h : IsUncut 1 text) : IsUncut 0 ('[' :: text ++ [']']) := by
  intro depth _ rest
  have hcomma : ∀ c : Char, c ≠ ',' → ∀ depth, ¬ (c = ',' ∧ depth = 0) :=
    fun c hc depth hboth => hc hboth.1
  have hclosed : splitOutside (depth + 1) (']' :: rest) =
      (splitOutside depth rest).modifyHead (']' :: ·) := by
    rw [splitOutside, if_neg (hcomma ']' (by decide) _)]
    rfl
  rw [List.cons_append, List.cons_append, List.append_assoc, List.singleton_append, splitOutside,
    if_neg (hcomma '[' (by decide) _), depthBehind, if_pos rfl, h (depth + 1) (Nat.le_add_left _ _),
    hclosed, List.modifyHead_modifyHead, List.modifyHead_modifyHead]
  refine congrArg (List.modifyHead · _) (funext fun piece => ?_)
  simp

theorem isUncut_joinWith {separator : List Char} {pieces : List (List Char)}
    (hseparator : IsUncut around separator) (hpieces : ∀ piece ∈ pieces, IsUncut around piece) :
    IsUncut around (joinWith separator pieces) := by
  fun_induction joinWith separator pieces with
  | case1 => exact isUncut_nil around
  | case2 piece => exact hpieces piece (List.mem_singleton_self piece)
  | case3 piece rest _ ih =>
    rw [List.forall_mem_cons] at hpieces
    exact (hpieces.1.append hseparator).append (ih hpieces.2)

end

/-! Entries. -/

/-- A text that is found again between commas. -/
structure IsEntry (text : List Char) : Prop where
  uncut : IsUncut 0 text
  filled : text ≠ []
  bare : withoutSpace text = text

theorem withoutSpace_append {spaces : List Char} (h : ∀ c ∈ spaces, isRubySpace c = true)
    (text : List Char) : withoutSpace (spaces ++ text) = withoutSpace text := by
  unfold withoutSpace
  rw [List.dropWhile_append_of_pos h]

theorem withoutSpace_eq_self {c d : Char} {text : List Char} (hc : isRubySpace c = false)
    (hd : isRubySpace d = false) : withoutSpace (c :: text ++ [d]) = c :: text ++ [d] := by
  unfold withoutSpace
  rw [List.cons_append, List.dropWhile_cons_of_neg (by simp [hc])]
  refine List.rdropWhile_eq_self_iff.mpr fun _ => ?_
  simp [hd]

theorem isEntry_word {text : List Char} (h : IsListWord text) (hne : text ≠ []) : IsEntry text where
  uncut := isUncut_word h
  filled := hne
  bare := by
    have hnone : ∀ c ∈ ([] : List Char), isRubySpace c = true := by simp
    have htrim := trim_word hnone hnone h.not_space hne
    rwa [List.nil_append, List.append_nil] at htrim

theorem isEntry_brackets {text : List Char} (h : IsUncut 1 text) :
    IsEntry ('[' :: text ++ [']']) where
  uncut := isUncut_brackets h
  filled := by simp
  bare := withoutSpace_eq_self (by decide) (by decide)

theorem bracketContent?_brackets (text : List Char) :
    bracketContent? ('[' :: text ++ [']']) = some text := by
  rw [List.cons_append, bracketContent?, if_pos (by simp), List.dropLast_concat]

/-- An entry and those behind it, each with the white space in front of it, are found again. -/
theorem listEntries_append {first : List Char} (later : List (List Char × List Char))
    (hfirst : IsEntry first)
    (hlater : ∀ piece ∈ later, (∀ c ∈ piece.1, isRubySpace c = true) ∧ IsEntry piece.2) :
    listEntries (first ++ later.flatMap fun piece => ',' :: (piece.1 ++ piece.2)) =
      first :: later.map (·.2) := by
  have hsplit : splitOutside 0 (first ++ later.flatMap fun piece => ',' :: (piece.1 ++ piece.2)) =
      first :: later.map fun piece => piece.1 ++ piece.2 := by
    have hpieces : ∀ {text : List Char}, IsUncut 0 text →
        splitOutside 0 (text ++ later.flatMap fun piece => ',' :: (piece.1 ++ piece.2)) =
          text :: later.map fun piece => piece.1 ++ piece.2 := by
      induction later with
      | nil =>
        intro text htext
        rw [htext 0 (Nat.le_refl 0)]
        simp [splitOutside]
      | cons next others ih =>
        intro text htext
        rw [List.forall_mem_cons] at hlater
        obtain ⟨⟨hspaces, hnext⟩, hothers⟩ := hlater
        have huncut : IsUncut 0 (next.1 ++ next.2) := by
          refine IsUncut.append (isUncut_of_forall fun c hc => ⟨?_, ?_, ?_⟩) hnext.uncut <;>
            rintro rfl <;> exact absurd (hspaces _ hc) (by decide)
        rw [htext 0 (Nat.le_refl 0), List.flatMap_cons, List.cons_append, splitOutside,
          if_pos ⟨rfl, rfl⟩, ih hothers huncut]
        simp
    exact hpieces hfirst.uncut
  obtain ⟨c, hc⟩ := List.exists_mem_of_ne_nil _ hfirst.filled
  have hfilled : ¬ (first ++ later.flatMap fun piece =>
      ',' :: (piece.1 ++ piece.2)).all isRubySpace = true := by
    intro hspaces
    rw [List.all_append, Bool.and_eq_true, List.all_eq_true] at hspaces
    have hnone : withoutSpace first = [] := by
      unfold withoutSpace
      rw [List.dropWhile_eq_nil_iff.mpr hspaces.1, List.rdropWhile_nil]
    exact hfirst.filled (hfirst.bare ▸ hnone)
  rw [listEntries, if_neg hfilled, hsplit, List.map_cons, hfirst.bare, List.map_map]
  refine congrArg (first :: ·) (List.map_congr_left fun piece hpiece => ?_)
  obtain ⟨hspaces, hentry⟩ := hlater piece hpiece
  exact (withoutSpace_append hspaces piece.2).trans hentry.bare

theorem listEntries_joinWith (spaces : List Char) {entries : List (List Char)}
    (hspaces : ∀ c ∈ spaces, isRubySpace c = true) (h : ∀ entry ∈ entries, IsEntry entry) :
    listEntries (joinWith (',' :: spaces) entries) = entries := by
  cases entries with
  | nil => rfl
  | cons first rest =>
    rw [List.forall_mem_cons] at h
    have hread := listEntries_append (rest.map fun entry => (spaces, entry)) h.1 (by
      intro piece hpiece
      obtain ⟨entry, hentry, rfl⟩ := List.mem_map.mp hpiece
      exact ⟨hspaces, h.2 entry hentry⟩)
    rw [List.flatMap_map, List.map_map] at hread
    rw [joinWith_cons]
    simpa [Function.comp_def] using hread

theorem listEntries_pair {first second : List Char} (hfirst : IsEntry first)
    (hsecond : IsEntry second) :
    listEntries (first ++ [',', ' '] ++ second) = [first, second] := by
  have hentries : ∀ entry ∈ [first, second], IsEntry entry := by simp [hfirst, hsecond]
  exact listEntries_joinWith [' '] (by decide) hentries

/-- A list of pairs is read as the parts of its pairs. -/
theorem listEntries_pairs {α : Type} (spaces : List Char) {symbol : α → List Char}
    (type : α → List Char) (hspaces : ∀ c ∈ spaces, isRubySpace c = true) {items : List α}
    (hsymbol : ∀ item ∈ items, IsEntry (symbol item))
    (htype : ∀ item ∈ items, IsEntry (type item)) :
    listEntries (joinWith (',' :: spaces)
        (items.map fun item => symbol item ++ [',', ' '] ++ type item)) =
      items.flatMap fun item => [symbol item, type item] := by
  have hspace : ∀ c ∈ [' '], isRubySpace c = true := by decide
  cases items with
  | nil => rfl
  | cons first rest =>
    rw [List.forall_mem_cons] at hsymbol htype
    have hread := listEntries_append (([' '], type first) ::
      rest.flatMap fun item => [(spaces, symbol item), ([' '], type item)]) hsymbol.1 (by
        refine List.forall_mem_cons.mpr ⟨⟨hspace, htype.1⟩, fun piece hpiece => ?_⟩
        obtain ⟨item, hitem, hpiece⟩ := List.mem_flatMap.mp hpiece
        rcases List.mem_pair.mp hpiece with rfl | rfl
        · exact ⟨hspaces, hsymbol.2 item hitem⟩
        · exact ⟨hspace, htype.2 item hitem⟩)
    rw [List.map_cons, joinWith_cons]
    simpa [List.flatMap_map, List.flatMap_assoc, List.map_flatMap] using hread

/-! Types, signatures and layouts. -/

/-- A type as it is found again in a list. -/
def ForeignType.listed (prefixes : List String) : ForeignType → ListedType
  | .array element length => .array (element.listed prefixes) (toString length).toList
  | type => .text (type.render prefixes).toList

/-- The lengths of the arrays around the innermost element, outermost first. -/
def ForeignType.lengths : ForeignType → List Int
  | .array element length => length :: element.lengths
  | _ => []

theorem ForeignType.lengths_of_listed {prefixes : List String} {type other : ForeignType}
    (h : type.listed prefixes = other.listed prefixes) : type.lengths = other.lengths := by
  induction type using ForeignType.parts.induct generalizing other with
  | case1 element length ih =>
    cases other with
    | array inner count =>
      obtain ⟨helement, hlength⟩ := ListedType.array.inj h
      rw [lengths, lengths, ih helement, toString_int_inj (String.toList_inj.mp hlength)]
    | _ => cases h
  | case2 type hplain =>
    rw [listed.eq_2 _ _ hplain] at h
    cases other with
    | array inner count => cases h
    | _ => rw [lengths.eq_2 _ hplain]; rfl

/-- Names in lists. Letters, digits and underscores are no signs of a list. -/
def ForeignType.HasListNames (type : ForeignType) : Prop :=
  ∀ name ∈ type.texts, IsListWord name.toList

structure Artifact.HasListNames (artifact : Artifact) : Prop where
  types : ∀ type ∈ artifact.types, type.HasListNames
  fields : ∀ name ∈ artifact.fieldNames, IsListWord name.toList

section

variable (prefixes : List String)

theorem isListWord_cons {c : Char} {text : List Char} (hc : isListSign c = false)
    (h : IsListWord text) : IsListWord (c :: text) :=
  List.forall_mem_cons.mpr ⟨hc, h⟩

theorem isListWord_toString (n : Int) : IsListWord (toString n).toList := by
  intro c hc
  rw [← Bool.not_eq_true]
  intro hsign
  have hcode := (isNameSign_bounds (isNameSign_of_isListSign hsign)).2.1
  have hother : c.isDigit = false ∧ c ≠ '-' :=
    of_ascii (P := fun c => isListSign c = true → c.isDigit = false ∧ c ≠ '-') (by decide)
      (by omega) hsign
  exact sign_not_mem_toString hother.1 hother.2 n hc

theorem isEntry_toString (n : Int) : IsEntry (toString n).toList := by
  refine isEntry_word (isListWord_toString n) ?_
  cases n with
  | ofNat m =>
    show (String.ofList (Nat.toDigits 10 m)).toList ≠ []
    rw [String.toList_ofList]
    exact Nat.toDigits_ne_nil
  | negSucc m =>
    rw [toString_negSucc, String.toList_append]
    exact List.cons_ne_nil _ _

theorem isListWord_reference {artifact : Artifact} (h : IsListWord artifact.name.toList) :
    IsListWord (artifact.reference prefixes).toList := by
  have hsymbol : IsListWord (":" ++ memberIdentifier prefixes artifact.name).toList := by
    rw [String.toList_append]
    exact isListWord_cons (by decide) (isListWord_memberIdentifier prefixes h)
  cases artifact with
  | struct name fields =>
    rw [Artifact.reference, String.toList_append]
    intro c hc
    rcases List.mem_append.mp hc with hc | hc
    · rw [typeIdentifier, stripPrefix, String.toList_ofList] at hc
      exact h c ((List.drop_sublist _ _).subset hc)
    · exact (by decide : IsListWord ".by_value".toList) c hc
  | _ => exact hsymbol

theorem reference_ne_nil (artifact : Artifact) : (artifact.reference prefixes).toList ≠ [] := by
  cases artifact <;> simp [Artifact.reference]

/-- But for arrays, a type is written without signs of a list. -/
theorem ForeignType.isListWord_render {type : ForeignType} (h : type.HasListNames)
    (hplain : ∀ element length, type ≠ .array element length) :
    IsListWord (type.render prefixes).toList ∧ (type.render prefixes).toList ≠ [] := by
  have hsymbol : ∀ name : String, IsListWord name.toList →
      IsListWord (":" ++ name).toList ∧ (":" ++ name).toList ≠ [] := by
    intro name hname
    rw [String.toList_append]
    exact ⟨isListWord_cons (by decide) hname, List.cons_ne_nil _ _⟩
  cases type with
  | integer name _ _ => exact hsymbol name (h name List.mem_cons_self)
  | floating name _ => exact hsymbol name (h name List.mem_cons_self)
  | void => exact hsymbol "void" (by decide)
  | pointer => exact hsymbol "pointer" (by decide)
  | string => exact hsymbol "string" (by decide)
  | array element length => exact absurd rfl (hplain element length)
  | reference artifact =>
    exact ⟨isListWord_reference prefixes (h _ List.mem_cons_self), reference_ne_nil prefixes _⟩

theorem toList_render_array (element : ForeignType) (length : Int) :
    ((ForeignType.array element length).render prefixes).toList =
      '[' :: ((element.render prefixes).toList ++ [',', ' '] ++ (toString length).toList) ++
        [']'] := by
  rw [ForeignType.render]
  simp

theorem ForeignType.isEntry_render {type : ForeignType} (h : type.HasListNames) :
    IsEntry (type.render prefixes).toList := by
  induction type using ForeignType.parts.induct with
  | case1 element length ih =>
    have hinner : ∀ {text : List Char}, IsUncut 0 text → IsUncut 1 text :=
      fun huncut => huncut.mono (Nat.zero_le 1)
    have hseparator : IsUncut 1 [',', ' '] := isUncut_of_forall (by decide)
    have hlength := hinner (isEntry_toString length).uncut
    rw [toList_render_array]
    exact isEntry_brackets (((hinner (ih h).uncut).append hseparator).append hlength)
  | case2 type hplain =>
    obtain ⟨hword, hne⟩ := isListWord_render prefixes h hplain
    exact isEntry_word hword hne

theorem readType_of_array {text content element length : List Char}
    (hcontent : bracketContent? text = some content)
    (hentries : listEntries content = [element, length]) :
    readType text = .array (readType element) length := by
  rw [readType]
  split
  · next hnone =>
    rw [hcontent] at hnone
    cases hnone
  · next found hfound =>
    rw [hcontent] at hfound
    cases hfound
    split
    · next hsame =>
      rw [hentries] at hsame
      cases hsame
      rfl
    · next hother => exact absurd hentries (hother element length)

theorem readType_of_none {text : List Char} (h : bracketContent? text = none) :
    readType text = .text text := by
  rw [readType]
  split
  · rfl
  · next content hcontent =>
    rw [h] at hcontent
    cases hcontent

theorem ForeignType.readType_render {type : ForeignType} (h : type.HasListNames) :
    readType (type.render prefixes).toList = type.listed prefixes := by
  induction type using ForeignType.parts.induct with
  | case1 element length ih =>
    have hcontent := bracketContent?_brackets
      ((element.render prefixes).toList ++ [',', ' '] ++ (toString length).toList)
    have helement : element.HasListNames := h
    have hentries := listEntries_pair (isEntry_render prefixes helement) (isEntry_toString length)
    rw [← toList_render_array] at hcontent
    rw [readType_of_array hcontent hentries, ih helement, listed]
  | case2 type hplain =>
    have hword := (isListWord_render prefixes h hplain).1
    have hnone : bracketContent? (type.render prefixes).toList = none := by
      unfold bracketContent?
      split
      · next rest hrest =>
        exact absurd (hrest ▸ List.mem_cons_self) (hword.not_mem (c := '[') (by decide))
      · rfl
    rw [readType_of_none hnone, listed.eq_2 _ _ hplain]

theorem readSignature?_render {signature : Signature} (variadic : Bool)
    (hparameters : ∀ parameter ∈ signature.parameters, parameter.type.HasListNames)
    (hresult : signature.result.HasListNames) :
    readSignature? (renderSignature prefixes signature variadic) =
      some (signature.parameters.map (·.type.render prefixes) ++
        if variadic then [":varargs"] else [], signature.result.render prefixes) := by
  let types := signature.parameters.map (·.type.render prefixes) ++
    if variadic then [":varargs"] else []
  have htypes : ∀ entry ∈ types.map String.toList, IsEntry entry := by
    intro entry hentry
    obtain ⟨type, htype, rfl⟩ := List.mem_map.mp hentry
    rcases List.mem_append.mp htype with htype | htype
    · obtain ⟨parameter, hparameter, rfl⟩ := List.mem_map.mp htype
      exact ForeignType.isEntry_render prefixes (hparameters parameter hparameter)
    · split at htype
      · rw [List.mem_singleton.mp htype]
        exact isEntry_word (by decide) (by decide)
      · cases htype
  let list := joinWith [',', ' '] (types.map String.toList)
  have hlist : listEntries list = types.map String.toList :=
    listEntries_joinWith [' '] (by decide) htypes
  have huncut : IsUncut 1 list := isUncut_joinWith (isUncut_of_forall (by decide))
    fun entry hentry => (htypes entry hentry).uncut.mono (Nat.zero_le 1)
  have htext : (renderSignature prefixes signature variadic).toList =
      ('[' :: list ++ [']']) ++ [',', ' '] ++ (signature.result.render prefixes).toList := by
    simp only [renderSignature, joinStrings, String.toList_append, String.toList_ofList]
    simp [list, types]
  have hread := listEntries_pair (isEntry_brackets huncut)
    (ForeignType.isEntry_render prefixes hresult)
  rw [← htext] at hread
  have hofList : String.ofList ∘ String.toList = id := funext fun _ => String.ofList_toList
  simp only [readSignature?, hread, bracketContent?_brackets, Option.map_some, hlist,
    List.map_map, hofList, List.map_id, String.ofList_toList, types]

theorem readLayout_render {fields : List Field} (hne : fields ≠ [])
    (hnames : ∀ field ∈ fields, IsListWord field.name.toList)
    (htypes : ∀ field ∈ fields, field.type.HasListNames) :
    readLayout (renderLayout prefixes fields) = fields.flatMap fun field =>
      [":" ++ memberIdentifier prefixes field.name, field.type.render prefixes] := by
  have hsymbol : ∀ field ∈ fields,
      IsEntry (":" ++ memberIdentifier prefixes field.name).toList := by
    intro field hfield
    have hmember := isListWord_memberIdentifier prefixes (hnames field hfield)
    rw [String.toList_append]
    exact isEntry_word (isListWord_cons (by decide) hmember) (List.cons_ne_nil _ _)
  have hread := listEntries_pairs "\n           ".toList
    (fun field : Field => (field.type.render prefixes).toList) (by decide) hsymbol
    fun field hfield => ForeignType.isEntry_render prefixes (htypes field hfield)
  have htext : (renderLayout prefixes fields).toList =
      joinWith (',' :: "\n           ".toList) (fields.map fun field =>
        (":" ++ memberIdentifier prefixes field.name).toList ++ [',', ' '] ++
          (field.type.render prefixes).toList) := by
    have hfilled : ¬ fields.isEmpty = true := by simpa using hne
    rw [renderLayout, if_neg hfilled, toList_joinStrings]
    refine congrArg (joinWith _) (List.map_congr_left fun field _ => ?_)
    rw [renderField, String.toList_append, String.toList_append]
    rfl
  rw [readLayout, htext, hread, List.map_flatMap]
  simp only [List.map_cons, List.map_nil, String.ofList_toList]

end

/-- Reading the list of parameters gives the types as they are written, with the mark of further
arguments behind those of a variadic function only; reading a layout gives symbols and types of the
fields; and reading a type gives the elements and the lengths of its arrays, so that types written
alike have the same lengths. -/
theorem rendered_lists_read (prefixes : List String) {artifact : Artifact}
    (h : artifact.HasListNames) :
    (∀ name signature, artifact = .callback name signature →
      readSignature? (renderSignature prefixes signature false) =
        some (signature.parameters.map (·.type.render prefixes),
          signature.result.render prefixes)) ∧
      (∀ name signature comment variadic, artifact = .function name signature comment variadic →
        readSignature? (renderSignature prefixes signature variadic) =
          some (signature.parameters.map (·.type.render prefixes) ++
            if variadic then [":varargs"] else [], signature.result.render prefixes)) ∧
      (∀ name fields, artifact = .struct name fields → fields ≠ [] →
        readLayout (renderLayout prefixes fields) = fields.flatMap fun field =>
          [":" ++ memberIdentifier prefixes field.name, field.type.render prefixes]) ∧
      ∀ type ∈ artifact.types,
        readType (type.render prefixes).toList = type.listed prefixes ∧
          ∀ other : ForeignType, other.HasListNames →
            other.render prefixes = type.render prefixes → other.lengths = type.lengths := by
  have hsignature : ∀ {signature : Signature} (variadic : Bool),
      (∀ type ∈ signature.parameters.map Parameter.type ++ [signature.result],
        type.HasListNames) →
      readSignature? (renderSignature prefixes signature variadic) =
        some (signature.parameters.map (·.type.render prefixes) ++
          if variadic then [":varargs"] else [], signature.result.render prefixes) := by
    intro signature variadic htypes
    refine readSignature?_render prefixes variadic (fun parameter hparameter => ?_) ?_
    · exact htypes _ (List.mem_append_left _ (List.mem_map_of_mem hparameter))
    · exact htypes _ (List.mem_append_right _ (List.mem_singleton_self _))
  refine ⟨?_, ?_, ?_, fun type htype => ⟨?_, fun other hother htext => ?_⟩⟩
  · rintro name signature rfl
    have hread := hsignature false h.types
    rwa [if_neg Bool.false_ne_true, List.append_nil] at hread
  · rintro name signature comment variadic rfl
    exact hsignature variadic h.types
  · rintro name fields rfl hne
    refine readLayout_render prefixes hne (fun field hfield => ?_) fun field hfield => ?_
    · exact h.fields _ (List.mem_map_of_mem hfield)
    · exact h.types _ (List.mem_map_of_mem hfield)
  · exact ForeignType.readType_render prefixes (h.types type htype)
  · have hread := ForeignType.readType_render prefixes (h.types type htype)
    rw [← htext, ForeignType.readType_render prefixes hother] at hread
    exact ForeignType.lengths_of_listed hread

/-- Rows of structs, an enum, and what else is given. -/
def plotSignature : Signature where
  parameters := [
    ⟨"cells", .array (.array (.reference (.struct "pal_Cell" [])) 3) 2, "Array<Array<Cell>>"⟩,
    ⟨"ink", .reference (.enumeration "pal_ink" []), "ink"⟩]
  result := .void
  resultLabel := "nil"

theorem plot_lists_read :
    let plot := Artifact.function "pal_plot" plotSignature "" true
    plot.HasListNames ∧
      renderSignature ["pal_"] plotSignature true =
        "[[[Cell.by_value, 3], 2], :ink, :varargs], :void" ∧
      readSignature? (renderSignature ["pal_"] plotSignature true) =
        some (["[[Cell.by_value, 3], 2]", ":ink"] ++ [":varargs"], ":void") := by
  intro plot
  have hnames : plot.HasListNames := by
    refine ⟨fun type htype => ?_, fun name hname => by cases hname⟩
    have htexts : (plot.types.flatMap ForeignType.texts).all (IsListWord ·.toList) = true := by
      decide
    intro name hname
    exact of_decide_eq_true
      (List.all_eq_true.mp htexts name (List.mem_flatMap.mpr ⟨type, htype, hname⟩))
  exact ⟨hnames, by decide, (rendered_lists_read ["pal_"] hnames).2.1 _ _ _ _ rfl⟩

end HeaderBindings
