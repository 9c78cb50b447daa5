import HeaderBindings.Proofs.Escape
import HeaderBindings.Proofs.Unlabelled

/-! Types that are spelled in another way than they are meant. The spelling of a type makes no
difference to what it resolves to, unless one of the type names in it stands for an artifact. -/

namespace HeaderBindings

variable {target : Target} {tags : TagTable} {symbols : SymbolTable} {prefixes : List String}
  {type : CType}

/-- The type names between a type and what it stands for, and those in the elements of an array. -/
def CType.aliasNames : CType → List String
  | .spelled (.alias name) meaning => name :: meaning.aliasNames
  | .spelled _ meaning => meaning.aliasNames
  | .array element _ => element.aliasNames
  | _ => []

theorem CType.aliasNames_subset (spelling : Spelling) (meaning : CType) :
    meaning.aliasNames ⊆ (spelled spelling meaning).aliasNames := by
  cases spelling with
  | «alias» name => exact List.subset_cons_self name meaning.aliasNames
  | _ => exact List.Subset.refl _

theorem CType.aliasNames_canonical : (type : CType) → type.canonical.aliasNames = []
  | .array element _ => by rw [canonical, aliasNames, aliasNames_canonical element]
  | .spelled _ meaning => by rw [canonical, aliasNames_canonical meaning]
  | .basic _ | .pointer _ | .block _ | .function _ _ _ | .tag _ _ => by
    simp [canonical, aliasNames]
  | .complex _ | .atomic _ | .vector _ _ _ => by simp [canonical, aliasNames]

/-- Names that a spelling adds to those of what it means stay when a type is looked at as it
shows. -/
theorem CType.subset_shown {names : CType → List String}
    (hspelled : ∀ spelling meaning, names meaning ⊆ names (.spelled spelling meaning))
    (type : CType) : names type.shown ⊆ names type := by
  induction type using CType.shown.induct with
  | case1 spelling meaning hidden ih =>
    rw [shown, if_pos hidden]
    exact List.Subset.trans ih (hspelled spelling meaning)
  | case2 spelling meaning hidden =>
    rw [shown, if_neg hidden]
    exact List.Subset.refl _
  | case3 other h =>
    rw [shown.eq_2 _ h]
    exact List.Subset.refl _

theorem CType.subset_peel {names : CType → List String}
    (hspelled : ∀ spelling meaning, names meaning ⊆ names (.spelled spelling meaning))
    (hcanonical : ∀ type : CType, names type.canonical = []) (type : CType) :
    names type.peel ⊆ names type := by
  induction type using CType.peel.induct with
  | case1 meaning | case2 meaning =>
    rw [peel, hcanonical]
    exact List.nil_subset _
  | case3 spelling meaning h1 h2 ih =>
    rw [peel.eq_3 _ _ h1 h2]
    exact List.Subset.trans ih (hspelled spelling meaning)
  | case4 other h1 h2 h3 =>
    rw [peel.eq_4 _ h1 h2 h3]
    exact List.Subset.refl _

theorem CType.aliasNames_shown (type : CType) : type.shown.aliasNames ⊆ type.aliasNames :=
  subset_shown aliasNames_subset type

theorem CType.aliasNames_peel (type : CType) : type.peel.aliasNames ⊆ type.aliasNames :=
  subset_peel aliasNames_subset aliasNames_canonical type

theorem CType.aliasNames_element {element : CType} {bound : ArrayBound}
    (h : type.shown.peel = .array element bound) : element.aliasNames ⊆ type.aliasNames := by
  have hpeel := type.shown.aliasNames_peel
  rw [h, aliasNames] at hpeel
  exact List.Subset.trans hpeel type.aliasNames_shown

/-! A type as it is meant is spelled in no other way. -/

theorem CType.shown_canonical (type : CType) : type.canonical.shown = type.canonical := by
  apply shown.eq_2
  intro spelling meaning h
  rw [← inside_canonical] at h
  exact type.canonical.inside_ne_spelled spelling meaning h

theorem CType.peel_canonical (type : CType) : type.canonical.peel = type.canonical := by
  rcases type.canonical.peel_eq with h | h
  · rw [h, inside_canonical]
  · rw [h, canonical_canonical]

/-- What a type is looked up by is a type name in it, or the spelling of the tag it stands for. -/
theorem CType.declaredName_shown (tags : TagTable) (type : CType) :
    type.shown.declaredName tags ∈ type.aliasNames ∨ type.shown.declaredName tags = "" ∨
      type.shown.declaredName tags = type.canonical.declaredName tags := by
  have hnames := type.aliasNames_shown
  have hmeant := type.canonical_shown
  cases hshown : type.shown with
  | spelled spelling meaning =>
    rw [hshown] at hnames
    cases spelling with
    | «alias» name => exact .inl (hnames List.mem_cons_self)
    | _ => exact .inr (.inl rfl)
  | tag id here =>
    rw [hshown, canonical] at hmeant
    exact .inr (.inr (by rw [← hmeant]; rfl))
  | _ => exact .inr (.inl rfl)

/-- If no type name in a type stands for an artifact, then it is known by its tag or not at all. -/
theorem CType.findSome?_of_unknown (tags : TagTable)
    (unknown : ∀ name ∈ type.aliasNames, symbols.lookup name = none) :
    (type.spellings tags).findSome? (symbols.lookup ·) =
      symbols.find? (type.canonical.declaredName tags) := by
  rw [findSome?_spellings]
  rcases type.declaredName_shown tags with hname | hname | hname
  · have hnone : symbols.find? (type.shown.declaredName tags) = none := by
      rw [SymbolTable.find?, unknown _ hname, ite_self]
    rw [hnone, Option.none_or]
  · rw [hname, symbols.find?_empty, Option.none_or]
  · rw [hname, Option.or_self]

theorem CType.findSome?_canonical (type : CType) (tags : TagTable) (symbols : SymbolTable) :
    (type.canonical.spellings tags).findSome? (symbols.lookup ·) =
      symbols.find? (type.canonical.declaredName tags) := by
  rw [findSome?_spellings, canonical_canonical, shown_canonical, Option.or_self]

/-! What resolves by its form. -/

/-- Why a type of a certain form has no foreign type, whatever it holds. -/
def CType.unsupportedForm? : CType → Option UnsupportedKind
  | .block _ => some .block
  | .array _ .unspecified => some .incompleteArray
  | .array _ (.foldable _) | .array _ .variable => some .variableArray
  | .function _ _ .unprototyped => some .functionWithoutPrototype
  | .function _ _ _ => some .functionPrototype
  | .complex _ => some .complex
  | .atomic _ => some .atomic
  | .vector extended _ _ => some (if extended then .extendedVector else .vector)
  | _ => none

theorem CType.resolve_of_unsupportedForm {kind : UnsupportedKind}
    (hshown : symbols.find? (type.shown.declaredName tags) = none)
    (hform : type.shown.peel.unsupportedForm? = some kind) :
    type.resolve target tags symbols prefixes = .error (.unsupported kind) := by
  fun_cases CType.resolve target tags symbols prefixes type
  case case1 artifact known =>
    rw [hshown] at known
    cases known
  all_goals simp_all [unsupportedForm?]
  all_goals rfl

/-- A pointer is resolved by what it leads to, up to its label. -/
theorem resolvePointer_canonical (tags : TagTable) (symbols : SymbolTable) (prefixes : List String)
    (name other : String) (pointee : CType) :
    (resolvePointer tags symbols prefixes name pointee).map Resolved.type =
      (resolvePointer tags symbols prefixes other pointee.canonical).map Resolved.type := by
  unfold resolvePointer
  rw [CType.canonical_canonical]
  split
  · rfl
  · rfl
  · -- all that is left to tell is the label
    dsimp only
    repeat' split
    all_goals rfl

theorem CType.resolve_canonical (target : Target) (tags : TagTable) (prefixes : List String)
    (type : CType) (unknown : ∀ name ∈ type.aliasNames, symbols.lookup name = none) :
    (type.resolve target tags symbols prefixes).map Resolved.type =
      (type.canonical.resolve target tags symbols prefixes).map Resolved.type := by
  have hown := findSome?_of_unknown tags unknown
  have hmeant := type.findSome?_canonical tags symbols
  cases hknown : symbols.find? (type.canonical.declaredName tags) with
  | some artifact =>
    rw [resolve_eq_ofArtifact target prefixes (hown.trans hknown),
      resolve_eq_ofArtifact target prefixes (hmeant.trans hknown)]
  | none =>
    have hshown := (findSome?_eq_none_iff.mp (hown.trans hknown)).1
    have hshown' := (findSome?_eq_none_iff.mp (hmeant.trans hknown)).1
    have hcanonical : type.canonical.shown.peel = type.shown.peel.canonical := by
      rw [shown_canonical, peel_canonical, canonical_peel, canonical_shown]
    have hform : ∀ kind, type.shown.peel.unsupportedForm? = some kind →
        type.canonical.shown.peel.unsupportedForm? = some kind →
        (type.resolve target tags symbols prefixes).map Resolved.type =
          (type.canonical.resolve target tags symbols prefixes).map Resolved.type := by
      intro kind hkind hkind'
      rw [resolve_of_unsupportedForm hshown hkind, resolve_of_unsupportedForm hshown' hkind']
    rw [hcanonical] at hform
    cases hpeel : type.shown.peel with
    | basic basic =>
      rw [resolve_of_unknown hshown, resolve_of_unknown hshown', hcanonical, hpeel, canonical]
    | pointer pointee =>
      rw [resolve_of_unknown hshown, resolve_of_unknown hshown', hcanonical, hpeel, canonical]
      exact resolvePointer_canonical tags symbols prefixes _ _ pointee
    | tag id here =>
      rw [resolve_of_unknown hshown, resolve_of_unknown hshown', hcanonical, hpeel, canonical]
    | array element bound =>
      cases bound with
      | fixed count =>
        have := depth_lt_of_peel hpeel
        have hinner := resolve_canonical target tags prefixes element fun name hname =>
          unknown name (aliasNames_element hpeel hname)
        rw [resolve_of_unknown hshown, resolve_of_unknown hshown', hcanonical, hpeel, canonical]
        refine map_bind_congr hinner fun own meant hsame => ?_
        exact congrArg (fun inner => Except.ok (ForeignType.array inner count)) hsame
      | unspecified => exact hform .incompleteArray (by rw [hpeel]; rfl) (by rw [hpeel]; rfl)
      | foldable count => exact hform .variableArray (by rw [hpeel]; rfl) (by rw [hpeel]; rfl)
      | «variable» => exact hform .variableArray (by rw [hpeel]; rfl) (by rw [hpeel]; rfl)
    | spelled spelling meaning => exact absurd hpeel (type.shown.peel_ne_spelled _ _)
    | function result parameters style =>
      cases style with
      | unprototyped =>
        exact hform .functionWithoutPrototype (by rw [hpeel]; rfl) (by rw [hpeel]; rfl)
      | _ => exact hform .functionPrototype (by rw [hpeel]; rfl) (by rw [hpeel]; rfl)
    | block inner => exact hform .block (by rw [hpeel]; rfl) (by rw [hpeel]; rfl)
    | complex inner => exact hform .complex (by rw [hpeel]; rfl) (by rw [hpeel]; rfl)
    | atomic inner => exact hform .atomic (by rw [hpeel]; rfl) (by rw [hpeel]; rfl)
    | vector extended element count => exact hform _ (by rw [hpeel]; rfl) (by rw [hpeel]; rfl)
termination_by type.depth

/-! What a caller sees of it. -/

/-- Two types come to the same foreign type, or both have none because of the same kind. -/
def SameOutcome (outcome other : Except ResolveError Resolved) : Prop :=
  (∃ kind, outcome = .error (.unsupported kind) ∧ other = .error (.unsupported kind)) ∨
    ∃ own meant, outcome = .ok own ∧ other = .ok meant ∧ own.type = meant.type

theorem sameOutcome_iff {outcome other : Except ResolveError Resolved}
    (h : outcome.map Resolved.type = other.map Resolved.type) :
    SameOutcome outcome other ↔ outcome ≠ .error .unknownKind := by
  rcases cases_of_map_eq h with ⟨error, rfl, rfl⟩ | ⟨own, meant, rfl, rfl, hsame⟩
  · cases error with
    | unsupported kind => exact iff_of_true (.inl ⟨kind, rfl, rfl⟩) (by simp)
    | unknownKind =>
      refine iff_of_false ?_ (by simp)
      rintro (⟨_, ⟨⟩, _⟩ | ⟨_, _, ⟨⟩, _⟩)
  · exact iff_of_true (.inr ⟨own, meant, rfl, rfl, hsame⟩) (by simp)

/-- The spelling of a type changes neither what the type resolves to nor why it does not resolve.
It is refused by its kind, if at all, unless that kind cannot be asked for. -/
theorem CType.resolve_spelled_iff (target : Target) (tags : TagTable) (prefixes : List String)
    (type : CType) (unknown : ∀ name ∈ type.aliasNames, symbols.lookup name = none) :
    (type.resolve target tags symbols prefixes).map Resolved.type =
        (type.canonical.resolve target tags symbols prefixes).map Resolved.type ∧
      (SameOutcome (type.resolve target tags symbols prefixes)
          (type.canonical.resolve target tags symbols prefixes) ↔
        ¬ type.IsKindless tags symbols) := by
  have hsame := resolve_canonical target tags prefixes type unknown
  exact ⟨hsame, (sameOutcome_iff hsame).trans (not_congr resolve_eq_unknownKind_iff)⟩

/-- A row of cells, `typedef int cell; typedef cell row[4];`. -/
def rowType : CType :=
  .spelled (.alias "row") (.array (.spelled (.alias "cell") (.basic .int)) (.fixed 4))

def shadeSymbols : SymbolTable := [("shade", .enumeration "shade" [])]

theorem rowType_not_isKindless : ¬ rowType.IsKindless [] shadeSymbols := by
  rintro (⟨-, hkind⟩ | ⟨-, hmeaning, -⟩ | ⟨-, harray, hinner⟩)
  · cases hkind
  · cases hmeaning
  · cases harray
    rcases hinner with ⟨-, hkind⟩ | ⟨-, hmeaning, -⟩ | ⟨-, harray, -⟩
    · cases hkind
    · cases hmeaning
    · cases harray

theorem rowType_resolve_spelled :
    (∀ name ∈ rowType.aliasNames, shadeSymbols.lookup name = none) ∧
      SameOutcome (rowType.resolve .default [] shadeSymbols [])
        (rowType.canonical.resolve .default [] shadeSymbols []) := by
  have unknown : ∀ name ∈ rowType.aliasNames, shadeSymbols.lookup name = none := by decide
  have hspelled := CType.resolve_spelled_iff .default [] [] rowType unknown
  exact ⟨unknown, hspelled.2.mpr rowType_not_isKindless⟩

/-- The parameter of `void scale(_Float16 factor);`. -/
def factorType : CType := .basic .float16

theorem factorType_refused_without_kind :
    (∀ name ∈ factorType.aliasNames, shadeSymbols.lookup name = none) ∧
      ¬ SameOutcome (factorType.resolve .default [] shadeSymbols [])
        (factorType.canonical.resolve .default [] shadeSymbols []) := by
  refine ⟨by decide, fun h => ?_⟩
  have hresolve : factorType.resolve .default [] shadeSymbols [] = .error .unknownKind :=
    CType.resolve_eq_unknownKind_iff.mpr (.half rfl rfl)
  rw [hresolve] at h
  rcases h with ⟨_, ⟨⟩, _⟩ | ⟨_, _, ⟨⟩, _⟩

end HeaderBindings
