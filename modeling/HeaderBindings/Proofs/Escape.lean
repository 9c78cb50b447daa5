import HeaderBindings.Program
import HeaderBindings.Proofs.ParameterList
import HeaderBindings.Proofs.ReferenceOrigin
import HeaderBindings.Proofs.Stop
import HeaderBindings.Proofs.TextLine

/-! Failures that no user is told about. A document is not made, and its maker is not told why in a
line of its own, when an enum constant or the type of a function is written in a way that the pass
cannot read, when the kind of a type has no name, or when an unnamed parameter has no word to be
named after. -/

namespace HeaderBindings

variable {context : PassContext} {symbols : SymbolTable} {type : CType}

/-! Types whose kind cannot be asked for. -/

/-- A type that ends the pass where it is resolved: `_Float16`, a pointer to it, an enum of that
type, or an array of such a type, if it does not refer to an artifact. -/
inductive CType.IsKindless (tags : TagTable) (symbols : SymbolTable) : CType → Prop
  | half {type : CType} (unknown : (type.spellings tags).findSome? (symbols.lookup ·) = none)
      (kind : type.hasUnknownKind = true) : IsKindless tags symbols type
  | enumeration {type : CType} {id : Nat} {tag : Tag} {constants : List Enumerator}
      (unknown : (type.spellings tags).findSome? (symbols.lookup ·) = none)
      (meaning : type.canonical = .tag id false) (found : tags[id]? = some tag)
      (kind : tag.kind = .enumeration) (body : tag.body = .enumeration constants .float16) :
      IsKindless tags symbols type
  | element {type element : CType} {count : Int}
      (unknown : (type.spellings tags).findSome? (symbols.lookup ·) = none)
      (array : type.shown.peel = .array element (.fixed count))
      (inner : IsKindless tags symbols element) : IsKindless tags symbols type

theorem BasicType.resolve_eq_unknownKind_iff {target : Target} {basic : BasicType} :
    basic.resolve target = .error .unknownKind ↔ basic = .float16 := by
  cases basic <;> simp [BasicType.resolve]
  split <;> simp

theorem resolvePointer_eq_unknownKind_iff {tags : TagTable} {symbols : SymbolTable}
    {prefixes : List String} {name : String} {target : CType} :
    resolvePointer tags symbols prefixes name target = .error .unknownKind ↔
      target.canonical = .basic .float16 := by
  unfold resolvePointer
  split
  · next hcanonical => simp [hcanonical]
  · next hcanonical => simp [hcanonical]
  · next hother =>
    dsimp only
    refine iff_of_false ?_ hother
    split
    · simp
    · split
      · simp
      · split <;> simp

theorem resolveTag_eq_unknownKind_iff {target : Target} {tags : TagTable} {symbols : SymbolTable}
    {prefixes : List String} {id : Nat} :
    resolveTag target tags symbols prefixes id = .error .unknownKind ↔
      ∃ tag constants, tags[id]? = some tag ∧ symbols.find? tag.spelling = none ∧
        tag.kind = .enumeration ∧ tag.body = .enumeration constants .float16 := by
  unfold resolveTag
  cases htag : tags[id]? with
  | none => simp
  | some tag =>
    cases hfound : symbols.find? tag.spelling with
    | some artifact => simp [hfound]
    | none =>
      simp only [hfound]
      split
      · next constants basic hkind hbody =>
        rw [BasicType.resolve_eq_unknownKind_iff]
        simp [hkind, hbody, hfound]
      · next hkind hother =>
        refine iff_of_false (by simp) ?_
        rintro ⟨_, constants, ⟨⟩, -, -, hbody⟩
        exact hother _ _ hbody
      · next hother _ =>
        refine iff_of_false (by simp) ?_
        rintro ⟨_, constants, ⟨⟩, -, hkind, -⟩
        exact hother hkind

theorem CType.findSome?_eq_none_iff {tags : TagTable} {symbols : SymbolTable} {type : CType} :
    (type.spellings tags).findSome? (symbols.lookup ·) = none ↔
      symbols.find? (type.shown.declaredName tags) = none ∧
        symbols.find? (type.canonical.declaredName tags) = none := by
  rw [findSome?_spellings, Option.or_eq_none_iff]

theorem SymbolTable.find?_empty (symbols : SymbolTable) : symbols.find? "" = none := if_pos rfl

theorem CType.hasUnknownKind_iff_peel :
    type.hasUnknownKind = true ↔ type.shown.peel = .basic .float16 ∨
      ∃ target, type.shown.peel = .pointer target ∧ target.canonical = .basic .float16 := by
  have hcanonical : type.canonical = type.shown.peel.canonical := by
    rw [canonical_peel, canonical_shown]
  unfold hasUnknownKind
  rw [hcanonical]
  cases hpeel : type.shown.peel with
  | spelled spelling meaning => exact absurd hpeel (type.shown.peel_ne_spelled _ _)
  | basic basic => cases basic <;> simp [canonical]
  | pointer target =>
    simp only [canonical]
    constructor
    · intro h
      split at h
      · next htarget => cases htarget
      · next htarget => exact .inr ⟨target, rfl, CType.pointer.inj htarget⟩
      · cases h
    · rintro (h | ⟨_, ⟨⟩, htarget⟩)
      · cases h
      · rw [htarget]
  | _ => simp [canonical]

theorem CType.peel_of_canonical_tag {id : Nat} (h : type.canonical = .tag id false) :
    ∃ here, type.shown.peel = .tag id here := by
  rcases type.shown.peel_eq with hpeel | hpeel
  · obtain ⟨here, hinside⟩ := inside_of_canonical_tag h
    exact ⟨here, by rw [hpeel, inside_shown, hinside]⟩
  · exact ⟨false, by rw [hpeel, canonical_shown, h]⟩

theorem CType.unknown_of_untagged {tags : TagTable} {symbols : SymbolTable}
    (hshown : symbols.find? (type.shown.declaredName tags) = none)
    (huntagged : ∀ id here, type.shown.peel ≠ .tag id here) :
    (type.spellings tags).findSome? (symbols.lookup ·) = none := by
  refine findSome?_eq_none_iff.mpr ⟨hshown, ?_⟩
  rw [declaredName_canonical]
  split
  · next id here htag => exact absurd htag (huntagged id here)
  · exact symbols.find?_empty

/-- A type that goes by the name of no artifact is resolved by its form. -/
theorem CType.resolve_of_unknown {target : Target} {tags : TagTable} {prefixes : List String}
    (hshown : symbols.find? (type.shown.declaredName tags) = none) :
    type.resolve target tags symbols prefixes =
      match type.shown.peel with
      | .basic arithmetic => arithmetic.resolve target
      | .pointer pointee =>
        resolvePointer tags symbols prefixes (type.shown.declaredName tags) pointee
      | .array element (.fixed count) => do
        let element ← element.resolve target tags symbols prefixes
        return ⟨.array element.type count, "Array<" ++ element.label ++ ">", element.named⟩
      | .tag number _ => resolveTag target tags symbols prefixes number
      | _ => type.resolve target tags symbols prefixes := by
  fun_cases CType.resolve target tags symbols prefixes type
  case case1 found => exact absurd (hshown.symm.trans found) (by simp)
  case case3 hpeel => rw [hpeel]
  all_goals simp_all

/-- The kind of a type cannot be asked for exactly when it ends the pass. -/
theorem CType.resolve_eq_unknownKind_iff {target : Target} {tags : TagTable}
    {symbols : SymbolTable} {prefixes : List String} {type : CType} :
    type.resolve target tags symbols prefixes = .error .unknownKind ↔
      type.IsKindless tags symbols := by
  constructor
  · intro h
    -- the other forms are unsupported, which is told
    fun_induction CType.resolve target tags symbols prefixes type
    case case2 type _ hshown basic hpeel =>
      rw [BasicType.resolve_eq_unknownKind_iff] at h
      subst h
      exact .half (unknown_of_untagged hshown (by simp [hpeel]))
        (hasUnknownKind_iff_peel.mpr (.inl hpeel))
    case case3 type _ hshown target hpeel =>
      rw [resolvePointer_eq_unknownKind_iff] at h
      exact .half (unknown_of_untagged hshown (by simp [hpeel]))
        (hasUnknownKind_iff_peel.mpr (.inr ⟨target, hpeel, h⟩))
    case case5 type _ hshown element count hpeel ih =>
      have hinner := (HeaderBindings.bind_eq_error_iff.mp h).resolve_right
        (by simp [pure, Except.pure])
      exact .element (unknown_of_untagged hshown (by simp [hpeel])) hpeel (ih hinner)
    case case9 type _ hshown id here hpeel =>
      obtain ⟨tag, constants, htag, hfound, hkind, hbody⟩ := resolveTag_eq_unknownKind_iff.mp h
      have hmeaning : type.canonical = .tag id false := by
        rw [← canonical_shown, ← canonical_peel, hpeel, canonical]
      refine .enumeration (findSome?_eq_none_iff.mpr ⟨hshown, ?_⟩) hmeaning htag hkind hbody
      rw [hmeaning, declaredName, htag]
      exact hfound
    all_goals cases h
  · intro h
    induction h with
    | @half type unknown kind =>
      have hshown := (findSome?_eq_none_iff.mp unknown).1
      rcases hasUnknownKind_iff_peel.mp kind with hpeel | ⟨pointee, hpeel, hpointee⟩
      · rw [resolve_of_unknown hshown, hpeel, BasicType.resolve_eq_unknownKind_iff]
      · rw [resolve_of_unknown hshown, hpeel, resolvePointer_eq_unknownKind_iff, hpointee]
    | @enumeration type id tag constants unknown meaning found kind body =>
      obtain ⟨hshown, htag⟩ := findSome?_eq_none_iff.mp unknown
      rw [meaning, declaredName, found] at htag
      obtain ⟨here, hpeel⟩ := peel_of_canonical_tag meaning
      rw [resolve_of_unknown hshown, hpeel, resolveTag_eq_unknownKind_iff]
      exact ⟨tag, constants, found, htag, kind, body⟩
    | element unknown array inner ih =>
      rw [resolve_of_unknown (findSome?_eq_none_iff.mp unknown).1, array]
      exact HeaderBindings.bind_eq_error_iff.mpr (.inl ih)

/-! Declarations that end the pass without a word. -/

/-- Whether the user is told of what stopped the pass. -/
def PassError.isReported : PassError → Bool
  | .unsupported _ => true
  | _ => false

inductive PassContext.Derails (context : PassContext) (symbols : SymbolTable)
    (declaration : Declaration) : Prop
  /-- An enum constant whose literal stands in no file. -/
  | literal {constant : Enumerator} (constants : constant ∈ context.enumerators declaration)
      (unspelled : constant.text = .unspelled) : context.Derails symbols declaration
  /-- A function that is declared by the name of its type, or by the type of something else. -/
  | behind {type : CType} (body : declaration.body = .function type false)
      (unwritten : ∀ result parameters style, type.shown ≠ .function result parameters style) :
      context.Derails symbols declaration
  /-- A type name for `_Float16` or a pointer to it. -/
  | name {type : CType} {attributes : Nat} (body : declaration.body = .typeName type attributes)
      (other : context.ownTag? type attributes = none) (unknown : type.hasUnknownKind = true) :
      context.Derails symbols declaration
  /-- A field, a parameter or a result whose kind has no name, behind others that are resolved. -/
  | part {type : CType} {earlier later : List CType}
      (needs : context.needs declaration = earlier ++ type :: later)
      (resolved : ∀ other ∈ earlier, ∃ found, context.resolve symbols other = .ok found)
      (kindless : type.IsKindless context.tags symbols) : context.Derails symbols declaration

theorem PassContext.resolve_eq_error_iff (hodd : context.oddPrefix = none) {error : PassError}
    (hunreported : error.isReported = false) :
    context.resolve symbols type = .error error ↔
      error = .unknownKind ∧ type.IsKindless context.tags symbols := by
  rw [← @CType.resolve_eq_unknownKind_iff context.target context.tags symbols context.prefixes type]
  unfold PassContext.resolve
  rw [hodd]
  cases type.resolve context.target context.tags symbols context.prefixes with
  | ok resolved => simp
  | error failure =>
    cases failure with
    | unknownKind => simp [eq_comm]
    | unsupported kind =>
      have hother : .unsupported kind ≠ error := by
        rintro rfl
        cases hunreported
      simp [hother]

theorem PassContext.derails_iff (hodd : context.oddPrefix = none) {declaration : Declaration} :
    context.Derails symbols declaration ↔
      ∃ error, context.Fails symbols declaration error ∧ error.isReported = false := by
  constructor
  · intro h
    cases h with
    | literal constants unspelled => exact ⟨_, .literal constants unspelled, rfl⟩
    | @behind type body unwritten =>
      by_cases hnamed : ∃ name meaning, type.shown = .spelled (.alias name) meaning
      · obtain ⟨name, meaning, shown⟩ := hnamed
        exact ⟨_, .named body shown, rfl⟩
      · simp only [not_exists] at hnamed
        exact ⟨_, .copied body hnamed unwritten, rfl⟩
    | name body other unknown => exact ⟨_, .kind body other unknown, rfl⟩
    | part needs resolved kindless =>
      exact ⟨.unknownKind, .type ⟨_, _, needs, resolved,
        (resolve_eq_error_iff hodd rfl).mpr ⟨rfl, kindless⟩⟩, rfl⟩
  · rintro ⟨error, hfails, hunreported⟩
    cases hfails with
    | literal constants unspelled => exact .literal constants unspelled
    | named body shown => exact .behind body (by simp [shown])
    | copied body unnamed unwritten => exact .behind body unwritten
    | kind body other unknown => exact .name body other unknown
    | type first =>
      obtain ⟨earlier, later, needs, resolved, hfailed⟩ := first
      exact .part needs resolved ((resolve_eq_error_iff hodd hunreported).mp hfailed).2

/-! Parameters without a name. -/

theorem isBlankText_append {lead : String} (h : isBlankText lead.toList = false) (rest : String) :
    isBlankText (lead ++ rest).toList = false := by
  unfold isBlankText at h ⊢
  rw [String.toList_append, List.all_append, h, Bool.false_and]

theorem BasicType.isBlankText_label {target : Target} {basic : BasicType} {resolved : Resolved}
    (h : basic.resolve target = .ok resolved) : isBlankText resolved.label.toList = false := by
  cases basic <;> simp only [BasicType.resolve] at h <;> try split at h
  all_goals
    cases h <;>
    dsimp only <;>
    decide

theorem isBlankText_label_of_pointer {tags : TagTable} {symbols : SymbolTable}
    {prefixes : List String} {name : String} {target : CType} {resolved : Resolved}
    (h : resolvePointer tags symbols prefixes name target = .ok resolved) :
    isBlankText resolved.label.toList = false := by
  have hlead : ∀ rest, isBlankText ("FFI::Pointer of " ++ rest).toList = false :=
    isBlankText_append (by decide)
  unfold resolvePointer at h
  split at h
  · cases h
    rfl
  · cases h
  · dsimp only at h
    split at h
    · cases h
      exact hlead _
    · split at h
      · cases h
        exact isBlankText_append (by decide) _
      · split at h
        · cases h
          exact hlead _
        · cases h
          rfl

/-- A type that refers to no artifact has a label with a word in it. -/
theorem CType.isBlankText_label {target : Target} {tags : TagTable} {symbols : SymbolTable}
    {prefixes : List String} {type : CType} {resolved : Resolved}
    (h : type.resolve target tags symbols prefixes = .ok resolved)
    (hunknown : (type.spellings tags).findSome? (symbols.lookup ·) = none) :
    isBlankText resolved.label.toList = false := by
  obtain ⟨-, hcanonical⟩ := findSome?_eq_none_iff.mp hunknown
  fun_induction CType.resolve target tags symbols prefixes type generalizing resolved
  case case1 known =>
    exact absurd ((findSome?_eq_none_iff.mp hunknown).1.symm.trans known) (by simp)
  case case2 => exact BasicType.isBlankText_label h
  case case3 => exact isBlankText_label_of_pointer h
  case case5 =>
    obtain ⟨inner, -, h⟩ := bind_eq_ok_iff.mp h
    cases h
    rw [String.append_assoc]
    exact isBlankText_append (by decide) _
  case case9 id here hpeel =>
    rw [declaredName_canonical, hpeel] at hcanonical
    dsimp only at hcanonical
    unfold resolveTag at h
    split at h
    · cases h
    · next tag htag =>
      rw [htag] at hcanonical
      split at h
      · next artifact hfound => exact absurd (hcanonical.symm.trans hfound) (by simp)
      · split at h
        · exact BasicType.isBlankText_label h
        · cases h
        · cases h
  all_goals cases h

theorem PassContext.words_label_iff {resolved : Resolved}
    (h : context.resolve symbols type = .ok resolved) :
    words resolved.label.toList = [] ↔
      ∃ known, (type.spellings context.tags).findSome? (symbols.lookup ·) = some known ∧
        known.hasNamedLabel = true ∧
        isBlankText (typeIdentifier context.prefixes known.name).toList = true := by
  have hresolved := (resolve_eq_ok h).1
  rw [words_eq_nil_iff]
  cases hfound : (type.spellings context.tags).findSome? (symbols.lookup ·) with
  | none => simp [CType.isBlankText_label hresolved hfound]
  | some known =>
    rw [CType.resolve_eq_ofArtifact context.target context.prefixes hfound] at hresolved
    cases hresolved
    cases known <;> simp [Resolved.ofArtifact, Artifact.label, Artifact.hasNamedLabel]
    decide

theorem exists_mapM_eq_error_iff {ε α β : Type} {action : α → Except ε β} {xs : List α} :
    (∃ e, xs.mapM action = .error e) ↔ ∃ x ∈ xs, ∃ e, action x = .error e := by
  simp only [mapM_eq_error_iff]
  induction xs with
  | nil => simp [FirstFailure]
  | cons y ys ih =>
    simp only [firstFailure_cons_iff, exists_or, List.exists_mem_cons_iff, exists_and_left,
      exists_eq_left, ← ih]
    cases action y <;> simp

theorem Parameter.identifier_eq_error_iff {parameter : Parameter} {prefixes : List String} :
    (∃ e, parameter.identifier prefixes = .error e) ↔
      parameter.name = "" ∧ words parameter.label.toList = [] := by
  unfold Parameter.identifier
  by_cases hname : parameter.name = ""
  · rw [if_neg (not_not.mpr hname), ← List.getLast?_eq_none_iff]
    cases (words parameter.label.toList).getLast? <;> simp [hname]
  · simp [hname]

/-- A block is not rendered only if it is that of a function with a parameter that cannot be
named. -/
theorem Artifact.render_eq_error_iff {artifact : Artifact} {prefixes : List String} :
    (∃ e, artifact.render prefixes = .error e) ↔
      artifact.isType = false ∧ ∃ signature ∈ artifact.signature?,
        ∃ parameter ∈ signature.parameters,
          parameter.name = "" ∧ words parameter.label.toList = [] := by
  cases artifact with
  | enumeration => simp [render, isType]
  | struct => simp [render, isType]
  | callback => simp [render, isType]
  | function name signature comment variadic =>
    simp only [render, renderFunction, bind_eq_error_iff, isType, signature?,
      ← @Parameter.identifier_eq_error_iff _ prefixes, ← exists_mapM_eq_error_iff]
    simp [pure, Except.pure]

/-- A function with an unnamed parameter of an enum or a struct whose name is all prefix. -/
def PassContext.LeavesNameless (context : PassContext) (visit : Visit) : Prop :=
  (∃ artifact ∈ context.added visit, artifact.isType = false) ∧
    ∃ parameter ∈ visit.declaration.body.parameters, parameter.name = "" ∧
      ∃ known, (parameter.type.spellings context.tags).findSome?
          (visit.before.declared.symbols.lookup ·) = some known ∧
        known.hasNamedLabel = true ∧
        isBlankText (typeIdentifier context.prefixes known.name).toList = true

theorem PassContext.parameter_nameless_iff {parameter : CParameter} {made : Parameter}
    (h : context.parameter symbols parameter = .ok made) :
    made.name = "" ∧ words made.label.toList = [] ↔ parameter.name = "" ∧
      ∃ known, (parameter.type.spellings context.tags).findSome? (symbols.lookup ·) = some known ∧
        known.hasNamedLabel = true ∧
        isBlankText (typeIdentifier context.prefixes known.name).toList = true := by
  obtain ⟨resolved, hresolved, rfl⟩ := parameter_eq_ok_iff.mp h
  rw [words_label_iff hresolved]

theorem exists_mem_iff_of_forall₂ {α β : Type} {R : α → β → Prop} {P : α → Prop} {Q : β → Prop}
    {xs : List α} {ys : List β} (h : List.Forall₂ R xs ys) (same : ∀ x y, R x y → (P x ↔ Q y)) :
    (∃ x ∈ xs, P x) ↔ ∃ y ∈ ys, Q y := by
  induction h with
  | nil => simp
  | cons hhead _ ih => rw [List.exists_mem_cons_iff, List.exists_mem_cons_iff, same _ _ hhead, ih]

theorem PassContext.leavesNameless_iff {visit : Visit} :
    context.LeavesNameless visit ↔
      ∃ artifact ∈ context.added visit, ∃ e, artifact.render context.prefixes = .error e := by
  have hrender : ∀ artifact ∈ context.added visit, artifact.isType = false →
      ((∃ e, artifact.render context.prefixes = .error e) ↔
        ∃ parameter ∈ visit.declaration.body.parameters, parameter.name = "" ∧
          ∃ known, (parameter.type.spellings context.tags).findSome?
              (visit.before.declared.symbols.lookup ·) = some known ∧
            known.hasNamedLabel = true ∧
            isBlankText (typeIdentifier context.prefixes known.name).toList = true) := by
    intro artifact hadded hfunction
    obtain ⟨-, hmakes⟩ := makes_of_mem_added hadded
    rw [Artifact.render_eq_error_iff, and_iff_right hfunction]
    cases artifact with
    | function name signature comment variadic =>
      rw [exists_mem_iff_of_forall₂ (hmakes.written rfl) fun _ _ hmade =>
        (parameter_nameless_iff hmade).symm]
      simp [Artifact.signature?]
    | _ => cases hfunction
  constructor
  · rintro ⟨⟨artifact, hadded, hfunction⟩, hparameter⟩
    exact ⟨artifact, hadded, (hrender artifact hadded hfunction).mpr hparameter⟩
  · rintro ⟨artifact, hadded, hfails⟩
    have hfunction := (Artifact.render_eq_error_iff.mp hfails).1
    exact ⟨⟨artifact, hadded, hfunction⟩, (hrender artifact hadded hfunction).mp hfails⟩

end HeaderBindings
