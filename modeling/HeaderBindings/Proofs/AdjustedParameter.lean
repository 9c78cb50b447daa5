import HeaderBindings.Proofs.Stop
import HeaderBindings.Proofs.ReferenceOrigin
import HeaderBindings.Binding.Model

/-! Parameters that are written as arrays or functions. C makes pointers of them, but they are
resolved as they are written, like the fields of a struct. -/

namespace HeaderBindings

variable {context : PassContext} {symbols : SymbolTable} {type : CType} {resolved : Resolved}

def CParameter.adjusted (parameter : CParameter) : CParameter :=
  { parameter with type := parameter.type.adjusted }

def ForeignType.isArray : ForeignType → Bool
  | .array _ _ => true
  | _ => false

theorem CType.adjusted_of_other (harray : type.isArray = false)
    (hfunction : type.isFunction = false) : type.adjusted = type := by
  unfold isArray at harray
  unfold isFunction at hfunction
  unfold adjusted
  split <;> simp_all

theorem CType.adjusted_of_pointed (h : type.isArray = true ∨ type.isFunction = true) :
    ∃ target, type.adjusted = .pointer target := by
  unfold isArray isFunction at h
  unfold adjusted
  split
  · exact ⟨_, rfl⟩
  · exact ⟨_, rfl⟩
  · simp_all

/-! Whether a type is an array or a function shows in each of its forms. -/

theorem CType.inside_peel (type : CType) :
    type.peel.inside = type.inside ∨ type.peel.inside = type.inside.canonical := by
  rcases type.peel_eq with hpeel | hpeel
  · rw [hpeel, CType.inside.eq_2 _ fun spelling meaning => type.inside_ne_spelled spelling meaning]
    exact .inl rfl
  · rw [hpeel, inside_canonical, canonical_inside]
    exact .inr rfl

theorem CType.shape_peel_shown (type : CType) :
    type.shown.peel.isArray = type.isArray ∧ type.shown.peel.isFunction = type.isFunction := by
  have hinside := type.shown.inside_peel
  rw [inside_shown] at hinside
  have hplain := type.inside_ne_spelled
  unfold isArray isFunction
  rcases hinside with h | h <;> rw [h]
  · exact ⟨rfl, rfl⟩
  · cases he : type.inside with
    | spelled spelling meaning => exact absurd he (hplain spelling meaning)
    | _ => exact ⟨rfl, rfl⟩

/-! Resolved types. -/

theorem BasicType.isArray_resolve {target : Target} {basic : BasicType}
    (h : basic.resolve target = .ok resolved) : resolved.type.isArray = false := by
  cases basic <;> simp only [BasicType.resolve] at h <;> try split at h
  all_goals cases h <;> rfl

/-- A pointer becomes a pointer or a string, or its kind cannot be asked for. -/
theorem resolvePointer_cases (tags : TagTable) (symbols : SymbolTable) (prefixes : List String)
    (name : String) (target : CType) :
    resolvePointer tags symbols prefixes name target = .error .unknownKind ∨
      ∃ resolved, resolvePointer tags symbols prefixes name target = .ok resolved ∧
        (resolved.type = .pointer ∨ resolved.type = .string) := by
  unfold resolvePointer
  split
  · exact .inr ⟨_, rfl, .inr rfl⟩
  · exact .inl rfl
  · dsimp only
    refine .inr ?_
    split
    · exact ⟨_, rfl, .inl rfl⟩
    · split
      · exact ⟨_, rfl, .inl rfl⟩
      · split <;> exact ⟨_, rfl, .inl rfl⟩

theorem CType.resolve_pointer (target : Target) (tags : TagTable) (symbols : SymbolTable)
    (prefixes : List String) (pointee : CType) :
    (CType.pointer pointee).resolve target tags symbols prefixes =
      resolvePointer tags symbols prefixes "" pointee := by
  unfold CType.resolve
  rfl

theorem isArray_resolveTag {target : Target} {tags : TagTable} {symbols : SymbolTable}
    {prefixes : List String} {id : Nat}
    (h : resolveTag target tags symbols prefixes id = .ok resolved) :
    resolved.type.isArray = false := by
  unfold resolveTag at h
  split at h
  · cases h
  · split at h
    · cases h
      rfl
    · split at h
      · exact BasicType.isArray_resolve h
      · cases h
      · cases h

/-- What becomes an array is one, and an array becomes nothing else unless it goes by the name of an
artifact. -/
theorem CType.isArray_resolve_iff {target : Target} {tags : TagTable} {symbols : SymbolTable}
    {prefixes : List String} (h : type.resolve target tags symbols prefixes = .ok resolved) :
    resolved.type.isArray = true ↔
      type.isArray = true ∧ ∀ artifact, resolved.type ≠ .reference artifact := by
  have hshape := type.shape_peel_shown.1
  unfold CType.resolve at h
  dsimp only at h
  split at h
  · next found hfound =>
    cases h
    simp [Resolved.ofArtifact, ForeignType.isArray]
  · next hnone =>
    split at h
    case h_1 basic hpeel =>
      rw [hpeel] at hshape
      rw [BasicType.isArray_resolve h, ← hshape]
      simp [isArray, inside]
    case h_2 pointee hpeel =>
      rw [hpeel] at hshape
      have hmade :=
        resolvePointer_cases tags symbols prefixes (type.shown.declaredName tags) pointee
      rw [h] at hmade
      have hscalar : resolved.type.isArray = false := by
        rcases hmade with hmade | ⟨_, hmade, htype⟩
        · cases hmade
        · cases hmade
          rcases htype with htype | htype <;> rw [htype] <;> rfl
      rw [hscalar, ← hshape]
      simp [isArray, inside]
    case h_4 element count hpeel =>
      rw [hpeel] at hshape
      obtain ⟨inner, -, h⟩ := bind_eq_ok_iff.mp h
      cases h
      rw [← hshape]
      simp [ForeignType.isArray, isArray, inside]
    case h_8 id here hpeel =>
      rw [hpeel] at hshape
      rw [isArray_resolveTag h, ← hshape]
      simp [isArray, inside]
    all_goals cases h

theorem CType.reference_of_isFunction {target : Target} {tags : TagTable} {symbols : SymbolTable}
    {prefixes : List String} (h : type.resolve target tags symbols prefixes = .ok resolved)
    (hfunction : type.isFunction = true) : ∃ artifact, resolved.type = .reference artifact := by
  have hshape := type.shape_peel_shown.2
  rw [hfunction] at hshape
  unfold CType.resolve at h
  dsimp only at h
  split at h
  · next found hfound =>
    cases h
    exact ⟨found, rfl⟩
  · next hnone =>
    split at h
    case h_1 basic hpeel | h_2 basic hpeel | h_4 basic _ hpeel | h_8 basic _ hpeel =>
      rw [hpeel] at hshape
      cases hshape
    all_goals cases h

/-! Adjusted types. -/

theorem PassContext.resolve_pointer_cases (context : PassContext) (symbols : SymbolTable)
    (target : CType) :
    (∀ kind, context.resolve symbols (.pointer target) ≠ .error (.unsupported kind)) ∧
      ∀ resolved, context.resolve symbols (.pointer target) = .ok resolved →
        resolved.type = .pointer ∨ resolved.type = .string := by
  have hcases := resolvePointer_cases context.tags symbols context.prefixes "" target
  rw [← CType.resolve_pointer context.target] at hcases
  constructor
  · intro kind h
    unfold PassContext.resolve at h
    rcases hcases with hcases | ⟨made, hcases, -⟩ <;> rw [hcases] at h
    · cases h
    · split at h
      · split at h <;> cases h
      · cases h
      · next hmade => cases hmade
      · cases h
  · intro resolved h
    have hmade := (resolve_eq_ok h).1
    rcases hcases with hcases | ⟨made, hcases, htype⟩
    · rw [hcases] at hmade
      cases hmade
    · rw [hcases] at hmade
      cases hmade
      exact htype

theorem CType.not_scalar_of_pointed {target : Target} {tags : TagTable} {symbols : SymbolTable}
    {prefixes : List String} (h : type.resolve target tags symbols prefixes = .ok resolved)
    (hpointed : type.isArray = true ∨ type.isFunction = true) :
    ¬ (resolved.type = .pointer ∨ resolved.type = .string) := by
  intro hscalar
  have hnever : ∀ artifact, resolved.type ≠ .reference artifact := by
    intro artifact hreference
    rcases hscalar with htype | htype <;> rw [htype] at hreference <;> cases hreference
  rcases hpointed with harray | hfunction
  · have hmade := (isArray_resolve_iff h).mpr ⟨harray, hnever⟩
    rcases hscalar with htype | htype <;> rw [htype] at hmade <;> cases hmade
  · obtain ⟨artifact, hreference⟩ := reference_of_isFunction h hfunction
    exact hnever artifact hreference

/-- A parameter becomes what C adjusts it to only where there is nothing to adjust. -/
theorem PassContext.parameter_adjusted_iff {parameter : CParameter} {made : Parameter}
    (h : context.parameter symbols parameter = .ok made) :
    context.parameter symbols parameter.adjusted = .ok made ↔
      parameter.type.isArray = false ∧ parameter.type.isFunction = false := by
  obtain ⟨resolved, hresolved, rfl⟩ := parameter_eq_ok_iff.mp h
  constructor
  · intro hadjusted
    obtain ⟨pointer, hpointer, hsame⟩ := parameter_eq_ok_iff.mp hadjusted
    obtain ⟨-, htype, -⟩ := Parameter.mk.inj hsame
    by_contra hpointed
    rw [not_and_or, Bool.not_eq_false, Bool.not_eq_false] at hpointed
    obtain ⟨target, htarget⟩ := CType.adjusted_of_pointed hpointed
    rw [CParameter.adjusted, htarget] at hpointer
    have hscalar := (context.resolve_pointer_cases symbols target).2 pointer hpointer
    rw [← htype] at hscalar
    exact CType.not_scalar_of_pointed (resolve_eq_ok hresolved).1 hpointed hscalar
  · rintro ⟨harray, hfunction⟩
    rw [CParameter.adjusted, CType.adjusted_of_other harray hfunction]
    exact h

/-- Adjusting a type that has no foreign type helps only where there is something to adjust. -/
theorem PassContext.unsupported_adjusted_iff {kind : UnsupportedKind}
    (h : context.resolve symbols type = .error (.unsupported kind)) :
    (∀ other, context.resolve symbols type.adjusted ≠ .error (.unsupported other)) ↔
      type.isArray = true ∨ type.isFunction = true := by
  constructor
  · intro hcured
    by_contra hplain
    obtain ⟨harray, hfunction⟩ := not_or.mp hplain
    rw [CType.adjusted_of_other (by simpa using harray) (by simpa using hfunction)] at hcured
    exact hcured kind h
  · intro hpointed
    obtain ⟨target, htarget⟩ := CType.adjusted_of_pointed hpointed
    rw [htarget]
    exact (context.resolve_pointer_cases symbols target).1

/-- A parameter becomes an array when it is written as one, unless its type goes by the name of an
artifact; it becomes what C adjusts it to when it is written neither as an array nor as a function;
and a pass that stops at a type without a foreign type would get on with the adjusted one when it is
written as one of these. -/
theorem run_adjusted_iff (context : PassContext) (declarations : List Declaration) :
    (∀ visit ∈ context.visits .start declarations, ∀ artifact ∈ context.added visit,
      ∀ signature ∈ artifact.signature?,
        List.Forall₂ (fun parameter made =>
            context.parameter visit.before.declared.symbols parameter = .ok made ∧
            (made.type.isArray = true ↔
              parameter.type.isArray = true ∧ ∀ known, made.type ≠ .reference known) ∧
            (context.parameter visit.before.declared.symbols parameter.adjusted = .ok made ↔
              parameter.type.isArray = false ∧ parameter.type.isFunction = false))
          visit.declaration.body.parameters signature.parameters) ∧
    ∀ kind, (context.run .start declarations).error = some (.unsupported kind) →
      ∃ visit ∈ context.visits .start declarations, ∃ type,
        FirstFailure (context.resolve visit.before.declared.symbols)
          (context.needs visit.declaration) type (.unsupported kind) ∧
        ((∀ other, context.resolve visit.before.declared.symbols type.adjusted ≠
            .error (.unsupported other)) ↔ type.isArray = true ∨ type.isFunction = true) := by
  constructor
  · intro visit _ artifact hadded signature hs
    obtain ⟨-, hmakes⟩ := PassContext.makes_of_mem_added hadded
    refine (hmakes.written hs).imp fun parameter made hmade => ?_
    obtain ⟨resolved, hresolved, rfl⟩ := PassContext.parameter_eq_ok_iff.mp hmade
    exact ⟨hmade, CType.isArray_resolve_iff (PassContext.resolve_eq_ok hresolved).1,
      PassContext.parameter_adjusted_iff hmade⟩
  · intro kind herror
    obtain ⟨visit, hvisit, -, hfails⟩ := PassContext.run_error_iff.mp herror
    cases hfails with
    | type first =>
      obtain ⟨earlier, later, hsplit, hearlier, hfailed⟩ := first
      exact ⟨visit, hvisit, _, ⟨earlier, later, hsplit, hearlier, hfailed⟩,
        PassContext.unsupported_adjusted_iff hfailed⟩

def fillSettings : Settings :=
  { Settings.default with
    moduleName := .string "M"
    library := .string "m"
    headers := [.string "fill.h"] }

def fillUnit : TranslationUnit :=
  fillSettings.unit [] (.ofFiles [("fill.h", "void fill(int values[4]);\n")])

set_option maxRecDepth 100000 in
theorem fill_values_array :
    ¬ ∀ visit ∈ (fillSettings.context fillUnit).visits .start fillUnit.declarations,
        ∀ artifact ∈ (fillSettings.context fillUnit).added visit,
          ∀ signature ∈ artifact.signature?, ∀ made ∈ signature.parameters,
            made.type.isArray = false := by
  intro h
  have harray : (((fillSettings.run fillUnit).final.declared.artifacts.filterMap
      Artifact.signature?).flatMap Signature.parameters).any (·.type.isArray) = true := by
    decide +kernel
  obtain ⟨made, hmade, htype⟩ := List.any_eq_true.mp harray
  obtain ⟨signature, hsignature, hparameter⟩ := List.mem_flatMap.mp hmade
  obtain ⟨artifact, hartifact, hs⟩ := List.mem_filterMap.mp hsignature
  rw [Settings.run, PassContext.run_artifacts, PassState.start, Declared.empty,
    List.nil_append] at hartifact
  obtain ⟨visit, hvisit, hadded⟩ := List.mem_flatMap.mp hartifact
  have hother := h visit hvisit artifact hadded signature hs made hparameter
  rw [htype] at hother
  cases hother

end HeaderBindings
