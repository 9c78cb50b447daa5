import HeaderBindings.Proofs.ParameterList

/-! What stops a pass: a visit that fails is the last one, and it fails with the first thing in its
declaration that cannot be bound. -/

namespace HeaderBindings

variable {context : PassContext} {symbols : SymbolTable} {declaration : Declaration}
variable {error : PassError}

theorem bind_eq_error_iff {ε α β : Type} {action : Except ε α} {next : α → Except ε β} {e : ε} :
    action >>= next = .error e ↔
      action = .error e ∨ ∃ a, action = .ok a ∧ next a = .error e := by
  cases action with
  | error e' => simp [bind, Except.bind]
  | ok a => simp [bind, Except.bind]

/-- The first of some values that an action fails on. -/
def FirstFailure {ε α β : Type} (action : α → Except ε β) (xs : List α) (x : α) (e : ε) : Prop :=
  ∃ earlier later, xs = earlier ++ x :: later ∧ (∀ y ∈ earlier, ∃ b, action y = .ok b) ∧
    action x = .error e

theorem firstFailure_cons_iff {ε α β : Type} {action : α → Except ε β} {y x : α} {xs : List α}
    {e : ε} : FirstFailure action (y :: xs) x e ↔
      x = y ∧ action y = .error e ∨ (∃ b, action y = .ok b) ∧ FirstFailure action xs x e := by
  constructor
  · rintro ⟨earlier, later, hsplit, hearlier, hfails⟩
    cases earlier with
    | nil =>
      obtain ⟨rfl, -⟩ := List.cons.inj hsplit
      exact .inl ⟨rfl, hfails⟩
    | cons first earlier =>
      obtain ⟨rfl, hrest⟩ := List.cons.inj hsplit
      exact .inr ⟨hearlier y List.mem_cons_self, earlier, later, hrest,
        fun z hz => hearlier z (List.mem_cons_of_mem y hz), hfails⟩
  · rintro (⟨rfl, hfails⟩ | ⟨hy, earlier, later, rfl, hearlier, hfails⟩)
    · exact ⟨[], xs, rfl, by simp, hfails⟩
    · exact ⟨y :: earlier, later, rfl, List.forall_mem_cons.mpr ⟨hy, hearlier⟩, hfails⟩

theorem mapM_eq_error_iff {ε α β : Type} {action : α → Except ε β} {xs : List α} {e : ε} :
    xs.mapM action = .error e ↔ ∃ x, FirstFailure action xs x e := by
  induction xs with
  | nil => simp [pure, Except.pure, FirstFailure]
  | cons y ys ih =>
    simp only [List.mapM_cons, firstFailure_cons_iff, exists_or, exists_and_left, exists_eq_left,
      bind_eq_error_iff, ← ih]
    cases action y with
    | error e' => simp
    | ok b => simp [pure, Except.pure]

/-- An action that fails where another one fails on a part stops a list at the same place. -/
theorem mapM_eq_error_iff_of_part {ε α β γ δ : Type} {whole : α → Except ε β}
    (part : γ → Except ε δ) (view : α → γ)
    (h : ∀ x e, whole x = .error e ↔ part (view x) = .error e) {xs : List α} {e : ε} :
    xs.mapM whole = .error e ↔ ∃ y, FirstFailure part (xs.map view) y e := by
  rw [← mapM_eq_error_iff]
  induction xs with
  | nil => simp [pure, Except.pure]
  | cons x xs ih =>
    rw [List.map_cons, List.mapM_cons, List.mapM_cons, bind_eq_error_iff, bind_eq_error_iff, h]
    cases hpart : part (view x) with
    | error e' =>
      have hwhole := (h x e').mpr hpart
      simp [hwhole]
    | ok b =>
      cases hwhole : whole x with
      | error e' =>
        rw [h, hpart] at hwhole
        cases hwhole
      | ok c => simpa [bind_eq_error_iff, pure, Except.pure] using ih

/-! What a declaration asks for. -/

/-- The enum constants that a declaration makes an enum of. -/
def PassContext.enumerators (context : PassContext) (declaration : Declaration) :
    List Enumerator :=
  match declaration.body with
  | .tag id constants =>
    if context.tags[id]?.any fun tag => tag.kind = .enumeration && !tag.isAnonymous then constants
    else []
  | .typeName type attributes =>
    match context.definedTag type attributes with
    | some tag => if tag.kind = .enumeration ∧ tag.isAnonymous then tag.constants else []
    | none => []
  | _ => []

/-- The parameters that are written in a declaration. -/
def DeclarationBody.parameters : DeclarationBody → List CParameter
  | .function type _ => parametersAmong type.children
  | .typeName type _ => parametersAmong type.children
  | _ => []

/-- The result of the function that a declaration binds or makes a callback of. -/
def DeclarationBody.result? : DeclarationBody → Option CType
  | .function type false =>
    match type.shown with
    | .function result _ _ => some result
    | _ => none
  | .typeName type _ => type.callbackResult?
  | _ => none

/-- The types that a declaration needs a foreign type for, in the order in which they are asked
for: those of the fields of a struct, or that of the result and those of the parameters. -/
def PassContext.needs (context : PassContext) (declaration : Declaration) : List CType :=
  let signature := declaration.body.result?.toList.flatMap fun result =>
    result :: declaration.body.parameters.map CParameter.type
  match declaration.body with
  | .typeName type attributes =>
    match (context.ownTag? type attributes).bind (context.tags[·]?) with
    | some tag =>
      if tag.kind = .struct then (tag.fields.filter (!·.implicit)).map CField.type else []
    | none => signature
  | _ => signature

/-- The ways in which a declaration fails to be bound. -/
inductive PassContext.Fails (context : PassContext) (symbols : SymbolTable)
    (declaration : Declaration) : PassError → Prop
  | literal {constant : Enumerator} (constants : constant ∈ context.enumerators declaration)
      (unspelled : constant.text = .unspelled) : context.Fails symbols declaration .unspelledLiteral
  | named {type meaning : CType} {name : String} (body : declaration.body = .function type false)
      (shown : type.shown = .spelled (.alias name) meaning) :
      context.Fails symbols declaration .namedFunctionType
  | copied {type : CType} (body : declaration.body = .function type false)
      (unnamed : ∀ name meaning, type.shown ≠ .spelled (.alias name) meaning)
      (unwritten : ∀ result parameters style, type.shown ≠ .function result parameters style) :
      context.Fails symbols declaration .copiedFunctionType
  | kind {type : CType} {attributes : Nat} (body : declaration.body = .typeName type attributes)
      (other : context.ownTag? type attributes = none) (unknown : type.hasUnknownKind = true) :
      context.Fails symbols declaration .unknownKind
  | type {type : CType} {error : PassError}
      (first : FirstFailure (context.resolve symbols) (context.needs declaration) type error) :
      context.Fails symbols declaration error

theorem Enumerator.constant_eq_error_iff {constant : Enumerator} :
    constant.constant = .error error ↔
      error = .unspelledLiteral ∧ constant.text = .unspelled := by
  unfold Enumerator.constant
  cases constant.text with
  | literal text => dsimp only; split <;> simp
  | unspelled => simp [eq_comm]
  | none | expression => simp

theorem enumerationOf_eq_error_iff {name : String} {constants : List Enumerator} :
    enumerationOf name constants = .error error ↔
      error = .unspelledLiteral ∧ ∃ constant ∈ constants, constant.text = .unspelled := by
  have hfails : constants.mapM Enumerator.constant = .error error ↔
      error = .unspelledLiteral ∧ ∃ constant ∈ constants, constant.text = .unspelled := by
    induction constants with
    | nil => simp [pure, Except.pure]
    | cons constant rest ih =>
      rw [List.mapM_cons, bind_eq_error_iff, Enumerator.constant_eq_error_iff]
      cases hmade : constant.constant with
      | error e =>
        obtain ⟨-, hunspelled⟩ := Enumerator.constant_eq_error_iff.mp hmade
        simp [hunspelled]
      | ok value =>
        have hspelled : constant.text ≠ .unspelled := fun h => by
          rw [Enumerator.constant_eq_error_iff.mpr ⟨rfl, h⟩] at hmade
          cases hmade
        simp [hspelled, bind_eq_error_iff, pure, Except.pure, ih]
  unfold enumerationOf
  rw [bind_eq_error_iff, hfails]
  simp [pure, Except.pure]

theorem PassContext.structOf_eq_error_iff {name : String} {fields : List CField} :
    context.structOf symbols name fields = .error error ↔
      ∃ type, FirstFailure (context.resolve symbols)
        ((fields.filter (!·.implicit)).map CField.type) type error := by
  unfold PassContext.structOf
  rw [bind_eq_error_iff, mapM_eq_error_iff_of_part (context.resolve symbols) CField.type]
  · simp [pure, Except.pure]
  · intro field e
    simp [bind_eq_error_iff, pure, Except.pure]

theorem PassContext.parameter_eq_error_iff {parameter : CParameter} :
    context.parameter symbols parameter = .error error ↔
      context.resolve symbols parameter.type = .error error := by
  unfold PassContext.parameter
  simp [bind_eq_error_iff, pure, Except.pure]

theorem PassContext.signature_eq_error_iff {result : CType} {parameters : List CParameter} :
    context.signature symbols result parameters = .error error ↔
      ∃ type, FirstFailure (context.resolve symbols)
        (result :: parameters.map CParameter.type) type error := by
  unfold PassContext.signature
  simp only [firstFailure_cons_iff, exists_or, exists_and_left, exists_eq_left,
    bind_eq_error_iff, mapM_eq_error_iff_of_part (context.resolve symbols) CParameter.type
      fun _ _ => parameter_eq_error_iff]
  simp [pure, Except.pure]

/-! Declarations. -/

theorem CType.hasUnknownKind_of_callbackResult? {type result : CType}
    (h : type.callbackResult? = some result) : type.hasUnknownKind = false := by
  obtain ⟨own, parameters, style, hcanonical⟩ := canonical_of_callbackResult? h
  rw [hasUnknownKind, hcanonical]

theorem PassContext.callback_eq_error_iff {declared : Declared} {name : String} {type : CType} :
    context.callback declared name type = .error error ↔
      error = .unknownKind ∧ type.hasUnknownKind = true ∨
      ∃ needed, FirstFailure (context.resolve declared.symbols)
        (type.callbackResult?.toList.flatMap fun result =>
          result :: (parametersAmong type.children).map CParameter.type) needed error := by
  unfold PassContext.callback
  cases hresult : type.callbackResult? with
  | none =>
    have hnothing : ¬ ∃ needed,
        FirstFailure (context.resolve declared.symbols) [] needed error := by simp [FirstFailure]
    cases hkind : type.hasUnknownKind <;> simp [hnothing, eq_comm]
  | some result =>
    rw [CType.hasUnknownKind_of_callbackResult? hresult]
    simp [HeaderBindings.bind_eq_error_iff, signature_eq_error_iff, pure, Except.pure]

theorem PassContext.typeName_of_other {declared : Declared} {name : String} {type : CType}
    {attributes : Nat} (h : context.ownTag? type attributes = none) :
    context.typeName declared name type attributes = context.callback declared name type := by
  unfold PassContext.typeName
  cases hdefined : context.definedTag type attributes with
  | none => rfl
  | some tag =>
    obtain ⟨id, hchildren, rfl, htag⟩ := definedTag_eq_some_iff.mp hdefined
    rw [ownTag?_of_tag hchildren htag, ite_eq_right_iff] at h
    obtain ⟨hstruct, henumeration⟩ := not_or.mp fun hown => by cases h hown
    dsimp only
    rw [if_neg hstruct, if_neg henumeration]

theorem PassContext.own_of_ownTag? {type : CType} {attributes id : Nat}
    (h : context.ownTag? type attributes = some id) :
    ∃ tag, context.tags[id]? = some tag ∧ context.definedTag type attributes = some tag ∧
      (tag.kind = .struct ∧ type.isRecord context.tags = true ∨
        tag.kind = .enumeration ∧ tag.isAnonymous = true) := by
  obtain ⟨hchildren, rfl, tag, htag⟩ := ownTag?_eq_some h
  refine ⟨tag, htag, definedTag_eq_some_iff.mpr ⟨id, hchildren, rfl, htag⟩, ?_⟩
  rw [ownTag?_of_tag hchildren htag] at h
  exact (Option.ite_none_right_eq_some.mp h).1

theorem PassContext.enumerators_of_typeName {type : CType} {attributes : Nat}
    (body : declaration.body = .typeName type attributes) :
    context.enumerators declaration =
      match context.definedTag type attributes with
      | some tag => if tag.kind = .enumeration ∧ tag.isAnonymous then tag.constants else []
      | none => [] := by
  rw [enumerators, body]

theorem PassContext.needs_of_typeName {type : CType} {attributes : Nat}
    (body : declaration.body = .typeName type attributes) :
    context.needs declaration =
      match (context.ownTag? type attributes).bind (context.tags[·]?) with
      | some tag =>
        if tag.kind = .struct then (tag.fields.filter (!·.implicit)).map CField.type else []
      | none => type.callbackResult?.toList.flatMap fun result =>
          result :: (parametersAmong type.children).map CParameter.type := by
  rw [needs, body]
  rfl

theorem PassContext.fails_typeName_iff {type : CType} {attributes : Nat}
    (body : declaration.body = .typeName type attributes) :
    context.Fails symbols declaration error ↔
      (error = .unspelledLiteral ∧
        ∃ constant ∈ context.enumerators declaration, constant.text = .unspelled) ∨
      (error = .unknownKind ∧ context.ownTag? type attributes = none ∧
        type.hasUnknownKind = true) ∨
      ∃ needed, FirstFailure (context.resolve symbols) (context.needs declaration) needed
        error := by
  constructor
  · intro h
    cases h with
    | literal constants unspelled => exact .inl ⟨rfl, _, constants, unspelled⟩
    | kind same other unknown =>
      rw [body] at same
      cases same
      exact .inr (.inl ⟨rfl, other, unknown⟩)
    | type first => exact .inr (.inr ⟨_, first⟩)
    | named other | copied other =>
      rw [body] at other
      cases other
  · rintro (⟨rfl, constant, constants, unspelled⟩ | ⟨rfl, other, unknown⟩ | ⟨needed, first⟩)
    · exact .literal constants unspelled
    · exact .kind body other unknown
    · exact .type first

theorem not_firstFailure_nil {ε α β : Type} {action : α → Except ε β} {e : ε} :
    ¬ ∃ x, FirstFailure action [] x e := by
  simp [FirstFailure]

theorem PassContext.typeName_eq_error_iff {declared : Declared} {type : CType} {attributes : Nat}
    (body : declaration.body = .typeName type attributes) :
    context.typeName declared declaration.name type attributes = .error error ↔
      context.Fails declared.symbols declaration error := by
  rw [fails_typeName_iff body, enumerators_of_typeName body, needs_of_typeName body]
  cases hown : context.ownTag? type attributes with
  | none =>
    have hconstants : (match context.definedTag type attributes with
        | some tag => if tag.kind = .enumeration ∧ tag.isAnonymous then tag.constants else []
        | none => []) = [] := by
      split
      · next tag hdefined =>
        obtain ⟨id, hchildren, rfl, htag⟩ := definedTag_eq_some_iff.mp hdefined
        rw [ownTag?_of_tag hchildren htag, ite_eq_right_iff] at hown
        exact if_neg fun henumeration => by cases hown (.inr henumeration)
      · rfl
    rw [typeName_of_other hown, callback_eq_error_iff, hconstants]
    simp
  | some id =>
    obtain ⟨tag, htag, hdefined, hkind⟩ := own_of_ownTag? hown
    unfold PassContext.typeName
    rw [hdefined, Option.bind_some, htag]
    dsimp only
    rcases hkind with ⟨hstruct, hrecord⟩ | ⟨henumeration, hanonymous⟩
    · rw [if_pos ⟨hstruct, hrecord⟩, HeaderBindings.bind_eq_error_iff, structOf_eq_error_iff]
      simp [hstruct, pure, Except.pure]
    · rw [if_neg (by simp [henumeration]), if_pos ⟨henumeration, hanonymous⟩,
        HeaderBindings.bind_eq_error_iff, enumerationOf_eq_error_iff]
      simp [henumeration, hanonymous, pure, Except.pure, not_firstFailure_nil]

theorem PassContext.needs_of_function {type : CType}
    (body : declaration.body = .function type false) :
    context.needs declaration =
      match type.shown with
      | .function result _ _ => result :: (parametersAmong type.children).map CParameter.type
      | _ => [] := by
  simp only [needs, body, DeclarationBody.result?, DeclarationBody.parameters]
  split <;> simp

theorem PassContext.fails_function_iff {type : CType}
    (body : declaration.body = .function type false) :
    context.Fails symbols declaration error ↔
      (error = .namedFunctionType ∧ ∃ name meaning, type.shown = .spelled (.alias name) meaning) ∨
      (error = .copiedFunctionType ∧
        (∀ name meaning, type.shown ≠ .spelled (.alias name) meaning) ∧
        ∀ result parameters style, type.shown ≠ .function result parameters style) ∨
      ∃ needed, FirstFailure (context.resolve symbols) (context.needs declaration) needed
        error := by
  constructor
  · intro h
    cases h with
    | literal constants =>
      rw [enumerators, body] at constants
      cases constants
    | kind other =>
      rw [body] at other
      cases other
    | named same shown =>
      rw [body] at same
      cases same
      exact .inl ⟨rfl, _, _, shown⟩
    | copied same unnamed unwritten =>
      rw [body] at same
      cases same
      exact .inr (.inl ⟨rfl, unnamed, unwritten⟩)
    | type first => exact .inr (.inr ⟨_, first⟩)
  · rintro (⟨rfl, name, meaning, shown⟩ | ⟨rfl, unnamed, unwritten⟩ | ⟨needed, first⟩)
    · exact .named body shown
    · exact .copied body unnamed unwritten
    · exact .type first

theorem PassContext.function_eq_error_iff {declared : Declared} {type : CType} {comment : String}
    (body : declaration.body = .function type false) :
    context.function declared declaration.name comment type = .error error ↔
      context.Fails declared.symbols declaration error := by
  rw [fails_function_iff body, needs_of_function body]
  unfold PassContext.function
  split
  · next result parameters style shown =>
    rw [HeaderBindings.bind_eq_error_iff, signature_eq_error_iff]
    simp [shown, pure, Except.pure]
  · next shown => simp [shown, not_firstFailure_nil, eq_comm]
  · next unwritten unnamed =>
    have hcopied : (∀ name meaning, type.shown ≠ .spelled (.alias name) meaning) ∧
        ∀ result parameters style, type.shown ≠ .function result parameters style :=
      ⟨unnamed, unwritten⟩
    simp [hcopied, not_firstFailure_nil, eq_comm]

/-- A declaration of anything else can only fail over the constants of an enum. -/
theorem PassContext.fails_else_iff (unbound : ∀ type, declaration.body ≠ .function type false)
    (unnamed : ∀ type attributes, declaration.body ≠ .typeName type attributes) :
    context.Fails symbols declaration error ↔ error = .unspelledLiteral ∧
      ∃ constant ∈ context.enumerators declaration, constant.text = .unspelled := by
  have hresult : declaration.body.result? = none := by
    unfold DeclarationBody.result?
    split
    · next body => exact absurd body (unbound _)
    · next body => exact absurd body (unnamed _ _)
    · rfl
  have hneeds : context.needs declaration = [] := by
    unfold needs
    rw [hresult]
    split
    · next body => exact absurd body (unnamed _ _)
    · rfl
  constructor
  · intro h
    cases h with
    | literal constants unspelled => exact ⟨rfl, _, constants, unspelled⟩
    | named body | copied body => exact absurd body (unbound _)
    | kind body => exact absurd body (unnamed _ _)
    | type first =>
      rw [hneeds] at first
      exact absurd ⟨_, first⟩ not_firstFailure_nil
  · rintro ⟨rfl, constant, constants, unspelled⟩
    exact .literal constants unspelled

/-- A declaration is not bound exactly when it fails in one of these ways. -/
theorem PassContext.bind_eq_error_iff {declared : Declared} (previous : Option Mark) :
    context.bind declared previous declaration = .error error ↔
      context.Fails declared.symbols declaration error := by
  unfold PassContext.bind
  split
  · next id constants body =>
    rw [fails_else_iff (by simp [body]) (by simp [body]), enumerators, body]
    cases htag : context.tags[id]? with
    | none => simp [htag]
    | some tag =>
      by_cases hnamed : tag.kind = .enumeration ∧ !tag.isAnonymous
      · dsimp only
        rw [if_pos hnamed, HeaderBindings.bind_eq_error_iff, enumerationOf_eq_error_iff]
        simp [htag, hnamed.1, hnamed.2, pure, Except.pure]
      · dsimp only
        rw [if_neg hnamed]
        simp_all
  · next type body =>
    rw [fails_else_iff (by simp [body]) (by simp [body]), enumerators, body]
    simp
  · next type body => exact function_eq_error_iff body
  · next type attributes body => exact typeName_eq_error_iff body
  · next body =>
    rw [fails_else_iff (by simp [body]) (by simp [body]), enumerators, body]
    simp

/-- The parameters of a signature are made of those that are written in the declaration. -/
theorem PassContext.Makes.written {previous : Option Mark} {artifact : Artifact}
    {signature : Signature} (h : context.Makes symbols previous declaration artifact)
    (hs : signature ∈ artifact.signature?) :
    List.Forall₂ (fun parameter made => context.parameter symbols parameter = .ok made)
      declaration.body.parameters signature.parameters := by
  rcases h with ⟨aliases, h⟩ | h
  · cases h with
    | tag => cases hs
    | enumeration => cases hs
    | struct => cases hs
    | callback body pointer made =>
      cases hs
      rw [body]
      exact (signature_eq_ok made).2
  · cases h with
    | mk body shown made =>
      cases hs
      rw [body]
      exact (signature_eq_ok made).2

/-! Runs. -/

theorem PassContext.visit_eq_error_iff {state : PassState} :
    (context.visit state declaration).2 = some error ↔
      context.isBlacklisted declaration = false ∧
        context.Fails state.declared.symbols declaration error := by
  rw [← bind_eq_error_iff state.previousEnd]
  unfold visit
  cases context.isBlacklisted declaration with
  | true => simp
  | false =>
    cases context.bind state.declared state.previousEnd declaration <;> simp

/-- A pass stops with the error of a visit. -/
theorem PassContext.run_error_iff {state : PassState} {declarations : List Declaration} :
    (context.run state declarations).error = some error ↔
      ∃ visit ∈ context.visits state declarations,
        context.isBlacklisted visit.declaration = false ∧
          context.Fails visit.before.declared.symbols visit.declaration error := by
  simp only [← visit_eq_error_iff]
  induction declarations generalizing state with
  | nil => simp [run, visits]
  | cons declaration rest ih =>
    unfold run visits
    split
    · cases hvisit : context.visit state declaration with
      | mk next failure =>
        cases failure with
        | none => simp [hvisit, ih]
        | some failure => simp [hvisit]
    · exact ih

end HeaderBindings
