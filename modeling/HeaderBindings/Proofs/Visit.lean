import HeaderBindings.Binding.Pass
import Mathlib.Data.List.Forall2
import Mathlib.Data.List.Chain

/-! The visits of a pass: the declarations that it comes to, each with the state in front of it, and
what a visit can add to the artifacts and the symbols. -/

namespace HeaderBindings

theorem bind_eq_ok_iff {ε α β : Type} {action : Except ε α} {next : α → Except ε β} {b : β} :
    action >>= next = .ok b ↔ ∃ a, action = .ok a ∧ next a = .ok b := by
  cases action with
  | error e => simp [bind, Except.bind]
  | ok a => simp [bind, Except.bind]

theorem mapM_eq_ok_iff {ε α β : Type} {f : α → Except ε β} {xs : List α} {ys : List β} :
    xs.mapM f = .ok ys ↔ List.Forall₂ (fun x y => f x = .ok y) xs ys := by
  induction xs generalizing ys with
  | nil =>
    rw [List.mapM_nil, List.forall₂_nil_left_iff]
    exact ⟨fun h => (Except.ok.inj h).symm, fun h => congrArg _ h.symm⟩
  | cons x xs ih =>
    simp only [List.mapM_cons, bind_eq_ok_iff, List.forall₂_cons_left_iff, ih]
    constructor
    · rintro ⟨y, hy, rest, hrest, he⟩
      exact ⟨y, rest, hy, hrest, (Except.ok.inj he).symm⟩
    · rintro ⟨y, rest, hy, hrest, rfl⟩
      exact ⟨y, hy, rest, hrest, rfl⟩

theorem exists_mem_of_forall₂ {α β : Type} {R : α → β → Prop} {xs : List α} {ys : List β} {y : β}
    (h : List.Forall₂ R xs ys) (hy : y ∈ ys) : ∃ x ∈ xs, R x y := by
  induction h with
  | nil => simp at hy
  | cons hhead _ ih =>
    rcases List.mem_cons.mp hy with rfl | hy
    · exact ⟨_, List.mem_cons_self, hhead⟩
    · obtain ⟨x, hx, hR⟩ := ih hy
      exact ⟨x, List.mem_cons_of_mem _ hx, hR⟩

/-! Artifacts. -/

theorem enumerationOf_eq_ok {name : String} {constants : List Enumerator} {artifact : Artifact}
    (h : enumerationOf name constants = .ok artifact) :
    ∃ values, artifact = .enumeration name values ∧
      List.Forall₂ (fun constant value => constant.constant = .ok value) constants values := by
  obtain ⟨values, hv, he⟩ := bind_eq_ok_iff.mp h
  exact ⟨values, (Except.ok.inj he).symm, mapM_eq_ok_iff.mp hv⟩

theorem PassContext.structOf_eq_ok {context : PassContext} {symbols : SymbolTable} {name : String}
    {fields : List CField} {artifact : Artifact}
    (h : context.structOf symbols name fields = .ok artifact) :
    ∃ found, artifact = .struct name found ∧
      List.Forall₂ (fun field made => ∃ resolved,
        context.resolve symbols field.type = .ok resolved ∧ made = ⟨field.name, resolved.type⟩)
        (fields.filter (!·.implicit)) found := by
  obtain ⟨found, hf, he⟩ := bind_eq_ok_iff.mp h
  refine ⟨found, (Except.ok.inj he).symm, (mapM_eq_ok_iff.mp hf).imp ?_⟩
  intro field made hm
  obtain ⟨resolved, hr, hm⟩ := bind_eq_ok_iff.mp hm
  exact ⟨resolved, hr, (Except.ok.inj hm).symm⟩

theorem PassContext.parameter_eq_ok_iff {context : PassContext} {symbols : SymbolTable}
    {parameter : CParameter} {made : Parameter} :
    context.parameter symbols parameter = .ok made ↔ ∃ resolved,
      context.resolve symbols parameter.type = .ok resolved ∧
      made = ⟨parameter.name, resolved.type, resolved.label⟩ := by
  refine bind_eq_ok_iff.trans (exists_congr fun resolved => and_congr_right fun _ => ?_)
  exact ⟨fun h => (Except.ok.inj h).symm, fun h => congrArg _ h.symm⟩

theorem PassContext.signature_eq_ok {context : PassContext} {symbols : SymbolTable}
    {result : CType} {parameters : List CParameter} {signature : Signature}
    (h : context.signature symbols result parameters = .ok signature) :
    (∃ resolved, context.resolve symbols result = .ok resolved ∧
      signature.result = resolved.type ∧ signature.resultLabel = resolved.label) ∧
    List.Forall₂ (fun parameter made => context.parameter symbols parameter = .ok made)
      parameters signature.parameters := by
  obtain ⟨resolved, hr, h⟩ := bind_eq_ok_iff.mp h
  obtain ⟨made, hm, h⟩ := bind_eq_ok_iff.mp h
  cases h
  exact ⟨⟨resolved, hr, rfl, rfl⟩, mapM_eq_ok_iff.mp hm⟩

/-! What a declaration in scope brings about. -/

/-- The ways in which a declaration makes an artifact that types can refer to, with its aliases. -/
inductive PassContext.MakesType (context : PassContext) (symbols : SymbolTable)
    (declaration : Declaration) : Artifact → List String → Prop
  | tag {id : Nat} {constants : List Enumerator} {tag : Tag}
      {values : List (String × Option String)}
      (body : declaration.body = .tag id constants) (found : context.tags[id]? = some tag)
      (kind : tag.kind = .enumeration) (named : tag.isAnonymous = false)
      (made : List.Forall₂ (fun constant value => constant.constant = .ok value)
        constants values) :
      context.MakesType symbols declaration (.enumeration tag.spelling values) []
  | enumeration {type : CType} {attributes : Nat} {tag : Tag}
      {values : List (String × Option String)}
      (body : declaration.body = .typeName type attributes)
      (found : context.definedTag type attributes = some tag)
      (kind : tag.kind = .enumeration) (unnamed : tag.isAnonymous = true)
      (made : List.Forall₂ (fun constant value => constant.constant = .ok value)
        tag.constants values) :
      context.MakesType symbols declaration (.enumeration declaration.name values) []
  | struct {type : CType} {attributes : Nat} {tag : Tag} {fields : List Field}
      (body : declaration.body = .typeName type attributes)
      (found : context.definedTag type attributes = some tag) (kind : tag.kind = .struct)
      (record : type.isRecord context.tags = true)
      (made : List.Forall₂ (fun field made => ∃ resolved,
        context.resolve symbols field.type = .ok resolved ∧ made = ⟨field.name, resolved.type⟩)
        (tag.fields.filter (!·.implicit)) fields) :
      context.MakesType symbols declaration (.struct declaration.name fields)
        (if tag.isAnonymous then [] else [tag.spelling])
  | callback {type result : CType} {attributes : Nat} {signature : Signature}
      (body : declaration.body = .typeName type attributes)
      (pointer : type.callbackResult? = some result)
      (made : context.signature symbols result (parametersAmong type.children) =
        .ok signature) :
      context.MakesType symbols declaration (.callback declaration.name signature) []

/-- A declaration of a function without a body makes an artifact that no type can refer to. -/
inductive PassContext.MakesFunction (context : PassContext) (symbols : SymbolTable)
    (previous : Option Mark) (declaration : Declaration) : Artifact → Prop
  | mk {type result : CType} {parameters : List CParameter} {style : ParameterStyle}
      {signature : Signature} (body : declaration.body = .function type false)
      (shown : type.shown = .function result parameters style)
      (made : context.signature symbols result (parametersAmong type.children) =
        .ok signature) :
      context.MakesFunction symbols previous declaration
        (.function declaration.name signature
          (context.source.harvest previous declaration.start) (style = .variadic))

/-- What a declaration does to the artifacts and the symbols. -/
inductive PassContext.Adds (context : PassContext) (declared : Declared)
    (previous : Option Mark) (declaration : Declaration) : Declared → Prop
  | nothing : context.Adds declared previous declaration declared
  | type {artifact : Artifact} {aliases : List String}
      (made : context.MakesType declared.symbols declaration artifact aliases) :
      context.Adds declared previous declaration (declared.declare artifact aliases)
  | function {artifact : Artifact}
      (made : context.MakesFunction declared.symbols previous declaration artifact) :
      context.Adds declared previous declaration (declared.append artifact)

/-- The tag that a type name makes its artifact of: a struct that the name stands for, or an enum
without a name. -/
def PassContext.ownTag? (context : PassContext) (type : CType) (attributes : Nat) : Option Nat :=
  match type.children, attributes with
  | [.definition id], 0 =>
    if context.tags[id]?.any fun tag => tag.kind = .struct && type.isRecord context.tags ||
        tag.kind = .enumeration && tag.isAnonymous then some id
    else none
  | _, _ => none

theorem PassContext.ownTag?_of_tag {context : PassContext} {type : CType} {id : Nat} {tag : Tag}
    (hchildren : type.children = [.definition id]) (htag : context.tags[id]? = some tag) :
    context.ownTag? type 0 =
      if tag.kind = .struct ∧ type.isRecord context.tags = true ∨
        tag.kind = .enumeration ∧ tag.isAnonymous = true then some id else none := by
  unfold ownTag?
  rw [hchildren]
  simp [htag]

/-- A type name can only have a tag of its own if the body of the tag is all that is written. -/
theorem PassContext.ownTag?_eq_some {context : PassContext} {type : CType} {attributes id : Nat}
    (h : context.ownTag? type attributes = some id) :
    type.children = [.definition id] ∧ attributes = 0 ∧ ∃ tag, context.tags[id]? = some tag := by
  unfold ownTag? at h
  split at h
  · next own hchildren =>
    split at h
    · next howned =>
      cases h
      refine ⟨hchildren, rfl, ?_⟩
      cases htag : context.tags[id]? with
      | none =>
        rw [htag] at howned
        cases howned
      | some tag => exact ⟨tag, rfl⟩
    · cases h
  · cases h

/-- What a type name does to the artifacts and the symbols, with all that decides between the
cases. -/
inductive PassContext.Names (context : PassContext) (declared : Declared) (name : String)
    (type : CType) (attributes : Nat) : Declared → Prop
  | struct {id : Nat} {tag : Tag} {fields : List Field}
      (own : context.ownTag? type attributes = some id) (found : context.tags[id]? = some tag)
      (kind : tag.kind = .struct) (record : type.isRecord context.tags = true)
      (made : List.Forall₂ (fun field made => ∃ resolved,
        context.resolve declared.symbols field.type = .ok resolved ∧
          made = ⟨field.name, resolved.type⟩) (tag.fields.filter (!·.implicit)) fields) :
      context.Names declared name type attributes
        (declared.declare (.struct name fields) (if tag.isAnonymous then [] else [tag.spelling]))
  | enumeration {id : Nat} {tag : Tag} {values : List (String × Option String)}
      (own : context.ownTag? type attributes = some id) (found : context.tags[id]? = some tag)
      (kind : tag.kind = .enumeration) (unnamed : tag.isAnonymous = true)
      (made : List.Forall₂ (fun constant value => constant.constant = .ok value)
        tag.constants values) :
      context.Names declared name type attributes (declared.declare (.enumeration name values) [])
  | callback {result : CType} {signature : Signature}
      (own : context.ownTag? type attributes = none) (pointer : type.callbackResult? = some result)
      (made : context.signature declared.symbols result (parametersAmong type.children) =
        .ok signature) :
      context.Names declared name type attributes (declared.declare (.callback name signature) [])
  | nothing (own : context.ownTag? type attributes = none)
      (pointer : type.callbackResult? = none) :
      context.Names declared name type attributes declared

theorem PassContext.callback_names {context : PassContext} {declared next : Declared}
    {name : String} {type : CType} {attributes : Nat}
    (own : context.ownTag? type attributes = none)
    (h : context.callback declared name type = .ok next) :
    context.Names declared name type attributes next := by
  unfold PassContext.callback at h
  split at h
  · cases h
  · split at h
    · next result pointer =>
      obtain ⟨signature, made, h⟩ := bind_eq_ok_iff.mp h
      cases h
      exact .callback own pointer made
    · next pointer =>
      cases h
      exact .nothing own pointer

theorem PassContext.definedTag_eq_some_iff {context : PassContext} {type : CType}
    {attributes : Nat} {tag : Tag} :
    context.definedTag type attributes = some tag ↔
      ∃ id, type.children = [.definition id] ∧ attributes = 0 ∧ context.tags[id]? = some tag := by
  unfold definedTag
  split
  · next id hchildren =>
    rw [hchildren]
    simp
  · next hother =>
    constructor
    · intro h
      cases h
    · rintro ⟨id, hchildren, hnone, -⟩
      exact absurd hnone (hother id hchildren)

theorem PassContext.typeName_names {context : PassContext} {declared next : Declared}
    {name : String} {type : CType} {attributes : Nat}
    (h : context.typeName declared name type attributes = .ok next) :
    context.Names declared name type attributes next := by
  unfold PassContext.typeName at h
  split at h
  · next tag found =>
    obtain ⟨id, hchildren, rfl, htag⟩ := definedTag_eq_some_iff.mp found
    have hown := ownTag?_of_tag hchildren htag
    split at h
    · next struct =>
      obtain ⟨artifact, made, h⟩ := bind_eq_ok_iff.mp h
      obtain ⟨fields, rfl, each⟩ := structOf_eq_ok made
      cases h
      exact .struct (by simp [hown, struct]) htag struct.1 struct.2 each
    · next notStruct =>
      split at h
      · next enumeration =>
        obtain ⟨artifact, made, h⟩ := bind_eq_ok_iff.mp h
        obtain ⟨values, rfl, each⟩ := enumerationOf_eq_ok made
        cases h
        exact .enumeration (by simp [hown, enumeration]) htag enumeration.1 enumeration.2 each
      · next notEnumeration =>
        refine callback_names ?_ h
        rw [hown, if_neg (not_or.mpr ⟨notStruct, notEnumeration⟩)]
  · next missing =>
    refine callback_names (Option.eq_none_iff_forall_not_mem.mpr fun id hid => ?_) h
    obtain ⟨hchildren, hnone, tag, htag⟩ := ownTag?_eq_some hid
    have hdefined : context.definedTag type attributes = some tag :=
      definedTag_eq_some_iff.mpr ⟨id, hchildren, hnone, htag⟩
    rw [missing] at hdefined
    cases hdefined

theorem PassContext.typeName_adds {context : PassContext} {declared next : Declared}
    {previous : Option Mark} {declaration : Declaration} {type : CType} {attributes : Nat}
    (body : declaration.body = .typeName type attributes)
    (h : context.typeName declared declaration.name type attributes = .ok next) :
    context.Adds declared previous declaration next := by
  cases typeName_names h with
  | @struct id tag fields own found kind record made =>
    obtain ⟨hchildren, hnone, -⟩ := ownTag?_eq_some own
    exact .type (.struct body (definedTag_eq_some_iff.mpr ⟨id, hchildren, hnone, found⟩) kind
      record made)
  | @enumeration id tag values own found kind unnamed made =>
    obtain ⟨hchildren, hnone, -⟩ := ownTag?_eq_some own
    exact .type (.enumeration body (definedTag_eq_some_iff.mpr ⟨id, hchildren, hnone, found⟩) kind
      unnamed made)
  | callback own pointer made => exact .type (.callback body pointer made)
  | nothing => exact .nothing

theorem PassContext.function_adds {context : PassContext} {declared next : Declared}
    {previous : Option Mark} {declaration : Declaration} {type : CType}
    (body : declaration.body = .function type false)
    (h : context.function declared declaration.name
      (context.source.harvest previous declaration.start) type = .ok next) :
    context.Adds declared previous declaration next := by
  unfold PassContext.function at h
  split at h
  · next result parameters style shown =>
    obtain ⟨signature, made, h⟩ := bind_eq_ok_iff.mp h
    cases h
    exact .function (.mk body shown made)
  · cases h
  · cases h

theorem PassContext.bind_adds {context : PassContext} {declared next : Declared}
    {previous : Option Mark} {declaration : Declaration}
    (h : context.bind declared previous declaration = .ok next) :
    context.Adds declared previous declaration next := by
  unfold PassContext.bind at h
  split at h
  · next id constants body =>
    split at h
    · next tag found =>
      split at h
      · next named =>
        obtain ⟨artifact, made, h⟩ := bind_eq_ok_iff.mp h
        obtain ⟨values, rfl, each⟩ := enumerationOf_eq_ok made
        cases h
        exact .type (.tag body found named.1 (by simpa using named.2) each)
      · cases h
        exact .nothing
    · cases h
      exact .nothing
  · cases h
    exact .nothing
  · next type body => exact function_adds body h
  · next type attributes body => exact typeName_adds body h
  · cases h
    exact .nothing

theorem PassContext.visit_of_blacklisted {context : PassContext} {declaration : Declaration}
    (h : context.isBlacklisted declaration = true) (state : PassState) :
    context.visit state declaration =
      ({ state with previousEnd := some declaration.stop }, none) := by
  rw [visit, if_pos h]

theorem PassContext.visit_of_bound {context : PassContext} {state : PassState}
    {declaration : Declaration} {next : Declared}
    (h : context.isBlacklisted declaration = false)
    (hbind : context.bind state.declared state.previousEnd declaration = .ok next) :
    context.visit state declaration =
      (⟨next, some declaration.stop,
        state.warnings ++ declaration.warning?.toList.map (declaration.place, ·)⟩, none) := by
  rw [visit, h, hbind]
  rfl

/-- A visit that finishes has bound its declaration, unless that is on the blacklist. -/
theorem PassContext.bound_of_visit {context : PassContext} {state : PassState}
    {declaration : Declaration} (h : context.isBlacklisted declaration = false)
    (hnone : (context.visit state declaration).2 = none) :
    ∃ next, context.bind state.declared state.previousEnd declaration = .ok next := by
  cases hbind : context.bind state.declared state.previousEnd declaration with
  | ok next => exact ⟨next, rfl⟩
  | error error =>
    rw [visit, h, hbind] at hnone
    cases hnone

theorem PassContext.visit_previousEnd (context : PassContext) (state : PassState)
    (declaration : Declaration) :
    (context.visit state declaration).1.previousEnd = some declaration.stop := by
  unfold PassContext.visit
  dsimp only
  split
  · rfl
  · split <;> rfl

theorem PassContext.visit_adds (context : PassContext) (state : PassState)
    (declaration : Declaration) :
    context.Adds state.declared state.previousEnd declaration
      (context.visit state declaration).1.declared := by
  unfold PassContext.visit
  dsimp only
  split
  · exact .nothing
  · split
    · next next bound => exact bind_adds bound
    · exact .nothing

/-- What a step keeps, a run keeps. -/
theorem PassContext.run_keeps {context : PassContext} {Kept : Declared → Prop}
    (step : ∀ declared previous declaration next, Kept declared →
      context.Adds declared previous declaration next → Kept next)
    (state : PassState) (declarations : List Declaration) (start : Kept state.declared) :
    Kept (context.run state declarations).final.declared := by
  induction declarations generalizing state with
  | nil => exact start
  | cons declaration rest ih =>
    have visited := step _ _ _ _ start (context.visit_adds state declaration)
    unfold PassContext.run
    split
    · split
      · next next found =>
        rw [found] at visited
        exact ih next visited
      · next next error found =>
        rw [found] at visited
        exact visited
    · exact ih state start

/-! The visits of a run. -/

/-- A declaration in scope, with the state in which the pass comes to it. -/
structure Visit where
  before : PassState
  declaration : Declaration

/-- The visits of a pass in order; a visit that fails is the last one. -/
def PassContext.visits (context : PassContext) (state : PassState) : List Declaration → List Visit
  | [] => []
  | declaration :: rest =>
    if context.isInScope declaration then
      ⟨state, declaration⟩ :: match context.visit state declaration with
        | (next, none) => context.visits next rest
        | (_, some _) => []
    else context.visits state rest

/-- The artifacts that a visit adds. -/
def PassContext.added (context : PassContext) (visit : Visit) : List Artifact :=
  (context.visit visit.before visit.declaration).1.declared.artifacts.drop
    visit.before.declared.artifacts.length

/-- An artifact that a declaration makes, for types to refer to or not. -/
def PassContext.Makes (context : PassContext) (symbols : SymbolTable) (previous : Option Mark)
    (declaration : Declaration) (artifact : Artifact) : Prop :=
  (∃ aliases, context.MakesType symbols declaration artifact aliases) ∨
    context.MakesFunction symbols previous declaration artifact

theorem PassContext.Adds.artifacts {context : PassContext} {declared next : Declared}
    {previous : Option Mark} {declaration : Declaration}
    (h : context.Adds declared previous declaration next) :
    ∃ made : Option Artifact, next.artifacts = declared.artifacts ++ made.toList ∧
      ∀ artifact ∈ made, context.Makes declared.symbols previous declaration artifact := by
  cases h with
  | nothing => exact ⟨none, (List.append_nil _).symm, by simp⟩
  | @type artifact aliases made =>
    refine ⟨some artifact, rfl, ?_⟩
    rintro _ ⟨⟩
    exact .inl ⟨aliases, made⟩
  | @function artifact made =>
    refine ⟨some artifact, rfl, ?_⟩
    rintro _ ⟨⟩
    exact .inr made

theorem PassContext.visit_artifacts (context : PassContext) (state : PassState)
    (declaration : Declaration) :
    (context.visit state declaration).1.declared.artifacts =
      state.declared.artifacts ++ context.added ⟨state, declaration⟩ := by
  obtain ⟨made, hm, _⟩ := (context.visit_adds state declaration).artifacts
  simp [added, hm]

/-- A visit adds at most one artifact, and the declaration makes it. -/
theorem PassContext.makes_of_mem_added {context : PassContext} {visit : Visit}
    {artifact : Artifact} (h : artifact ∈ context.added visit) :
    context.added visit = [artifact] ∧
      context.Makes visit.before.declared.symbols visit.before.previousEnd visit.declaration
        artifact := by
  obtain ⟨made, hm, hmakes⟩ := (context.visit_adds visit.before visit.declaration).artifacts
  have ha : context.added visit = made.toList := by simp [added, hm]
  rw [ha, Option.mem_toList] at h
  exact ⟨by rw [ha, h]; rfl, hmakes artifact h⟩

/-- The artifacts of a run are those that its visits add, in order. -/
theorem PassContext.run_artifacts (context : PassContext) (state : PassState)
    (declarations : List Declaration) :
    (context.run state declarations).final.declared.artifacts =
      state.declared.artifacts ++ (context.visits state declarations).flatMap context.added := by
  induction declarations generalizing state with
  | nil => simp [run, visits]
  | cons declaration rest ih =>
    have visited := context.visit_artifacts state declaration
    unfold PassContext.run PassContext.visits
    split
    · cases found : context.visit state declaration with
      | mk next error =>
        simp only [found] at visited
        cases error with
        | none => simp [ih next, visited]
        | some error => simp [visited]
    · exact ih state

/-- Behind its first visit, a pass goes on from the state that the visit leaves. -/
theorem PassContext.visits_eq_cons {context : PassContext} {state : PassState}
    {declarations : List Declaration} {visit : Visit} {rest : List Visit}
    (h : context.visits state declarations = visit :: rest) :
    visit.before = state ∧ ∃ later,
      rest = context.visits (context.visit visit.before visit.declaration).1 later := by
  induction declarations with
  | nil => cases h
  | cons declaration declarations ih =>
    unfold PassContext.visits at h
    split at h
    · obtain ⟨rfl, hrest⟩ := List.cons.inj h
      refine ⟨rfl, ?_⟩
      cases found : context.visit state declaration with
      | mk next error =>
        rw [found] at hrest
        cases error with
        | none => exact ⟨declarations, hrest.symm⟩
        | some error => exact ⟨[], hrest.symm⟩
    · exact ih h

theorem PassContext.before_of_head_visits {context : PassContext} {state : PassState}
    {declarations : List Declaration} {visit : Visit}
    (h : visit ∈ (context.visits state declarations).head?) : visit.before = state := by
  cases hvisits : context.visits state declarations with
  | nil => simp [hvisits] at h
  | cons first rest =>
    rw [hvisits] at h
    cases h
    exact (visits_eq_cons hvisits).1

/-- A visit finds the end of the declaration that was visited before it. -/
theorem PassContext.visits_isChain (context : PassContext) (state : PassState)
    (declarations : List Declaration) :
    (context.visits state declarations).IsChain fun earlier later =>
      later.before.previousEnd = some earlier.declaration.stop := by
  induction declarations generalizing state with
  | nil => exact List.isChain_nil
  | cons declaration rest ih =>
    unfold PassContext.visits
    split
    · cases found : context.visit state declaration with
      | mk next error =>
        cases error with
        | none =>
          refine List.isChain_cons.mpr ⟨?_, ih next⟩
          intro visit hvisit
          rw [before_of_head_visits hvisit, ← context.visit_previousEnd state declaration, found]
        | some error => exact List.isChain_singleton _
    · exact ih state

theorem PassContext.visits_cons {context : PassContext} {state : PassState}
    {declaration : Declaration} (rest : List Declaration)
    (hscope : context.isInScope declaration = true)
    (hbound : (context.visit state declaration).2 = none) :
    context.visits state (declaration :: rest) =
      ⟨state, declaration⟩ :: context.visits (context.visit state declaration).1 rest := by
  rw [visits, if_pos hscope]
  cases found : context.visit state declaration with
  | mk next error =>
    rw [found] at hbound
    dsimp only at hbound
    rw [hbound]

theorem PassContext.mem_of_mem_visits {context : PassContext} {state : PassState}
    {declarations : List Declaration} {visit : Visit}
    (h : visit ∈ context.visits state declarations) :
    visit.declaration ∈ declarations ∧ context.isInScope visit.declaration = true := by
  induction declarations generalizing state with
  | nil => cases h
  | cons declaration rest ih =>
    have hrest : ∀ {next : PassState}, visit ∈ context.visits next rest →
        visit.declaration ∈ declaration :: rest ∧ context.isInScope visit.declaration = true :=
      fun h => ⟨List.mem_cons_of_mem _ (ih h).1, (ih h).2⟩
    unfold visits at h
    split at h
    · next hscope =>
      rcases List.mem_cons.mp h with rfl | h
      · exact ⟨List.mem_cons_self, hscope⟩
      · split at h
        · exact hrest h
        · cases h
    · exact hrest h

/-- What a visit finds in front of it is the end of the visit before, if there is one. -/
theorem PassContext.previousEnd_of_visits {context : PassContext} {declarations : List Declaration}
    {before after : List Visit} {visit : Visit}
    (h : context.visits .start declarations = before ++ visit :: after) :
    visit.before.previousEnd = before.getLast?.map (·.declaration.stop) := by
  rcases List.eq_nil_or_concat before with rfl | ⟨front, last, rfl⟩
  · have hhead : visit ∈ (context.visits .start declarations).head? := by rw [h]; rfl
    rw [before_of_head_visits hhead]
    rfl
  · have hchain := context.visits_isChain .start declarations
    rw [h, List.concat_eq_append, List.append_assoc] at hchain
    rw [List.concat_eq_append, List.getLast?_append]
    exact (List.isChain_append_cons_cons.mp hchain).2.1

end HeaderBindings
