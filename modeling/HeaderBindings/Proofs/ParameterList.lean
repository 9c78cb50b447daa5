import HeaderBindings.Proofs.Visit
import HeaderBindings.Proofs.CanonicalType

/-! The parameters of callbacks and functions. They are read off what is written in a declaration,
while the function type itself may stand behind a name, and its result may have parameters too. -/

namespace HeaderBindings

/-- The parameters written in a type are those written inside of it, if anything is. -/
theorem parametersAmong_children (type : CType) :
    parametersAmong type.children =
      if type.isWrittenOut then parametersAmong type.inside.children else [] := by
  cases h : type.isWrittenOut with
  | true => rw [CType.children_of_isWrittenOut h, if_pos rfl]
  | false => rcases CType.children_of_not_isWrittenOut h with h | h <;> rw [h] <;> rfl

theorem parametersAmong_function (result : CType) (parameters : List CParameter)
    (style : ParameterStyle) :
    parametersAmong (CType.function result parameters style).children =
      parametersAmong result.children ++ parameters := by
  have hown : parametersAmong (parameters.map .parameter) = parameters := by
    induction parameters with
    | nil => rfl
    | cons parameter rest ih => exact congrArg (parameter :: ·) ih
  have hsplit : parametersAmong (result.children ++ parameters.map .parameter) =
      parametersAmong result.children ++ parametersAmong (parameters.map .parameter) :=
    List.filterMap_append
  rw [CType.children, hsplit, hown]

/-! Declarations. -/

/-- The function type that a declaration is about: its own, or what its type name points to. -/
def DeclarationBody.functionType? : DeclarationBody → Option CType
  | .function type _ => some type
  | .typeName type _ =>
    match type.inside with
    | .pointer target => some target
    | _ => none
  | _ => none

/-- Whether the function type that a declaration is about is written in the declaration. -/
def DeclarationBody.isWrittenOut : DeclarationBody → Bool
  | .typeName type attributes =>
    type.isWrittenOut &&
      ((DeclarationBody.typeName type attributes).functionType?.any CType.isWrittenOut)
  | .function type _ => type.isWrittenOut
  | _ => false

def Artifact.signature? : Artifact → Option Signature
  | .callback _ signature => some signature
  | .function _ signature _ _ => some signature
  | _ => none

/-- The parameters of a signature are those of a function type, in order. -/
def Signature.HasParameters (context : PassContext) (symbols : SymbolTable)
    (signature : Signature) (parameters : List CParameter) : Prop :=
  List.Forall₂ (fun parameter made => context.parameter symbols parameter = .ok made)
    parameters signature.parameters

theorem parametersAmong_pointer {type target : CType} (h : type.inside = .pointer target) :
    parametersAmong type.children =
      if type.isWrittenOut && target.isWrittenOut then parametersAmong target.inside.children
      else [] := by
  rw [parametersAmong_children, h, CType.children, parametersAmong_children]
  cases type.isWrittenOut <;> rfl

/-- What the parameters of an artifact are made of. -/
theorem PassContext.Makes.parameters {context : PassContext} {symbols : SymbolTable}
    {previous : Option Mark} {declaration : Declaration} {artifact : Artifact}
    {signature : Signature} (h : context.Makes symbols previous declaration artifact)
    (hs : signature ∈ artifact.signature?) :
    ∃ type result parameters style, declaration.body.functionType? = some type ∧
      type.inside = .function result parameters style ∧
      signature.HasParameters context symbols
        (if declaration.body.isWrittenOut then parametersAmong result.children ++ parameters
          else []) := by
  rcases h with ⟨aliases, h⟩ | h
  · cases h with
    | tag => cases hs
    | enumeration => cases hs
    | struct => cases hs
    | @callback type result attributes signature body pointer made =>
      cases hs
      obtain ⟨target, own, parameters, style, htype, htarget⟩ :=
        CType.inside_of_callbackResult? pointer
      have hfunction : declaration.body.functionType? = some target := by
        rw [body, DeclarationBody.functionType?, htype]
      have hwritten : declaration.body.isWrittenOut =
          (type.isWrittenOut && target.isWrittenOut) := by
        rw [body, DeclarationBody.isWrittenOut, ← body, hfunction, Option.any_some]
      refine ⟨target, own, parameters, style, hfunction, htarget, ?_⟩
      rw [hwritten, ← parametersAmong_function own parameters style, ← htarget,
        ← parametersAmong_pointer htype]
      exact (signature_eq_ok made).2
  · cases h with
    | @mk type result parameters style signature body shown made =>
      cases hs
      have hinside : type.inside = .function result parameters style := by
        rw [← type.inside_shown, shown, CType.inside.eq_2 _ (by simp)]
      refine ⟨type, result, parameters, style, by rw [body]; rfl, hinside, ?_⟩
      rw [body, DeclarationBody.isWrittenOut, ← parametersAmong_function result parameters style,
        ← hinside, ← parametersAmong_children]
      exact (signature_eq_ok made).2

/-- Which artifacts have the parameters of their function type: those of a type that is written in
the declaration with a result that has no parameters written in it, and those of a type behind a
name or a value that has no parameters at all. -/
theorem run_parameters_iff (context : PassContext) (declarations : List Declaration) :
    (context.run .start declarations).final.declared.artifacts =
        (context.visits .start declarations).flatMap context.added ∧
      ∀ visit ∈ context.visits .start declarations, ∀ artifact ∈ context.added visit,
        ∀ signature ∈ artifact.signature?, ∃ type result parameters style,
          visit.declaration.body.functionType? = some type ∧
          type.inside = .function result parameters style ∧
          (signature.HasParameters context visit.before.declared.symbols parameters ↔
            signature.parameters.length = parameters.length) ∧
          (signature.parameters.length = parameters.length ↔
            if visit.declaration.body.isWrittenOut then parametersAmong result.children = []
            else parameters = []) := by
  refine ⟨context.run_artifacts .start declarations, ?_⟩
  intro visit _ artifact hadded signature hs
  obtain ⟨-, hmakes⟩ := PassContext.makes_of_mem_added hadded
  obtain ⟨type, result, parameters, style, hfunction, htype, hparameters⟩ := hmakes.parameters hs
  have hlength := hparameters.length_eq
  have hiff : signature.parameters.length = parameters.length ↔
      if visit.declaration.body.isWrittenOut then parametersAmong result.children = []
      else parameters = [] := by
    cases hw : visit.declaration.body.isWrittenOut with
    | true =>
      rw [hw, if_pos rfl, List.length_append] at hlength
      rw [if_pos rfl, ← List.length_eq_zero_iff]
      omega
    | false =>
      simp only [hw, Bool.false_eq_true, if_false, List.length_nil] at hlength ⊢
      rw [← List.length_eq_zero_iff]
      omega
  refine ⟨type, result, parameters, style, hfunction, htype, ⟨fun h => h.length_eq.symm, ?_⟩, hiff⟩
  intro h
  have hsame := hiff.mp h
  cases hw : visit.declaration.body.isWrittenOut with
  | true =>
    rw [hw, if_pos rfl] at hsame hparameters
    rwa [hsame, List.nil_append] at hparameters
  | false =>
    simp only [hw, Bool.false_eq_true, if_false] at hsame hparameters
    rwa [hsame]

/-- A header that gives a pointer to a function of two parameters a second name. -/
def comparatorContext : PassContext where
  source := ⟨.default, [], [⟨"./compare.h", ""⟩], []⟩
  target := ⟨.x86_64, .linux, true, false, false, none⟩
  tags := []
  files := ["compare.h"]
  blacklist := []
  prefixes := []
  oddPrefix := none

def comparatorAlias : Declaration :=
  let mark : Mark := ⟨⟨0, 0⟩, some ⟨0, 0⟩⟩
  let comparator : CType := .pointer (.spelled .paren
    (.function (.basic .int) [⟨"a", .basic .int⟩, ⟨"b", .basic .char⟩] .fixed))
  ⟨"order", ⟨0, 0⟩, mark, mark, .typeName (.spelled (.alias "comparator") comparator) 0⟩

theorem comparatorAlias_parameters_lost :
    ¬ ∀ visit ∈ comparatorContext.visits .start [comparatorAlias],
        ∀ artifact ∈ comparatorContext.added visit, ∀ signature ∈ artifact.signature?,
          ∀ type result parameters style,
            visit.declaration.body.functionType? = some type →
            type.inside = .function result parameters style →
            signature.parameters.length = parameters.length := by
  intro h
  have hvisit : (⟨.start, comparatorAlias⟩ : Visit) ∈
      comparatorContext.visits .start [comparatorAlias] := by
    rw [PassContext.visits, if_pos (by decide)]
    exact List.mem_cons_self
  have hcount : ((comparatorContext.added ⟨.start, comparatorAlias⟩).filterMap
      Artifact.signature?).map (·.parameters.length) = [0] := by decide +kernel
  have hmem : 0 ∈ ((comparatorContext.added ⟨.start, comparatorAlias⟩).filterMap
      Artifact.signature?).map (·.parameters.length) := by rw [hcount]; exact List.mem_singleton_self 0
  obtain ⟨signature, hsignature, hnone⟩ := List.mem_map.mp hmem
  obtain ⟨artifact, hadded, hs⟩ := List.mem_filterMap.mp hsignature
  have hlength := h _ hvisit artifact hadded signature hs _ _ _ _ rfl rfl
  rw [hnone] at hlength
  exact absurd hlength (by decide)

end HeaderBindings
