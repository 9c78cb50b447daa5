import HeaderBindings.Proofs.Escape
import HeaderBindings.Proofs.ModuleBlock
import HeaderBindings.Proofs.SugaredType
import HeaderBindings.Proofs.TypeText

/-! Labels of types. A label is a line if the names are that a type is written with and that it leads
to, and it has a word in it unless an artifact has lost its name. -/

namespace HeaderBindings

variable {target : Target} {tags : TagTable} {symbols : SymbolTable} {prefixes : List String}
  {context : PassContext} {declarations : List Declaration}

/-! The names in a type. -/

/-- The type names in a type, but for those in the signature of a function. -/
def CType.typeNames : CType → List String
  | .spelled (.alias name) meaning => name :: meaning.typeNames
  | .spelled _ meaning => meaning.typeNames
  | .pointer target => target.typeNames
  | .array element _ => element.typeNames
  | _ => []

theorem CType.typeNames_subset (spelling : Spelling) (meaning : CType) :
    meaning.typeNames ⊆ (spelled spelling meaning).typeNames := by
  cases spelling with
  | «alias» name => exact List.subset_cons_self name meaning.typeNames
  | _ => exact List.Subset.refl _

theorem CType.typeNames_canonical : (type : CType) → type.canonical.typeNames = []
  | .pointer target => by rw [canonical, typeNames, typeNames_canonical target]
  | .array element _ => by rw [canonical, typeNames, typeNames_canonical element]
  | .spelled _ meaning => by rw [canonical, typeNames_canonical meaning]
  | .basic _ | .block _ | .function _ _ _ | .tag _ _ => by simp [canonical, typeNames]
  | .complex _ | .atomic _ | .vector _ _ _ => by simp [canonical, typeNames]

theorem CType.typeNames_shown (type : CType) : type.shown.typeNames ⊆ type.typeNames :=
  subset_shown typeNames_subset type

theorem CType.typeNames_of_peel {type inner : CType} (h : type.shown.peel = inner) :
    inner.typeNames ⊆ type.typeNames := by
  rw [← h]
  exact List.Subset.trans (subset_peel typeNames_subset typeNames_canonical _) type.typeNames_shown

/-- Names of types and tags that are lines. -/
structure CType.HasLines (tags : TagTable) (type : CType) : Prop where
  names : ∀ name ∈ type.typeNames, OneLine name
  tags : ∀ tag ∈ tags, OneLine tag.spelling

theorem CType.HasLines.mono {type other : CType} (h : type.HasLines tags)
    (hnames : other.typeNames ⊆ type.typeNames) : other.HasLines tags where
  names := fun name hname => h.names name (hnames hname)
  tags := h.tags

theorem CType.HasLines.declaredName {type : CType} (h : type.HasLines tags) :
    OneLine (type.declaredName tags) := by
  unfold CType.declaredName
  split
  · exact h.names _ List.mem_cons_self
  · next id here =>
    cases htag : tags[id]? with
    | none => exact (by decide : OneLine "")
    | some tag => exact h.tags tag (List.mem_of_getElem? htag)
  · exact (by decide : OneLine "")

theorem CType.HasLines.targetName {type : CType} (h : type.HasLines tags) :
    OneLine (type.targetName tags) := by
  have hshown := h.mono type.typeNames_shown
  unfold CType.targetName
  split
  · next id here htag =>
    rw [htag] at hshown
    split
    · exact (by decide : OneLine "")
    · exact hshown.declaredName
  · exact hshown.declaredName

/-! Labels. -/

theorem Artifact.oneLine_label {artifact : Artifact} (h : OneLine artifact.name) :
    OneLine (artifact.label prefixes) := by
  cases artifact with
  | callback => exact (by decide : OneLine "Callback")
  | _ => exact oneLine_typeIdentifier prefixes h

theorem BasicType.oneLine_label {basic : BasicType} {resolved : Resolved}
    (h : basic.resolve target = .ok resolved) : OneLine resolved.label := by
  cases basic <;> simp only [BasicType.resolve] at h <;> try split at h
  all_goals
    cases h <;>
    dsimp only <;>
    decide

section

variable (hsymbols : ∀ name artifact, symbols.lookup name = some artifact → OneLine artifact.name)

include hsymbols

theorem oneLine_of_find? {name : String} {artifact : Artifact}
    (h : symbols.find? name = some artifact) : OneLine artifact.name := by
  unfold SymbolTable.find? at h
  split at h
  · cases h
  · exact hsymbols name artifact h

theorem oneLine_label_of_pointer {name : String} {pointee : CType} {resolved : Resolved}
    (h : resolvePointer tags symbols prefixes name pointee = .ok resolved)
    (hname : OneLine name) (hpointee : pointee.HasLines tags) : OneLine resolved.label := by
  unfold resolvePointer at h
  split at h
  · cases h
    exact (by decide : OneLine "String")
  · cases h
  · dsimp only at h
    split at h
    · next hfound =>
      cases h
      exact oneLine_append.mpr
        ⟨by decide, Artifact.oneLine_label (oneLine_of_find? hsymbols hfound)⟩
    · split at h
      · cases h
        exact oneLine_append.mpr ⟨by decide, hpointee.targetName⟩
      · split at h
        · cases h
          exact oneLine_append.mpr ⟨by decide, oneLine_typeIdentifier prefixes hname⟩
        · cases h
          exact (by decide : OneLine "FFI::Pointer")

theorem CType.oneLine_label {type : CType} {resolved : Resolved}
    (h : type.resolve target tags symbols prefixes = .ok resolved) (htype : type.HasLines tags) :
    OneLine resolved.label := by
  fun_induction CType.resolve target tags symbols prefixes type generalizing resolved
  case case1 found =>
    cases h
    exact Artifact.oneLine_label (oneLine_of_find? hsymbols found)
  case case2 => exact BasicType.oneLine_label h
  case case3 type _ _ pointee hpeel =>
    exact oneLine_label_of_pointer hsymbols h (htype.mono type.typeNames_shown).declaredName
      (htype.mono (@typeNames_of_peel type (.pointer pointee) hpeel))
  case case5 type _ _ element count hpeel ih =>
    obtain ⟨inner, hinner, h⟩ := bind_eq_ok_iff.mp h
    cases h
    have helement := ih hinner (htype.mono (@typeNames_of_peel type (.array element _) hpeel))
    exact oneLine_append.mpr ⟨oneLine_append.mpr ⟨by decide, helement⟩, by decide⟩
  case case9 =>
    unfold resolveTag at h
    split at h
    · cases h
    · split at h
      · next artifact hfound =>
        cases h
        exact Artifact.oneLine_label (oneLine_of_find? hsymbols hfound)
      · split at h
        · exact BasicType.oneLine_label h
        · cases h
        · cases h
  all_goals cases h

end

/-! The texts of signatures. -/

/-- What a visit finds in the table is in the binding at the end. -/
theorem PassContext.mem_run_of_lookup {visit : Visit}
    (hvisit : visit ∈ context.visits .start declarations) {name : String} {artifact : Artifact}
    (h : visit.before.declared.symbols.lookup name = some artifact) :
    artifact ∈ (context.run .start declarations).final.declared.artifacts := by
  obtain ⟨before, after, hvisits⟩ := List.mem_iff_append.mp hvisit
  rw [context.lookup_before hvisits] at h
  have hstart : PassState.start.declared.symbols.lookup name = none := rfl
  rw [hstart, Option.none_or, Option.bind_eq_some_iff] at h
  obtain ⟨earlier, hearlier, hadded⟩ := h
  have hmem : earlier ∈ context.visits .start declarations := by
    rw [hvisits]
    exact List.mem_append_left _ (List.mem_of_find?_eq_some hearlier)
  rw [run_artifacts]
  exact List.mem_append_right _
    (List.mem_flatMap.mpr ⟨earlier, hmem, List.mem_of_mem_head? hadded⟩)

theorem ForeignType.MadeFrom.oneLine_texts {artifacts : List Artifact} {type : ForeignType}
    (h : type.MadeFrom target artifacts)
    (hnames : ∀ artifact ∈ artifacts, OneLine artifact.name) :
    ∀ text ∈ type.texts, OneLine text := by
  induction h with
  | arithmetic resolves =>
    obtain ⟨name, hmem, hname, -⟩ := BasicType.builtin?_resolve resolves
    have hbuiltin : ∀ name ∈ builtinNames, OneLine name := by decide
    intro text htext
    generalize Resolved.type _ = type at hname htext
    cases type with
    | integer | floating =>
      cases hname
      rw [List.mem_singleton.mp htext]
      exact hbuiltin name hmem
    | void | pointer | string => cases htext
    | array | reference => cases hname
  | pointer | string => exact fun _ htext => by cases htext
  | reference known _ =>
    intro text htext
    rw [List.mem_singleton.mp htext]
    exact hnames _ known
  | array _ _ ih => exact ih

section

variable {artifacts : List Artifact} (hnames : ∀ artifact ∈ artifacts, OneLine artifact.name)
  (hsymbols : ∀ name artifact, symbols.lookup name = some artifact → OneLine artifact.name)

include hnames hsymbols

theorem PassContext.oneLine_texts_of_parameter {parameter : CParameter} {made : Parameter}
    (h : context.parameter symbols parameter = .ok made) (hname : OneLine parameter.name)
    (htype : parameter.type.HasLines context.tags) (hmade : made.type.MadeFrom target artifacts) :
    ∀ text ∈ made.texts, OneLine text := by
  obtain ⟨resolved, hresolved, rfl⟩ := parameter_eq_ok_iff.mp h
  have hlabel := CType.oneLine_label hsymbols (resolve_eq_ok hresolved).1 htype
  exact List.forall_mem_cons.mpr
    ⟨hname, List.forall_mem_cons.mpr ⟨hlabel, hmade.oneLine_texts hnames⟩⟩

/-- The signature of a function is made of texts that are lines, if the names in the types of its
declaration are. -/
theorem PassContext.Makes.oneLine_texts {previous : Option Mark} {declaration : Declaration}
    {artifact : Artifact} {signature : Signature}
    (h : context.Makes symbols previous declaration artifact)
    (hfunction : artifact.isType = false) (hs : signature ∈ artifact.signature?)
    (hmade : ∀ type ∈ artifact.types, type.MadeFrom target artifacts)
    (hparameters : ∀ parameter ∈ declaration.body.parameters, OneLine parameter.name)
    (htypes : ∀ type ∈ context.needs declaration, type.HasLines context.tags) :
    ∀ text ∈ signature.texts, OneLine text := by
  have hwritten := h.written hs
  rcases h with ⟨aliases, h⟩ | h
  · rw [h.isType] at hfunction
    cases hfunction
  · cases h with
    | @mk type result parameters style _ body shown made =>
      cases hs
      have hneeds : context.needs declaration =
          result :: declaration.body.parameters.map CParameter.type := by
        rw [context.needs_of_function body, shown, body]
        rfl
      rw [hneeds, List.forall_mem_cons, List.forall_mem_map] at htypes
      obtain ⟨⟨resolved, hresolved, -, hlabel⟩, -⟩ := signature_eq_ok made
      refine List.forall_mem_append.mpr ⟨fun text htext => ?_, List.forall_mem_cons.mpr ⟨?_, ?_⟩⟩
      · obtain ⟨parameter, hparameter, htext⟩ := List.mem_flatMap.mp htext
        obtain ⟨own, hown, hparameterMade⟩ := exists_mem_of_forall₂ hwritten hparameter
        exact oneLine_texts_of_parameter hnames hsymbols hparameterMade (hparameters own hown)
          (htypes.2 own hown)
          (hmade _ (List.mem_append_left _ (List.mem_map_of_mem hparameter))) text htext
      · rw [hlabel]
        exact CType.oneLine_label hsymbols (resolve_eq_ok hresolved).1 htypes.1
      · exact (hmade _ (List.mem_append_right _ (List.mem_singleton_self _))).oneLine_texts hnames

end

end HeaderBindings
