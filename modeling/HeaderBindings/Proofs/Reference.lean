import HeaderBindings.Proofs.Visit

/-! References of artifacts to each other. A type refers to an artifact only if a symbol stands for
it, and every symbol stands for an artifact that came before. -/

namespace HeaderBindings

/-- The artifact that a type refers to, whatever arrays are around it. -/
def ForeignType.artifact? : ForeignType → Option Artifact
  | .array element _ => element.artifact?
  | .reference artifact => some artifact
  | _ => none

/-- The types of an artifact's fields, or of its parameters and its result. -/
def Artifact.types : Artifact → List ForeignType
  | .enumeration _ _ => []
  | .struct _ fields => fields.map Field.type
  | .callback _ signature => signature.parameters.map Parameter.type ++ [signature.result]
  | .function _ signature _ _ => signature.parameters.map Parameter.type ++ [signature.result]

/-- Whether types can refer to an artifact. -/
def Artifact.isType : Artifact → Bool
  | .function _ _ _ _ => false
  | _ => true

/-- Every artifact refers only to enums, structs and callbacks in front of it. -/
def DefinedBeforeUse (artifacts : List Artifact) : Prop :=
  ∀ i (hi : i < artifacts.length), ∀ type ∈ artifacts[i].types, ∀ target ∈ type.artifact?,
    target.isType = true ∧ ∃ j, ∃ hj : j < i, artifacts[j] = target

theorem DefinedBeforeUse.append {artifacts : List Artifact} {artifact : Artifact}
    (h : DefinedBeforeUse artifacts)
    (hnew : ∀ type ∈ artifact.types, ∀ target ∈ type.artifact?,
      target.isType = true ∧ target ∈ artifacts) :
    DefinedBeforeUse (artifacts ++ [artifact]) := by
  intro i hi type htype target htarget
  by_cases hold : i < artifacts.length
  · rw [List.getElem_append_left hold] at htype
    obtain ⟨hkind, j, hj, he⟩ := h i hold type htype target htarget
    exact ⟨hkind, j, hj, by rw [List.getElem_append_left (hj.trans hold), he]⟩
  · have hlast : i = artifacts.length := by
      rw [List.length_append, List.length_singleton] at hi
      omega
    subst hlast
    rw [List.getElem_concat_length rfl] at htype
    obtain ⟨hkind, hmem⟩ := hnew type htype target htarget
    obtain ⟨j, hj, he⟩ := List.mem_iff_getElem.mp hmem
    exact ⟨hkind, j, hj, by rw [List.getElem_append_left hj, he]⟩

/-! Symbols. -/

theorem mem_of_lookup_eq_some {symbols : SymbolTable} {name : String} {artifact : Artifact}
    (h : symbols.lookup name = some artifact) : (name, artifact) ∈ symbols := by
  induction symbols with
  | nil => simp at h
  | cons entry rest ih =>
    obtain ⟨key, value⟩ := entry
    rw [List.lookup_cons] at h
    by_cases hkey : name = key
    · simp_all
    · rw [beq_eq_false_iff_ne.mpr hkey] at h
      exact List.mem_cons_of_mem _ (ih h)

theorem SymbolTable.mem_of_mem_bind {symbols : SymbolTable} {name : String} {artifact : Artifact}
    {entry : String × Artifact} (h : entry ∈ symbols.bind name artifact) :
    entry ∈ symbols ∨ entry.2 = artifact := by
  unfold SymbolTable.bind at h
  split at h
  · exact .inl h
  · rcases List.mem_append.mp h with h | h
    · exact .inl h
    · exact .inr (by rw [List.mem_singleton.mp h])

theorem Declared.mem_symbols_of_declare {declared : Declared} {artifact : Artifact}
    {aliases : List String} {entry : String × Artifact}
    (h : entry ∈ (declared.declare artifact aliases).symbols) :
    entry ∈ declared.symbols ∨ entry.2 = artifact := by
  unfold Declared.declare at h
  generalize artifact.name :: aliases = names at h
  generalize declared.symbols = symbols at h ⊢
  induction names generalizing symbols with
  | nil => exact .inl h
  | cons name rest ih =>
    rcases ih (symbols.bind name artifact) h with h | h
    · exact SymbolTable.mem_of_mem_bind h
    · exact .inr h

/-! Resolved types. -/

theorem BasicType.artifact?_resolve {target : Target} {type : BasicType} {resolved : Resolved}
    (h : type.resolve target = .ok resolved) : resolved.type.artifact? = none := by
  cases type <;> simp only [BasicType.resolve] at h <;> try split at h
  all_goals cases h <;> rfl

theorem SymbolTable.mem_of_find? {symbols : SymbolTable} {name : String} {artifact : Artifact}
    (h : symbols.find? name = some artifact) : ∃ entry ∈ symbols, entry.2 = artifact := by
  unfold SymbolTable.find? at h
  split at h
  · cases h
  · exact ⟨(name, artifact), mem_of_lookup_eq_some h, rfl⟩

theorem artifact?_resolvePointer {tags : TagTable} {symbols : SymbolTable} {prefixes : List String}
    {name : String} {target : CType} {resolved : Resolved}
    (h : resolvePointer tags symbols prefixes name target = .ok resolved) :
    resolved.type.artifact? = none := by
  unfold resolvePointer at h
  split at h
  · cases h; rfl
  · cases h
  · dsimp only at h
    split at h
    · cases h; rfl
    · split at h
      · cases h; rfl
      · split at h <;> (cases h; rfl)

theorem mem_symbols_of_resolveTag {target : Target} {tags : TagTable} {symbols : SymbolTable}
    {prefixes : List String} {id : Nat} {resolved : Resolved} {artifact : Artifact}
    (h : resolveTag target tags symbols prefixes id = .ok resolved)
    (ha : artifact ∈ resolved.type.artifact?) : ∃ entry ∈ symbols, entry.2 = artifact := by
  unfold resolveTag at h
  split at h
  · cases h
  · split at h
    · next tag found known =>
      cases h
      cases ha
      exact SymbolTable.mem_of_find? known
    · split at h
      · rw [BasicType.artifact?_resolve h] at ha
        cases ha
      · cases h
      · cases h

/-- A resolved type refers only to what a symbol stands for. -/
theorem CType.mem_symbols_of_resolve {target : Target} {tags : TagTable} {symbols : SymbolTable}
    {prefixes : List String} {type : CType} {resolved : Resolved} {artifact : Artifact}
    (h : type.resolve target tags symbols prefixes = .ok resolved)
    (ha : artifact ∈ resolved.type.artifact?) : ∃ entry ∈ symbols, entry.2 = artifact := by
  fun_induction CType.resolve target tags symbols prefixes type generalizing resolved
  case case1 known =>
    cases h
    cases ha
    exact SymbolTable.mem_of_find? known
  case case2 =>
    rw [BasicType.artifact?_resolve h] at ha
    cases ha
  case case3 =>
    rw [artifact?_resolvePointer h] at ha
    cases ha
  case case5 ih =>
    obtain ⟨inner, hinner, h⟩ := bind_eq_ok_iff.mp h
    cases h
    exact ih hinner ha
  case case9 => exact mem_symbols_of_resolveTag h ha
  all_goals cases h

theorem PassContext.resolve_eq_ok {context : PassContext} {symbols : SymbolTable} {type : CType}
    {resolved : Resolved} (h : context.resolve symbols type = .ok resolved) :
    type.resolve context.target context.tags symbols context.prefixes = .ok resolved ∧
      (context.oddPrefix = none ∨ resolved.named = false) := by
  unfold PassContext.resolve at h
  split at h
  · next found hodd =>
    split at h
    · cases h
    · next hnamed =>
      cases h
      exact ⟨found, .inr (by simpa using hnamed)⟩
  · next found hodd =>
    cases h
    exact ⟨found, .inl hodd⟩
  · cases h
  · cases h

theorem PassContext.mem_symbols_of_resolve {context : PassContext} {symbols : SymbolTable}
    {type : CType} {resolved : Resolved} {artifact : Artifact}
    (h : context.resolve symbols type = .ok resolved)
    (ha : artifact ∈ resolved.type.artifact?) : ∃ entry ∈ symbols, entry.2 = artifact :=
  CType.mem_symbols_of_resolve (resolve_eq_ok h).1 ha

theorem PassContext.mem_symbols_of_signature {context : PassContext} {symbols : SymbolTable}
    {result : CType} {parameters : List CParameter} {signature : Signature} {type : ForeignType}
    {artifact : Artifact} (h : context.signature symbols result parameters = .ok signature)
    (ht : type ∈ signature.parameters.map Parameter.type ++ [signature.result])
    (ha : artifact ∈ type.artifact?) : ∃ entry ∈ symbols, entry.2 = artifact := by
  obtain ⟨⟨resolved, hresolved, hresult, -⟩, hparameters⟩ := signature_eq_ok h
  rcases List.mem_append.mp ht with ht | ht
  · obtain ⟨made, hmade, rfl⟩ := List.mem_map.mp ht
    obtain ⟨parameter, -, hparameter⟩ := exists_mem_of_forall₂ hparameters hmade
    obtain ⟨resolved, hresolved, rfl⟩ := parameter_eq_ok_iff.mp hparameter
    exact mem_symbols_of_resolve hresolved ha
  · rw [List.mem_singleton.mp ht, hresult] at ha
    exact mem_symbols_of_resolve hresolved ha

theorem PassContext.Makes.mem_symbols {context : PassContext} {symbols : SymbolTable}
    {previous : Option Mark} {declaration : Declaration} {artifact target : Artifact}
    {type : ForeignType} (h : context.Makes symbols previous declaration artifact)
    (ht : type ∈ artifact.types) (ha : target ∈ type.artifact?) :
    ∃ entry ∈ symbols, entry.2 = target := by
  rcases h with ⟨aliases, h⟩ | h
  · cases h with
    | tag => cases ht
    | enumeration => cases ht
    | struct _ _ _ _ made =>
      obtain ⟨field, hfield, rfl⟩ := List.mem_map.mp ht
      obtain ⟨_, -, resolved, hresolved, rfl⟩ := exists_mem_of_forall₂ made hfield
      exact mem_symbols_of_resolve hresolved ha
    | callback _ _ made => exact mem_symbols_of_signature made ht ha
  · cases h with
    | mk _ _ made => exact mem_symbols_of_signature made ht ha

/-! The invariant of a pass. -/

/-- Symbols stand for artifacts that types can refer to, and references lead back. -/
structure Declared.Grounded (declared : Declared) : Prop where
  symbols : ∀ entry ∈ declared.symbols, entry.2.isType = true ∧ entry.2 ∈ declared.artifacts
  artifacts : DefinedBeforeUse declared.artifacts

theorem Declared.grounded_empty : Declared.empty.Grounded where
  symbols := by simp [Declared.empty]
  artifacts := by simp [Declared.empty, DefinedBeforeUse]

theorem PassContext.MakesType.isType {context : PassContext} {symbols : SymbolTable}
    {declaration : Declaration} {artifact : Artifact} {aliases : List String}
    (h : context.MakesType symbols declaration artifact aliases) : artifact.isType = true := by
  cases h <;> rfl

theorem Declared.Grounded.append {declared : Declared} {artifact : Artifact}
    (h : declared.Grounded)
    (hmade : ∀ type ∈ artifact.types, ∀ target ∈ type.artifact?,
      ∃ entry ∈ declared.symbols, entry.2 = target) :
    DefinedBeforeUse (declared.artifacts ++ [artifact]) := by
  refine h.artifacts.append fun type ht target ha => ?_
  obtain ⟨entry, hentry, rfl⟩ := hmade type ht target ha
  exact h.symbols entry hentry

theorem Declared.Grounded.adds {context : PassContext} {declared next : Declared}
    {previous : Option Mark} {declaration : Declaration} (h : declared.Grounded)
    (hadds : context.Adds declared previous declaration next) : next.Grounded := by
  cases hadds with
  | nothing => exact h
  | @type artifact aliases made =>
    have hmakes : context.Makes declared.symbols previous declaration artifact :=
      .inl ⟨aliases, made⟩
    refine ⟨fun entry hentry => ?_, h.append fun type ht target ha => hmakes.mem_symbols ht ha⟩
    rcases mem_symbols_of_declare hentry with hentry | rfl
    · exact ⟨(h.symbols entry hentry).1, List.mem_append_left _ (h.symbols entry hentry).2⟩
    · exact ⟨made.isType, List.mem_append_right _ (List.mem_singleton_self _)⟩
  | @function artifact made =>
    refine ⟨fun entry hentry => ?_, h.append fun type ht target ha =>
      PassContext.Makes.mem_symbols (.inr made) ht ha⟩
    exact ⟨(h.symbols entry hentry).1, List.mem_append_left _ (h.symbols entry hentry).2⟩

theorem PassContext.run_grounded (context : PassContext) (declarations : List Declaration) :
    (context.run .start declarations).final.declared.Grounded :=
  context.run_keeps (fun _ _ _ _ h hadds => h.adds hadds) .start declarations
    Declared.grounded_empty

end HeaderBindings
