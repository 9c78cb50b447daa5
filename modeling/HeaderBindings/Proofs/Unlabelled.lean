import HeaderBindings.Binding.Pass
import HeaderBindings.Settings
import HeaderBindings.Proofs.Reference

/-! Artifacts without their labels. Prefixes only show in labels, so a type that is resolved with one
list of prefixes or with another is the same type, and nothing in a dump tells them apart. -/

namespace HeaderBindings

mutual

/-- A type with the labels taken out of all that it refers to. -/
def ForeignType.unlabelled : ForeignType → ForeignType
  | .integer name signed width => .integer name signed width
  | .floating name width => .floating name width
  | .void => .void
  | .pointer => .pointer
  | .string => .string
  | .array element length => .array element.unlabelled length
  | .reference artifact => .reference artifact.unlabelled

def Field.unlabelled : Field → Field
  | ⟨name, type⟩ => ⟨name, type.unlabelled⟩

def unlabelledFields : List Field → List Field
  | [] => []
  | field :: rest => field.unlabelled :: unlabelledFields rest

def Parameter.unlabelled : Parameter → Parameter
  | ⟨name, type, _⟩ => ⟨name, type.unlabelled, ""⟩

def unlabelledParameters : List Parameter → List Parameter
  | [] => []
  | parameter :: rest => parameter.unlabelled :: unlabelledParameters rest

def Signature.unlabelled : Signature → Signature
  | ⟨parameters, result, _⟩ => ⟨unlabelledParameters parameters, result.unlabelled, ""⟩

/-- An artifact without the labels of its parameters and of its result. -/
def Artifact.unlabelled : Artifact → Artifact
  | .enumeration name constants => .enumeration name constants
  | .struct name fields => .struct name (unlabelledFields fields)
  | .callback name signature => .callback name signature.unlabelled
  | .function name signature comment variadic =>
    .function name signature.unlabelled comment variadic

end

theorem unlabelledFields_eq_map (fields : List Field) :
    unlabelledFields fields = fields.map Field.unlabelled := by
  induction fields with
  | nil => simp [unlabelledFields]
  | cons field rest ih => simp [unlabelledFields, ih]

theorem unlabelledParameters_eq_map (parameters : List Parameter) :
    unlabelledParameters parameters = parameters.map Parameter.unlabelled := by
  induction parameters with
  | nil => simp [unlabelledParameters]
  | cons parameter rest ih => simp [unlabelledParameters, ih]

/-! What does not look at labels. -/

@[simp] theorem Artifact.name_unlabelled (artifact : Artifact) :
    artifact.unlabelled.name = artifact.name := by
  cases artifact <;> simp [unlabelled, name]

@[simp] theorem Artifact.kind_unlabelled (artifact : Artifact) :
    artifact.unlabelled.kind = artifact.kind := by
  cases artifact <;> simp [unlabelled, kind]

@[simp] theorem Artifact.isType_unlabelled (artifact : Artifact) :
    artifact.unlabelled.isType = artifact.isType := by
  cases artifact <;> simp [unlabelled, isType]

@[simp] theorem Artifact.hasNamedLabel_unlabelled (artifact : Artifact) :
    artifact.unlabelled.hasNamedLabel = artifact.hasNamedLabel := by
  cases artifact <;> simp [unlabelled, hasNamedLabel]

@[simp] theorem ForeignType.entry_unlabelled (type : ForeignType) :
    type.unlabelled.entry = type.entry := by
  fun_induction ForeignType.entry type with
  | case6 element length ih => simp [unlabelled, entry, ih]
  | _ => simp [unlabelled, entry]

@[simp] theorem Parameter.entry_unlabelled (parameter : Parameter) :
    parameter.unlabelled.entry = parameter.entry := by
  cases parameter
  rw [unlabelled]
  simp [entry]

@[simp] theorem Field.entry_unlabelled (field : Field) : field.unlabelled.entry = field.entry := by
  cases field
  simp [unlabelled, entry]

@[simp] theorem Parameter.name_unlabelled (parameter : Parameter) :
    parameter.unlabelled.name = parameter.name := by
  cases parameter
  simp [unlabelled]

@[simp] theorem Signature.parameters_unlabelled (signature : Signature) :
    signature.unlabelled.parameters = signature.parameters.map Parameter.unlabelled := by
  cases signature
  simp [unlabelled, unlabelledParameters_eq_map]

@[simp] theorem Signature.entries_unlabelled (name : String) (signature : Signature) :
    signature.unlabelled.entries name = signature.entries name := by
  cases signature
  simp [unlabelled, unlabelledParameters_eq_map, entries]

@[simp] theorem Artifact.entry_unlabelled (artifact : Artifact) :
    artifact.unlabelled.entry = artifact.entry := by
  cases artifact with
  | struct name fields => simp [unlabelled, unlabelledFields_eq_map, entry, Function.comp_def]
  | _ => simp [unlabelled, entry, Function.comp_def]

/-- A dump does not show the labels. -/
theorem dump_congr {artifacts others : List Artifact}
    (h : artifacts.map Artifact.unlabelled = others.map Artifact.unlabelled)
    (moduleName library : Yaml) :
    dump moduleName library artifacts = dump moduleName library others := by
  have hgroups : ∀ list : List Artifact, groups (list.map Artifact.unlabelled) = groups list := by
    intro list
    simp only [groups, List.foldl_map, Artifact.group, Artifact.kind_unlabelled,
      Artifact.entry_unlabelled]
  rw [dump, dump, ← hgroups artifacts, h, hgroups others]

/-! Symbols and resolved types. -/

def SymbolTable.unlabelled (symbols : SymbolTable) : SymbolTable :=
  symbols.map fun entry => (entry.1, entry.2.unlabelled)

theorem SymbolTable.lookup_unlabelled (symbols : SymbolTable) (name : String) :
    symbols.unlabelled.lookup name = (symbols.lookup name).map Artifact.unlabelled := by
  induction symbols with
  | nil => rfl
  | cons entry rest ih =>
    obtain ⟨key, artifact⟩ := entry
    unfold unlabelled at ih ⊢
    rw [List.map_cons, List.lookup_cons, List.lookup_cons, ih]
    cases name == key <;> rfl

theorem SymbolTable.keys_unlabelled (symbols : SymbolTable) :
    symbols.unlabelled.map Prod.fst = symbols.map Prod.fst := by
  rw [unlabelled, List.map_map]
  rfl

/-- Two tables that differ in labels only know the same names. -/
theorem SymbolTable.find?_of_unlabelled {symbols others : SymbolTable}
    (h : symbols.unlabelled = others.unlabelled) (name : String) :
    symbols.find? name = none ∧ others.find? name = none ∨
      ∃ artifact other, symbols.find? name = some artifact ∧ others.find? name = some other ∧
        artifact.unlabelled = other.unlabelled := by
  unfold find?
  split
  · exact .inl ⟨rfl, rfl⟩
  · have hlookup : (symbols.lookup name).map Artifact.unlabelled =
        (others.lookup name).map Artifact.unlabelled := by
      rw [← lookup_unlabelled, h, lookup_unlabelled]
    cases hfirst : symbols.lookup name <;> cases hsecond : others.lookup name <;>
      simp_all

/-- What is left of a resolved type without its label. -/
def Resolved.unlabelled (resolved : Resolved) : ForeignType × Bool :=
  (resolved.type.unlabelled, resolved.named)

theorem Resolved.unlabelled_ofArtifact {artifact other : Artifact}
    (h : artifact.unlabelled = other.unlabelled) (prefixes prefixes' : List String) :
    (ofArtifact prefixes artifact).unlabelled = (ofArtifact prefixes' other).unlabelled := by
  have hnamed : artifact.hasNamedLabel = other.hasNamedLabel := by
    rw [← artifact.hasNamedLabel_unlabelled, h, other.hasNamedLabel_unlabelled]
  simp [unlabelled, ofArtifact, ForeignType.unlabelled, h, hnamed]

theorem resolvePointer_unlabelled (tags : TagTable) {symbols others : SymbolTable}
    (h : symbols.unlabelled = others.unlabelled) (prefixes prefixes' : List String) (name : String)
    (target : CType) :
    (resolvePointer tags symbols prefixes name target).map Resolved.unlabelled =
      (resolvePointer tags others prefixes' name target).map Resolved.unlabelled := by
  unfold resolvePointer
  split
  · rfl
  · rfl
  · dsimp only
    rcases SymbolTable.find?_of_unlabelled h (target.targetName tags) with
      ⟨hfirst, hsecond⟩ | ⟨artifact, other, hfirst, hsecond, hsame⟩
    · rw [hfirst, hsecond]
      dsimp only
      split
      · rfl
      · split <;> rfl
    · have hnamed : artifact.hasNamedLabel = other.hasNamedLabel := by
        rw [← artifact.hasNamedLabel_unlabelled, hsame, other.hasNamedLabel_unlabelled]
      rw [hfirst, hsecond]
      simp [Except.map, Resolved.unlabelled, hnamed]

theorem resolveTag_unlabelled (target : Target) (tags : TagTable) {symbols others : SymbolTable}
    (h : symbols.unlabelled = others.unlabelled) (prefixes prefixes' : List String) (id : Nat) :
    (resolveTag target tags symbols prefixes id).map Resolved.unlabelled =
      (resolveTag target tags others prefixes' id).map Resolved.unlabelled := by
  unfold resolveTag
  split
  · rfl
  · next tag htag =>
    rcases SymbolTable.find?_of_unlabelled h tag.spelling with
      ⟨hfirst, hsecond⟩ | ⟨artifact, other, hfirst, hsecond, hsame⟩
    · rw [hfirst, hsecond]
    · rw [hfirst, hsecond]
      exact congrArg Except.ok (Resolved.unlabelled_ofArtifact hsame prefixes prefixes')

/-- Computations that agree up to something fail for the same reason or succeed alike. -/
theorem cases_of_map_eq {ε α γ : Type} {f : α → γ} {action other : Except ε α}
    (h : action.map f = other.map f) :
    (∃ e, action = .error e ∧ other = .error e) ∨
      ∃ a b, action = .ok a ∧ other = .ok b ∧ f a = f b := by
  cases action with
  | error e =>
    cases other with
    | error e' => exact .inl ⟨e, rfl, congrArg Except.error (Except.error.inj h).symm⟩
    | ok b => cases h
  | ok a =>
    cases other with
    | error e => cases h
    | ok b => exact .inr ⟨a, b, rfl, rfl, Except.ok.inj h⟩

theorem map_bind_congr {ε α β γ δ : Type} {f : α → γ} {g : β → δ} {action other : Except ε α}
    {next continuation : α → Except ε β} (h : action.map f = other.map f)
    (hnext : ∀ a b, f a = f b → (next a).map g = (continuation b).map g) :
    (action >>= next).map g = (other >>= continuation).map g := by
  rcases cases_of_map_eq h with ⟨e, rfl, rfl⟩ | ⟨a, b, rfl, rfl, hab⟩
  · rfl
  · exact hnext a b hab

theorem CType.depth_lt_of_peel {type element : CType} {bound : ArrayBound}
    (h : type.shown.peel = .array element bound) : element.depth < type.depth := by
  have hdepth := type.shown.depth_peel
  rw [h, depth_shown, depth] at hdepth
  omega

/-- A type resolves to the same type with one list of prefixes as with another, or to none for the
same reason. -/
theorem CType.resolve_unlabelled (target : Target) (tags : TagTable) {symbols others : SymbolTable}
    (h : symbols.unlabelled = others.unlabelled) (prefixes prefixes' : List String)
    (type : CType) :
    (type.resolve target tags symbols prefixes).map Resolved.unlabelled =
      (type.resolve target tags others prefixes').map Resolved.unlabelled := by
  unfold CType.resolve
  dsimp only
  rcases SymbolTable.find?_of_unlabelled h (type.shown.declaredName tags) with
    ⟨hfirst, hsecond⟩ | ⟨artifact, other, hfirst, hsecond, hsame⟩
  · rw [hfirst, hsecond]
    dsimp only
    split
    case h_2 inner hpeel => exact resolvePointer_unlabelled tags h prefixes prefixes' _ inner
    case h_4 element count hpeel =>
      have := depth_lt_of_peel hpeel
      refine map_bind_congr (resolve_unlabelled target tags h prefixes prefixes' element) ?_
      intro a b hab
      obtain ⟨htype, hnamed⟩ := Prod.mk.inj hab
      simp [Except.map, Resolved.unlabelled, ForeignType.unlabelled, htype, hnamed, pure,
        Except.pure]
    case h_8 id here hpeel => exact resolveTag_unlabelled target tags h prefixes prefixes' id
    all_goals rfl
  · rw [hfirst, hsecond]
    exact congrArg Except.ok (Resolved.unlabelled_ofArtifact hsame prefixes prefixes')
termination_by type.depth

end HeaderBindings
