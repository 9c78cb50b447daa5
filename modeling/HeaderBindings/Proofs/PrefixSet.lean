import HeaderBindings.Proofs.DefinitionOrder
import HeaderBindings.Proofs.Unlabelled

/-! Prefixes as a set. The longest of the prefixes that a name starts with is taken off, so that neither
their order nor repetitions matter, to a name, to a whole pass or to a document. -/

namespace HeaderBindings

/-- What is taken off a name: the longest of the prefixes that it starts with, or nothing. -/
structure IsLongestPrefix (prefixes : List String) (name front : String) : Prop where
  listed : front = "" ∨ front ∈ prefixes
  starts : front.toList <+: name.toList
  longest : ∀ other ∈ prefixes, other.toList <+: name.toList →
    other.toList.length ≤ front.toList.length

/-- What is found behind some prefixes, where the longest one so far has a given length. -/
theorem foldl_longest (text : List Char) (prefixes : List String) (start : Nat) :
    let longest := prefixes.foldl (fun longest candidate =>
      if candidate.toList.isPrefixOf text then max longest candidate.toList.length
      else longest) start
    start ≤ longest ∧
      (longest = start ∨ ∃ candidate ∈ prefixes, candidate.toList <+: text ∧
        candidate.toList.length = longest) ∧
      ∀ other ∈ prefixes, other.toList <+: text → other.toList.length ≤ longest := by
  induction prefixes generalizing start with
  | nil => exact ⟨Nat.le_refl _, .inl rfl, by simp⟩
  | cons first rest ih =>
    dsimp only at ih ⊢
    rw [List.foldl_cons]
    by_cases hfirst : first.toList.isPrefixOf text = true
    · have hstarts := List.isPrefixOf_iff_prefix.mp hfirst
      rw [if_pos hfirst]
      obtain ⟨hstart, hfound, hlongest⟩ := ih (max start first.toList.length)
      refine ⟨by omega, ?_, List.forall_mem_cons.mpr ⟨fun _ => by omega, hlongest⟩⟩
      rcases hfound with hsame | ⟨candidate, hmem, hcandidate, hlength⟩
      · by_cases hless : start < first.toList.length
        · exact .inr ⟨first, List.mem_cons_self, hstarts, by omega⟩
        · exact .inl (by omega)
      · exact .inr ⟨candidate, List.mem_cons_of_mem _ hmem, hcandidate, hlength⟩
    · rw [if_neg hfirst]
      obtain ⟨hstart, hfound, hlongest⟩ := ih start
      refine ⟨hstart, hfound.imp_right ?_, List.forall_mem_cons.mpr ⟨?_, hlongest⟩⟩
      · rintro ⟨candidate, hmem, hcandidate⟩
        exact ⟨candidate, List.mem_cons_of_mem _ hmem, hcandidate⟩
      · exact fun hstarts => absurd (List.isPrefixOf_iff_prefix.mpr hstarts) hfirst

theorem isLongestPrefix_take (prefixes : List String) (name : String) :
    IsLongestPrefix prefixes name
      (String.ofList (name.toList.take (prefixLength prefixes name))) := by
  obtain ⟨-, hfound, hlongest⟩ := foldl_longest name.toList prefixes 0
  have hbound : (name.toList.take (prefixLength prefixes name)).length =
      prefixLength prefixes name := by
    rw [List.length_take, Nat.min_eq_left]
    rcases hfound with hnone | ⟨candidate, -, hstarts, hlength⟩
    · exact hnone.trans_le (Nat.zero_le _)
    · exact hlength.symm.trans_le hstarts.length_le
  refine ⟨?_, ?_, ?_⟩
  · rcases hfound with hnone | ⟨candidate, hmem, hstarts, hlength⟩
    · have hzero : prefixLength prefixes name = 0 := hnone
      exact .inl (by rw [hzero]; rfl)
    · have htake : name.toList.take (prefixLength prefixes name) = candidate.toList := by
        rw [List.prefix_iff_eq_take.mp hstarts, hlength]
        rfl
      rw [htake, String.ofList_toList]
      exact .inr hmem
  · rw [String.toList_ofList]
    exact List.take_prefix _ _
  · rw [String.toList_ofList, hbound]
    exact hlongest

theorem append_stripPrefix (prefixes : List String) (name : String) :
    String.ofList (name.toList.take (prefixLength prefixes name)) ++ stripPrefix prefixes name =
      name := by
  rw [stripPrefix, ← String.ofList_append, List.take_append_drop, String.ofList_toList]

section

variable {prefixes others : List String}
  (h : ∀ entry, entry ≠ "" → (entry ∈ prefixes ↔ entry ∈ others))

include h

theorem IsLongestPrefix.length_le {name front front' : String}
    (hfront : IsLongestPrefix prefixes name front) (hfront' : IsLongestPrefix others name front') :
    front.toList.length ≤ front'.toList.length := by
  by_cases hempty : front = ""
  · rw [hempty]
    exact Nat.zero_le _
  · have hmem := hfront.listed.resolve_left hempty
    exact hfront'.longest front ((h front hempty).mp hmem) hfront.starts

theorem IsLongestPrefix.unique {name front front' : String}
    (hfront : IsLongestPrefix prefixes name front) (hfront' : IsLongestPrefix others name front') :
    front = front' := by
  have hle := hfront.length_le h hfront'
  have hge := hfront'.length_le (fun entry hentry => (h entry hentry).symm) hfront
  have hstarts := List.prefix_of_prefix_length_le hfront.starts hfront'.starts hle
  exact String.toList_inj.mp (hstarts.eq_of_length (Nat.le_antisymm hle hge))

theorem stripPrefix_of_entries : stripPrefix prefixes = stripPrefix others := by
  funext name
  have hsame := (isLongestPrefix_take prefixes name).unique h (isLongestPrefix_take others name)
  have hname := (append_stripPrefix prefixes name).trans (append_stripPrefix others name).symm
  rw [hsame] at hname
  exact String.append_right_inj _ |>.mp hname

end

/-! Names, labels and blocks look at prefixes only to strip names. -/

section

variable {prefixes others : List String} (h : stripPrefix prefixes = stripPrefix others)

include h

theorem typeIdentifier_of_strip : typeIdentifier prefixes = typeIdentifier others := h

theorem memberIdentifier_of_strip : memberIdentifier prefixes = memberIdentifier others := by
  funext name
  rw [memberIdentifier, h, memberIdentifier]

theorem Artifact.label_of_strip : Artifact.label prefixes = Artifact.label others := by
  funext artifact
  cases artifact with
  | callback => rfl
  | _ => exact congrFun h _

theorem Artifact.reference_of_strip : Artifact.reference prefixes = Artifact.reference others := by
  funext artifact
  cases artifact with
  | struct name fields => exact congrArg (· ++ ".by_value") (congrFun h name)
  | _ => exact congrArg (":" ++ ·) (congrFun (memberIdentifier_of_strip h) _)

theorem ForeignType.render_of_strip (type : ForeignType) :
    type.render prefixes = type.render others := by
  fun_induction ForeignType.render prefixes type with
  | case6 element length ih => rw [ih, render]
  | case7 artifact => exact congrFun (Artifact.reference_of_strip h) artifact
  | _ => rfl

/-! Types. -/

theorem Resolved.ofArtifact_of_strip :
    Resolved.ofArtifact prefixes = Resolved.ofArtifact others := by
  funext artifact
  rw [ofArtifact, Artifact.label_of_strip h, ofArtifact]

theorem resolvePointer_of_strip (tags : TagTable) (symbols : SymbolTable) :
    resolvePointer tags symbols prefixes = resolvePointer tags symbols others := by
  funext name target
  unfold resolvePointer
  rw [Artifact.label_of_strip h, typeIdentifier_of_strip h]

theorem resolveTag_of_strip (target : Target) (tags : TagTable) (symbols : SymbolTable) :
    resolveTag target tags symbols prefixes = resolveTag target tags symbols others := by
  funext id
  unfold resolveTag
  rw [Resolved.ofArtifact_of_strip h]

theorem CType.resolve_of_strip (target : Target) (tags : TagTable) (symbols : SymbolTable)
    (type : CType) :
    type.resolve target tags symbols prefixes = type.resolve target tags symbols others := by
  unfold CType.resolve
  dsimp only
  rw [Resolved.ofArtifact_of_strip h, resolvePointer_of_strip h, resolveTag_of_strip h]
  split
  · rfl
  · split
    case h_4 element count hpeel =>
      have := depth_lt_of_peel hpeel
      rw [resolve_of_strip target tags symbols element]
    all_goals rfl
termination_by type.depth

/-! Passes. -/

variable (context : PassContext)

theorem PassContext.resolve_of_strip :
    ({ context with prefixes := prefixes } : PassContext).resolve =
      ({ context with prefixes := others } : PassContext).resolve := by
  funext symbols type
  unfold resolve
  rw [CType.resolve_of_strip h]

theorem PassContext.structOf_of_strip :
    ({ context with prefixes := prefixes } : PassContext).structOf =
      ({ context with prefixes := others } : PassContext).structOf := by
  funext symbols name fields
  unfold structOf
  rw [resolve_of_strip h]

theorem PassContext.signature_of_strip :
    ({ context with prefixes := prefixes } : PassContext).signature =
      ({ context with prefixes := others } : PassContext).signature := by
  have hparameter : ({ context with prefixes := prefixes } : PassContext).parameter =
      ({ context with prefixes := others } : PassContext).parameter := by
    funext symbols parameter
    unfold PassContext.parameter
    rw [resolve_of_strip h]
  funext symbols result parameters
  unfold signature
  rw [resolve_of_strip h, hparameter]

theorem PassContext.callback_of_strip :
    ({ context with prefixes := prefixes } : PassContext).callback =
      ({ context with prefixes := others } : PassContext).callback := by
  funext declared name type
  unfold callback
  rw [signature_of_strip h]

theorem PassContext.typeName_of_strip :
    ({ context with prefixes := prefixes } : PassContext).typeName =
      ({ context with prefixes := others } : PassContext).typeName := by
  funext declared name type attributes
  unfold typeName
  rw [structOf_of_strip h, callback_of_strip h]
  rfl

theorem PassContext.function_of_strip :
    ({ context with prefixes := prefixes } : PassContext).function =
      ({ context with prefixes := others } : PassContext).function := by
  funext declared name comment type
  unfold function
  rw [signature_of_strip h]

theorem PassContext.visit_of_strip :
    ({ context with prefixes := prefixes } : PassContext).visit =
      ({ context with prefixes := others } : PassContext).visit := by
  have hbind : ({ context with prefixes := prefixes } : PassContext).bind =
      ({ context with prefixes := others } : PassContext).bind := by
    funext declared previous declaration
    unfold bind
    rw [function_of_strip h, typeName_of_strip h]
  funext state declaration
  unfold visit
  rw [hbind]
  rfl

theorem PassContext.run_of_strip (state : PassState) (declarations : List Declaration) :
    ({ context with prefixes := prefixes } : PassContext).run state declarations =
      ({ context with prefixes := others } : PassContext).run state declarations := by
  induction declarations generalizing state with
  | nil => rfl
  | cons declaration rest ih =>
    have hscope : ({ context with prefixes := prefixes } : PassContext).isInScope declaration =
        ({ context with prefixes := others } : PassContext).isInScope declaration := rfl
    rw [run, run, visit_of_strip h, hscope]
    simp only [ih]

/-! Blocks. -/

theorem renderEnumeration_of_strip : renderEnumeration prefixes = renderEnumeration others := by
  have hconstant : renderConstant prefixes = renderConstant others := by
    funext skipped constant
    unfold renderConstant
    rw [memberIdentifier_of_strip h]
  funext name constants
  unfold renderEnumeration
  rw [memberIdentifier_of_strip h, hconstant]

theorem renderStruct_of_strip : renderStruct prefixes = renderStruct others := by
  have hfield : renderField prefixes = renderField others := by
    funext field
    unfold renderField
    rw [memberIdentifier_of_strip h, ForeignType.render_of_strip h]
  funext name fields
  unfold renderStruct renderLayout
  rw [typeIdentifier_of_strip h, hfield]

theorem renderSignature_of_strip : renderSignature prefixes = renderSignature others := by
  funext signature variadic
  unfold renderSignature
  simp only [ForeignType.render_of_strip h]

theorem renderCallback_of_strip : renderCallback prefixes = renderCallback others := by
  funext name signature
  unfold renderCallback
  rw [memberIdentifier_of_strip h, renderSignature_of_strip h]

theorem renderFunction_of_strip : renderFunction prefixes = renderFunction others := by
  have hidentifier : Parameter.identifier prefixes = Parameter.identifier others := by
    funext parameter
    unfold Parameter.identifier
    rw [memberIdentifier_of_strip h]
  funext name signature comment variadic
  unfold renderFunction renderDocumentation renderAttachment
  rw [memberIdentifier_of_strip h, renderSignature_of_strip h]
  simp only [hidentifier]

theorem Artifact.render_of_strip : Artifact.render prefixes = Artifact.render others := by
  funext artifact
  cases artifact with
  | enumeration name constants =>
    exact congrArg Except.ok (congrFun₂ (renderEnumeration_of_strip h) name constants)
  | struct name fields => exact congrArg Except.ok (congrFun₂ (renderStruct_of_strip h) name fields)
  | callback name signature =>
    exact congrArg Except.ok (congrFun₂ (renderCallback_of_strip h) name signature)
  | function name signature comment variadic =>
    rw [render, renderFunction_of_strip h, render]

theorem renderModule_of_strip (moduleName library : String) (artifacts : List Artifact) :
    renderModule moduleName library prefixes artifacts =
      renderModule moduleName library others artifacts := by
  unfold renderModule
  rw [Artifact.render_of_strip h]

end

/-- Two lists of prefixes with the same entries, empty ones aside, take the same prefix off every name,
the longest one that it starts with, and give the same artifacts and the same document. -/
theorem prefixes_as_set {prefixes others : List String}
    (h : ∀ entry, entry ≠ "" → (entry ∈ prefixes ↔ entry ∈ others)) :
    (∀ name, ∃ front, IsLongestPrefix prefixes name front ∧ IsLongestPrefix others name front ∧
        front ++ stripPrefix prefixes name = name ∧ front ++ stripPrefix others name = name) ∧
      (∀ (context : PassContext) (state : PassState) (declarations : List Declaration),
        ({ context with prefixes := prefixes } : PassContext).run state declarations =
          ({ context with prefixes := others } : PassContext).run state declarations) ∧
      ∀ (moduleName library : String) (artifacts : List Artifact),
        renderModule moduleName library prefixes artifacts =
          renderModule moduleName library others artifacts := by
  have hstrip := stripPrefix_of_entries h
  refine ⟨fun name => ?_, fun context => PassContext.run_of_strip hstrip context,
    renderModule_of_strip hstrip⟩
  have hfront := isLongestPrefix_take prefixes name
  have hfront' := isLongestPrefix_take others name
  have hname := append_stripPrefix prefixes name
  refine ⟨_, hfront, ?_, hname, ?_⟩
  · rw [hfront.unique h hfront']
    exact hfront'
  · rw [← hstrip]
    exact hname

theorem palette_prefixes_as_set :
    let prefixes := ["pal_", "", "pal_ink_", "pal_"]
    let others := ["pal_ink_", "pal_"]
    let artifacts := (paletteContext.run .start paletteDeclarations).final.declared.artifacts
    (∀ entry, entry ≠ "" → (entry ∈ prefixes ↔ entry ∈ others)) ∧
      stripPrefix prefixes "pal_ink_red" = "red" ∧ stripPrefix others "pal_ink_red" = "red" ∧
      ({ paletteContext with prefixes := prefixes } : PassContext).run .start paletteDeclarations =
        ({ paletteContext with prefixes := others } : PassContext).run .start
          paletteDeclarations ∧
      renderModule "Palette" "palette" prefixes artifacts =
        renderModule "Palette" "palette" others artifacts := by
  intro prefixes others artifacts
  have hentries : ∀ entry, entry ≠ "" → (entry ∈ prefixes ↔ entry ∈ others) := by
    simp only [prefixes, others, List.mem_cons, List.not_mem_nil, or_false]
    tauto
  obtain ⟨-, hrun, hmodule⟩ := prefixes_as_set hentries
  exact ⟨hentries, by decide, by decide, hrun paletteContext .start paletteDeclarations,
    hmodule "Palette" "palette" artifacts⟩

end HeaderBindings
