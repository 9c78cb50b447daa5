import HeaderBindings.Proofs.Reference
import HeaderBindings.Ruby.Block

/-! The order of the blocks of a module: what a block refers to by an identifier was introduced by
that identifier in an earlier block. -/

namespace HeaderBindings

/-! Pieces of a text. -/

/-- A text that stands somewhere in another one. -/
def IsPartOf (part whole : String) : Prop := ∃ before after, whole = before ++ part ++ after

theorem IsPartOf.trans {a b c : String} (h : IsPartOf a b) (h' : IsPartOf b c) : IsPartOf a c := by
  obtain ⟨before, after, rfl⟩ := h
  obtain ⟨before', after', rfl⟩ := h'
  exact ⟨before' ++ before, after ++ after', by simp only [String.append_assoc]⟩

theorem joinWith_cons (separator piece : List Char) (rest : List (List Char)) :
    joinWith separator (piece :: rest) = piece ++ rest.flatMap (separator ++ ·) := by
  induction rest generalizing piece with
  | nil => simp [joinWith]
  | cons next rest ih =>
    rw [joinWith.eq_3 _ _ _ (by simp), ih next]
    simp [List.append_assoc]

theorem joinWith_append_cons (separator piece : List Char) (first rest : List (List Char)) :
    joinWith separator (first ++ piece :: rest) =
      first.flatMap (· ++ separator) ++ piece ++ rest.flatMap (separator ++ ·) := by
  cases first with
  | nil => simp [joinWith_cons]
  | cons head first =>
    induction first generalizing head with
    | nil => simp [joinWith_cons, List.append_assoc]
    | cons next first ih =>
      rw [List.cons_append, joinWith.eq_3 _ _ _ (by simp), ih next]
      simp [List.append_assoc]

theorem isPartOf_joinStrings (separator : String) {piece : String} {pieces : List String}
    (h : piece ∈ pieces) : IsPartOf piece (joinStrings separator pieces) := by
  obtain ⟨first, rest, rfl⟩ := List.append_of_mem h
  refine ⟨String.ofList ((first.map String.toList).flatMap (· ++ separator.toList)),
    String.ofList ((rest.map String.toList).flatMap (separator.toList ++ ·)), ?_⟩
  rw [joinStrings, List.map_append, List.map_cons, joinWith_append_cons]
  simp only [String.ofList_append, String.ofList_toList]

/-- Two pieces stand in the joined text in the order that they have in the list. -/
theorem joinStrings_order (separator : String) {pieces : List String} {j i : Nat} (hj : j < i)
    (hi : i < pieces.length) :
    ∃ before between after, joinStrings separator pieces =
      before ++ pieces[j] ++ between ++ pieces[i] ++ after := by
  have hfirst : pieces.take i = pieces.take j ++ pieces[j] :: (pieces.take i).drop (j + 1) := by
    have hlen : j < (pieces.take i).length := by rw [List.length_take]; omega
    conv_lhs => rw [← List.take_append_drop j (pieces.take i)]
    rw [List.drop_eq_getElem_cons hlen, List.take_take, Nat.min_eq_left hj.le,
      List.getElem_take]
  have hsplit : pieces = pieces.take j ++ pieces[j] :: ((pieces.take i).drop (j + 1) ++
      pieces[i] :: pieces.drop (i + 1)) := by
    conv_lhs => rw [← List.take_append_drop i pieces, hfirst, List.drop_eq_getElem_cons hi]
    simp only [List.append_assoc, List.cons_append]
  generalize pieces[j] = earlier at hsplit
  generalize pieces[i] = later at hsplit
  generalize pieces.take j = first at hsplit
  generalize (pieces.take i).drop (j + 1) = middle at hsplit
  generalize pieces.drop (i + 1) = rest at hsplit
  refine ⟨String.ofList ((first.map String.toList).flatMap (· ++ separator.toList)),
    String.ofList ((middle.map String.toList).flatMap (separator.toList ++ ·) ++ separator.toList),
    String.ofList ((rest.map String.toList).flatMap (separator.toList ++ ·)), ?_⟩
  rw [hsplit, joinStrings, List.map_append, List.map_cons, joinWith_append_cons]
  simp only [List.map_append, List.map_cons, List.flatMap_append, List.flatMap_cons,
    String.ofList_append, String.ofList_toList, String.append_assoc]

/-! Types inside the block of their artifact. -/

theorem render_artifact? {prefixes : List String} {type : ForeignType} {target : Artifact}
    (h : target ∈ type.artifact?) : IsPartOf (target.reference prefixes) (type.render prefixes) := by
  fun_induction ForeignType.artifact? type with
  | case1 element length ih =>
    refine (ih h).trans ⟨"[", ", " ++ toString length ++ "]", ?_⟩
    simp only [ForeignType.render, String.append_assoc]
  | case2 artifact =>
    cases h
    exact ⟨"", "", by simp [ForeignType.render]⟩
  | case3 => cases h

theorem isPartOf_renderSignature {prefixes : List String} {signature : Signature}
    {variadic : Bool} {type : ForeignType}
    (h : type ∈ signature.parameters.map Parameter.type ++ [signature.result]) :
    IsPartOf (type.render prefixes) (renderSignature prefixes signature variadic) := by
  rcases List.mem_append.mp h with h | h
  · obtain ⟨parameter, hparameter, rfl⟩ := List.mem_map.mp h
    have hmem : parameter.type.render prefixes ∈
        signature.parameters.map (·.type.render prefixes) ++
          if variadic then [":varargs"] else [] :=
      List.mem_append_left _ (List.mem_map.mpr ⟨parameter, hparameter, rfl⟩)
    refine (isPartOf_joinStrings ", " hmem).trans ⟨"[", "], " ++ signature.result.render prefixes, ?_⟩
    simp only [renderSignature, String.append_assoc]
  · rw [List.mem_singleton.mp h]
    exact ⟨_, "", String.append_empty.symm⟩

theorem isPartOf_renderFunction {prefixes : List String} {name comment block : String}
    {signature : Signature} {variadic : Bool}
    (h : renderFunction prefixes name signature comment variadic = .ok block) :
    IsPartOf (renderAttachment prefixes name signature variadic) block := by
  obtain ⟨identifiers, -, h⟩ := bind_eq_ok_iff.mp h
  rw [← Except.ok.inj h]
  exact isPartOf_joinStrings _ (List.mem_append_right _ (List.mem_singleton_self _))

theorem isPartOf_render {prefixes : List String} {artifact : Artifact} {type : ForeignType}
    {block : String} (h : type ∈ artifact.types) (hblock : artifact.render prefixes = .ok block) :
    IsPartOf (type.render prefixes) block := by
  cases artifact with
  | enumeration => cases h
  | struct name fields =>
    cases hblock
    obtain ⟨field, hfield, rfl⟩ := List.mem_map.mp h
    have hne : fields.isEmpty = false := List.isEmpty_eq_false_iff.mpr (List.ne_nil_of_mem hfield)
    have hpart : IsPartOf (field.type.render prefixes) (renderField prefixes field) :=
      ⟨_, "", String.append_empty.symm⟩
    have hlayout : IsPartOf (renderField prefixes field) (renderLayout prefixes fields) := by
      rw [renderLayout, hne]
      exact isPartOf_joinStrings _ (List.mem_map_of_mem hfield)
    exact (hpart.trans hlayout).trans
      ⟨"  class " ++ typeIdentifier prefixes name ++ " < FFI::Struct\n    layout ", "\n  end", rfl⟩
  | callback name signature =>
    cases hblock
    exact (isPartOf_renderSignature h).trans ⟨_, "", String.append_empty.symm⟩
  | function name signature comment variadic =>
    have hline : IsPartOf (renderSignature prefixes signature variadic)
        (renderAttachment prefixes name signature variadic) := ⟨_, "", String.append_empty.symm⟩
    exact ((isPartOf_renderSignature h).trans hline).trans (isPartOf_renderFunction hblock)

/-! The identifier of a block. -/

/-- Whether a block declares the very identifier by which types refer to an artifact. -/
def Artifact.IsIntroducedBy (prefixes : List String) (block : String) (artifact : Artifact) : Prop :=
  ∃ identifier rest, match artifact with
    | .enumeration _ _ => block = "  enum :" ++ identifier ++ ", [" ++ rest ∧
        artifact.reference prefixes = ":" ++ identifier
    | .struct _ _ => block = "  class " ++ identifier ++ " < FFI::Struct\n" ++ rest ∧
        artifact.reference prefixes = identifier ++ ".by_value"
    | .callback _ _ => block = "  callback :" ++ identifier ++ ", [" ++ rest ∧
        artifact.reference prefixes = ":" ++ identifier
    | .function _ _ _ _ => False

theorem isIntroducedBy_render {prefixes : List String} {artifact : Artifact} {block : String}
    (h : artifact.isType = true) (hblock : artifact.render prefixes = .ok block) :
    artifact.IsIntroducedBy prefixes block := by
  cases artifact with
  | enumeration name constants =>
    cases hblock
    refine ⟨memberIdentifier prefixes name,
      joinStrings "," (constants.map (renderConstant prefixes
        (constantPrefixLength (constants.map (·.1))))) ++ "\n  ]", ?_, rfl⟩
    simp only [renderEnumeration, String.append_assoc]
  | struct name fields =>
    cases hblock
    refine ⟨typeIdentifier prefixes name,
      "    layout " ++ renderLayout prefixes fields ++ "\n  end", ?_, rfl⟩
    have hsplit : " < FFI::Struct\n    layout " = " < FFI::Struct\n" ++ "    layout " := by decide
    simp only [renderStruct, hsplit, String.append_assoc]
  | callback name signature =>
    cases hblock
    have hsplit : ", [" = ", " ++ "[" := by decide
    refine ⟨memberIdentifier prefixes name,
      joinStrings ", " (signature.parameters.map (·.type.render prefixes) ++ []) ++ "], " ++
        signature.result.render prefixes, ?_, rfl⟩
    rw [renderCallback, renderSignature, hsplit]
    simp only [Bool.false_eq_true, if_false, String.append_assoc]
  | function => cases h

/-! The order of a module. -/

theorem renderModule_eq_ok {moduleName library text : String} {prefixes : List String}
    {artifacts : List Artifact}
    (h : renderModule moduleName library prefixes artifacts = .ok text) :
    ∃ blocks, List.Forall₂ (fun artifact block => artifact.render prefixes = .ok block)
      artifacts blocks ∧ IsPartOf (joinStrings "\n\n" blocks) text := by
  obtain ⟨blocks, hblocks, h⟩ := bind_eq_ok_iff.mp h
  cases h
  exact ⟨blocks, mapM_eq_ok_iff.mp hblocks, _, "\n\nend\n", rfl⟩

/-- After any run, the artifacts are defined before they are used, and in every module made of them
the block that a reference leads to declares the identifier of the reference, further up. -/
theorem run_definition_order (context : PassContext) (declarations : List Declaration) :
    let artifacts := (context.run .start declarations).final.declared.artifacts
    DefinedBeforeUse artifacts ∧
      ∀ moduleName library prefixes text,
        renderModule moduleName library prefixes artifacts = .ok text →
        ∀ i (hi : i < artifacts.length), ∀ type ∈ artifacts[i].types, ∀ target ∈ type.artifact?,
          ∃ j, ∃ hj : j < i, artifacts[j] = target ∧
            ∃ definition use before between after,
              artifacts[j].render prefixes = .ok definition ∧
              artifacts[i].render prefixes = .ok use ∧
              text = before ++ definition ++ between ++ use ++ after ∧
              target.IsIntroducedBy prefixes definition ∧
              IsPartOf (type.render prefixes) use ∧
              IsPartOf (target.reference prefixes) (type.render prefixes) := by
  intro artifacts
  have hordered : DefinedBeforeUse artifacts := (context.run_grounded declarations).artifacts
  refine ⟨hordered, fun moduleName library prefixes text h i hi type htype target htarget => ?_⟩
  obtain ⟨hkind, j, hj, he⟩ := hordered i hi type htype target htarget
  obtain ⟨blocks, hblocks, lead, trail, htext⟩ := renderModule_eq_ok h
  have hlen : artifacts.length = blocks.length := hblocks.length_eq
  have hrender : ∀ k (hk : k < artifacts.length),
      artifacts[k].render prefixes = .ok (blocks.get ⟨k, hlen ▸ hk⟩) := fun k hk =>
    hblocks.get hk (hlen ▸ hk)
  obtain ⟨before, between, after, hjoin⟩ :=
    joinStrings_order "\n\n" hj (hlen ▸ hi : i < blocks.length)
  refine ⟨j, hj, he, _, _, lead ++ before, between, after ++ trail, hrender j (hj.trans hi),
    hrender i hi, ?_, ?_, isPartOf_render htype (hrender i hi), render_artifact? htarget⟩
  · rw [htext, hjoin]
    simp only [List.get_eq_getElem, String.append_assoc]
  · refine isIntroducedBy_render hkind ?_
    rw [← he]
    exact hrender j (hj.trans hi)

/-- A header with an enum, a struct that holds an array of it, and a function that takes the
struct. -/
def paletteContext : PassContext where
  source := ⟨.default, [], [⟨"./palette.h", ""⟩], []⟩
  target := ⟨.x86_64, .linux, true, false, false, none⟩
  tags := [⟨.enumeration, some "pal_ink", none, .enumeration [⟨"PAL_RED", 0, .none⟩] .unsigned⟩,
    ⟨.struct, some "pal_row", none,
      .record [⟨"inks", .array (.tag 0 false) (.fixed 4), none, false, none, false⟩] ⟨16, 4, [0]⟩⟩]
  files := ["palette.h"]
  blacklist := []
  prefixes := ["pal_"]
  oddPrefix := none

def paletteDeclarations : List Declaration :=
  let mark : Mark := ⟨⟨0, 0⟩, some ⟨0, 0⟩⟩
  [⟨"pal_ink", ⟨0, 0⟩, mark, mark, .tag 0 [⟨"PAL_RED", 0, .none⟩]⟩,
    ⟨"pal_row_t", ⟨0, 0⟩, mark, mark, .typeName (.tag 1 true) 0⟩,
    ⟨"pal_show", ⟨0, 0⟩, mark, mark,
      .function (.function (.basic .void) [⟨"row", .tag 1 false⟩] .fixed) false⟩]

theorem palette_definition_order :
    let artifacts := (paletteContext.run .start paletteDeclarations).final.declared.artifacts
    artifacts.flatMap (fun artifact => artifact.types.filterMap fun type =>
        type.artifact?.map fun target => (artifact.name, target.name)) =
          [("pal_row_t", "pal_ink"), ("pal_show", "pal_row_t")] ∧
      (renderModule "Palette" "palette" ["pal_"] artifacts).isOk ∧
      DefinedBeforeUse artifacts :=
  ⟨by decide +kernel, by decide +kernel,
    (run_definition_order paletteContext paletteDeclarations).1⟩

end HeaderBindings
