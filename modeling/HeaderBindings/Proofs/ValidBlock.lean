import HeaderBindings.Proofs.RubyLiteral
import HeaderBindings.Proofs.TypeLabel

/-! Blocks that are Ruby source. A block always has the form of a declaration, and it is one exactly
if the names in it can be what they stand for there and its literals are read as in C. -/

namespace HeaderBindings

variable {target : Target} {artifacts : List Artifact} {prefixes : List String}
  {context : PassContext} {declarations : List Declaration}

/-! Names and values that Ruby takes. -/

def ForeignType.FitsRuby (prefixes : List String) : ForeignType → Prop
  | .array element _ => element.FitsRuby prefixes
  | .reference (.struct name _) => FitsClass prefixes name
  | .reference artifact => FitsSymbol prefixes artifact.name
  | _ => True

def Signature.FitsRuby (prefixes : List String) (signature : Signature) : Prop :=
  (∀ parameter ∈ signature.parameters, parameter.type.FitsRuby prefixes) ∧
    signature.result.FitsRuby prefixes

/-- Whether the names in an artifact can be symbols and classes and its literals are plain; a
constant goes without what all names of its enum start with. -/
def Artifact.FitsRuby (prefixes : List String) : Artifact → Prop
  | .enumeration name constants =>
    let skipped := constantPrefixLength (constants.map (·.1))
    FitsSymbol prefixes name ∧ ∀ constant ∈ constants,
      FitsSymbol prefixes (String.ofList (constant.1.toList.drop skipped)) ∧
        ∀ value ∈ constant.2, IsPlainValue value
  | .struct name fields =>
    FitsClass prefixes name ∧ ∀ field ∈ fields,
      FitsSymbol prefixes field.name ∧ field.type.FitsRuby prefixes
  | .callback name signature => FitsSymbol prefixes name ∧ signature.FitsRuby prefixes
  | .function name signature _ _ =>
    FitsSymbol prefixes name ∧ IsWord name ∧ signature.FitsRuby prefixes

/-- Items that have the form of something one by one have it together. -/
theorem exists_trees {α β : Type} {text : β → String} {valid : β → Prop} {render : α → String}
    {fits : α → Prop} {items : List α}
    (h : ∀ item ∈ items, ∃ tree, text tree = render item ∧ (valid tree ↔ fits item)) :
    ∃ trees : List β, trees.map text = items.map render ∧
      ((∀ tree ∈ trees, valid tree) ↔ ∀ item ∈ items, fits item) := by
  induction items with
  | nil => exact ⟨[], rfl, by simp⟩
  | cons item rest ih =>
    rw [List.forall_mem_cons] at h
    obtain ⟨tree, htext, hvalid⟩ := h.1
    obtain ⟨trees, htexts, hvalids⟩ := ih h.2
    refine ⟨tree :: trees, congrArg₂ List.cons htext htexts, ?_⟩
    rw [List.forall_mem_cons, List.forall_mem_cons, hvalid, hvalids]

section

variable (prefixes)

theorem exists_symbol {name : String} (h : IsLettered name) :
    ∃ word : RubyWord, word.text = memberIdentifier prefixes name ∧
      (word.IsSymbol ↔ FitsSymbol prefixes name) :=
  ⟨⟨_, isLettered_memberIdentifier h⟩, rfl, isSymbol_memberIdentifier_iff h⟩

theorem exists_class {name : String} (h : IsLettered name) :
    ∃ word : RubyWord, word.text = typeIdentifier prefixes name ∧
      (word.IsConstant ↔ FitsClass prefixes name) :=
  ⟨⟨_, isLettered_drop h _⟩, rfl, Iff.rfl⟩

/-! Types. -/

theorem ForeignType.exists_ruby_of_builtin? {type : ForeignType} {name : String}
    (hmem : name ∈ builtinNames) (h : type.builtin? = some name) :
    ∃ ruby : RubyType, ruby.text = type.render prefixes ∧
      (ruby.IsValid ↔ type.FitsRuby prefixes) := by
  have hbuiltin : ∀ name ∈ builtinNames, (∀ c ∈ name.toList, isWordChar c = true) ∧
      name.toList.head?.any (!·.isDigit) = true := by decide
  have hsymbol := hbuiltin name hmem
  have hfits : type.FitsRuby prefixes := by
    cases type with
    | array | reference => cases h
    | _ => exact trivial
  exact ⟨.symbol ⟨name, fun c hc => isNameLetter_of_isWordChar (hsymbol.1 c hc)⟩,
    (render_of_symbol? (symbol?_of_builtin? h)).symm, iff_of_true hsymbol hfits⟩

theorem ForeignType.exists_ruby_of_artifact {artifact : Artifact} (h : IsLettered artifact.name) :
    ∃ ruby : RubyType, ruby.text = (reference artifact).render prefixes ∧
      (ruby.IsValid ↔ (reference artifact).FitsRuby prefixes) := by
  cases artifact with
  | struct name fields =>
    obtain ⟨word, htext, hvalid⟩ := exists_class prefixes h
    exact ⟨.byValue word, congrArg (· ++ ".by_value") htext, hvalid⟩
  | _ =>
    obtain ⟨word, htext, hvalid⟩ := exists_symbol prefixes h
    exact ⟨.symbol word, congrArg (":" ++ ·) htext, hvalid⟩

theorem ForeignType.MadeFrom.exists_ruby {type : ForeignType}
    (h : type.MadeFrom target artifacts) (hnames : ∀ artifact ∈ artifacts, IsLettered artifact.name) :
    ∃ ruby : RubyType, ruby.text = type.render prefixes ∧
      (ruby.IsValid ↔ type.FitsRuby prefixes) := by
  induction h with
  | arithmetic resolves =>
    obtain ⟨name, hmem, hname, -⟩ := BasicType.builtin?_resolve resolves
    exact exists_ruby_of_builtin? prefixes hmem hname
  | pointer | string => exact exists_ruby_of_builtin? prefixes (by decide) rfl
  | reference known _ => exact exists_ruby_of_artifact prefixes (hnames _ known)
  | array length _ ih =>
    obtain ⟨ruby, htext, hvalid⟩ := ih
    refine ⟨.array ruby length, ?_, hvalid⟩
    rw [RubyType.text, htext]
    rfl

theorem Signature.exists_ruby {signature : Signature}
    (hparameters : ∀ parameter ∈ signature.parameters, parameter.type.MadeFrom target artifacts)
    (hresult : signature.result.MadeFrom target artifacts)
    (hnames : ∀ artifact ∈ artifacts, IsLettered artifact.name) (variadic : Bool) :
    ∃ ruby : RubySignature, ruby.text = renderSignature prefixes signature variadic ∧
      (ruby.IsValid ↔ signature.FitsRuby prefixes) := by
  obtain ⟨types, htexts, hvalids⟩ := exists_trees fun parameter hparameter =>
    (hparameters parameter hparameter).exists_ruby prefixes hnames
  obtain ⟨result, htext, hvalid⟩ := hresult.exists_ruby prefixes hnames
  obtain ⟨rest, hrest, hrestValid⟩ : ∃ rest : List RubyType,
      rest.map RubyType.text = (if variadic then [":varargs"] else []) ∧
        ∀ type ∈ rest, type.IsValid := by
    cases variadic with
    | false => exact ⟨[], rfl, by simp⟩
    | true =>
      refine ⟨[.symbol ⟨"varargs", by decide⟩], rfl, List.forall_mem_singleton.mpr ?_⟩
      exact (by decide : (∀ c ∈ "varargs".toList, isWordChar c = true) ∧
        "varargs".toList.head?.any (!·.isDigit) = true)
  refine ⟨⟨types ++ rest, result⟩, ?_, ?_⟩
  · rw [RubySignature.text, renderSignature, List.map_append, htexts, hrest, htext]
  · rw [RubySignature.IsValid, Signature.FitsRuby, List.forall_mem_append, hvalids,
      and_iff_left hrestValid, hvalid]

/-! Members of enums and structs. -/

theorem exists_ruby_constant {constant : String × Option String} (skipped : Nat)
    (hname : IsLettered constant.1) (hvalue : ∀ value ∈ constant.2, IsWrittenValue value) :
    ∃ ruby : RubyConstant, ruby.text = renderConstant prefixes skipped constant ∧
      (ruby.IsValid ↔ FitsSymbol prefixes (String.ofList (constant.1.toList.drop skipped)) ∧
        ∀ value ∈ constant.2, IsPlainValue value) := by
  obtain ⟨word, htext, hvalid⟩ := exists_symbol prefixes (isLettered_drop hname skipped)
  obtain ⟨name, value⟩ := constant
  cases value with
  | none =>
    refine ⟨⟨word, none⟩, ?_, and_congr hvalid (by simp)⟩
    rw [RubyConstant.text, renderConstant, htext]
  | some value =>
    have hwritten := hvalue value rfl
    refine ⟨⟨word, some ⟨value, hwritten.unbroken⟩⟩, ?_, and_congr hvalid ?_⟩
    · rw [RubyConstant.text, renderConstant, htext]
    · simpa using hwritten.integer

theorem exists_ruby_field {field : Field} (hname : IsLettered field.name)
    (htype : field.type.MadeFrom target artifacts)
    (hnames : ∀ artifact ∈ artifacts, IsLettered artifact.name) :
    ∃ ruby : RubyField, ruby.text = renderField prefixes field ∧
      (ruby.IsValid ↔ FitsSymbol prefixes field.name ∧ field.type.FitsRuby prefixes) := by
  obtain ⟨word, htext, hvalid⟩ := exists_symbol prefixes hname
  obtain ⟨type, htypeText, htypeValid⟩ := htype.exists_ruby prefixes hnames
  refine ⟨⟨word, type⟩, ?_, and_congr hvalid htypeValid⟩
  rw [RubyField.text, renderField, htext, htypeText]

/-! Blocks. -/

theorem exists_ruby_enumeration {name : String} {constants : List (String × Option String)}
    (hname : IsLettered name) (hconstants : ∀ constant ∈ constants, IsLettered constant.1)
    (hvalues : ∀ constant ∈ constants, ∀ value ∈ constant.2, IsWrittenValue value) :
    ∃ block : RubyBlock, block.text = renderEnumeration prefixes name constants ∧
      (block.IsValid ↔ (Artifact.enumeration name constants).FitsRuby prefixes) := by
  obtain ⟨word, htext, hvalid⟩ := exists_symbol prefixes hname
  obtain ⟨members, htexts, hvalids⟩ := exists_trees fun constant hconstant =>
    exists_ruby_constant prefixes (constantPrefixLength (constants.map (·.1)))
      (hconstants constant hconstant) (hvalues constant hconstant)
  refine ⟨.enumeration word members, ?_, and_congr hvalid hvalids⟩
  rw [RubyBlock.text, renderEnumeration, htext, htexts]

theorem exists_ruby_struct {name : String} {fields : List Field} (hname : IsLettered name)
    (hfields : ∀ field ∈ fields, IsLettered field.name ∧ field.type.MadeFrom target artifacts)
    (hnames : ∀ artifact ∈ artifacts, IsLettered artifact.name) :
    ∃ block : RubyBlock, block.text = renderStruct prefixes name fields ∧
      (block.IsValid ↔ (Artifact.struct name fields).FitsRuby prefixes) := by
  obtain ⟨word, htext, hvalid⟩ := exists_class prefixes hname
  by_cases hempty : fields = []
  · subst hempty
    have hwords : ∀ word ∈ ["dummy", "char"], (∀ c ∈ word.toList, isWordChar c = true) ∧
        word.toList.head?.any (!·.isDigit) = true := by decide
    have hdummy : RubyField.IsValid ⟨⟨"dummy", by decide⟩, .symbol ⟨"char", by decide⟩⟩ :=
      ⟨hwords "dummy" (by decide), hwords "char" (by decide)⟩
    refine ⟨.layout word [⟨⟨"dummy", by decide⟩, .symbol ⟨"char", by decide⟩⟩], ?_,
      and_congr hvalid (iff_of_true (List.forall_mem_singleton.mpr hdummy) (by simp))⟩
    rw [RubyBlock.text, renderStruct, htext]
    rfl
  · obtain ⟨members, htexts, hvalids⟩ := exists_trees fun field hfield =>
      exists_ruby_field prefixes (hfields field hfield).1 (hfields field hfield).2 hnames
    refine ⟨.layout word members, ?_, and_congr hvalid hvalids⟩
    rw [RubyBlock.text, renderStruct, renderLayout, if_neg (by simpa using hempty), htext, htexts]

theorem exists_ruby_callback {name : String} {signature : Signature} (hname : IsLettered name)
    (htypes : ∀ type ∈ (Artifact.callback name signature).types, type.MadeFrom target artifacts)
    (hnames : ∀ artifact ∈ artifacts, IsLettered artifact.name) :
    ∃ block : RubyBlock, block.text = renderCallback prefixes name signature ∧
      (block.IsValid ↔ (Artifact.callback name signature).FitsRuby prefixes) := by
  obtain ⟨word, htext, hvalid⟩ := exists_symbol prefixes hname
  obtain ⟨types, htypesText, htypesValid⟩ := Signature.exists_ruby prefixes
    (fun parameter hparameter => htypes _ (List.mem_append_left _ (List.mem_map_of_mem hparameter)))
    (htypes _ (List.mem_append_right _ (List.mem_singleton_self _))) hnames false
  refine ⟨.callback word types, ?_, and_congr hvalid htypesValid⟩
  rw [RubyBlock.text, renderCallback, htext, htypesText]

theorem exists_ruby_function {name comment text : String} {signature : Signature} {variadic : Bool}
    (hname : isCName name = true)
    (htypes : ∀ type ∈ (Artifact.function name signature comment variadic).types,
      type.MadeFrom target artifacts)
    (hnames : ∀ artifact ∈ artifacts, IsLettered artifact.name)
    (htexts : ∀ text ∈ (Artifact.function name signature comment variadic).texts, OneLine text)
    (h : renderFunction prefixes name signature comment variadic = .ok text) :
    ∃ block : RubyBlock, block.text = text ∧
      (block.IsValid ↔ (Artifact.function name signature comment variadic).FitsRuby prefixes) := by
  have hletters : IsLettered name := (isCName_iff.mp hname).1
  obtain ⟨word, hwordText, hvalid⟩ := exists_symbol prefixes hletters
  obtain ⟨types, htypesText, htypesValid⟩ := Signature.exists_ruby prefixes
    (fun parameter hparameter => htypes _ (List.mem_append_left _ (List.mem_map_of_mem hparameter)))
    (htypes _ (List.mem_append_right _ (List.mem_singleton_self _))) hnames variadic
  obtain ⟨_, lines, hrender, hlines, hremarks⟩ := linesOf_renderFunction prefixes htexts h comment
  obtain rfl := Except.ok.inj (h.symm.trans hrender)
  have htree : ∀ line ∈ lines, ∃ tree : RubyRemark, tree.line = line ∧ (True ↔ True) :=
    fun line hline => ⟨⟨line, hremarks line hline⟩, rfl, Iff.rfl⟩
  obtain ⟨remarks, hremarkTexts, -⟩ := exists_trees htree
  refine ⟨.attachment remarks word ⟨name, hletters⟩ types, ?_, ?_⟩
  · rw [RubyBlock.text, hwordText, htypesText, hremarkTexts, List.map_id', ← joinStrings_linesOf text,
      hlines]
    rfl
  · rw [Artifact.FitsRuby, RubyBlock.IsValid, hvalid, htypesValid]
    refine and_congr_right fun hfits => and_congr_left fun _ => ?_
    exact and_iff_left (head?_of_fitsSymbol hname hfits)

end

/-! What a header has to say. -/

/-- The names that a pass comes upon, some of them empty. -/
def PassContext.cNames (context : PassContext) (declarations : List Declaration) : List String :=
  context.tags.flatMap (fun tag => tag.spelling :: tag.fields.map CField.name) ++
    declarations.flatMap fun declaration =>
      declaration.name :: ((context.enumerators declaration).map Enumerator.name ++
        declaration.body.parameters.map CParameter.name ++
        (context.needs declaration).flatMap CType.typeNames)

/-- The literals that give enum constants their values, but for characters. -/
def PassContext.literals (context : PassContext) (declarations : List Declaration) : List String :=
  declarations.flatMap fun declaration =>
    (context.enumerators declaration).filterMap fun constant =>
      match constant.text with
      | .literal text => if text.toList.head?.any Char.isDigit then some text else none
      | _ => none

theorem Enumerator.isWrittenValue {trigraphs : Bool} {constant : Enumerator}
    {value : String × Option String} (hmade : constant.constant = .ok value)
    (hliteral : ∀ text, constant.text = .literal text →
      text.toList.head?.any Char.isDigit = true →
        (readInteger? (unescaped trigraphs text)).isSome = true) :
    ∀ text ∈ value.2, IsWrittenValue text := by
  unfold Enumerator.constant at hmade
  cases hconstant : constant.text with
  | none | expression =>
    rw [hconstant] at hmade
    cases hmade
    rintro _ ⟨⟩
  | unspelled =>
    rw [hconstant] at hmade
    cases hmade
  | literal text =>
    rw [hconstant] at hmade
    dsimp only at hmade
    split at hmade
    · next hhead =>
      have hread := hliteral text hconstant hhead
      cases hmade
      rintro _ ⟨⟩
      exact isWrittenValue_of_literal hread hhead
    · cases hmade
      rintro _ ⟨⟩
      exact isWrittenValue_toString constant.value

theorem oneLine_of_isLettered {name : String} (h : IsLettered name) : OneLine name := by
  intro hmem
  cases h '\n' hmem

/-! The blocks of a binding. -/

section

variable (hnames : ∀ name ∈ context.cNames declarations, isCName name = true)

include hnames

theorem PassContext.isLettered_of_tags {tag : Tag} (htag : tag ∈ context.tags) {name : String}
    (h : name ∈ tag.spelling :: tag.fields.map CField.name) : IsLettered name :=
  (isCName_iff.mp (hnames name (List.mem_append_left _ (List.mem_flatMap.mpr ⟨tag, htag, h⟩)))).1

theorem PassContext.isLettered_of_declaration {declaration : Declaration}
    (hdeclaration : declaration ∈ declarations) {name : String}
    (h : name ∈ (context.enumerators declaration).map Enumerator.name ++
      declaration.body.parameters.map CParameter.name ++
      (context.needs declaration).flatMap CType.typeNames) : IsLettered name :=
  (isCName_iff.mp (hnames name (List.mem_append_right _
    (List.mem_flatMap.mpr ⟨declaration, hdeclaration, List.mem_cons_of_mem _ h⟩)))).1

theorem PassContext.run_isCName :
    ∀ artifact ∈ (context.run .start declarations).final.declared.artifacts,
      isCName artifact.name = true := by
  refine run_names (P := fun name => isCName name = true) (fun declaration hdeclaration => ?_)
    fun tag htag => ?_
  · exact hnames _ (List.mem_append_right _
      (List.mem_flatMap.mpr ⟨declaration, hdeclaration, List.mem_cons_self⟩))
  · exact hnames _ (List.mem_append_left _ (List.mem_flatMap.mpr ⟨tag, htag, List.mem_cons_self⟩))

theorem PassContext.run_isLettered :
    ∀ artifact ∈ (context.run .start declarations).final.declared.artifacts,
      IsLettered artifact.name :=
  fun artifact hartifact => (isCName_iff.mp (run_isCName hnames artifact hartifact)).1

/-- The texts of a function are lines. -/
theorem PassContext.run_oneLine_texts {name comment : String} {signature : Signature}
    {variadic : Bool} (h : .function name signature comment variadic ∈
      (context.run .start declarations).final.declared.artifacts) :
    ∀ text ∈ (Artifact.function name signature comment variadic).texts, OneLine text := by
  obtain ⟨visit, hvisit, hmakes⟩ := exists_visit_of_mem_run h
  have hdeclaration := (mem_of_mem_visits hvisit).1
  have hnamesOneLine : ∀ artifact ∈ (context.run .start declarations).final.declared.artifacts,
      OneLine artifact.name :=
    fun artifact hartifact => oneLine_of_isLettered (run_isLettered hnames artifact hartifact)
  have htexts : ∀ text ∈ signature.texts, OneLine text := by
    refine hmakes.oneLine_texts hnamesOneLine (fun name artifact hfound => hnamesOneLine artifact
      (mem_run_of_lookup hvisit hfound)) rfl rfl (context.run_madeFrom declarations _ h) ?_ ?_
    · intro parameter hparameter
      refine oneLine_of_isLettered (isLettered_of_declaration hnames hdeclaration ?_)
      exact List.mem_append_left _ (List.mem_append_right _ (List.mem_map_of_mem hparameter))
    · intro type htype
      refine ⟨fun name hname =>
          oneLine_of_isLettered (isLettered_of_declaration hnames hdeclaration ?_),
        fun tag htag => oneLine_of_isLettered (isLettered_of_tags hnames htag List.mem_cons_self)⟩
      exact List.mem_append_right _ (List.mem_flatMap.mpr ⟨type, htype, hname⟩)
  exact List.forall_mem_cons.mpr ⟨hnamesOneLine _ h, htexts⟩

theorem PassContext.run_isLettered_fields {name : String} {fields : List Field}
    (h : .struct name fields ∈ (context.run .start declarations).final.declared.artifacts) :
    ∀ field ∈ fields, IsLettered field.name := by
  obtain ⟨visit, -, hmakes⟩ := exists_visit_of_mem_run h
  intro field hfield
  rcases hmakes with ⟨aliases, hmakes⟩ | hmakes
  · cases hmakes with
    | @struct type attributes tag _ body found kind record made =>
      obtain ⟨own, hown, resolved, -, rfl⟩ := exists_mem_of_forall₂ made hfield
      obtain ⟨id, -, -, htag⟩ := definedTag_eq_some_iff.mp found
      exact isLettered_of_tags hnames (List.mem_of_getElem? htag)
        (List.mem_cons_of_mem _ (List.mem_map_of_mem (List.mem_filter.mp hown).1))
  · cases hmakes

theorem PassContext.run_constants
    (hliterals : ∀ text ∈ context.literals declarations,
      (readInteger? (unescaped context.source.language.trigraphs text)).isSome = true)
    {name : String} {constants : List (String × Option String)}
    (h : .enumeration name constants ∈
      (context.run .start declarations).final.declared.artifacts) :
    ∀ constant ∈ constants, IsLettered constant.1 ∧ ∀ value ∈ constant.2, IsWrittenValue value := by
  obtain ⟨visit, hvisit, hmakes⟩ := exists_visit_of_mem_run h
  have hdeclaration := (mem_of_mem_visits hvisit).1
  intro constant hconstant
  obtain ⟨own, hown, hmade⟩ := exists_mem_of_forall₂ hmakes.enumerators hconstant
  constructor
  · rw [Enumerator.constant_name hmade]
    refine isLettered_of_declaration hnames hdeclaration ?_
    exact List.mem_append_left _ (List.mem_append_left _ (List.mem_map_of_mem hown))
  · refine own.isWrittenValue hmade fun text htext hhead => hliterals text ?_
    refine List.mem_flatMap.mpr ⟨_, hdeclaration, List.mem_filterMap.mpr ⟨own, hown, ?_⟩⟩
    rw [htext]
    exact if_pos hhead

/-- If no artifact loses its name, there is a word to name every parameter after. -/
theorem PassContext.run_exists_render
    (hprefixes : ∀ artifact ∈ (context.run .start declarations).final.declared.artifacts,
      stripPrefix context.prefixes artifact.name ≠ "") :
    ∀ artifact ∈ (context.run .start declarations).final.declared.artifacts,
      ∃ text, artifact.render context.prefixes = .ok text := by
  intro artifact hartifact
  cases hrender : artifact.render context.prefixes with
  | ok text => exact ⟨text, rfl⟩
  | error e =>
    obtain ⟨-, signature, hsignature, parameter, hparameter, hnameless⟩ :=
      Artifact.render_eq_error_iff.mp ⟨e, hrender⟩
    obtain ⟨visit, hvisit, hmakes⟩ := exists_visit_of_mem_run hartifact
    obtain ⟨own, -, hmade⟩ := exists_mem_of_forall₂ (hmakes.written hsignature) hparameter
    obtain ⟨-, known, hfound, -, hblank⟩ := (parameter_nameless_iff hmade).mp hnameless
    obtain ⟨name, -, hlookup⟩ := List.exists_of_findSome?_eq_some hfound
    have hknown := mem_run_of_lookup hvisit hlookup
    refine absurd (String.toList_eq_nil_iff.mp ?_) (hprefixes known hknown)
    -- letters are not blank
    rw [List.eq_nil_iff_forall_not_mem]
    intro c hc
    have hword := isLettered_drop (run_isLettered hnames known hknown) _ c hc
    have hletter := of_isNameLetter (P := fun c => isNameLetter c = true → isBlank c = false)
      (by decide +kernel) hword hword
    rw [List.all_eq_true.mp hblank c hc] at hletter
    cases hletter

end

def Artifact.fieldNames : Artifact → List String
  | .struct _ fields => fields.map Field.name
  | _ => []

/-- Every artifact has a block, and where no field is without a name the block is Ruby source
exactly if Ruby takes the names in the artifact and its literals. -/
theorem run_block_isRuby_iff (context : PassContext) (declarations : List Declaration)
    (hnames : ∀ name ∈ context.cNames declarations, isCName name = true)
    (hliterals : ∀ text ∈ context.literals declarations,
      (readInteger? (unescaped context.source.language.trigraphs text)).isSome = true)
    (hprefixes : ∀ artifact ∈ (context.run .start declarations).final.declared.artifacts,
      stripPrefix context.prefixes artifact.name ≠ "") :
    ∀ artifact ∈ (context.run .start declarations).final.declared.artifacts,
      ∃ text, artifact.render context.prefixes = .ok text ∧
        ("" ∉ artifact.fieldNames → (IsRubyBlock text ↔ artifact.FitsRuby context.prefixes)) := by
  intro artifact hartifact
  obtain ⟨text, hrender⟩ := PassContext.run_exists_render hnames hprefixes artifact hartifact
  have hmade := context.run_madeFrom declarations artifact hartifact
  have hwords := PassContext.run_isLettered hnames
  have htree : ∃ block : RubyBlock, block.text = text ∧
      (block.IsValid ↔ artifact.FitsRuby context.prefixes) := by
    cases artifact with
    | enumeration name constants =>
      cases hrender
      have hconstants := PassContext.run_constants hnames hliterals hartifact
      exact exists_ruby_enumeration _ (hwords _ hartifact)
        (fun constant hconstant => (hconstants constant hconstant).1)
        fun constant hconstant => (hconstants constant hconstant).2
    | struct name fields =>
      cases hrender
      have hfields := PassContext.run_isLettered_fields hnames hartifact
      exact exists_ruby_struct _ (hwords _ hartifact)
        (fun field hfield => ⟨hfields field hfield, hmade _ (List.mem_map_of_mem hfield)⟩) hwords
    | callback name signature =>
      cases hrender
      exact exists_ruby_callback _ (hwords _ hartifact) hmade hwords
    | function name signature comment variadic =>
      exact exists_ruby_function _ (PassContext.run_isCName hnames _ hartifact) hmade hwords
        (PassContext.run_oneLine_texts hnames hartifact) hrender
  obtain ⟨block, rfl, hvalid⟩ := htree
  exact ⟨_, hrender, fun _ => block.isRubyBlock_text_iff.trans hvalid⟩

theorem mode_block_isRuby :
    (∀ name ∈ modeContext.cNames [modeVisit.declaration], isCName name = true) ∧
      modeContext.literals [modeVisit.declaration] = ["0x10"] ∧
      (readInteger? (unescaped modeContext.source.language.trigraphs "0x10")).isSome = true ∧
      (∀ artifact ∈ (modeContext.run .start [modeVisit.declaration]).final.declared.artifacts,
        stripPrefix modeContext.prefixes artifact.name ≠ "") ∧
      IsRubyBlock "  enum :mode, [\n    :read,\n    :write, 0x10,\n    :both,\n    :all\n  ]" := by
  have hrun : (modeContext.run .start [modeVisit.declaration]).final.declared.artifacts =
      [.enumeration "mode" modeValues] := by
    with_unfolding_all rfl
  have hnames : ∀ name ∈ modeContext.cNames [modeVisit.declaration], isCName name = true := by
    decide +kernel
  have hlist : modeContext.literals [modeVisit.declaration] = ["0x10"] := by decide +kernel
  have hread : (readInteger? (unescaped modeContext.source.language.trigraphs "0x10")).isSome =
      true := by decide +kernel
  have hliterals : ∀ text ∈ modeContext.literals [modeVisit.declaration],
      (readInteger? (unescaped modeContext.source.language.trigraphs text)).isSome = true := by
    rw [hlist]
    exact List.forall_mem_singleton.mpr hread
  have hprefixes : ∀ artifact ∈
      (modeContext.run .start [modeVisit.declaration]).final.declared.artifacts,
        stripPrefix modeContext.prefixes artifact.name ≠ "" := by
    rw [hrun]
    exact List.forall_mem_singleton.mpr (by decide)
  obtain ⟨text, hrender, hiff⟩ := run_block_isRuby_iff modeContext [modeVisit.declaration] hnames
    hliterals hprefixes (.enumeration "mode" modeValues) (hrun ▸ List.mem_singleton_self _)
  have htext : text =
      "  enum :mode, [\n    :read,\n    :write, 0x10,\n    :both,\n    :all\n  ]" := by
    have hblock : (Artifact.enumeration "mode" modeValues).render modeContext.prefixes =
        .ok "  enum :mode, [\n    :read,\n    :write, 0x10,\n    :both,\n    :all\n  ]" := by
      decide +kernel
    exact Except.ok.inj (hrender.symm.trans hblock)
  have hplain : IsPlainValue "0x10" := fun _ =>
    ⟨16, by decide, ⟨16, false, .none⟩, by decide, rfl, rfl⟩
  have hvalues : ∀ constant ∈ modeValues, ∀ value ∈ constant.2, IsPlainValue value := by
    simpa [modeValues] using hplain
  have hmembers : ∀ constant ∈ modeValues, FitsSymbol modeContext.prefixes (String.ofList
      (constant.1.toList.drop (constantPrefixLength (modeValues.map (·.1))))) := by decide +kernel
  refine ⟨hnames, hlist, hread, hprefixes, htext ▸ (hiff List.not_mem_nil).mpr ⟨by decide, ?_⟩⟩
  exact fun constant hconstant => ⟨hmembers constant hconstant, hvalues constant hconstant⟩

/-- A struct that has a name in small letters. -/
def pointSettings : Settings :=
  { Settings.default with
    moduleName := .string "M"
    library := .string "m"
    headers := [.string "point.h"] }

def pointUnit : TranslationUnit :=
  pointSettings.unit [] (.ofFiles [("point.h", "typedef struct \x7b int x; int y; \x7d point;\n")])

def pointBlock : RubyBlock :=
  .layout ⟨"point", by decide⟩
    [⟨⟨"x", by decide⟩, .symbol ⟨"int", by decide⟩⟩, ⟨⟨"y", by decide⟩, .symbol ⟨"int", by decide⟩⟩]

theorem point_block_not_isRuby :
    let artifacts := (pointSettings.run pointUnit).final.declared.artifacts
    ¬ ∀ artifact ∈ artifacts, ∃ text, artifact.render [] = .ok text ∧ IsRubyBlock text := by
  intro artifacts h
  have hblocks : artifacts.map (·.render []) = [.ok pointBlock.text] := by decide +kernel
  clear_value artifacts
  have hmem : .ok pointBlock.text ∈ artifacts.map (·.render []) := by
    rw [hblocks]
    exact List.mem_singleton_self _
  obtain ⟨artifact, hartifact, hrender⟩ := List.mem_map.mp hmem
  obtain ⟨text, htext, hruby⟩ := h artifact hartifact
  rw [← Except.ok.inj (hrender.symm.trans htext), pointBlock.isRubyBlock_text_iff] at hruby
  exact absurd hruby.1.2.1 (by decide)

end HeaderBindings
