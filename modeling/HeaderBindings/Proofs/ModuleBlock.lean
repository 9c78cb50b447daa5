import HeaderBindings.Proofs.CommentText
import HeaderBindings.Proofs.DefinitionOrder
import HeaderBindings.Proofs.NameText

/-! The blocks of a rendered module can be told apart. If the texts of the artifacts are lines, then
no block has a blank line, whatever the comments say, and comment text only gets to lines that start
as comments do. -/

namespace HeaderBindings

/-! The texts of an artifact. -/

/-- The texts that a type writes: a reference only that of the name it leads to. -/
def ForeignType.texts : ForeignType → List String
  | .integer name _ _ => [name]
  | .floating name _ => [name]
  | .void => []
  | .pointer => []
  | .string => []
  | .array element _ => element.texts
  | .reference artifact => [artifact.name]

def Parameter.texts (parameter : Parameter) : List String :=
  parameter.name :: parameter.label :: parameter.type.texts

def Signature.texts (signature : Signature) : List String :=
  signature.parameters.flatMap Parameter.texts ++ signature.resultLabel :: signature.result.texts

theorem Signature.texts_of_parameter {signature : Signature} {parameter : Parameter}
    (hparameter : parameter ∈ signature.parameters) {text : String} (h : text ∈ parameter.texts) :
    text ∈ signature.texts :=
  List.mem_append_left _ (List.mem_flatMap.mpr ⟨parameter, hparameter, h⟩)

/-- All texts that an artifact writes but its comment. -/
def Artifact.texts : Artifact → List String
  | .enumeration name constants =>
    name :: constants.flatMap fun constant => constant.1 :: constant.2.toList
  | .struct name fields => name :: fields.flatMap fun field => field.name :: field.type.texts
  | .callback name signature => name :: signature.texts
  | .function name signature _ _ => name :: signature.texts

variable (prefixes : List String)

/-! Pieces of code. -/

theorem oneLine_toString (n : Int) : OneLine (toString n) := by
  have hdigits : ∀ m : Nat, '\n' ∉ Nat.toDigits 10 m := by
    intro m h
    have hdigit := Nat.isDigit_of_mem_toDigits (by decide) (by decide) h
    cases hdigit
  cases n with
  | ofNat m => exact oneLine_ofList.mpr (hdigits m)
  | negSucc m => exact oneLine_append.mpr ⟨by decide, oneLine_ofList.mpr (hdigits _)⟩

theorem oneLine_reference {artifact : Artifact} (h : OneLine artifact.name) :
    OneLine (artifact.reference prefixes) := by
  have hsymbol : OneLine (":" ++ memberIdentifier prefixes artifact.name) :=
    oneLine_append.mpr ⟨by decide, oneLine_memberIdentifier prefixes h⟩
  cases artifact with
  | struct name fields => exact oneLine_append.mpr ⟨oneLine_typeIdentifier prefixes h, by decide⟩
  | _ => exact hsymbol

theorem ForeignType.oneLine_render {type : ForeignType} (h : ∀ text ∈ type.texts, OneLine text) :
    OneLine (type.render prefixes) := by
  fun_induction ForeignType.texts type with
  | case1 name => exact oneLine_append.mpr ⟨by decide, h name List.mem_cons_self⟩
  | case2 name => exact oneLine_append.mpr ⟨by decide, h name List.mem_cons_self⟩
  | case3 => exact (by decide : OneLine ":void")
  | case4 => exact (by decide : OneLine ":pointer")
  | case5 => exact (by decide : OneLine ":string")
  | case6 element length ih =>
    simp only [render, oneLine_append]
    exact ⟨⟨⟨⟨by decide, ih h⟩, by decide⟩, oneLine_toString length⟩, by decide⟩
  | case7 artifact => exact oneLine_reference prefixes (h _ List.mem_cons_self)

theorem oneLine_renderSignature {signature : Signature}
    (h : ∀ text ∈ signature.texts, OneLine text) (variadic : Bool) :
    OneLine (renderSignature prefixes signature variadic) := by
  simp only [renderSignature, oneLine_append]
  refine ⟨⟨⟨by decide, oneLine_joinStrings (by decide) fun type htype => ?_⟩, by decide⟩, ?_⟩
  · rcases List.mem_append.mp htype with htype | htype
    · obtain ⟨parameter, hparameter, rfl⟩ := List.mem_map.mp htype
      refine ForeignType.oneLine_render prefixes fun text htext => h text ?_
      exact Signature.texts_of_parameter hparameter
        (List.mem_cons_of_mem _ (List.mem_cons_of_mem _ htext))
    · split at htype
      · rw [List.mem_singleton.mp htype]
        decide
      · cases htype
  · refine ForeignType.oneLine_render prefixes fun text htext => h text ?_
    exact List.mem_append_right _ (List.mem_cons_of_mem _ htext)

theorem mem_of_mem_afterLastScope {text : List Char} {c : Char} (h : c ∈ afterLastScope text) :
    c ∈ text := by
  fun_induction afterLastScope text with
  | case1 => exact h
  | case2 rest ih => exact List.mem_cons_of_mem _ (List.mem_cons_of_mem _ (ih h))
  | case3 d rest _ _ ih => exact List.mem_cons_of_mem _ (ih h)
  | case4 => exact h

theorem Parameter.oneLine_identifier {parameter : Parameter} {identifier : String}
    (h : ∀ text ∈ parameter.texts, OneLine text)
    (hidentifier : parameter.identifier prefixes = .ok identifier) : OneLine identifier := by
  unfold Parameter.identifier at hidentifier
  split at hidentifier
  · rw [← Except.ok.inj hidentifier]
    exact oneLine_memberIdentifier prefixes (h _ List.mem_cons_self)
  · split at hidentifier
    · next word hword =>
      rw [← Except.ok.inj hidentifier]
      refine oneLine_memberIdentifier prefixes (oneLine_ofList.mpr fun hmem => ?_)
      have hlabel : OneLine parameter.label := h _ (List.mem_cons_of_mem _ List.mem_cons_self)
      rcases (mem_wordsFrom (List.mem_of_getLast? hword)).2 _ (mem_of_mem_afterLastScope hmem)
        with hmem | hmem
      · cases hmem
      · exact hlabel hmem.1
    · cases hidentifier

/-! Lines of documentation. -/

theorem isPrefix_trimEnd {opening text : List Char} {c : Char} (hc : isBlank c = false)
    (h : opening ++ [c] <+: text) : opening ++ [c] <+: trimEnd text := by
  obtain ⟨rest, rfl⟩ := h
  unfold trimEnd
  rw [List.reverse_append, List.dropWhile_append]
  have hkeep : (opening ++ [c]).reverse.dropWhile isBlank = (opening ++ [c]).reverse := by
    rw [List.reverse_append, List.reverse_singleton, List.singleton_append]
    exact List.dropWhile_cons_of_neg (by simp [hc])
  split
  · exact ⟨[], by rw [hkeep, List.reverse_reverse, List.append_nil]⟩
  · rw [List.reverse_append, List.reverse_reverse]
    exact List.prefix_append _ _

/-- A line that starts as the documentation of a function does. -/
structure IsRemark (line : String) : Prop where
  opening : "  #".toList <+: line.toList
  oneLine : OneLine line

theorem IsRemark.append {line rest : String} (h : IsRemark line) (hrest : OneLine rest) :
    IsRemark (line ++ rest) where
  opening := by
    rw [String.toList_append]
    exact h.opening.trans (List.prefix_append _ _)
  oneLine := oneLine_append.mpr ⟨h.oneLine, hrest⟩

theorem IsRemark.trimEnd {line : String} (h : IsRemark line) : IsRemark (trimEndString line) where
  opening := by
    have hmark : "  #".toList = [' ', ' '] ++ ['#'] := rfl
    have hopening := h.opening
    rw [hmark] at hopening ⊢
    rw [trimEndString, String.toList_ofList]
    exact isPrefix_trimEnd rfl hopening
  oneLine := oneLine_ofList.mpr fun hmem => h.oneLine ((trimEnd_sublist _).subset hmem)

/-- Whatever a comment says, documentation consists of lines that start as comments do. -/
theorem isRemark_of_mem_renderDocumentation {name line : String} {signature : Signature}
    {comment : String} {identifiers : List String}
    (hname : OneLine name) (hsignature : ∀ text ∈ signature.texts, OneLine text)
    (hidentifiers : ∀ identifier ∈ identifiers, OneLine identifier)
    (h : line ∈ renderDocumentation prefixes name signature
      (DocComment.parse comment (signature.parameters.map (·.name))) identifiers) :
    IsRemark line := by
  unfold renderDocumentation at h
  simp only [List.mem_append, List.mem_cons, List.not_mem_nil, or_false] at h
  rcases h with ((h | rfl) | h) | rfl | rfl
  · have hmark : IsRemark "  #" := ⟨by decide, by decide⟩
    split at h
    · cases h
    · rcases List.mem_append.mp h with h | h
      · obtain ⟨text, htext, rfl⟩ := List.mem_map.mp h
        exact (hmark.append (oneLine_of_mem_description htext)).trimEnd
      · rwa [List.mem_singleton.mp h]
  · have hmark : IsRemark "  # @method " := ⟨by decide, by decide⟩
    have hmethod := hmark.append (oneLine_memberIdentifier prefixes hname)
    have hlist : OneLine (joinStrings ", " identifiers) :=
      oneLine_joinStrings (by decide) hidentifiers
    exact ((hmethod.append (by decide)).append hlist).append (by decide)
  · obtain ⟨⟨identifier, parameter⟩, hentry, rfl⟩ := List.mem_map.mp h
    obtain ⟨hidentifier, hparameter⟩ := List.of_mem_zip hentry
    have hmark : IsRemark "  # @param [" := ⟨by decide, by decide⟩
    have hlabel : OneLine parameter.label :=
      hsignature _ (Signature.texts_of_parameter hparameter
        (List.mem_cons_of_mem _ List.mem_cons_self))
    have htyped := (hmark.append hlabel).append (by decide : OneLine "] ")
    have hnamed := (htyped.append (hidentifiers identifier hidentifier)).append
      (by decide : OneLine " ")
    exact (hnamed.append (oneLine_joinLines _)).trimEnd
  · have hmark : IsRemark "  # @return [" := ⟨by decide, by decide⟩
    have hlabel : OneLine signature.resultLabel :=
      hsignature _ (List.mem_append_right _ List.mem_cons_self)
    have htyped := (hmark.append hlabel).append (by decide : OneLine "] ")
    exact (htyped.append (oneLine_joinLines _)).trimEnd
  · exact ⟨by decide, by decide⟩

/-! Blocks. -/

theorem isBlankLine_of_mem {line : String} {c : Char} (h : c ∈ line.toList) (hc : isBlank c = false) :
    isBlankLine line = false := by
  rw [isBlankLine, isBlankText, List.all_eq_false]
  exact ⟨c, h, by simp [hc]⟩

theorem isBlankLine_of_isFilled {block line : String} (h : isFilled false block.toList = true)
    (hline : line ∈ linesOf block) : isBlankLine line = false := by
  obtain ⟨first, rest, hsplit, hfirst, hrest⟩ := exists_lines_of_isFilled h
  obtain ⟨piece, hpiece, rfl⟩ := List.mem_map.mp hline
  rw [hsplit] at hpiece
  rw [isBlankLine, String.toList_ofList]
  rcases List.mem_cons.mp hpiece with rfl | hpiece
  · exact hfirst rfl
  · exact hrest piece hpiece

theorem isFilled_toList_append {begun : Bool} {first second : String}
    (hfirst : isFilled begun first.toList = true) (hsecond : isFilled true second.toList = true) :
    isFilled begun (first ++ second).toList = true := by
  rw [String.toList_append]
  exact isFilled_append hfirst hsecond

theorem OneLine.isFilled {text : String} (h : OneLine text) : isFilled true text.toList = true :=
  isFilled_of_not_mem h

theorem isFilled_joinStrings {begun : Bool} {separator : String} {pieces : List String}
    (hseparator : ∀ text, isFilled begun text = true →
      isFilled true (separator.toList ++ text) = true)
    (hpieces : ∀ piece ∈ pieces, isFilled begun piece.toList = true)
    (hnone : pieces = [] → begun = true) :
    isFilled begun (joinStrings separator pieces).toList = true := by
  rw [joinStrings, String.toList_ofList]
  refine isFilled_joinWith hseparator ?_ ?_
  · intro text htext
    obtain ⟨piece, hpiece, rfl⟩ := List.mem_map.mp htext
    exact hpieces piece hpiece
  · intro hnil
    exact hnone (List.map_eq_nil_iff.mp hnil)

theorem isFilled_renderConstant {constant : String × Option String} (skipped : Nat)
    (h : ∀ text ∈ constant.1 :: constant.2.toList, OneLine text) :
    isFilled true (renderConstant prefixes skipped constant).toList = true := by
  obtain ⟨hname, hvalue⟩ := List.forall_mem_cons.mp h
  have hshort : OneLine (String.ofList (constant.1.toList.drop skipped)) :=
    oneLine_ofList.mpr fun hmem => hname ((List.drop_sublist _ _).subset hmem)
  have hidentifier := (oneLine_memberIdentifier prefixes hshort).isFilled
  unfold renderConstant
  refine isFilled_toList_append (isFilled_toList_append (by decide) hidentifier) ?_
  cases hconstant : constant.2 with
  | none => rfl
  | some value =>
    rw [hconstant] at hvalue
    have hline : OneLine (", " ++ value) :=
      oneLine_append.mpr ⟨by decide, hvalue value (List.mem_singleton_self value)⟩
    exact hline.isFilled

theorem isFilled_renderEnumeration {name : String} {constants : List (String × Option String)}
    (h : ∀ text ∈ (Artifact.enumeration name constants).texts, OneLine text) :
    isFilled false (renderEnumeration prefixes name constants).toList = true := by
  obtain ⟨hname, hconstants⟩ := List.forall_mem_cons.mp h
  have hidentifier := (oneLine_memberIdentifier prefixes hname).isFilled
  have hopening : isFilled false ("  enum :" ++ memberIdentifier prefixes name ++ ", [").toList =
      true :=
    isFilled_toList_append (isFilled_toList_append (by decide) hidentifier) (by decide)
  have hlines : ∀ skipped, isFilled true
      (joinStrings "," (constants.map (renderConstant prefixes skipped))).toList = true := by
    intro skipped
    refine isFilled_joinStrings (fun _ htext => htext) (fun line hline => ?_) fun _ => rfl
    obtain ⟨constant, hconstant, rfl⟩ := List.mem_map.mp hline
    refine isFilled_renderConstant prefixes skipped fun text htext => hconstants text ?_
    exact List.mem_flatMap.mpr ⟨constant, hconstant, htext⟩
  exact isFilled_toList_append (isFilled_toList_append hopening (hlines _)) (by decide)

theorem isFilled_fieldSeparator {text : List Char} (h : isFilled false text = true) :
    isFilled true (",\n           ".toList ++ text) = true := by
  simpa [isFilled, isBlank] using h

theorem isFilled_renderField {field : Field} (hname : OneLine field.name)
    (htype : ∀ text ∈ field.type.texts, OneLine text) :
    isFilled false (renderField prefixes field).toList = true := by
  have hidentifier := (oneLine_memberIdentifier prefixes hname).isFilled
  have hrest : OneLine (", " ++ field.type.render prefixes) :=
    oneLine_append.mpr ⟨by decide, ForeignType.oneLine_render prefixes htype⟩
  rw [renderField, String.append_assoc]
  exact isFilled_toList_append (isFilled_toList_append (by decide) hidentifier) hrest.isFilled

theorem isFilled_renderStruct {name : String} {fields : List Field}
    (h : ∀ text ∈ (Artifact.struct name fields).texts, OneLine text) :
    isFilled false (renderStruct prefixes name fields).toList = true := by
  obtain ⟨hname, hfields⟩ := List.forall_mem_cons.mp h
  have hidentifier := (oneLine_typeIdentifier prefixes hname).isFilled
  have hopening : isFilled false ("  class " ++ typeIdentifier prefixes name ++
      " < FFI::Struct\n    layout ").toList = true :=
    isFilled_toList_append (isFilled_toList_append (by decide) hidentifier) (by decide)
  have hlayout : isFilled true (renderLayout prefixes fields).toList = true := by
    unfold renderLayout
    split
    · decide
    · next hsome =>
      refine isFilled_mono (isFilled_joinStrings (fun _ => isFilled_fieldSeparator) ?_ ?_)
      · intro line hline
        obtain ⟨field, hfield, rfl⟩ := List.mem_map.mp hline
        obtain ⟨hfieldName, htype⟩ := List.forall_mem_cons.mp fun text htext =>
          hfields text (List.mem_flatMap.mpr ⟨field, hfield, htext⟩)
        exact isFilled_renderField prefixes hfieldName htype
      · intro hnil
        rw [List.map_eq_nil_iff.mp hnil] at hsome
        exact absurd rfl hsome
  exact isFilled_toList_append (isFilled_toList_append hopening hlayout) (by decide)

theorem isFilled_renderCallback {name : String} {signature : Signature}
    (h : ∀ text ∈ (Artifact.callback name signature).texts, OneLine text) :
    isFilled false (renderCallback prefixes name signature).toList = true := by
  obtain ⟨hname, hsignature⟩ := List.forall_mem_cons.mp h
  have hidentifier := (oneLine_memberIdentifier prefixes hname).isFilled
  have hopening : isFilled false ("  callback :" ++ memberIdentifier prefixes name ++ ", ").toList =
      true :=
    isFilled_toList_append (isFilled_toList_append (by decide) hidentifier) (by decide)
  exact isFilled_toList_append hopening (oneLine_renderSignature prefixes hsignature false).isFilled

/-- The line that binds a function comes last, behind comment lines, whatever the comment says. -/
theorem linesOf_renderFunction {name block comment : String} {signature : Signature}
    {variadic : Bool}
    (h : ∀ text ∈ (Artifact.function name signature comment variadic).texts, OneLine text)
    (hblock : renderFunction prefixes name signature comment variadic = .ok block) (other : String) :
    ∃ block' remarks, renderFunction prefixes name signature other variadic = .ok block' ∧
      linesOf block' = remarks ++ [renderAttachment prefixes name signature variadic] ∧
      ∀ line ∈ remarks, IsRemark line := by
  have hname : OneLine name := h name List.mem_cons_self
  have hsignature : ∀ text ∈ signature.texts, OneLine text :=
    fun text htext => h text (List.mem_cons_of_mem _ htext)
  obtain ⟨identifiers, hmade, -⟩ := bind_eq_ok_iff.mp hblock
  have hidentifiers : ∀ identifier ∈ identifiers, OneLine identifier := by
    intro identifier hidentifier
    obtain ⟨parameter, hparameter, hmade⟩ :=
      exists_mem_of_forall₂ (mapM_eq_ok_iff.mp hmade) hidentifier
    refine parameter.oneLine_identifier prefixes (fun text htext => hsignature text ?_) hmade
    exact Signature.texts_of_parameter hparameter htext
  have hremarks : ∀ line ∈ renderDocumentation prefixes name signature
      (DocComment.parse other (signature.parameters.map (·.name))) identifiers,
      IsRemark line := fun line =>
    isRemark_of_mem_renderDocumentation prefixes hname hsignature hidentifiers
  have hattachment : OneLine (renderAttachment prefixes name signature variadic) := by
    unfold renderAttachment
    simp only [oneLine_append]
    exact ⟨⟨⟨⟨⟨by decide, oneLine_memberIdentifier prefixes hname⟩, by decide⟩, hname⟩,
      by decide⟩, oneLine_renderSignature prefixes hsignature variadic⟩
  have hlines : ∀ line ∈ renderDocumentation prefixes name signature
      (DocComment.parse other (signature.parameters.map (·.name))) identifiers ++
        [renderAttachment prefixes name signature variadic], OneLine line := by
    intro line hline
    rcases List.mem_append.mp hline with hline | hline
    · exact (hremarks line hline).oneLine
    · rwa [List.mem_singleton.mp hline]
  refine ⟨_, _, bind_eq_ok_iff.mpr ⟨identifiers, hmade, rfl⟩,
    linesOf_joinStrings (List.append_ne_nil_of_right_ne_nil _ (List.cons_ne_nil _ _)) hlines, ?_⟩
  exact hremarks

theorem isBlankLine_of_mem_render {artifact : Artifact} {block line : String}
    (h : ∀ text ∈ artifact.texts, OneLine text) (hblock : artifact.render prefixes = .ok block)
    (hline : line ∈ linesOf block) : isBlankLine line = false := by
  cases artifact with
  | enumeration name constants =>
    cases hblock
    exact isBlankLine_of_isFilled (isFilled_renderEnumeration prefixes h) hline
  | struct name fields =>
    cases hblock
    exact isBlankLine_of_isFilled (isFilled_renderStruct prefixes h) hline
  | callback name signature =>
    cases hblock
    exact isBlankLine_of_isFilled (isFilled_renderCallback prefixes h) hline
  | function name signature comment variadic =>
    obtain ⟨_, remarks, hrender, hlines, hremarks⟩ := linesOf_renderFunction prefixes h hblock comment
    have hsame := Except.ok.inj (hblock.symm.trans hrender)
    rw [hsame, hlines, List.mem_append, List.mem_singleton] at hline
    rcases hline with hline | rfl
    · exact isBlankLine_of_mem (c := '#') ((hremarks line hline).opening.subset (by decide)) rfl
    · refine isBlankLine_of_mem (c := ':') ?_ rfl
      unfold renderAttachment
      simp

/-- If the texts of its artifacts are lines, a module has one stretch without blank lines for each
artifact, in order. A function's stretch is comment lines and then the line that binds it, which no
comment changes. -/
theorem renderModule_paragraphs {moduleName library text : String} {artifacts : List Artifact}
    (hne : artifacts ≠ []) (htexts : ∀ artifact ∈ artifacts, ∀ text ∈ artifact.texts, OneLine text)
    (h : renderModule moduleName library prefixes artifacts = .ok text) :
    ∃ blocks, List.Forall₂ (fun artifact block => artifact.render prefixes = .ok block)
        artifacts blocks ∧
      text = "# Generated by h2ffi. Please do not change this file by hand.\n\nrequire 'ffi'\n\nmodule "
        ++ moduleName ++ "\n  extend FFI::Library\n  ffi_lib '" ++ library ++ "'\n\n"
        ++ joinStrings "\n\n" blocks ++ "\n\nend\n" ∧
      paragraphs (joinStrings "\n\n" blocks) = blocks ∧
      (∀ block ∈ blocks, ∀ line ∈ linesOf block, isBlankLine line = false) ∧
      ∀ name signature comment variadic, .function name signature comment variadic ∈ artifacts →
        ∀ other, ∃ block remarks,
          (Artifact.function name signature other variadic).render prefixes = .ok block ∧
          linesOf block = remarks ++ [renderAttachment prefixes name signature variadic] ∧
          ∀ line ∈ remarks, IsRemark line := by
  obtain ⟨blocks, hmade, hmodule⟩ := bind_eq_ok_iff.mp h
  have hblocks := mapM_eq_ok_iff.mp hmade
  have hfilled : ∀ block ∈ blocks, ∀ line ∈ linesOf block, isBlankLine line = false := by
    intro block hblock line hline
    obtain ⟨artifact, hartifact, hrender⟩ := exists_mem_of_forall₂ hblocks hblock
    exact isBlankLine_of_mem_render prefixes (htexts artifact hartifact) hrender hline
  have hsome : blocks ≠ [] := by
    rintro rfl
    exact hne (List.forall₂_nil_right_iff.mp hblocks)
  refine ⟨blocks, hblocks, (Except.ok.inj hmodule).symm, paragraphs_joinStrings hsome hfilled,
    hfilled, fun name signature comment variadic hfunction other => ?_⟩
  obtain ⟨i, hi, hget⟩ := List.mem_iff_getElem.mp hfunction
  have hrender := hblocks.get hi (hblocks.length_eq ▸ hi)
  rw [List.get_eq_getElem, hget] at hrender
  exact linesOf_renderFunction prefixes (htexts _ hfunction) hrender other

/-- An enum, and a function with a comment that tries to end the module. -/
def shoutArtifacts : List Artifact :=
  [.enumeration "pal_ink" [("PAL_RED", some "0"), ("PAL_BLUE", none)],
    .function "pal_show" ⟨[⟨"row", .integer "int" true 32, "Integer"⟩], .void, "nil"⟩
      "/**\n * Shows a row.\n\nend\n * \\param row the\n\nrow\n * \\returns [all]\n\n */" false]

def shoutBlocks : List String :=
  ["  enum :ink, [\n    :red, 0,\n    :blue\n  ]",
    "  # Shows a row.\n  #\n  #end\n  #\n  # @method show(row)\n  # @param [Integer] row the row\n"
      ++ "  # @return [nil] (all)\n  # @scope class\n"
      ++ "  attach_function :show, :pal_show, [:int], :void"]

theorem shout_paragraphs :
    (∀ artifact ∈ shoutArtifacts, ∀ text ∈ artifact.texts, OneLine text) ∧
      shoutArtifacts.mapM (·.render ["pal_"]) = .ok shoutBlocks ∧
      (∃ text, renderModule "Palette" "palette" ["pal_"] shoutArtifacts = .ok text) ∧
      paragraphs (joinStrings "\n\n" shoutBlocks) = shoutBlocks := by
  have hsome : shoutArtifacts ≠ [] := List.cons_ne_nil _ _
  have htexts : ∀ artifact ∈ shoutArtifacts, ∀ text ∈ artifact.texts, OneLine text := by decide
  have hmade : shoutArtifacts.mapM (·.render ["pal_"]) = .ok shoutBlocks := by decide +kernel
  have hmodule : ∃ text, renderModule "Palette" "palette" ["pal_"] shoutArtifacts = .ok text :=
    ⟨_, bind_eq_ok_iff.mpr ⟨shoutBlocks, hmade, rfl⟩⟩
  obtain ⟨text, htext⟩ := hmodule
  obtain ⟨blocks, hblocks, -, hparagraphs, -⟩ := renderModule_paragraphs ["pal_"] hsome htexts htext
  have hsame : blocks = shoutBlocks := Except.ok.inj ((mapM_eq_ok_iff.mpr hblocks).symm.trans hmade)
  exact ⟨htexts, hmade, ⟨text, htext⟩, hsame ▸ hparagraphs⟩

end HeaderBindings
