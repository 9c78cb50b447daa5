import HeaderBindings.Proofs.Reference
import HeaderBindings.Proofs.CanonicalType

/-! Where a reference comes from. Type names and tags are symbols of one table, so a type refers to
the artifact of the first declaration that took its spelling, be it the type's own or not. -/

namespace HeaderBindings

variable {context : PassContext} {declaration : Declaration} {artifact : Artifact}

/-! What a declaration does to the table of symbols. -/

/-- The tag that a declaration declares, or that its type name is made of. -/
def PassContext.tagOf? (context : PassContext) (declaration : Declaration) : Option Nat :=
  match declaration.body with
  | .tag id _ => some id
  | .typeName type attributes => context.ownTag? type attributes
  | _ => none

/-- The tag of a struct is a second name for it. -/
def PassContext.aliases (context : PassContext) (declaration : Declaration) :
    Artifact → List String
  | .struct _ _ =>
    ((((context.tagOf? declaration).bind (context.tags[·]?)).toList.filter
      (!·.isAnonymous)).map Tag.spelling)
  | _ => []

/-- The names under which types can refer to what a visit adds. -/
def PassContext.taken (context : PassContext) (visit : Visit) : List String :=
  ((context.added visit).filter Artifact.isType).flatMap fun artifact =>
    artifact.name :: context.aliases visit.declaration artifact

theorem PassContext.MakesType.aliases_eq {symbols : SymbolTable} {aliases : List String}
    (h : context.MakesType symbols declaration artifact aliases) :
    aliases = context.aliases declaration artifact := by
  cases h with
  | @struct type attributes tag fields body found kind record made =>
    obtain ⟨id, hchildren, rfl, htag⟩ := definedTag_eq_some_iff.mp found
    have hown : context.tagOf? declaration = some id := by
      rw [tagOf?, body]
      exact (ownTag?_of_tag hchildren htag).trans (if_pos (.inl ⟨kind, record⟩))
    rw [aliases, hown, Option.bind_some, htag]
    by_cases hanonymous : tag.isAnonymous = true <;> simp [hanonymous]
  | _ => rfl

theorem SymbolTable.lookup_bind (symbols : SymbolTable) (key name : String)
    (artifact : Artifact) :
    (symbols.bind key artifact).lookup name =
      (symbols.lookup name).or (if name = key then some artifact else none) := by
  unfold SymbolTable.bind
  split
  · next found hfound =>
    by_cases hname : name = key
    · subst hname
      rw [hfound, Option.some_or]
    · rw [if_neg hname, Option.or_none]
  · next hnone =>
    rw [List.lookup_append]
    by_cases hname : name = key
    · subst hname
      simp [hnone]
    · simp [List.lookup_cons, beq_eq_false_iff_ne.mpr hname, hname]

theorem Declared.lookup_declare (declared : Declared) (artifact : Artifact)
    (aliases : List String) (name : String) :
    (declared.declare artifact aliases).symbols.lookup name =
      (declared.symbols.lookup name).or
        (if name ∈ artifact.name :: aliases then some artifact else none) := by
  unfold Declared.declare
  generalize artifact.name :: aliases = keys
  generalize declared.symbols = symbols
  induction keys generalizing symbols with
  | nil => simp
  | cons key rest ih =>
    rw [List.foldl_cons, ih, SymbolTable.lookup_bind, Option.or_assoc]
    by_cases hname : name = key
    · simp [hname]
    · simp [hname]

/-- A name that nobody has taken becomes a name for what the visit adds. -/
theorem PassContext.lookup_visit (context : PassContext) (visit : Visit) (name : String) :
    (context.visit visit.before visit.declaration).1.declared.symbols.lookup name =
      (visit.before.declared.symbols.lookup name).or
        (if name ∈ context.taken visit then (context.added visit).head? else none) := by
  have hadds := context.visit_adds visit.before visit.declaration
  unfold taken added
  generalize (context.visit visit.before visit.declaration).1.declared = next at hadds ⊢
  cases hadds with
  | nothing => simp
  | @type artifact aliases made =>
    have htype : artifact.isType = true := made.isType
    rw [Declared.lookup_declare, made.aliases_eq]
    simp [Declared.declare, htype]
  | @function artifact made =>
    have htype : artifact.isType = false := by
      cases made
      rfl
    simp [Declared.append, htype]

def PassContext.taker? (context : PassContext) (visits : List Visit) (name : String) :
    Option Visit :=
  visits.find? fun visit => decide (name ∈ context.taken visit)

theorem PassContext.added_of_mem_taken {visit : Visit} {name : String}
    (h : name ∈ context.taken visit) :
    ∃ artifact, context.added visit = [artifact] ∧ artifact.isType = true := by
  obtain ⟨artifact, hartifact, -⟩ := List.mem_flatMap.mp h
  obtain ⟨hadded, htype⟩ := List.mem_filter.mp hartifact
  exact ⟨artifact, (makes_of_mem_added hadded).1, htype⟩

/-- A symbol stands for what the first visit that took the name has added. -/
theorem PassContext.lookup_before {state : PassState} {declarations : List Declaration}
    {before after : List Visit} {visit : Visit}
    (h : context.visits state declarations = before ++ visit :: after) (name : String) :
    visit.before.declared.symbols.lookup name =
      (state.declared.symbols.lookup name).or
        ((context.taker? before name).bind fun earlier => (context.added earlier).head?) := by
  induction before generalizing state declarations with
  | nil =>
    obtain ⟨rfl, -⟩ := visits_eq_cons h
    exact (Option.or_none).symm
  | cons earlier before ih =>
    -- what the first visit takes is settled: the rest of the pass finds it in the table
    obtain ⟨rfl, later, hlater⟩ := visits_eq_cons h
    rw [ih hlater.symm, context.lookup_visit, Option.or_assoc]
    congr 1
    unfold taker?
    rw [List.find?_cons]
    by_cases htaken : name ∈ context.taken earlier
    · obtain ⟨artifact, hadded, -⟩ := added_of_mem_taken htaken
      simp [htaken, hadded]
    · simp [htaken]

/-! The spellings of a type. -/

/-- The names that a type is looked up by: that of the declaration that it shows, and that of the
tag that it stands for. -/
def CType.spellings (tags : TagTable) (type : CType) : List String :=
  [type.shown.declaredName tags, type.canonical.declaredName tags].filter (· ≠ "")

theorem CType.findSome?_spellings (tags : TagTable) (symbols : SymbolTable) (type : CType) :
    (type.spellings tags).findSome? (symbols.lookup ·) =
      (symbols.find? (type.shown.declaredName tags)).or
        (symbols.find? (type.canonical.declaredName tags)) := by
  unfold spellings SymbolTable.find?
  by_cases hshown : type.shown.declaredName tags = "" <;>
    by_cases hcanonical : type.canonical.declaredName tags = ""
  · simp [hshown, hcanonical]
  · cases hfound : symbols.lookup (type.canonical.declaredName tags) <;>
      simp [hshown, hcanonical, hfound]
  · cases hfound : symbols.lookup (type.shown.declaredName tags) <;>
      simp [hshown, hcanonical, hfound]
  · cases hfound : symbols.lookup (type.shown.declaredName tags) <;>
      cases hfound' : symbols.lookup (type.canonical.declaredName tags) <;>
        simp [hshown, hcanonical, hfound, hfound']

theorem resolveTag_eq_ofArtifact {target : Target} {tags : TagTable} {symbols : SymbolTable}
    {prefixes : List String} {id : Nat} {tag : Tag} (htag : tags[id]? = some tag)
    (hfound : symbols.find? tag.spelling = some artifact) :
    resolveTag target tags symbols prefixes id = .ok (.ofArtifact prefixes artifact) := by
  simp [resolveTag, htag, hfound]

theorem CType.resolve_eq_ofArtifact (target : Target) {tags : TagTable} {symbols : SymbolTable}
    (prefixes : List String) {type : CType}
    (h : (type.spellings tags).findSome? (symbols.lookup ·) = some artifact) :
    type.resolve target tags symbols prefixes = .ok (.ofArtifact prefixes artifact) := by
  rw [findSome?_spellings, declaredName_canonical] at h
  unfold CType.resolve
  dsimp only
  cases hshown : symbols.find? (type.shown.declaredName tags) with
  | some found =>
    rw [hshown] at h
    cases h
    rfl
  | none =>
    -- the second spelling is looked up only where the type turns out to be a tag
    rw [hshown, Option.none_or] at h
    dsimp only
    split at h
    · next id here hpeel =>
      cases htag : tags[id]? with
      | none =>
        rw [htag] at h
        cases h
      | some tag =>
        rw [htag] at h
        have hfind : symbols.find? tag.spelling = some artifact := h
        split
        case h_8 own written hown =>
          rw [hpeel] at hown
          cases hown
          exact resolveTag_eq_ofArtifact htag hfind
        all_goals
          next hother =>
            rw [hpeel] at hother
            cases hother
    · cases h

theorem ne_reference {type : ForeignType} (h : type.artifact? = none) (artifact : Artifact) :
    type ≠ .reference artifact := by
  rintro rfl
  cases h

theorem CType.spelled_of_resolve {target : Target} {tags : TagTable} {symbols : SymbolTable}
    {prefixes : List String} {type : CType} {resolved : Resolved}
    (h : type.resolve target tags symbols prefixes = .ok resolved)
    (hreference : resolved.type = .reference artifact) :
    (type.spellings tags).findSome? (symbols.lookup ·) = some artifact := by
  rw [findSome?_spellings, declaredName_canonical]
  unfold CType.resolve at h
  dsimp only at h
  split at h
  · next found hfound =>
    cases h
    cases hreference
    rw [hfound, Option.some_or]
  · next hnone =>
    rw [hnone, Option.none_or]
    split at h
    case h_1 => exact absurd hreference (ne_reference (BasicType.artifact?_resolve h) artifact)
    case h_2 => exact absurd hreference (ne_reference (artifact?_resolvePointer h) artifact)
    case h_4 =>
      obtain ⟨element, -, h⟩ := bind_eq_ok_iff.mp h
      cases h
      cases hreference
    case h_8 id here hpeel =>
      rw [hpeel]
      dsimp only
      unfold resolveTag at h
      split at h
      · cases h
      · next tag htag =>
        rw [htag]
        split at h
        · next found hfound =>
          cases h
          cases hreference
          exact hfound
        · split at h
          · exact absurd hreference (ne_reference (BasicType.artifact?_resolve h) artifact)
          · cases h
          · cases h
    all_goals cases h

theorem PassContext.resolve_reference_iff {symbols : SymbolTable} {type : CType} :
    (∃ resolved, context.resolve symbols type = .ok resolved ∧
      resolved.type = .reference artifact) ↔
    (context.oddPrefix = none ∨ artifact.hasNamedLabel = false) ∧
      (type.spellings context.tags).findSome? (symbols.lookup ·) = some artifact := by
  constructor
  · rintro ⟨resolved, hresolved, hreference⟩
    obtain ⟨hfound, hodd⟩ := resolve_eq_ok hresolved
    have hspelled := CType.spelled_of_resolve hfound hreference
    rw [CType.resolve_eq_ofArtifact context.target context.prefixes hspelled] at hfound
    cases hfound
    exact ⟨hodd, hspelled⟩
  · rintro ⟨hodd, hspelled⟩
    refine ⟨.ofArtifact context.prefixes artifact, ?_, rfl⟩
    unfold PassContext.resolve
    rw [CType.resolve_eq_ofArtifact context.target context.prefixes hspelled]
    cases hkind : context.oddPrefix with
    | none => rfl
    | some kind =>
      have hnamed := hodd.resolve_left (by simp [hkind])
      exact if_neg (by simp [Resolved.ofArtifact, hnamed])

/-! Origins. -/

/-- The visit whose artifact a type refers to, if it refers to one. -/
def PassContext.origin? (context : PassContext) (visits : List Visit) (type : CType) :
    Option Visit :=
  (type.spellings context.tags).findSome? (context.taker? visits)

/-- A declaration of the name that a type goes by, or of the tag that it stands for. -/
def PassContext.Declares (context : PassContext) (declaration : Declaration) (type : CType) :
    Prop :=
  (∃ meaning own attributes, type.shown = .spelled (.alias declaration.name) meaning ∧
    declaration.body = .typeName own attributes ∧ meaning.canonical = own.canonical) ∨
  ∃ id, context.tagOf? declaration = some id ∧ type.canonical = .tag id false

theorem PassContext.mem_of_origin? {visits : List Visit} {type : CType} {origin : Visit}
    (h : context.origin? visits type = some origin) :
    origin ∈ visits ∧ ∃ spelling ∈ type.spellings context.tags,
      spelling ∈ context.taken origin := by
  obtain ⟨spelling, hspelling, htaker⟩ := List.exists_of_findSome?_eq_some h
  have htaken := List.find?_some htaker
  rw [decide_eq_true_eq] at htaken
  exact ⟨List.mem_of_find?_eq_some htaker, spelling, hspelling, htaken⟩

theorem PassContext.findSome?_lookup_before {declarations : List Declaration}
    {before after : List Visit} {visit : Visit}
    (h : context.visits .start declarations = before ++ visit :: after) (type : CType) :
    (type.spellings context.tags).findSome? (visit.before.declared.symbols.lookup ·) =
      (context.origin? before type).bind fun origin => (context.added origin).head? := by
  unfold origin?
  generalize type.spellings context.tags = spellings
  induction spellings with
  | nil => rfl
  | cons spelling rest ih =>
    rw [List.findSome?_cons, List.findSome?_cons, context.lookup_before h, ih]
    cases htaker : context.taker? before spelling with
    | none => rfl
    | some earlier =>
      have htaken := List.find?_some htaker
      rw [decide_eq_true_eq] at htaken
      obtain ⟨artifact, hadded, -⟩ := added_of_mem_taken htaken
      simp [hadded, PassState.start, Declared.empty]

theorem PassContext.reference_iff_origin {declarations : List Declaration}
    {before after : List Visit} {visit : Visit}
    (h : context.visits .start declarations = before ++ visit :: after) (type : CType)
    (artifact : Artifact) :
    (∃ resolved, context.resolve visit.before.declared.symbols type = .ok resolved ∧
      resolved.type = .reference artifact) ↔
    (context.oddPrefix = none ∨ artifact.hasNamedLabel = false) ∧
      ∃ origin ∈ context.origin? before type, context.added origin = [artifact] := by
  rw [resolve_reference_iff, findSome?_lookup_before h, Option.bind_eq_some_iff]
  refine and_congr_right fun _ => exists_congr fun origin => and_congr_right fun horigin => ?_
  obtain ⟨-, spelling, -, htaken⟩ := mem_of_origin? horigin
  obtain ⟨own, hadded, -⟩ := added_of_mem_taken htaken
  simp [hadded]

/-- A type refers to what the first visit has added that took one of its spellings. That is the
visit of a declaration of its own if no other declaration took one. -/
theorem run_reference_iff (context : PassContext) {declarations : List Declaration}
    {before after : List Visit} {visit : Visit}
    (hvisits : context.visits .start declarations = before ++ visit :: after) (type : CType)
    (artifact : Artifact) :
    ((∃ resolved, context.resolve visit.before.declared.symbols type = .ok resolved ∧
        resolved.type = .reference artifact) ↔
      (context.oddPrefix = none ∨ artifact.hasNamedLabel = false) ∧
        ∃ origin ∈ context.origin? before type, context.added origin = [artifact]) ∧
    ((∀ earlier ∈ before, ∀ spelling ∈ type.spellings context.tags,
        spelling ∈ context.taken earlier → context.Declares earlier.declaration type) →
      ∀ resolved, context.resolve visit.before.declared.symbols type = .ok resolved →
        resolved.type = .reference artifact → ∃ origin ∈ before,
          context.Declares origin.declaration type ∧ context.added origin = [artifact]) := by
  have horigin := PassContext.reference_iff_origin hvisits type artifact
  refine ⟨horigin, fun hown resolved hresolved hreference => ?_⟩
  obtain ⟨-, origin, hfirst, hadded⟩ := horigin.mp ⟨resolved, hresolved, hreference⟩
  obtain ⟨hmem, spelling, hspelling, htaken⟩ := PassContext.mem_of_origin? hfirst
  exact ⟨origin, hmem, hown origin hmem spelling hspelling htaken, hadded⟩

/-- A header with an enum, a function of it, a type name spelled like it, and a function of that. -/
def paintContext : PassContext where
  source := ⟨.default, [], [⟨"./paint.h",
    "enum shade { LIGHT, DARK };\nvoid tint(enum shade depth);\n" ++
    "typedef int shade;\nvoid paint(shade depth);\n"⟩], []⟩
  target := ⟨.x86_64, .linux, true, false, false, none⟩
  tags := [⟨.enumeration, some "shade", none,
    .enumeration [⟨"LIGHT", 0, .none⟩, ⟨"DARK", 1, .none⟩] .unsigned⟩]
  files := ["paint.h"]
  blacklist := []
  prefixes := []
  oddPrefix := none

def shadeTag : Declaration :=
  ⟨"", ⟨0, 5⟩, ⟨⟨0, 0⟩, some ⟨0, 0⟩⟩, ⟨⟨0, 26⟩, some ⟨0, 26⟩⟩,
    .tag 0 [⟨"LIGHT", 0, .none⟩, ⟨"DARK", 1, .none⟩]⟩

def tintFunction : Declaration :=
  ⟨"tint", ⟨0, 33⟩, ⟨⟨0, 28⟩, some ⟨0, 28⟩⟩, ⟨⟨0, 55⟩, some ⟨0, 55⟩⟩,
    .function (.function (.basic .void) [⟨"depth", .tag 0 false⟩] .fixed) false⟩

def shadeName : Declaration :=
  ⟨"shade", ⟨0, 69⟩, ⟨⟨0, 57⟩, some ⟨0, 57⟩⟩, ⟨⟨0, 74⟩, some ⟨0, 74⟩⟩, .typeName (.basic .int) 0⟩

def paintFunction : Declaration :=
  ⟨"paint", ⟨0, 81⟩, ⟨⟨0, 76⟩, some ⟨0, 76⟩⟩, ⟨⟨0, 99⟩, some ⟨0, 99⟩⟩,
    .function (.function (.basic .void) [⟨"depth", .spelled (.alias "shade") (.basic .int)⟩] .fixed)
      false⟩

def paintDeclarations : List Declaration := [shadeTag, tintFunction, shadeName, paintFunction]

def shadeEnum : Artifact := .enumeration "shade" [("LIGHT", none), ("DARK", none)]

def tint : Artifact :=
  .function "tint" ⟨[⟨"depth", .reference shadeEnum, "shade"⟩], .void, "nil"⟩ "" false

def tintVisit : Visit :=
  ⟨⟨Declared.empty.declare shadeEnum [], some shadeTag.stop, []⟩, tintFunction⟩

def shadeVisit : Visit :=
  ⟨⟨(Declared.empty.declare shadeEnum []).append tint, some tintFunction.stop, []⟩, shadeName⟩

def paintVisit : Visit :=
  ⟨⟨(Declared.empty.declare shadeEnum []).append tint, some shadeName.stop, []⟩, paintFunction⟩

set_option maxRecDepth 8192 in
theorem visits_paint : paintContext.visits .start paintDeclarations =
    [⟨.start, shadeTag⟩, tintVisit, shadeVisit, paintVisit] := by
  with_unfolding_all rfl

theorem tint_depth_of_enum :
    (∃ resolved,
      paintContext.resolve tintVisit.before.declared.symbols (.tag 0 false) = .ok resolved ∧
        resolved.type = .reference shadeEnum) ∧
      ∃ origin ∈ [(⟨.start, shadeTag⟩ : Visit)],
        paintContext.Declares origin.declaration (.tag 0 false) ∧
          paintContext.added origin = [shadeEnum] := by
  obtain ⟨hiff, hown⟩ := run_reference_iff paintContext
    (show paintContext.visits .start paintDeclarations =
      [⟨.start, shadeTag⟩] ++ tintVisit :: [shadeVisit, paintVisit] from visits_paint)
    (.tag 0 false) shadeEnum
  have hresolves := hiff.mpr ⟨.inl rfl, ⟨.start, shadeTag⟩, by rfl, rfl⟩
  refine ⟨hresolves, ?_⟩
  obtain ⟨resolved, hresolved, hreference⟩ := hresolves
  refine hown (fun earlier hearlier _ _ _ => ?_) resolved hresolved hreference
  rw [List.mem_singleton.mp hearlier]
  exact .inr ⟨0, rfl, rfl⟩

/-- The parameter is an `int`, and becomes the enum. -/
theorem paint_depth_of_enum :
    ¬ ∀ before visit after,
      paintContext.visits .start paintDeclarations = before ++ visit :: after →
        ∀ type, visit.declaration.body = .function type false →
          ∀ parameter ∈ parametersAmong type.children, ∀ resolved artifact,
            paintContext.resolve visit.before.declared.symbols parameter.type = .ok resolved →
              resolved.type = .reference artifact → ∃ origin ∈ before,
                paintContext.Declares origin.declaration parameter.type ∧
                  paintContext.added origin = [artifact] := by
  intro h
  have hsplit : paintContext.visits .start paintDeclarations =
      [⟨.start, shadeTag⟩, tintVisit, shadeVisit] ++ paintVisit :: [] := visits_paint
  obtain ⟨resolved, hresolved, hreference⟩ :=
    (PassContext.reference_iff_origin hsplit (.spelled (.alias "shade") (.basic .int))
      shadeEnum).mpr ⟨.inl rfl, ⟨.start, shadeTag⟩, by rfl, rfl⟩
  obtain ⟨origin, horigin, hdeclares, hadded⟩ := h _ _ _ hsplit _ rfl _
    List.mem_cons_self resolved shadeEnum hresolved hreference
  simp only [List.mem_cons, List.not_mem_nil, or_false] at horigin
  rcases hdeclares with ⟨meaning, own, attributes, -, hbody, -⟩ | ⟨id, -, hcanonical⟩
  · rcases horigin with rfl | rfl | rfl
    · cases hbody
    · cases hbody
    · have hnothing : paintContext.added shadeVisit = [] := List.drop_length
      rw [hnothing] at hadded
      cases hadded
  · cases hcanonical

end HeaderBindings
