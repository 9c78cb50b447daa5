import HeaderBindings.Proofs.DefinitionOrder
import HeaderBindings.Proofs.ReferenceOrigin
import HeaderBindings.Dump

/-! The table of symbols over time. Artifacts are only ever added behind the others, and a name keeps
the artifact of the first declaration that took it. In a pass no name stands for a function, so every
type that is looked up has a label, and every type of an artifact can be rendered and dumped. -/

namespace HeaderBindings

/-! Declarations one after the other. -/

/-- An artifact that is declared, with its aliases. -/
abbrev Declaring := Artifact × List String

def Declaring.names (declaring : Declaring) : List String := declaring.1.name :: declaring.2

def Declared.declareAll (declared : Declared) (sequence : List Declaring) : Declared :=
  sequence.foldl (fun declared declaring => declared.declare declaring.1 declaring.2) declared

/-- The first artifact of a sequence that has a name as its own or as an alias. -/
def firstOf? (sequence : List Declaring) (name : String) : Option Artifact :=
  (sequence.find? fun declaring => decide (name ∈ declaring.names)).map Prod.fst

/-- Nothing is lost or changed from an earlier table to a later one. -/
structure Declared.Extends (earlier later : Declared) : Prop where
  artifacts : earlier.artifacts <+: later.artifacts
  symbols : earlier.symbols <+: later.symbols

theorem Declared.Extends.refl (declared : Declared) : declared.Extends declared :=
  ⟨List.prefix_refl _, List.prefix_refl _⟩

theorem Declared.Extends.trans {a b c : Declared} (h : a.Extends b) (h' : b.Extends c) :
    a.Extends c :=
  ⟨h.artifacts.trans h'.artifacts, h.symbols.trans h'.symbols⟩

theorem Declared.Extends.lookup {earlier later : Declared} (h : earlier.Extends later)
    {name : String} {artifact : Artifact}
    (hbound : earlier.symbols.lookup name = some artifact) :
    later.symbols.lookup name = some artifact := by
  obtain ⟨added, hadded⟩ := h.symbols
  rw [← hadded, List.lookup_append, hbound, Option.some_or]

theorem SymbolTable.prefix_bind (symbols : SymbolTable) (name : String) (artifact : Artifact) :
    symbols <+: symbols.bind name artifact := by
  unfold SymbolTable.bind
  split
  · exact List.prefix_refl _
  · exact List.prefix_append _ _

theorem SymbolTable.nodup_keys_bind {symbols : SymbolTable} (name : String) (artifact : Artifact)
    (h : (symbols.map Prod.fst).Nodup) : ((symbols.bind name artifact).map Prod.fst).Nodup := by
  unfold SymbolTable.bind
  split
  · exact h
  · next hnone =>
    rw [List.map_append, List.nodup_append]
    refine ⟨h, by simp, ?_⟩
    rintro key hkey _ hname rfl
    obtain ⟨entry, hentry, rfl⟩ := List.mem_map.mp hkey
    rw [List.map_cons, List.map_nil, List.mem_singleton] at hname
    have := List.lookup_eq_none_iff.mp hnone entry hentry
    simp [hname] at this

/-- What every single binding keeps, a declaration keeps. -/
theorem Declared.declare_keeps (Kept : SymbolTable → Prop) (artifact : Artifact)
    (step : ∀ symbols name, Kept symbols → Kept (symbols.bind name artifact))
    {declared : Declared} (aliases : List String) (start : Kept declared.symbols) :
    Kept (declared.declare artifact aliases).symbols := by
  unfold Declared.declare
  generalize declared.symbols = symbols at start ⊢
  generalize artifact.name :: aliases = names
  induction names generalizing symbols with
  | nil => exact start
  | cons name rest ih => exact ih _ (step symbols name start)

theorem Declared.extends_declare (declared : Declared) (artifact : Artifact)
    (aliases : List String) : declared.Extends (declared.declare artifact aliases) where
  artifacts := List.prefix_append _ _
  symbols := declare_keeps (declared.symbols <+: ·) artifact
    (fun symbols name h => h.trans (symbols.prefix_bind name artifact)) aliases
    (List.prefix_refl _)

theorem Declared.artifacts_declareAll (declared : Declared) (sequence : List Declaring) :
    (declared.declareAll sequence).artifacts = declared.artifacts ++ sequence.map Prod.fst := by
  induction sequence generalizing declared with
  | nil => exact (List.append_nil _).symm
  | cons declaring rest ih =>
    have hfirst := ih (declared.declare declaring.1 declaring.2)
    rw [List.map_cons, List.append_cons]
    exact hfirst

theorem Declared.nodup_keys_declareAll {declared : Declared} (sequence : List Declaring)
    (h : (declared.symbols.map Prod.fst).Nodup) :
    ((declared.declareAll sequence).symbols.map Prod.fst).Nodup := by
  induction sequence generalizing declared with
  | nil => exact h
  | cons declaring rest ih =>
    refine ih (declare_keeps (fun symbols => (symbols.map Prod.fst).Nodup) declaring.1 ?_
      declaring.2 h)
    exact fun symbols name => SymbolTable.nodup_keys_bind name declaring.1

theorem Declared.lookup_declareAll (declared : Declared) (sequence : List Declaring)
    (name : String) :
    (declared.declareAll sequence).symbols.lookup name =
      (declared.symbols.lookup name).or (firstOf? sequence name) := by
  induction sequence generalizing declared with
  | nil => exact Option.or_none.symm
  | cons declaring rest ih =>
    have hrest := ih (declared.declare declaring.1 declaring.2)
    rw [declared.lookup_declare, Option.or_assoc] at hrest
    refine hrest.trans (congrArg _ ?_)
    unfold firstOf?
    rw [List.find?_cons]
    by_cases hname : name ∈ declaring.names
    · simp [hname, show name ∈ declaring.1.name :: declaring.2 from hname]
    · simp [hname, show name ∉ declaring.1.name :: declaring.2 from hname]

theorem firstOf?_eq_none_iff {sequence : List Declaring} {name : String} :
    firstOf? sequence name = none ↔ ∀ declaring ∈ sequence, name ∉ declaring.names := by
  simp [firstOf?]

theorem Declared.declareAll_append (declared : Declared) (first second : List Declaring) :
    declared.declareAll (first ++ second) = (declared.declareAll first).declareAll second :=
  List.foldl_append

/-- The symbols do not look at the artifacts in front. -/
theorem Declared.symbols_declareAll_congr {declared other : Declared}
    (h : declared.symbols = other.symbols) (sequence : List Declaring) :
    (declared.declareAll sequence).symbols = (other.declareAll sequence).symbols := by
  induction sequence generalizing declared other with
  | nil => exact h
  | cons declaring rest ih =>
    refine ih ?_
    simp only [Declared.declare, h]

/-! The tables of a pass. -/

/-- What a visit declares for types to refer to. -/
def PassContext.declares (context : PassContext) (visit : Visit) : List Declaring :=
  ((context.added visit).filter Artifact.isType).map fun artifact =>
    (artifact, context.aliases visit.declaration artifact)

theorem PassContext.symbols_visit (context : PassContext) (visit : Visit) :
    (context.visit visit.before visit.declaration).1.declared.symbols =
      (visit.before.declared.declareAll (context.declares visit)).symbols := by
  have hadds := context.visit_adds visit.before visit.declaration
  unfold declares added
  generalize (context.visit visit.before visit.declaration).1.declared = next at hadds ⊢
  cases hadds with
  | nothing => simp [Declared.declareAll]
  | @type artifact aliases made =>
    have htype : artifact.isType = true := made.isType
    rw [made.aliases_eq]
    simp [Declared.declareAll, Declared.declare, htype]
  | @function artifact made =>
    have htype : artifact.isType = false := by
      cases made
      rfl
    simp [Declared.declareAll, Declared.append, htype]

/-- The symbols of a pass are those of what its visits declare, in order. -/
theorem PassContext.run_symbols (context : PassContext) (state : PassState)
    (declarations : List Declaration) :
    (context.run state declarations).final.declared.symbols =
      (state.declared.declareAll
        ((context.visits state declarations).flatMap context.declares)).symbols := by
  induction declarations generalizing state with
  | nil => rfl
  | cons declaration rest ih =>
    have visited := context.symbols_visit ⟨state, declaration⟩
    unfold PassContext.run PassContext.visits
    split
    · cases found : context.visit state declaration with
      | mk next error =>
        simp only [found] at visited
        cases error with
        | none =>
          rw [List.flatMap_cons, Declared.declareAll_append,
            ← Declared.symbols_declareAll_congr visited]
          exact ih next
        | some error => simpa using visited
    · exact ih state

/-- The tables in front of each visit, and the one at the end. -/
def PassContext.tables (context : PassContext) (state : PassState)
    (declarations : List Declaration) : List Declared :=
  (context.visits state declarations).map (·.before.declared) ++
    [(context.run state declarations).final.declared]

theorem PassContext.tables_cons (context : PassContext) (state : PassState)
    (declaration : Declaration) (rest : List Declaration) :
    context.tables state (declaration :: rest) = context.tables state rest ∨
      context.tables state (declaration :: rest) =
        state.declared :: context.tables (context.visit state declaration).1 rest ∨
      context.tables state (declaration :: rest) =
        [state.declared, (context.visit state declaration).1.declared] := by
  simp only [tables, visits.eq_2, run.eq_2]
  split
  · cases found : context.visit state declaration with
    | mk next error =>
      cases error with
      | none => exact .inr (.inl rfl)
      | some error => exact .inr (.inr rfl)
  · exact .inl rfl

/-- What a step keeps holds of every table of a pass. -/
theorem PassContext.tables_keep {context : PassContext} {Kept : Declared → Prop}
    (step : ∀ declared previous declaration next, Kept declared →
      context.Adds declared previous declaration next → Kept next)
    (state : PassState) (declarations : List Declaration) (start : Kept state.declared) :
    ∀ table ∈ context.tables state declarations, Kept table := by
  induction declarations generalizing state with
  | nil =>
    intro table htable
    rw [List.mem_singleton.mp htable]
    exact start
  | cons declaration rest ih =>
    have visited := step _ _ _ _ start (context.visit_adds state declaration)
    intro table htable
    rcases context.tables_cons state declaration rest with h | h | h
    · exact ih state start table (h ▸ htable)
    · rw [h, List.mem_cons] at htable
      rcases htable with rfl | htable
      · exact start
      · exact ih _ visited table htable
    · rw [h, List.mem_cons, List.mem_singleton] at htable
      rcases htable with rfl | rfl
      · exact start
      · exact visited

theorem PassContext.Adds.extends {context : PassContext} {declared next : Declared}
    {previous : Option Mark} {declaration : Declaration}
    (h : context.Adds declared previous declaration next) : declared.Extends next := by
  cases h with
  | nothing => exact .refl declared
  | type made => exact declared.extends_declare _ _
  | function made => exact ⟨List.prefix_append _ _, List.prefix_refl _⟩

theorem PassContext.extends_tables (context : PassContext) (state : PassState)
    (declarations : List Declaration) :
    ∀ table ∈ context.tables state declarations, state.declared.Extends table :=
  tables_keep (fun _ _ _ _ h hadds => h.trans hadds.extends) state declarations (.refl _)

theorem PassContext.tables_pairwise (context : PassContext) (state : PassState)
    (declarations : List Declaration) :
    (context.tables state declarations).Pairwise Declared.Extends := by
  induction declarations generalizing state with
  | nil => exact List.pairwise_singleton _ _
  | cons declaration rest ih =>
    have visited := (context.visit_adds state declaration).extends
    rcases context.tables_cons state declaration rest with h | h | h
    · rw [h]
      exact ih state
    · rw [h, List.pairwise_cons]
      exact ⟨fun table htable => visited.trans (context.extends_tables _ rest table htable), ih _⟩
    · rw [h]
      simpa using visited

/-! Types that have no translation. -/

/-- The label of an artifact, if it is one that types can refer to. -/
def Artifact.label? (prefixes : List String) : Artifact → Option String
  | .callback _ _ => some "Callback"
  | .enumeration name _ => some (typeIdentifier prefixes name)
  | .struct name _ => some (typeIdentifier prefixes name)
  | .function _ _ _ _ => none

/-- The text of a type, if all that it refers to can be referred to. -/
def ForeignType.render? (prefixes : List String) : ForeignType → Option String
  | .integer name _ _ => some (":" ++ name)
  | .floating name _ => some (":" ++ name)
  | .void => some ":void"
  | .pointer => some ":pointer"
  | .string => some ":string"
  | .array element length =>
    (element.render? prefixes).map fun text => "[" ++ text ++ ", " ++ toString length ++ "]"
  | .reference (.struct name _) => some (typeIdentifier prefixes name ++ ".by_value")
  | .reference (.enumeration name _) => some (":" ++ memberIdentifier prefixes name)
  | .reference (.callback name _) => some (":" ++ memberIdentifier prefixes name)
  | .reference (.function _ _ _ _) => none

/-- A type and the types of the elements in it. -/
def ForeignType.parts : ForeignType → List ForeignType
  | .array element length => .array element length :: element.parts
  | type => [type]

/-- The kinds of types in a dump. -/
def dumpedKinds : List String :=
  ["int", "float", "void", "pointer", "string", "array", "enum", "struct", "callback"]

theorem Artifact.label?_eq_some {prefixes : List String} {artifact : Artifact}
    (h : artifact.isType = true) : artifact.label? prefixes = some (artifact.label prefixes) := by
  cases artifact with
  | function => cases h
  | _ => rfl

theorem ForeignType.render?_eq_some {prefixes : List String} {type : ForeignType}
    (h : ∀ target ∈ type.artifact?, target.isType = true) :
    type.render? prefixes = some (type.render prefixes) := by
  fun_induction ForeignType.render? prefixes type with
  | case6 element length ih =>
    rw [ih h]
    rfl
  | case10 => cases h _ rfl
  | _ => rfl

theorem ForeignType.dumped_parts {type : ForeignType}
    (h : ∀ target ∈ type.artifact?, target.isType = true) :
    ∀ part ∈ type.parts, ∃ kind ∈ dumpedKinds, ∃ rest,
      part.entry = .record (("kind", .string kind) :: rest) := by
  fun_induction ForeignType.parts type with
  | case1 element length ih =>
    intro part hpart
    rcases List.mem_cons.mp hpart with rfl | hpart
    · exact ⟨"array", by decide, _, rfl⟩
    · exact ih h part hpart
  | case2 type hplain =>
    intro part hpart
    rw [List.mem_singleton.mp hpart]
    cases type with
    | array element length => exact absurd rfl (hplain element length)
    | reference artifact =>
      refine ⟨artifact.kind, ?_, _, rfl⟩
      cases artifact with
      | function => cases h _ rfl
      | _ => simp [Artifact.kind, dumpedKinds]
    | _ => exact ⟨_, by decide, _, rfl⟩

/-- In any sequence of declarations nothing is taken back and a name stands for the first artifact
that has it. So it is in a pass, whose names stand for enums, structs and callbacks among the
artifacts only: what a type finds has a label, and the types of all artifacts can be rendered and
dumped. -/
theorem run_symbols_settled :
    (∀ (declared : Declared) (sequence : List Declaring),
      (declared.declareAll sequence).artifacts = declared.artifacts ++ sequence.map Prod.fst ∧
      ((declared.symbols.map Prod.fst).Nodup →
        ((declared.declareAll sequence).symbols.map Prod.fst).Nodup) ∧
      ∀ name, (declared.declareAll sequence).symbols.lookup name =
          (declared.symbols.lookup name).or (firstOf? sequence name) ∧
        ∀ declaring ∈ sequence, name ∈ declaring.names →
          ∃ artifact, (declared.declareAll sequence).symbols.lookup name = some artifact) ∧
    ∀ (context : PassContext) (declarations : List Declaration),
      let visits := context.visits .start declarations
      let final := (context.run .start declarations).final.declared
      final.artifacts = visits.flatMap context.added ∧
      final.symbols = (Declared.empty.declareAll (visits.flatMap context.declares)).symbols ∧
      (context.tables .start declarations).Pairwise (fun earlier later =>
        earlier.artifacts <+: later.artifacts ∧
        ∀ name artifact, earlier.symbols.lookup name = some artifact →
          later.symbols.lookup name = some artifact) ∧
      (∀ table ∈ context.tables .start declarations, ∀ entry ∈ table.symbols,
        entry.2 ∈ table.artifacts ∧ (∀ name signature comment variadic,
          entry.2 ≠ .function name signature comment variadic) ∧
        ∀ prefixes, entry.2.label? prefixes = some (entry.2.label prefixes)) ∧
      ∀ artifact ∈ final.artifacts, ∀ type ∈ artifact.types,
        (∀ prefixes, type.render? prefixes = some (type.render prefixes)) ∧
        ∀ part ∈ type.parts, ∃ kind ∈ dumpedKinds, ∃ rest,
          part.entry = .record (("kind", .string kind) :: rest) := by
  refine ⟨fun declared sequence => ?_, fun context declarations => ?_⟩
  · have hlookup := declared.lookup_declareAll sequence
    refine ⟨declared.artifacts_declareAll sequence, Declared.nodup_keys_declareAll sequence,
      fun name => ⟨hlookup name, ?_⟩⟩
    intro declaring hdeclaring hname
    cases hbefore : declared.symbols.lookup name with
    | some artifact => exact ⟨artifact, by rw [hlookup, hbefore, Option.some_or]⟩
    | none =>
      cases hfirst : firstOf? sequence name with
      | some artifact => exact ⟨artifact, by rw [hlookup, hbefore, hfirst, Option.none_or]⟩
      | none => exact absurd hname (firstOf?_eq_none_iff.mp hfirst declaring hdeclaring)
  · intro visits final
    have hgrounded : ∀ table ∈ context.tables .start declarations, table.Grounded :=
      PassContext.tables_keep (fun _ _ _ _ h hadds => h.adds hadds) .start declarations
        Declared.grounded_empty
    refine ⟨context.run_artifacts .start declarations, context.run_symbols .start declarations,
      (context.tables_pairwise .start declarations).imp fun h => ⟨h.artifacts, fun _ _ => h.lookup⟩,
      fun table htable entry hentry => ?_, fun artifact hartifact type htype => ?_⟩
    · obtain ⟨htype, hmem⟩ := (hgrounded table htable).symbols entry hentry
      refine ⟨hmem, fun name signature comment variadic hfunction => ?_,
        fun prefixes => Artifact.label?_eq_some htype⟩
      rw [hfunction] at htype
      cases htype
    · have htargets : ∀ target ∈ type.artifact?, target.isType = true := by
        intro target htarget
        obtain ⟨i, hi, rfl⟩ := List.mem_iff_getElem.mp hartifact
        exact ((context.run_grounded declarations).artifacts i hi type htype target htarget).1
      exact ⟨fun prefixes => ForeignType.render?_eq_some htargets,
        ForeignType.dumped_parts htargets⟩

/-- A struct whose alias is taken by an enum, and the table of a header. -/
theorem palette_symbols_settled :
    let shade : Artifact := .enumeration "shade" []
    let sequence : List Declaring := [(shade, []), (.struct "row" [], ["shade"])]
    let final := (paletteContext.run .start paletteDeclarations).final.declared
    ((Declared.empty.declareAll sequence).symbols.lookup "shade" = some shade ∧
        ∃ artifact, (Declared.empty.declareAll sequence).symbols.lookup "row" = some artifact) ∧
      final.symbols.map (fun entry => (entry.1, entry.2.name)) =
        [("pal_ink", "pal_ink"), ("pal_row_t", "pal_row_t"), ("pal_row", "pal_row_t")] ∧
      ∀ artifact ∈ final.artifacts, ∀ type ∈ artifact.types,
        type.render? ["pal_"] = some (type.render ["pal_"]) := by
  intro shade sequence final
  obtain ⟨hdeclared, hpass⟩ := run_symbols_settled
  obtain ⟨-, -, hlookup⟩ := hdeclared Declared.empty sequence
  obtain ⟨-, -, -, -, htypes⟩ := hpass paletteContext paletteDeclarations
  refine ⟨⟨(hlookup "shade").1, (hlookup "row").2 (.struct "row" [], ["shade"]) ?_ ?_⟩,
    by decide +kernel, fun artifact hartifact type htype => ?_⟩
  · exact List.mem_cons_of_mem _ List.mem_cons_self
  · exact List.mem_cons_self
  · exact (htypes artifact hartifact type htype).1 ["pal_"]

end HeaderBindings
