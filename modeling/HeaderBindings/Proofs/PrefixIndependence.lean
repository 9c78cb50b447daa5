import HeaderBindings.Proofs.SymbolTable
import HeaderBindings.Proofs.Unlabelled

/-! Two passes with different prefixes, side by side. They visit the same declarations, stop for the
same reason, and make artifacts that differ in labels only; every name stands for the artifact at the
same place. -/

namespace HeaderBindings

theorem mapM_map_congr {ε α β γ : Type} {f : β → γ} {make other : α → Except ε β} {xs : List α}
    (h : ∀ x ∈ xs, (make x).map f = (other x).map f) :
    (xs.mapM make).map (List.map f) = (xs.mapM other).map (List.map f) := by
  induction xs with
  | nil => rfl
  | cons x rest ih =>
    rw [List.mapM_cons, List.mapM_cons]
    refine map_bind_congr (h x List.mem_cons_self) fun a b hab => ?_
    refine map_bind_congr (ih fun y hy => h y (List.mem_cons_of_mem _ hy)) fun as bs habs => ?_
    exact congrArg Except.ok (by rw [List.map_cons, List.map_cons, hab, habs])

/-! Tables without labels. -/

def Declared.unlabelled (declared : Declared) : Declared :=
  ⟨declared.artifacts.map Artifact.unlabelled, declared.symbols.unlabelled⟩

def PassState.unlabelled (state : PassState) : PassState :=
  { state with declared := state.declared.unlabelled }

theorem SymbolTable.unlabelled_bind (symbols : SymbolTable) (name : String) (artifact : Artifact) :
    (symbols.bind name artifact).unlabelled = symbols.unlabelled.bind name artifact.unlabelled := by
  unfold SymbolTable.bind
  rw [lookup_unlabelled]
  cases symbols.lookup name with
  | some bound => rfl
  | none => simp [unlabelled]

theorem Declared.unlabelled_declare (declared : Declared) (artifact : Artifact)
    (aliases : List String) :
    (declared.declare artifact aliases).unlabelled =
      declared.unlabelled.declare artifact.unlabelled aliases := by
  have hsymbols : ∀ (names : List String) (symbols : SymbolTable),
      (names.foldl (fun symbols name => symbols.bind name artifact) symbols).unlabelled =
        names.foldl (fun symbols name => symbols.bind name artifact.unlabelled)
          symbols.unlabelled := by
    intro names
    induction names with
    | nil => intro symbols; rfl
    | cons name rest ih =>
      intro symbols
      rw [List.foldl_cons, List.foldl_cons, ih, SymbolTable.unlabelled_bind]
  simp [declare, unlabelled, hsymbols, SymbolTable.unlabelled_bind]

theorem Declared.unlabelled_append (declared : Declared) (artifact : Artifact) :
    (declared.append artifact).unlabelled = declared.unlabelled.append artifact.unlabelled := by
  simp [append, unlabelled]

/-! One declaration. -/

variable (context : PassContext) (prefixes : List String)

theorem PassContext.resolve_unlabelled {symbols others : SymbolTable}
    (h : symbols.unlabelled = others.unlabelled) (type : CType) :
    (context.resolve symbols type).map Resolved.unlabelled =
      (({ context with prefixes } : PassContext).resolve others type).map Resolved.unlabelled := by
  have hsame := CType.resolve_unlabelled context.target context.tags h context.prefixes prefixes type
  unfold PassContext.resolve
  rcases cases_of_map_eq hsame with ⟨e, hfirst, hsecond⟩ | ⟨a, b, hfirst, hsecond, hab⟩
  · rw [hfirst, hsecond]
  · have hnamed : a.named = b.named := (Prod.mk.inj hab).2
    rw [hfirst, hsecond]
    cases context.oddPrefix with
    | none => exact congrArg Except.ok hab
    | some kind =>
      dsimp only
      rw [hnamed]
      split
      · rfl
      · exact congrArg Except.ok hab

theorem PassContext.structOf_unlabelled {symbols others : SymbolTable}
    (h : symbols.unlabelled = others.unlabelled) (name : String) (fields : List CField) :
    (context.structOf symbols name fields).map Artifact.unlabelled =
      (({ context with prefixes } : PassContext).structOf others name fields).map
        Artifact.unlabelled := by
  refine map_bind_congr (f := List.map Field.unlabelled) (mapM_map_congr fun field _ => ?_) ?_
  · refine map_bind_congr (context.resolve_unlabelled prefixes h field.type) fun a b hab => ?_
    obtain ⟨htype, -⟩ := Prod.mk.inj hab
    exact congrArg Except.ok (by rw [Field.unlabelled, Field.unlabelled, htype])
  · intro made others' hmade
    refine congrArg Except.ok ?_
    rw [Artifact.unlabelled, Artifact.unlabelled, unlabelledFields_eq_map, unlabelledFields_eq_map,
      hmade]

theorem PassContext.signature_unlabelled {symbols others : SymbolTable}
    (h : symbols.unlabelled = others.unlabelled) (result : CType) (parameters : List CParameter) :
    (context.signature symbols result parameters).map Signature.unlabelled =
      (({ context with prefixes } : PassContext).signature others result parameters).map
        Signature.unlabelled := by
  refine map_bind_congr (context.resolve_unlabelled prefixes h result) fun a b hab => ?_
  obtain ⟨hresult, -⟩ := Prod.mk.inj hab
  refine map_bind_congr (f := List.map Parameter.unlabelled) (mapM_map_congr fun parameter _ => ?_)
    fun made others' hmade => ?_
  · refine map_bind_congr (context.resolve_unlabelled prefixes h parameter.type) fun c d hcd => ?_
    obtain ⟨htype, -⟩ := Prod.mk.inj hcd
    exact congrArg Except.ok (by rw [Parameter.unlabelled, Parameter.unlabelled, htype])
  · refine congrArg Except.ok ?_
    rw [Signature.unlabelled, Signature.unlabelled, unlabelledParameters_eq_map,
      unlabelledParameters_eq_map, hmade, hresult]

theorem Declared.symbols_of_unlabelled {declared other : Declared}
    (h : declared.unlabelled = other.unlabelled) :
    declared.symbols.unlabelled = other.symbols.unlabelled :=
  (Declared.mk.inj h).2

theorem Declared.declare_of_unlabelled {declared other : Declared}
    (h : declared.unlabelled = other.unlabelled) {artifact made : Artifact}
    (hmade : artifact.unlabelled = made.unlabelled) (aliases : List String) :
    (declared.declare artifact aliases).unlabelled = (other.declare made aliases).unlabelled := by
  rw [unlabelled_declare, unlabelled_declare, h, hmade]

theorem PassContext.callback_unlabelled {declared other : Declared}
    (h : declared.unlabelled = other.unlabelled) (name : String) (type : CType) :
    (context.callback declared name type).map Declared.unlabelled =
      (({ context with prefixes } : PassContext).callback other name type).map
        Declared.unlabelled := by
  unfold PassContext.callback
  split
  · rfl
  · split
    · next result pointer =>
      refine map_bind_congr (context.signature_unlabelled prefixes
        (Declared.symbols_of_unlabelled h) result _) fun a b hab => ?_
      refine congrArg Except.ok (Declared.declare_of_unlabelled h ?_ [])
      rw [Artifact.unlabelled, Artifact.unlabelled, hab]
    · exact congrArg Except.ok h

theorem PassContext.typeName_unlabelled {declared other : Declared}
    (h : declared.unlabelled = other.unlabelled) (name : String) (type : CType)
    (attributes : Nat) :
    (context.typeName declared name type attributes).map Declared.unlabelled =
      (({ context with prefixes } : PassContext).typeName other name type attributes).map
        Declared.unlabelled := by
  have hdefined : ({ context with prefixes } : PassContext).definedTag type attributes =
      context.definedTag type attributes := rfl
  unfold PassContext.typeName
  rw [hdefined]
  split
  · next tag found =>
    split
    · refine map_bind_congr (context.structOf_unlabelled prefixes
        (Declared.symbols_of_unlabelled h) name tag.fields) fun a b hab => ?_
      exact congrArg Except.ok (Declared.declare_of_unlabelled h hab _)
    · split
      · refine map_bind_congr (f := Artifact.unlabelled) rfl fun a b hab => ?_
        exact congrArg Except.ok (Declared.declare_of_unlabelled h hab [])
      · exact context.callback_unlabelled prefixes h name type
  · exact context.callback_unlabelled prefixes h name type

theorem PassContext.function_unlabelled {declared other : Declared}
    (h : declared.unlabelled = other.unlabelled) (name comment : String) (type : CType) :
    (context.function declared name comment type).map Declared.unlabelled =
      (({ context with prefixes } : PassContext).function other name comment type).map
        Declared.unlabelled := by
  unfold PassContext.function
  split
  · next result parameters style shown =>
    refine map_bind_congr (context.signature_unlabelled prefixes
      (Declared.symbols_of_unlabelled h) result _) fun a b hab => ?_
    refine congrArg Except.ok ?_
    rw [Declared.unlabelled_append, Declared.unlabelled_append, h, Artifact.unlabelled,
      Artifact.unlabelled, hab]
  · rfl
  · rfl

theorem PassContext.bind_unlabelled {declared other : Declared}
    (h : declared.unlabelled = other.unlabelled) (previous : Option Mark)
    (declaration : Declaration) :
    (context.bind declared previous declaration).map Declared.unlabelled =
      (({ context with prefixes } : PassContext).bind other previous declaration).map
        Declared.unlabelled := by
  unfold PassContext.bind
  dsimp only
  split
  · split
    · next tag found =>
      split
      · refine map_bind_congr (f := Artifact.unlabelled) rfl fun a b hab => ?_
        exact congrArg Except.ok (Declared.declare_of_unlabelled h hab [])
      · exact congrArg Except.ok h
    · exact congrArg Except.ok h
  · exact congrArg Except.ok h
  · exact context.function_unlabelled prefixes h _ _ _
  · exact context.typeName_unlabelled prefixes h _ _ _
  · exact congrArg Except.ok h

/-- A visit fails with one list of prefixes if and as it fails with the other, and leaves states that
differ in labels only. -/
theorem PassContext.visit_unlabelled {state other : PassState}
    (h : state.unlabelled = other.unlabelled) (declaration : Declaration) :
    (context.visit state declaration).2 =
        (({ context with prefixes } : PassContext).visit other declaration).2 ∧
      (context.visit state declaration).1.unlabelled =
        (({ context with prefixes } : PassContext).visit other declaration).1.unlabelled := by
  obtain ⟨hdeclared, hprevious, hwarnings⟩ := PassState.mk.inj h
  have hlisted : ({ context with prefixes } : PassContext).isBlacklisted declaration =
      context.isBlacklisted declaration := rfl
  have hbind := context.bind_unlabelled prefixes hdeclared state.previousEnd declaration
  unfold PassContext.visit
  rw [hlisted, ← hprevious, ← hwarnings]
  dsimp only
  split
  · exact ⟨rfl, by simp [PassState.unlabelled, hdeclared, hwarnings]⟩
  · rcases cases_of_map_eq hbind with ⟨e, hfirst, hsecond⟩ | ⟨a, b, hfirst, hsecond, hab⟩
    · rw [hfirst, hsecond]
      exact ⟨rfl, by simp [PassState.unlabelled, hdeclared]⟩
    · rw [hfirst, hsecond]
      exact ⟨rfl, by simp [PassState.unlabelled, hab]⟩

/-! Whole passes. -/

/-- Two passes whose visits keep their states related and fail together visit the same declarations
and stop for the same reason. -/
theorem PassContext.run_pairs (context other : PassContext) (Related : PassState → PassState → Prop)
    (scope : ∀ declaration, other.isInScope declaration = context.isInScope declaration)
    (step : ∀ declaration state state', Related state state' →
      (context.visit state declaration).2 = (other.visit state' declaration).2 ∧
        Related (context.visit state declaration).1 (other.visit state' declaration).1)
    {state state' : PassState} (start : Related state state') (declarations : List Declaration) :
    (context.run state declarations).error = (other.run state' declarations).error ∧
      Related (context.run state declarations).final (other.run state' declarations).final ∧
      List.Forall₂ (fun visit visit' =>
          visit.declaration = visit'.declaration ∧ Related visit.before visit'.before)
        (context.visits state declarations) (other.visits state' declarations) := by
  induction declarations generalizing state state' with
  | nil => exact ⟨rfl, start, .nil⟩
  | cons declaration rest ih =>
    obtain ⟨hfail, hnext⟩ := step declaration state state' start
    unfold PassContext.run PassContext.visits
    rw [scope declaration]
    split
    · cases hvisit : context.visit state declaration with
      | mk next error =>
        cases hvisit' : other.visit state' declaration with
        | mk next' error' =>
          rw [hvisit, hvisit'] at hfail hnext
          dsimp only at hfail hnext
          subst hfail
          cases error with
          | none =>
            obtain ⟨herror, hfinal, hvisits⟩ := ih hnext
            exact ⟨herror, hfinal, .cons ⟨rfl, start⟩ hvisits⟩
          | some error => exact ⟨rfl, hnext, .cons ⟨rfl, start⟩ .nil⟩
    · exact ih start

/-! Places. -/

/-- The place, among the artifacts that some visits add, of what a name stands for: it is added by
the first visit that takes the name. -/
def PassContext.place? (context : PassContext) (name : String) : List Visit → Option Nat
  | [] => none
  | visit :: rest =>
    if name ∈ context.taken visit then some 0
    else (context.place? name rest).map (· + (context.added visit).length)

theorem firstOf?_append (first second : List Declaring) (name : String) :
    firstOf? (first ++ second) name = (firstOf? first name).or (firstOf? second name) := by
  simp only [firstOf?, List.find?_append]
  cases first.find? fun declaring => decide (name ∈ declaring.names) <;> rfl

theorem PassContext.firstOf?_declares (visit : Visit) (name : String) :
    firstOf? (context.declares visit) name =
      if name ∈ context.taken visit then (context.added visit).head? else none := by
  by_cases htaken : name ∈ context.taken visit
  · obtain ⟨artifact, hadded, htype⟩ := added_of_mem_taken htaken
    rw [if_pos htaken]
    unfold taken at htaken
    simp_all [declares, firstOf?, Declaring.names]
  · rw [if_neg htaken, firstOf?_eq_none_iff]
    intro declaring hdeclaring hname
    obtain ⟨artifact, hartifact, rfl⟩ := List.mem_map.mp hdeclaring
    exact htaken (List.mem_flatMap.mpr ⟨artifact, hartifact, hname⟩)

/-- What a name stands for after some visits is the artifact at its place. -/
theorem PassContext.firstOf?_eq_place? (name : String) (visits : List Visit) :
    match context.place? name visits with
    | some i => ∃ artifact, (visits.flatMap context.added)[i]? = some artifact ∧
        firstOf? (visits.flatMap context.declares) name = some artifact
    | none => firstOf? (visits.flatMap context.declares) name = none := by
  induction visits with
  | nil => rfl
  | cons visit rest ih =>
    rw [place?, List.flatMap_cons, List.flatMap_cons, firstOf?_append, firstOf?_declares]
    by_cases htaken : name ∈ context.taken visit
    · obtain ⟨artifact, hadded, -⟩ := added_of_mem_taken htaken
      rw [if_pos htaken, if_pos htaken, hadded]
      exact ⟨artifact, rfl, rfl⟩
    · rw [if_neg htaken, if_neg htaken, Option.none_or]
      cases hplace : context.place? name rest with
      | none =>
        rw [hplace] at ih
        exact ih
      | some i =>
        rw [hplace] at ih
        obtain ⟨artifact, hat, hfirst⟩ := ih
        refine ⟨artifact, ?_, hfirst⟩
        rw [List.getElem?_append_right (Nat.le_add_left _ _), Nat.add_sub_cancel, hat]

theorem PassContext.lookup_run (context : PassContext) (declarations : List Declaration)
    (name : String) :
    let final := (context.run .start declarations).final.declared
    match context.place? name (context.visits .start declarations) with
    | some i => ∃ artifact, final.artifacts[i]? = some artifact ∧
        final.symbols.lookup name = some artifact
    | none => final.symbols.lookup name = none := by
  intro final
  have hartifacts : final.artifacts =
      (context.visits .start declarations).flatMap context.added :=
    context.run_artifacts .start declarations
  have hlookup : final.symbols.lookup name =
      firstOf? ((context.visits .start declarations).flatMap context.declares) name := by
    rw [show final.symbols = _ from context.run_symbols .start declarations,
      Declared.lookup_declareAll]
    rfl
  rw [hartifacts, hlookup]
  exact context.firstOf?_eq_place? name _

theorem PassContext.aliases_unlabelled (declaration : Declaration) (artifact : Artifact) :
    context.aliases declaration artifact.unlabelled = context.aliases declaration artifact := by
  cases artifact <;> rfl

theorem Artifact.names_of_unlabelled {artifacts others : List Artifact}
    (h : artifacts.map Artifact.unlabelled = others.map Artifact.unlabelled)
    (declaration : Declaration) :
    (artifacts.filter Artifact.isType).flatMap
        (fun artifact => artifact.name :: context.aliases declaration artifact) =
      (others.filter Artifact.isType).flatMap
        fun artifact => artifact.name :: context.aliases declaration artifact := by
  have hnames : ∀ list : List Artifact,
      ((list.map Artifact.unlabelled).filter Artifact.isType).flatMap
          (fun artifact => artifact.name :: context.aliases declaration artifact) =
        (list.filter Artifact.isType).flatMap
          fun artifact => artifact.name :: context.aliases declaration artifact := by
    intro list
    simp [List.filter_map, List.flatMap_map, Function.comp_def, PassContext.aliases_unlabelled]
  rw [← hnames artifacts, h, hnames others]

theorem PassContext.added_unlabelled {visit other : Visit}
    (hdeclaration : visit.declaration = other.declaration)
    (h : visit.before.unlabelled = other.before.unlabelled) :
    (context.added visit).map Artifact.unlabelled =
      (({ context with prefixes } : PassContext).added other).map Artifact.unlabelled := by
  have hbefore : visit.before.declared.artifacts.map Artifact.unlabelled =
      other.before.declared.artifacts.map Artifact.unlabelled :=
    congrArg (·.declared.artifacts) h
  have hafter := congrArg (·.declared.artifacts)
    (context.visit_unlabelled prefixes h visit.declaration).2
  have hlength := congrArg List.length hbefore
  rw [List.length_map, List.length_map] at hlength
  unfold added
  rw [List.map_drop, List.map_drop, hlength, ← hdeclaration]
  exact congrArg (List.drop _) hafter

theorem PassContext.place?_unlabelled (name : String) {visits others : List Visit}
    (h : List.Forall₂ (fun visit other => visit.declaration = other.declaration ∧
      visit.before.unlabelled = other.before.unlabelled) visits others) :
    context.place? name visits = ({ context with prefixes } : PassContext).place? name others := by
  induction h with
  | nil => rfl
  | @cons visit other rest rest' hhead _ ih =>
    have hadded := context.added_unlabelled prefixes hhead.1 hhead.2
    have htaken : context.taken visit = ({ context with prefixes } : PassContext).taken other := by
      unfold taken
      rw [← hhead.1]
      exact Artifact.names_of_unlabelled context hadded visit.declaration
    have hlength := congrArg List.length hadded
    rw [List.length_map, List.length_map] at hlength
    rw [place?, place?, htaken, ih, hlength]

/-- A pass with other prefixes stops for the same reason, or finishes as well. Its artifacts differ in
labels only, its names stand for the artifacts at the same places, and its dump is the same text. -/
theorem run_other_prefixes (context : PassContext) (prefixes : List String)
    (declarations : List Declaration) :
    let other : PassContext := { context with prefixes }
    let first := context.run .start declarations
    let second := other.run .start declarations
    first.error = second.error ∧
      first.final.declared.artifacts.map Artifact.unlabelled =
        second.final.declared.artifacts.map Artifact.unlabelled ∧
      first.final.declared.symbols.map Prod.fst = second.final.declared.symbols.map Prod.fst ∧
      (∀ name,
        context.place? name (context.visits .start declarations) =
          other.place? name (other.visits .start declarations) ∧
        match context.place? name (context.visits .start declarations) with
        | some i => ∃ artifact artifact',
            first.final.declared.artifacts[i]? = some artifact ∧
            first.final.declared.symbols.lookup name = some artifact ∧
            second.final.declared.artifacts[i]? = some artifact' ∧
            second.final.declared.symbols.lookup name = some artifact'
        | none => first.final.declared.symbols.lookup name = none ∧
            second.final.declared.symbols.lookup name = none) ∧
      ∀ (settings : Settings) (given given' : List Yaml),
        ({ settings with prefixes := given } : Settings).document .yaml
            first.final.declared.artifacts =
          ({ settings with prefixes := given' } : Settings).document .yaml
            second.final.declared.artifacts := by
  intro other first second
  obtain ⟨herror, hfinal, hvisits⟩ := context.run_pairs other
    (fun state state' => state.unlabelled = state'.unlabelled) (fun _ => rfl)
    (fun declaration _ _ h => context.visit_unlabelled prefixes h declaration)
    (rfl : PassState.start.unlabelled = PassState.start.unlabelled) declarations
  have hartifacts : first.final.declared.artifacts.map Artifact.unlabelled =
      second.final.declared.artifacts.map Artifact.unlabelled :=
    congrArg (·.declared.artifacts) hfinal
  refine ⟨herror, hartifacts, ?_, fun name => ?_, fun settings given given' => ?_⟩
  · have hkeys : first.final.declared.symbols.unlabelled.map Prod.fst =
        second.final.declared.symbols.unlabelled.map Prod.fst :=
      congrArg (fun state => state.declared.symbols.map Prod.fst) hfinal
    rwa [SymbolTable.keys_unlabelled, SymbolTable.keys_unlabelled] at hkeys
  · have hplace := context.place?_unlabelled prefixes name hvisits
    refine ⟨hplace, ?_⟩
    have hfirst := context.lookup_run declarations name
    have hsecond := other.lookup_run declarations name
    rw [← hplace] at hsecond
    cases hat : context.place? name (context.visits .start declarations) with
    | none =>
      rw [hat] at hfirst hsecond
      exact ⟨hfirst, hsecond⟩
    | some i =>
      rw [hat] at hfirst hsecond
      obtain ⟨artifact, hget, hlookup⟩ := hfirst
      obtain ⟨artifact', hget', hlookup'⟩ := hsecond
      exact ⟨artifact, artifact', hget, hlookup, hget', hlookup'⟩
  · exact congrArg (fun value => Except.ok value.document)
      (dump_congr hartifacts settings.moduleName settings.library)

end HeaderBindings
