import HeaderBindings.Proofs.HarvestedComment

/-! One more name on the blacklist. A function leaves nothing behind but its artifact: the symbols
and the end behind which the next comment is looked for are the same with and without it, and so is
everything that the pass makes later. -/

namespace HeaderBindings

/-! What a declaration adds depends on the symbols alone. -/

/-- The same symbols, with more artifacts in front. -/
def Declared.behind (front : List Artifact) (declared : Declared) : Declared :=
  { declared with artifacts := front ++ declared.artifacts }

def Declared.table (declared : Declared) : Declared := { declared with artifacts := [] }

theorem Declared.table_behind (declared : Declared) :
    declared.table.behind declared.artifacts = declared := by
  rw [table, behind, List.append_nil]

theorem except_map_bind {ε α β γ : Type} (action : Except ε α) (next : α → Except ε β)
    (change : β → γ) :
    (action >>= next).map change = action >>= fun a => (next a).map change := by
  cases action <;> rfl

theorem PassContext.callback_behind (context : PassContext) (declared : Declared) (name : String)
    (type : CType) :
    context.callback declared name type =
      (context.callback declared.table name type).map (.behind declared.artifacts) := by
  unfold PassContext.callback
  split
  · rfl
  · split
    · rw [except_map_bind]
      rfl
    · exact congrArg Except.ok declared.table_behind.symm

theorem PassContext.typeName_behind (context : PassContext) (declared : Declared) (name : String)
    (type : CType) (attributes : Nat) :
    context.typeName declared name type attributes =
      (context.typeName declared.table name type attributes).map (.behind declared.artifacts) := by
  unfold PassContext.typeName
  split
  · next tag found =>
    split
    · rw [except_map_bind]
      rfl
    · split
      · rw [except_map_bind]
        rfl
      · exact context.callback_behind declared name type
  · exact context.callback_behind declared name type

theorem PassContext.function_behind (context : PassContext) (declared : Declared)
    (name comment : String) (type : CType) :
    context.function declared name comment type =
      (context.function declared.table name comment type).map (.behind declared.artifacts) := by
  unfold PassContext.function
  split
  · next result parameters style shown =>
    rw [except_map_bind]
    rfl
  · rfl
  · rfl

theorem PassContext.bind_behind (context : PassContext) (declared : Declared)
    (previous : Option Mark) (declaration : Declaration) :
    context.bind declared previous declaration =
      (context.bind declared.table previous declaration).map (.behind declared.artifacts) := by
  have hnothing : Except.ok declared =
      (Except.ok declared.table : Except PassError Declared).map (.behind declared.artifacts) :=
    congrArg Except.ok declared.table_behind.symm
  unfold PassContext.bind
  split
  · split
    · next tag found =>
      split
      · rw [except_map_bind]
        rfl
      · exact hnothing
    · exact hnothing
  · exact hnothing
  · exact context.function_behind declared _ _ _
  · exact context.typeName_behind declared _ _ _
  · exact hnothing

/-! Two passes side by side. -/

/-- What the visits of one pass keep related to those of another, whole passes keep related; the
second one finishes if the first one does. -/
theorem PassContext.run_relates (context other : PassContext)
    {Related : PassState → PassState → Prop} {declarations : List Declaration}
    (scope : ∀ declaration ∈ declarations,
      other.isInScope declaration = context.isInScope declaration)
    (step : ∀ declaration ∈ declarations, context.isInScope declaration = true →
      ∀ state state', Related state state' → (context.visit state declaration).2 = none →
        (other.visit state' declaration).2 = none ∧
          Related (context.visit state declaration).1 (other.visit state' declaration).1)
    {state state' : PassState} (start : Related state state')
    (hfinish : (context.run state declarations).error = none) :
    (other.run state' declarations).error = none ∧
      Related (context.run state declarations).final (other.run state' declarations).final := by
  -- both passes pass over the same declarations, so their visits pair up
  induction declarations generalizing state state' with
  | nil => exact ⟨rfl, start⟩
  | cons declaration rest ih =>
    have hrest : ∀ {next next'}, Related next next' → (context.run next rest).error = none →
        (other.run next' rest).error = none ∧
          Related (context.run next rest).final (other.run next' rest).final :=
      fun related => ih (fun d hd => scope d (List.mem_cons_of_mem _ hd))
        (fun d hd => step d (List.mem_cons_of_mem _ hd)) related
    have hscope := scope declaration List.mem_cons_self
    unfold PassContext.run at hfinish ⊢
    rw [hscope]
    split at hfinish
    · next hin =>
      rw [if_pos hin, if_pos hin]
      have hstep := step declaration List.mem_cons_self hin state state' start
      cases hvisit : context.visit state declaration with
      | mk next error =>
        cases hvisit' : other.visit state' declaration with
        | mk next' error' =>
          rw [hvisit] at hfinish hstep
          rw [hvisit'] at hstep
          cases error with
          | some error => cases hfinish
          | none =>
            obtain ⟨hnone, related⟩ := hstep rfl
            cases hnone
            exact hrest related hfinish
    · next hout =>
      rw [if_neg hout, if_neg hout]
      exact hrest start hfinish

/-! The functions of a name. -/

def Artifact.isFunctionNamed (name : String) : Artifact → Bool
  | .function own _ _ _ => own = name
  | _ => false

/-- A pass without the functions of a name, beside the pass with them. -/
structure PassState.Lacks (name : String) (full reduced : PassState) : Prop where
  artifacts : reduced.declared.artifacts =
    full.declared.artifacts.filter (!·.isFunctionNamed name)
  symbols : reduced.declared.symbols = full.declared.symbols
  previousEnd : reduced.previousEnd = full.previousEnd

/-- A declaration of another name makes no function of the name, and a function of the name makes
nothing else and leaves the symbols alone. -/
theorem PassContext.bind_table {context : PassContext} {symbols : SymbolTable}
    {previous : Option Mark} {declaration : Declaration} {next : Declared}
    (h : context.bind ⟨[], symbols⟩ previous declaration = .ok next) (name : String) :
    (declaration.spelling context.tags ≠ name →
      next.artifacts.filter (!·.isFunctionNamed name) = next.artifacts) ∧
    (declaration.spelling context.tags = name → (∃ type defined,
        declaration.body = .function type defined) →
      next.artifacts.filter (!·.isFunctionNamed name) = [] ∧ next.symbols = symbols) := by
  cases bind_adds h with
  | nothing => exact ⟨fun _ => rfl, fun _ _ => ⟨rfl, rfl⟩⟩
  | type made =>
    refine ⟨fun _ => ?_, ?_⟩
    · cases made <;> rfl
    · rintro - ⟨type, defined, hbody⟩
      cases made <;> simp_all
  | function made =>
    cases made with
    | mk body _ _ =>
      have hspelling : declaration.spelling context.tags = declaration.name := by
        rw [Declaration.spelling, body]
      refine ⟨fun hname => ?_, fun hname _ => ⟨?_, rfl⟩⟩
      · rw [hspelling] at hname
        simp [Declared.append, Artifact.isFunctionNamed, hname]
      · rw [hspelling] at hname
        simp [Declared.append, Artifact.isFunctionNamed, hname]

theorem isBlacklisted_with {context : PassContext} {blacklist : List String} {name : String}
    (hblacklist : ∀ other, other ∈ blacklist ↔ other ∈ context.blacklist ∨ other = name)
    (declaration : Declaration) :
    ({ context with blacklist } : PassContext).isBlacklisted declaration =
      (context.isBlacklisted declaration || declaration.spelling context.tags == name) := by
  rw [Bool.eq_iff_iff, Bool.or_eq_true, beq_iff_eq]
  simp only [PassContext.isBlacklisted, List.contains_iff_mem]
  exact hblacklist _

theorem PassState.Lacks.visit {context : PassContext} {blacklist : List String} {name : String}
    (hblacklist : ∀ other, other ∈ blacklist ↔ other ∈ context.blacklist ∨ other = name)
    {declaration : Declaration}
    (hfunction : declaration.spelling context.tags = name → ∃ type defined,
      declaration.body = .function type defined)
    {state state' : PassState} (h : PassState.Lacks name state state')
    (hnone : (context.visit state declaration).2 = none) :
    (({ context with blacklist } : PassContext).visit state' declaration).2 = none ∧
      PassState.Lacks name (context.visit state declaration).1
        (({ context with blacklist } : PassContext).visit state' declaration).1 := by
  have hlisted := isBlacklisted_with hblacklist declaration
  cases hfull : context.isBlacklisted declaration with
  | true =>
    rw [hfull, Bool.true_or] at hlisted
    rw [PassContext.visit_of_blacklisted hlisted, PassContext.visit_of_blacklisted hfull]
    exact ⟨rfl, h.artifacts, h.symbols, rfl⟩
  | false =>
    rw [hfull, Bool.false_or] at hlisted
    obtain ⟨next, hnext⟩ := PassContext.bound_of_visit hfull hnone
    rw [PassContext.visit_of_bound hfull hnext]
    rw [PassContext.bind_behind] at hnext
    obtain ⟨made, hmade, rfl⟩ : ∃ made, context.bind state.declared.table state.previousEnd
        declaration = .ok made ∧ made.behind state.declared.artifacts = next := by
      cases hmade : context.bind state.declared.table state.previousEnd declaration with
      | ok made =>
        rw [hmade] at hnext
        exact ⟨made, rfl, Except.ok.inj hnext⟩
      | error error =>
        rw [hmade] at hnext
        cases hnext
    obtain ⟨hothers, hown⟩ := PassContext.bind_table hmade name
    by_cases hname : declaration.spelling context.tags = name
    · rw [hname, beq_self_eq_true] at hlisted
      rw [PassContext.visit_of_blacklisted hlisted]
      obtain ⟨hartifacts, hsymbols⟩ := hown hname (hfunction hname)
      refine ⟨rfl, ?_, ?_, rfl⟩
      · rw [Declared.behind, List.filter_append, hartifacts, List.append_nil]
        exact h.artifacts
      · exact h.symbols.trans hsymbols.symm
    · rw [beq_eq_false_iff_ne.mpr hname] at hlisted
      -- what the declaration adds is the same, as the symbols and the end before it are
      have hsame : ({ context with blacklist } : PassContext).bind state'.declared
          state'.previousEnd declaration = .ok (made.behind state'.declared.artifacts) := by
        rw [PassContext.bind_behind, Declared.table, h.symbols, h.previousEnd]
        exact congrArg (Except.map _) hmade
      rw [PassContext.visit_of_bound hlisted hsame]
      refine ⟨rfl, ?_, rfl, rfl⟩
      dsimp only [Declared.behind]
      rw [List.filter_append, hothers hname, h.artifacts]

/-- A pass that leaves out one more name, which only functions have, finishes if the pass with them
does. It ends with the same symbols and the same end of the last declaration, and its artifacts are
the others in their order. -/
theorem run_blacklist (context : PassContext) {blacklist : List String} {name : String}
    (hblacklist : ∀ other, other ∈ blacklist ↔ other ∈ context.blacklist ∨ other = name)
    {declarations : List Declaration}
    (hfunctions : ∀ declaration ∈ declarations, context.isInScope declaration = true →
      declaration.spelling context.tags = name → ∃ type defined,
        declaration.body = .function type defined)
    (hfinish : (context.run .start declarations).error = none) :
    let full := context.run .start declarations
    let reduced := ({ context with blacklist } : PassContext).run .start declarations
    reduced.error = none ∧ reduced.final.declared.symbols = full.final.declared.symbols ∧
      reduced.final.previousEnd = full.final.previousEnd ∧
      reduced.final.declared.artifacts =
        full.final.declared.artifacts.filter (!·.isFunctionNamed name) := by
  intro full reduced
  have hstart : PassState.Lacks name .start .start := ⟨rfl, rfl, rfl⟩
  obtain ⟨hreduced, hlacks⟩ := context.run_relates { context with blacklist } (fun _ _ => rfl)
    (fun declaration hd hscope _ _ related hnone =>
      related.visit hblacklist (hfunctions declaration hd hscope) hnone) hstart hfinish
  exact ⟨hreduced, hlacks.symbols, hlacks.previousEnd, hlacks.artifacts⟩

/-- A header with two functions; the second one has no comment. -/
def valveContext : PassContext where
  source := ⟨.default, [],
    [⟨"./valve.h", "/* Opens. */\nvoid open(void);\nvoid shut(void);\n"⟩], []⟩
  target := ⟨.x86_64, .linux, true, false, false, none⟩
  tags := []
  files := ["valve.h"]
  blacklist := []
  prefixes := []
  oddPrefix := none

def valveFunction (name : String) (start stop : Nat) : Declaration :=
  ⟨name, ⟨0, start + 5⟩, ⟨⟨0, start⟩, some ⟨0, start⟩⟩, ⟨⟨0, stop⟩, some ⟨0, stop⟩⟩,
    .function (.function (.basic .void) [] .fixed) false⟩

def valveDeclarations : List Declaration :=
  [valveFunction "open" 13 28, valveFunction "shut" 30 45]

set_option maxRecDepth 4096 in
/-- The comment of the function that is left out does not move on to the next one. -/
theorem valve_open_left_out :
    let reduced := ({ valveContext with blacklist := ["open"] } : PassContext).run .start
      valveDeclarations
    (valveContext.run .start valveDeclarations).final.declared.artifacts.map
        (fun artifact => (artifact.name, artifact.comment?)) =
      [("open", some "/* Opens. */"), ("shut", some "")] ∧
    reduced.error = none ∧
    reduced.final.declared.artifacts =
      (valveContext.run .start valveDeclarations).final.declared.artifacts.filter
        (!·.isFunctionNamed "open") := by
  have hblacklist : ∀ other, other ∈ ["open"] ↔
      other ∈ valveContext.blacklist ∨ other = "open" := by
    intro other
    rw [List.mem_singleton]
    exact ⟨.inr, fun h => h.resolve_left List.not_mem_nil⟩
  have hfunctions : ∀ declaration ∈ valveDeclarations,
      valveContext.isInScope declaration = true →
        declaration.spelling valveContext.tags = "open" → ∃ type defined,
          declaration.body = .function type defined := by
    intro declaration hdeclaration _ _
    simp only [valveDeclarations, List.mem_cons, List.not_mem_nil, or_false] at hdeclaration
    rcases hdeclaration with rfl | rfl <;> exact ⟨_, _, rfl⟩
  obtain ⟨hfinish, -, -, hartifacts⟩ :=
    run_blacklist valveContext hblacklist hfunctions (by with_unfolding_all rfl)
  exact ⟨by with_unfolding_all rfl, hfinish, hartifacts⟩

end HeaderBindings
