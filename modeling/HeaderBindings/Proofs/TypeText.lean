import HeaderBindings.Binding.Model
import HeaderBindings.Proofs.DumpedModel
import HeaderBindings.Proofs.NameText
import HeaderBindings.Proofs.SymbolTable

/-! Types that are written alike. The text of a type tells how its arrays are nested and what is
inside them, but for artifacts whose names become the same and for symbols that are those of types
of the library itself. -/

namespace HeaderBindings

variable {target : Target} {artifacts : List Artifact} {prefixes : List String}

/-! Numbers and arrays in a text. -/

theorem append_cons_inj_of_last {α : Type} {a : α} {front front' back back' : List α}
    (hback : a ∉ back) (hback' : a ∉ back') (h : front ++ a :: back = front' ++ a :: back') :
    front = front' ∧ back = back' := by
  rcases List.append_eq_append_iff.mp h with ⟨between, hfront, htail⟩ | ⟨between, hfront, htail⟩
  · cases between with
    | nil => exact ⟨by simpa using hfront.symm, (List.cons.inj htail).2⟩
    | cons b rest =>
      have hrest : back = rest ++ a :: back' := (List.cons.inj htail).2
      exact absurd (hrest ▸ List.mem_append_right rest List.mem_cons_self) hback
  · cases between with
    | nil => exact ⟨by simpa using hfront, (List.cons.inj htail).2.symm⟩
    | cons b rest =>
      have hrest : back' = rest ++ a :: back := (List.cons.inj htail).2
      exact absurd (hrest ▸ List.mem_append_right rest List.mem_cons_self) hback'

theorem toDigits_inj {m n : Nat} (h : Nat.toDigits 10 m = Nat.toDigits 10 n) : m = n := by
  have hread := congrArg (Nat.ofDigitChars 10 · 0) h
  simpa only [Nat.ofDigitChars_toDigits (by decide : 1 < 10) (by decide : 10 ≤ 10)] using hread

theorem toString_negSucc (n : Nat) :
    toString (Int.negSucc n) = "-" ++ String.ofList (Nat.toDigits 10 (n + 1)) := rfl

theorem isDigit_of_mem_toString {n : Int} {c : Char} (h : c ∈ (toString n).toList) :
    c.isDigit = true ∨ c = '-' ∧ n < 0 := by
  have hdigits : ∀ m : Nat, c ∈ (String.ofList (Nat.toDigits 10 m)).toList →
      c.isDigit = true := by
    intro m h
    rw [String.toList_ofList] at h
    exact Nat.isDigit_of_mem_toDigits (by decide) (by decide) h
  cases n with
  | ofNat m => exact .inl (hdigits m h)
  | negSucc m =>
    rw [toString_negSucc, String.toList_append, List.mem_append] at h
    rcases h with h | h
    · exact .inr ⟨List.mem_singleton.mp h, Int.negSucc_lt_zero m⟩
    · exact .inl (hdigits (m + 1) h)

theorem toString_int_inj {m n : Int} (h : toString m = toString n) : m = n := by
  have hsign : ∀ a b : Nat, toString (a : Int) ≠ toString (Int.negSucc b) := by
    intro a b heq
    have hminus : '-' ∈ (toString (a : Int)).toList := by
      rw [heq, toString_negSucc, String.toList_append]
      exact List.mem_append_left _ (by decide)
    rcases isDigit_of_mem_toString hminus with hdigit | ⟨-, hnegative⟩
    · cases hdigit
    · omega
  cases m with
  | ofNat a =>
    cases n with
    | ofNat b => exact congrArg Int.ofNat (toDigits_inj (String.ofList_injective h))
    | negSucc b => exact absurd h (hsign a b)
  | negSucc a =>
    cases n with
    | ofNat b => exact absurd h.symm (hsign b a)
    | negSucc b =>
      rw [toString_negSucc, toString_negSucc, String.append_right_inj] at h
      have hdigits := toDigits_inj (String.ofList_injective h)
      omega

theorem array_text_inj {element other : String} {length length' : Int}
    (h : "[" ++ element ++ ", " ++ toString length ++ "]" =
      "[" ++ other ++ ", " ++ toString length' ++ "]") : element = other ∧ length = length' := by
  have hcomma : ∀ n : Int, ',' ∉ ' ' :: (toString n).toList := by
    intro n hmem
    rcases List.mem_cons.mp hmem with hspace | hmem
    · cases hspace
    · rcases isDigit_of_mem_toString hmem with hdigit | ⟨hminus, -⟩
      · cases hdigit
      · cases hminus
  rw [String.append_left_inj, String.append_assoc, String.append_assoc, String.append_assoc,
    String.append_assoc, String.append_right_inj, ← String.toList_inj] at h
  simp only [String.toList_append] at h
  obtain ⟨helement, hlength⟩ := append_cons_inj_of_last (hcomma length) (hcomma length') h
  exact ⟨String.toList_inj.mp helement,
    toString_int_inj (String.toList_inj.mp (List.cons.inj hlength).2)⟩

/-! Types as a pass makes them. -/

/-- A type that a pass can make on a target, of arithmetic types and of artifacts that types can
refer to. -/
inductive ForeignType.MadeFrom (target : Target) (artifacts : List Artifact) : ForeignType → Prop
  | arithmetic {basic : BasicType} {resolved : Resolved}
      (resolves : basic.resolve target = .ok resolved) : MadeFrom target artifacts resolved.type
  | pointer : MadeFrom target artifacts .pointer
  | string : MadeFrom target artifacts .string
  | reference {artifact : Artifact} (known : artifact ∈ artifacts)
      (kind : artifact.isType = true) : MadeFrom target artifacts (.reference artifact)
  | array {element : ForeignType} (length : Int) (made : MadeFrom target artifacts element) :
      MadeFrom target artifacts (.array element length)

theorem madeFrom_of_resolvePointer {tags : TagTable} {symbols : SymbolTable} {name : String}
    {pointee : CType} {resolved : Resolved}
    (h : resolvePointer tags symbols prefixes name pointee = .ok resolved) :
    resolved.type.MadeFrom target artifacts := by
  unfold resolvePointer at h
  split at h
  · cases h
    exact .string
  · cases h
  · dsimp only at h
    split at h
    · cases h
      exact .pointer
    · split at h
      · cases h
        exact .pointer
      · split at h <;> (cases h; exact .pointer)

theorem CType.madeFrom_of_resolve {tags : TagTable} {symbols : SymbolTable} {type : CType}
    {resolved : Resolved} (h : type.resolve target tags symbols prefixes = .ok resolved)
    (hknown : ∀ artifact ∈ resolved.type.artifact?,
      artifact ∈ artifacts ∧ artifact.isType = true) :
    resolved.type.MadeFrom target artifacts := by
  fun_induction CType.resolve target tags symbols prefixes type generalizing resolved
  case case1 artifact known =>
    cases h
    obtain ⟨hmem, hkind⟩ := hknown artifact rfl
    exact .reference hmem hkind
  case case2 => exact .arithmetic h
  case case3 => exact madeFrom_of_resolvePointer h
  case case5 ih =>
    obtain ⟨inner, hinner, h⟩ := bind_eq_ok_iff.mp h
    cases h
    exact .array _ (ih hinner hknown)
  case case9 =>
    unfold resolveTag at h
    split at h
    · cases h
    · split at h
      · next artifact hfound =>
        cases h
        obtain ⟨hmem, hkind⟩ := hknown artifact rfl
        exact .reference hmem hkind
      · split at h
        · exact .arithmetic h
        · cases h
        · cases h
  all_goals cases h

/-- The types of an artifact are what the types of its declaration resolve to. -/
theorem PassContext.Makes.exists_resolve {context : PassContext} {symbols : SymbolTable}
    {previous : Option Mark} {declaration : Declaration} {artifact : Artifact}
    {type : ForeignType} (h : context.Makes symbols previous declaration artifact)
    (htype : type ∈ artifact.types) :
    ∃ written resolved, context.resolve symbols written = .ok resolved ∧
      resolved.type = type := by
  have hsignature : ∀ {result : CType} {parameters : List CParameter} {signature : Signature},
      context.signature symbols result parameters = .ok signature →
      type ∈ signature.parameters.map Parameter.type ++ [signature.result] →
      ∃ written resolved, context.resolve symbols written = .ok resolved ∧
        resolved.type = type := by
    intro result parameters signature made hmem
    obtain ⟨⟨resolved, hresolved, hresult, -⟩, hparameters⟩ := signature_eq_ok made
    rcases List.mem_append.mp hmem with hmem | hmem
    · obtain ⟨parameter, hparameter, rfl⟩ := List.mem_map.mp hmem
      obtain ⟨written, -, hmade⟩ := exists_mem_of_forall₂ hparameters hparameter
      obtain ⟨resolved, hresolved, rfl⟩ := parameter_eq_ok_iff.mp hmade
      exact ⟨written.type, resolved, hresolved, rfl⟩
    · exact ⟨result, resolved, hresolved, by rw [List.mem_singleton.mp hmem, hresult]⟩
  rcases h with ⟨aliases, h⟩ | h
  · cases h with
    | tag => cases htype
    | enumeration => cases htype
    | struct _ _ _ _ made =>
      obtain ⟨field, hfield, rfl⟩ := List.mem_map.mp htype
      obtain ⟨written, -, resolved, hresolved, rfl⟩ := exists_mem_of_forall₂ made hfield
      exact ⟨written.type, resolved, hresolved, rfl⟩
    | callback _ _ made => exact hsignature made htype
  · cases h with
    | mk _ _ made => exact hsignature made htype

theorem PassContext.exists_visit_of_mem_run {context : PassContext}
    {declarations : List Declaration} {artifact : Artifact}
    (h : artifact ∈ (context.run .start declarations).final.declared.artifacts) :
    ∃ visit ∈ context.visits .start declarations,
      context.Makes visit.before.declared.symbols visit.before.previousEnd visit.declaration
        artifact := by
  rw [run_artifacts, PassState.start, Declared.empty, List.nil_append] at h
  obtain ⟨visit, hvisit, hadded⟩ := List.mem_flatMap.mp h
  exact ⟨visit, hvisit, (makes_of_mem_added hadded).2⟩

theorem PassContext.run_madeFrom (context : PassContext) (declarations : List Declaration) :
    let artifacts := (context.run .start declarations).final.declared.artifacts
    ∀ artifact ∈ artifacts, ∀ type ∈ artifact.types, type.MadeFrom context.target artifacts := by
  intro artifacts artifact hartifact type htype
  obtain ⟨visit, -, hmakes⟩ := exists_visit_of_mem_run hartifact
  obtain ⟨written, resolved, hresolved, rfl⟩ := hmakes.exists_resolve htype
  refine CType.madeFrom_of_resolve (resolve_eq_ok hresolved).1 fun other hother => ?_
  obtain ⟨i, hi, rfl⟩ := List.mem_iff_getElem.mp hartifact
  obtain ⟨hkind, j, hj, rfl⟩ :=
    (context.run_grounded declarations).artifacts i hi resolved.type htype other hother
  exact ⟨List.getElem_mem _, hkind⟩

/-- An artifact goes by the name of its declaration, or of its tag. -/
theorem PassContext.Makes.name_eq {context : PassContext} {symbols : SymbolTable}
    {previous : Option Mark} {declaration : Declaration} {artifact : Artifact}
    (h : context.Makes symbols previous declaration artifact) :
    artifact.name = declaration.name ∨ ∃ tag ∈ context.tags, artifact.name = tag.spelling := by
  rcases h with ⟨aliases, h⟩ | h
  · cases h with
    | tag body found => exact .inr ⟨_, List.mem_of_getElem? found, rfl⟩
    | _ => exact .inl rfl
  · cases h
    exact .inl rfl

/-- What holds of the names of all declarations and tags holds of the names of the artifacts. -/
theorem PassContext.run_names {context : PassContext} {declarations : List Declaration}
    {P : String → Prop} (hdeclarations : ∀ declaration ∈ declarations, P declaration.name)
    (htags : ∀ tag ∈ context.tags, P tag.spelling) :
    ∀ artifact ∈ (context.run .start declarations).final.declared.artifacts, P artifact.name := by
  intro artifact hartifact
  obtain ⟨visit, hvisit, hmakes⟩ := exists_visit_of_mem_run hartifact
  rcases hmakes.name_eq with hname | ⟨tag, htag, hname⟩
  · rw [hname]
    exact hdeclarations _ (mem_of_mem_visits hvisit).1
  · rw [hname]
    exact htags tag htag

/-! Symbols. -/

/-- The name that the library itself has for a type. -/
def ForeignType.builtin? : ForeignType → Option String
  | .integer name _ _ => some name
  | .floating name _ => some name
  | .void => some "void"
  | .pointer => some "pointer"
  | .string => some "string"
  | .array _ _ => none
  | .reference _ => none

/-- Whether types refer to an artifact by a symbol, and not by a class. -/
def Artifact.isSymbolic : Artifact → Bool
  | .struct _ _ => false
  | _ => true

/-- The symbol that a type is written as, without its colon. -/
def ForeignType.symbol? (prefixes : List String) : ForeignType → Option String
  | .reference artifact =>
    if artifact.isSymbolic then some (memberIdentifier prefixes artifact.name) else none
  | type => type.builtin?

theorem Artifact.reference_of_isSymbolic {artifact : Artifact} (h : artifact.isSymbolic = true) :
    artifact.reference prefixes = ":" ++ memberIdentifier prefixes artifact.name := by
  cases artifact with
  | struct => cases h
  | _ => rfl

theorem ForeignType.render_of_symbol? {type : ForeignType} {symbol : String}
    (h : type.symbol? prefixes = some symbol) : type.render prefixes = ":" ++ symbol := by
  cases type with
  | reference artifact =>
    rw [symbol?] at h
    split at h
    · next hsymbolic =>
      rw [← Option.some.inj h]
      exact Artifact.reference_of_isSymbolic hsymbolic
    · cases h
  | array => cases h
  | integer | floating => cases h; rfl
  | void | pointer | string =>
    cases h
    rw [render]
    decide

/-- The one type of a target that goes by a name of the library. -/
def builtinType (target : Target) : String → ForeignType
  | "void" => .void
  | "pointer" => .pointer
  | "string" => .string
  | "bool" => .integer "bool" false (BasicType.bool.width target)
  | "char" => .integer "char" true (BasicType.char.width target)
  | "uchar" => .integer "uchar" false (BasicType.char.width target)
  | "short" => .integer "short" true (BasicType.short.width target)
  | "ushort" => .integer "ushort" false (BasicType.short.width target)
  | "int" => .integer "int" true (BasicType.int.width target)
  | "uint" => .integer "uint" false (BasicType.int.width target)
  | "long" => .integer "long" true (BasicType.long.width target)
  | "ulong" => .integer "ulong" false (BasicType.long.width target)
  | "long_long" => .integer "long_long" true (BasicType.longLong.width target)
  | "ulong_long" => .integer "ulong_long" false (BasicType.longLong.width target)
  | "float" => .floating "float" (BasicType.float.width target)
  | "double" => .floating "double" (BasicType.double.width target)
  | name => .floating name (BasicType.longDouble.width target)

/-- The names that the library itself has for types. -/
def builtinNames : List String :=
  ["void", "pointer", "string", "bool", "char", "uchar", "short", "ushort", "int", "uint", "long",
    "ulong", "long_long", "ulong_long", "float", "double", "long_double"]

theorem BasicType.builtin?_resolve {basic : BasicType} {resolved : Resolved}
    (h : basic.resolve target = .ok resolved) :
    ∃ name ∈ builtinNames, resolved.type.builtin? = some name ∧
      resolved.type = builtinType target name := by
  cases basic <;> simp only [BasicType.resolve] at h <;> try split at h
  all_goals
    cases h <;>
    exact ⟨_, by decide, rfl, by simp only [builtinType] <;> rfl⟩

theorem ForeignType.MadeFrom.eq_builtinType {type : ForeignType} {name : String}
    (h : type.MadeFrom target artifacts) (hname : type.builtin? = some name) :
    name ∈ builtinNames ∧ type = builtinType target name := by
  cases h with
  | arithmetic resolves =>
    obtain ⟨own, hmem, hown, htype⟩ := BasicType.builtin?_resolve resolves
    rw [hown] at hname
    cases hname
    exact ⟨hmem, htype⟩
  | pointer | string =>
    cases hname
    exact ⟨by decide, by simp only [builtinType]⟩
  | reference | array => cases hname

/-- A symbol is a name of the library, or the identifier of an artifact. -/
theorem ForeignType.eq_reference_of_symbol? {type : ForeignType} {symbol : String}
    (h : type.symbol? prefixes = some symbol) :
    type.builtin? = some symbol ∨ ∃ artifact, type = .reference artifact ∧
      artifact.isSymbolic = true ∧ memberIdentifier prefixes artifact.name = symbol := by
  cases type with
  | reference artifact =>
    rw [symbol?] at h
    split at h
    · next hsymbolic => exact .inr ⟨artifact, rfl, hsymbolic, Option.some.inj h⟩
    · cases h
  | _ => exact .inl h

theorem ForeignType.MadeFrom.mem_of_reference {artifact : Artifact}
    (h : (ForeignType.reference artifact).MadeFrom target artifacts) : artifact ∈ artifacts := by
  generalize hreference : ForeignType.reference artifact = type at h
  cases h with
  | arithmetic resolves =>
    obtain ⟨name, -, hname, -⟩ := BasicType.builtin?_resolve resolves
    rw [← hreference] at hname
    cases hname
  | reference known kind =>
    cases hreference
    exact known
  | pointer | string | array => cases hreference

theorem ForeignType.MadeFrom.symbol_unbroken {type : ForeignType} {symbol : String}
    (h : type.MadeFrom target artifacts)
    (hnames : ∀ artifact ∈ artifacts, '.' ∉ artifact.name.toList)
    (hsymbol : type.symbol? prefixes = some symbol) : '.' ∉ symbol.toList := by
  rcases eq_reference_of_symbol? hsymbol with hname | ⟨artifact, rfl, -, rfl⟩
  · have hbuiltin : ∀ name ∈ builtinNames, '.' ∉ name.toList := by decide
    exact hbuiltin symbol (h.eq_builtinType hname).1
  · exact sign_not_mem_memberIdentifier prefixes (by decide) (hnames artifact h.mem_of_reference)

/-! Types that are written alike without being the same. -/

/-- What makes two different types read the same: arrays of one length, with elements that do so,
two structs whose names are the same without their prefixes, or an enum or a callback whose symbol
is that of another one or of a type of the library. -/
inductive ForeignType.Clashes (prefixes : List String) : ForeignType → ForeignType → Prop
  | array {element other : ForeignType} (length : Int) (elements : element.Clashes prefixes other) :
      Clashes prefixes (.array element length) (.array other length)
  | struct {name other : String} {fields others : List Field} (different : name ≠ other)
      (stripped : typeIdentifier prefixes name = typeIdentifier prefixes other) :
      Clashes prefixes (.reference (.struct name fields)) (.reference (.struct other others))
  | symbol {artifact other : Artifact}
      (different : artifact.kind ≠ other.kind ∨ artifact.name ≠ other.name)
      (symbolic : artifact.isSymbolic = true) (symbolic' : other.isSymbolic = true)
      (identifiers : memberIdentifier prefixes artifact.name =
        memberIdentifier prefixes other.name) :
      Clashes prefixes (.reference artifact) (.reference other)
  | builtin {artifact : Artifact} {type : ForeignType} (symbolic : artifact.isSymbolic = true)
      (identifier : type.builtin? = some (memberIdentifier prefixes artifact.name)) :
      Clashes prefixes (.reference artifact) type
  | builtin' {artifact : Artifact} {type : ForeignType} (symbolic : artifact.isSymbolic = true)
      (identifier : type.builtin? = some (memberIdentifier prefixes artifact.name)) :
      Clashes prefixes type (.reference artifact)

theorem Artifact.reference_congr {artifact other : Artifact} (hkind : artifact.kind = other.kind)
    (hname : artifact.name = other.name) :
    artifact.reference prefixes = other.reference prefixes := by
  cases artifact <;> cases other <;> simp_all [kind, name, reference]

theorem ForeignType.Same.render_eq {type other : ForeignType} (h : type.Same other) :
    type.render prefixes = other.render prefixes := by
  induction h with
  | array length _ ih => rw [render, render, ih]
  | reference kind name => exact Artifact.reference_congr kind name
  | _ => rfl

theorem ForeignType.symbol?_of_builtin? {type : ForeignType} {name : String}
    (h : type.builtin? = some name) : type.symbol? prefixes = some name := by
  cases type with
  | reference => cases h
  | _ => exact h

theorem ForeignType.Clashes.render_eq {type other : ForeignType} (h : type.Clashes prefixes other) :
    type.render prefixes = other.render prefixes := by
  induction h with
  | array length _ ih => rw [render, render, ih]
  | struct _ stripped => exact congrArg (· ++ ".by_value") stripped
  | symbol _ symbolic symbolic' identifiers =>
    rw [render, render, Artifact.reference_of_isSymbolic symbolic,
      Artifact.reference_of_isSymbolic symbolic', identifiers]
  | builtin symbolic identifier =>
    rw [render_of_symbol? (symbol?_of_builtin? identifier), render,
      Artifact.reference_of_isSymbolic symbolic]
  | builtin' symbolic identifier =>
    rw [render_of_symbol? (symbol?_of_builtin? identifier), render,
      Artifact.reference_of_isSymbolic symbolic]

/-- Symbols that read the same are those of one type, or they clash. -/
theorem ForeignType.MadeFrom.same_or_clashes_of_symbol? {type other : ForeignType}
    {symbol : String} (h : type.MadeFrom target artifacts)
    (hother : other.MadeFrom target artifacts) (hsymbol : type.symbol? prefixes = some symbol)
    (hsymbol' : other.symbol? prefixes = some symbol) :
    type.Same other ∨ type.Clashes prefixes other := by
  rcases eq_reference_of_symbol? hsymbol with hname | ⟨artifact, rfl, hsymbolic, hidentifier⟩
  · rcases eq_reference_of_symbol? hsymbol' with hname' | ⟨artifact', rfl, hsymbolic', hidentifier'⟩
    · rw [(h.eq_builtinType hname).2, (hother.eq_builtinType hname').2]
      exact .inl (entry_eq_iff.mp rfl)
    · exact .inr (.builtin' hsymbolic' (hidentifier' ▸ hname))
  · rcases eq_reference_of_symbol? hsymbol' with hname' | ⟨artifact', rfl, hsymbolic', hidentifier'⟩
    · exact .inr (.builtin hsymbolic (hidentifier ▸ hname'))
    · by_cases hsame : artifact.kind = artifact'.kind ∧ artifact.name = artifact'.name
      · exact .inl (.reference hsame.1 hsame.2)
      · exact .inr (.symbol (Decidable.not_and_iff_not_or_not.mp hsame) hsymbolic hsymbolic'
          (hidentifier.trans hidentifier'.symm))

/-- A type reads as an array, as a class or as a symbol. -/
theorem ForeignType.cases_of_symbol? (prefixes : List String) (type : ForeignType) :
    (∃ element length, type = .array element length) ∨
      (∃ name fields, type = .reference (.struct name fields)) ∨
      ∃ symbol, type.symbol? prefixes = some symbol := by
  cases type with
  | array element length => exact .inl ⟨element, length, rfl⟩
  | reference artifact =>
    cases artifact with
    | struct name fields => exact .inr (.inl ⟨name, fields, rfl⟩)
    | _ => exact .inr (.inr ⟨_, rfl⟩)
  | _ => exact .inr (.inr ⟨_, rfl⟩)

/-- Arrays read differently from anything else, as they begin with a bracket and end with one. -/
theorem ForeignType.render_array_ne {other : ForeignType} (element : ForeignType) (length : Int)
    (h : ∀ element length, other ≠ .array element length) :
    (array element length).render prefixes ≠ other.render prefixes := by
  intro htext
  rcases cases_of_symbol? prefixes other with ⟨_, _, rfl⟩ | ⟨name, fields, rfl⟩ | ⟨symbol, hsymbol⟩
  · exact h _ _ rfl
  · have hlast := congrArg (fun text => text.toList.reverse.head?) htext
    simp [render, Artifact.reference] at hlast
  · rw [render_of_symbol? hsymbol, render] at htext
    have hhead := congrArg (fun text => text.toList.head?) htext
    simp at hhead

theorem ForeignType.MadeFrom.render_struct_ne {name symbol : String} {fields : List Field}
    {other : ForeignType} (h : other.MadeFrom target artifacts)
    (hnames : ∀ artifact ∈ artifacts, '.' ∉ artifact.name.toList)
    (hsymbol : other.symbol? prefixes = some symbol) :
    (ForeignType.reference (.struct name fields)).render prefixes ≠ other.render prefixes := by
  intro htext
  rw [render_of_symbol? hsymbol, render, Artifact.reference] at htext
  have hdot : '.' ∈ (":" ++ symbol).toList := by
    rw [← htext]
    simp
  rw [String.toList_append, List.mem_append] at hdot
  rcases hdot with hdot | hdot
  · exact absurd hdot (by decide)
  · exact h.symbol_unbroken hnames hsymbol hdot

theorem ForeignType.MadeFrom.of_array {element : ForeignType} {length : Int}
    (h : (ForeignType.array element length).MadeFrom target artifacts) :
    element.MadeFrom target artifacts := by
  generalize harray : ForeignType.array element length = type at h
  cases h with
  | arithmetic resolves =>
    obtain ⟨name, -, hname, -⟩ := BasicType.builtin?_resolve resolves
    rw [← harray] at hname
    cases hname
  | pointer | string | reference => cases harray
  | array _ made =>
    cases harray
    exact made

theorem ForeignType.MadeFrom.same_or_clashes {type other : ForeignType}
    (h : type.MadeFrom target artifacts) (hother : other.MadeFrom target artifacts)
    (hnames : ∀ artifact ∈ artifacts, '.' ∉ artifact.name.toList)
    (htext : type.render prefixes = other.render prefixes) :
    type.Same other ∨ type.Clashes prefixes other := by
  induction type using ForeignType.parts.induct generalizing other with
  | case1 element length ih =>
    by_cases harray : ∃ inner count, other = .array inner count
    · obtain ⟨inner, count, rfl⟩ := harray
      obtain ⟨helements, rfl⟩ := array_text_inj htext
      exact (ih h.of_array hother.of_array helements).imp (.array length) (.array length)
    · simp only [not_exists] at harray
      exact absurd htext (render_array_ne element length harray)
  | case2 type hplain =>
    rcases cases_of_symbol? prefixes type with ⟨_, _, rfl⟩ | ⟨name, fields, rfl⟩ | ⟨symbol, hsymbol⟩
    · exact absurd rfl (hplain _ _)
    · rcases cases_of_symbol? prefixes other with
        ⟨element, length, rfl⟩ | ⟨name', fields', rfl⟩ | ⟨symbol', hsymbol'⟩
      · exact absurd htext.symm (render_array_ne element length hplain)
      · by_cases hname : name = name'
        · exact .inl (.reference rfl hname)
        · have hstripped := (String.append_left_inj _).mp htext
          exact .inr (.struct hname hstripped)
      · exact absurd htext (hother.render_struct_ne hnames hsymbol')
    · rcases cases_of_symbol? prefixes other with
        ⟨element, length, rfl⟩ | ⟨name', fields', rfl⟩ | ⟨symbol', hsymbol'⟩
      · exact absurd htext.symm (render_array_ne element length hplain)
      · exact absurd htext.symm (h.render_struct_ne hnames hsymbol)
      · have hsame := htext
        rw [render_of_symbol? hsymbol, render_of_symbol? hsymbol', String.append_right_inj] at hsame
        exact h.same_or_clashes_of_symbol? hother hsymbol (hsame ▸ hsymbol')

/-! The types of a model. -/

/-- The types in an artifact, with the elements of its arrays. -/
def Artifact.typeParts (artifact : Artifact) : List ForeignType :=
  artifact.types.flatMap ForeignType.parts

theorem ForeignType.MadeFrom.of_mem_parts {type part : ForeignType}
    (h : type.MadeFrom target artifacts) (hpart : part ∈ type.parts) :
    part.MadeFrom target artifacts := by
  induction type using ForeignType.parts.induct with
  | case1 element length ih =>
    rw [parts, List.mem_cons] at hpart
    rcases hpart with rfl | hpart
    · exact h
    · exact ih h.of_array hpart
  | case2 type hplain =>
    rw [parts.eq_2 _ hplain, List.mem_singleton] at hpart
    rw [hpart]
    exact h

/-- Two types of a model are written alike exactly if they are the same or clash. -/
theorem run_render_eq_iff (context : PassContext) (declarations : List Declaration)
    (hdeclarations : ∀ declaration ∈ declarations, '.' ∉ declaration.name.toList)
    (htags : ∀ tag ∈ context.tags, '.' ∉ tag.spelling.toList) (prefixes : List String) :
    let artifacts := (context.run .start declarations).final.declared.artifacts
    ∀ type ∈ artifacts.flatMap Artifact.typeParts, ∀ other ∈ artifacts.flatMap Artifact.typeParts,
      (type.render prefixes = other.render prefixes ↔
        type.Same other ∨ type.Clashes prefixes other) := by
  intro artifacts type htype other hother
  have hnames : ∀ artifact ∈ artifacts, '.' ∉ artifact.name.toList :=
    PassContext.run_names (P := fun name => '.' ∉ name.toList) hdeclarations htags
  have hmade : ∀ part ∈ artifacts.flatMap Artifact.typeParts,
      part.MadeFrom context.target artifacts := by
    intro part hpart
    obtain ⟨artifact, hartifact, hpart⟩ := List.mem_flatMap.mp hpart
    obtain ⟨whole, hwhole, hpart⟩ := List.mem_flatMap.mp hpart
    exact (context.run_madeFrom declarations artifact hartifact whole hwhole).of_mem_parts hpart
  refine ⟨(hmade type htype).same_or_clashes (hmade other hother) hnames, ?_⟩
  exact fun hsame => hsame.elim ForeignType.Same.render_eq ForeignType.Clashes.render_eq

theorem palette_render_eq_iff :
    (∀ declaration ∈ paletteDeclarations, '.' ∉ declaration.name.toList) ∧
      (∀ tag ∈ paletteContext.tags, '.' ∉ tag.spelling.toList) ∧
      let artifacts := (paletteContext.run .start paletteDeclarations).final.declared.artifacts
      (artifacts.flatMap Artifact.typeParts).map (·.render ["pal_"]) =
          ["[:ink, 4]", ":ink", "row_t.by_value", ":void"] ∧
        ∀ type ∈ artifacts.flatMap Artifact.typeParts,
          ∀ other ∈ artifacts.flatMap Artifact.typeParts,
            (type.render ["pal_"] = other.render ["pal_"] ↔
              type.Same other ∨ type.Clashes ["pal_"] other) :=
  have hdeclarations : ∀ declaration ∈ paletteDeclarations, '.' ∉ declaration.name.toList := by
    decide
  have htags : ∀ tag ∈ paletteContext.tags, '.' ∉ tag.spelling.toList := by decide
  ⟨hdeclarations, htags, by decide +kernel,
    run_render_eq_iff paletteContext paletteDeclarations hdeclarations htags ["pal_"]⟩

theorem ForeignType.Same.isSome_artifact? {type other : ForeignType} (h : type.Same other) :
    type.artifact?.isSome = other.artifact?.isSome := by
  induction h with
  | array _ _ ih => exact ih
  | _ => rfl

/-- An enum that has the name of a type of the library. -/
def followSettings : Settings :=
  { Settings.default with
    moduleName := .string "M"
    library := .string "m"
    headers := [.string "follow.h"] }

def followUnit : TranslationUnit :=
  followSettings.unit [] (.ofFiles [("follow.h",
    "enum pointer { NEAR, FAR };\nvoid follow(enum pointer kind, void *target);\n")])

set_option maxRecDepth 100000 in
theorem follow_types_ambiguous :
    let artifacts := (followSettings.run followUnit).final.declared.artifacts
    ¬ ∀ type ∈ artifacts.flatMap Artifact.typeParts,
        ∀ other ∈ artifacts.flatMap Artifact.typeParts,
          type.render [] = other.render [] → type.Same other := by
  intro artifacts h
  have htexts : (artifacts.flatMap Artifact.typeParts).map
      (fun type => (type.artifact?.isSome, type.render [])) =
        [(true, ":pointer"), (false, ":pointer"), (false, ":void")] := by decide +kernel
  clear_value artifacts
  have hpart : ∀ refers, ∃ type ∈ artifacts.flatMap Artifact.typeParts,
      type.artifact?.isSome = refers ∧ type.render [] = ":pointer" := by
    intro refers
    have hmem : (refers, ":pointer") ∈ (artifacts.flatMap Artifact.typeParts).map
        (fun type => (type.artifact?.isSome, type.render [])) := by
      rw [htexts]
      cases refers <;> simp
    obtain ⟨type, htype, htext⟩ := List.mem_map.mp hmem
    exact ⟨type, htype, (Prod.mk.inj htext).1, (Prod.mk.inj htext).2⟩
  obtain ⟨type, htype, hreference, htext⟩ := hpart true
  obtain ⟨other, hother, hpointer, htext'⟩ := hpart false
  have hsame := (h type htype other hother (htext.trans htext'.symm)).isSome_artifact?
  rw [hreference, hpointer] at hsame
  cases hsame

end HeaderBindings
