import HeaderBindings.Proofs.Visit
import HeaderBindings.Proofs.CanonicalType

/-! The artifact that is declared under a type name, and the type that the name stands for. A struct
and a callback always describe it. An enum without a name is declared under the type name whatever
the declarator makes of it, and describes only a name for the enum itself. -/

namespace HeaderBindings

variable {context : PassContext} {visit : Visit} {type : CType} {attributes id : Nat}

/-- Whether an artifact is what a type stands for: the struct itself with its members, the enum
itself with its constants, or a pointer to a function. -/
def Artifact.Describes (tags : TagTable) (type : CType) : Artifact → Prop
  | .struct _ fields => ∃ id tag, type.canonical = .tag id false ∧ tags[id]? = some tag ∧
      tag.kind = .struct ∧
      fields.map Field.name = (tag.fields.filter (!·.implicit)).map CField.name
  | .enumeration _ constants => ∃ id tag, type.canonical = .tag id false ∧
      tags[id]? = some tag ∧ tag.kind = .enumeration ∧
      constants.map (·.1) = tag.constants.map Enumerator.name
  | .callback _ _ => ∃ result parameters style,
      type.canonical = .pointer (.function result parameters style)
  | .function _ _ _ _ => False

/-- A type name with nothing but the body of a struct written in it. -/
def PassContext.HasStruct (context : PassContext) (type : CType) (attributes id : Nat) : Prop :=
  type.children = [.definition id] ∧ attributes = 0 ∧
    ∃ tag, context.tags[id]? = some tag ∧ tag.kind = .struct

/-- A type name with nothing but the body of an enum without a name written in it. -/
def PassContext.HasUnnamedEnum (context : PassContext) (type : CType) (attributes id : Nat) :
    Prop :=
  type.children = [.definition id] ∧ attributes = 0 ∧
    ∃ tag, context.tags[id]? = some tag ∧ tag.kind = .enumeration ∧ tag.isAnonymous = true

/-! The tag that a type name makes its artifact of. -/

theorem PassContext.HasStruct.isRecord_iff (h : context.HasStruct type attributes id) :
    type.isRecord context.tags = true ↔ type.canonical = .tag id false := by
  obtain ⟨hchildren, -, tag, htag, hkind⟩ := h
  unfold CType.isRecord
  -- which record it is has not been asked for, but the body that is written can only be its own
  constructor
  · intro hrecord
    split at hrecord
    · next other here hcanonical =>
      have hidem := type.canonical_canonical
      rw [hcanonical, CType.canonical] at hidem
      obtain rfl := CType.tag_of_children hchildren hcanonical
      rw [hcanonical, ← hidem]
    · cases hrecord
  · intro hcanonical
    rw [hcanonical]
    simp [htag, hkind]

theorem PassContext.ownTag?_eq_some_iff : context.ownTag? type attributes = some id ↔
    context.HasStruct type attributes id ∧ type.canonical = .tag id false ∨
      context.HasUnnamedEnum type attributes id := by
  constructor
  · intro h
    obtain ⟨hchildren, rfl, tag, htag⟩ := ownTag?_eq_some h
    rw [ownTag?_of_tag hchildren htag] at h
    split at h
    · next howned =>
      rcases howned with ⟨hkind, hrecord⟩ | ⟨hkind, hunnamed⟩
      · have hhas : context.HasStruct type 0 id := ⟨hchildren, rfl, tag, htag, hkind⟩
        exact .inl ⟨hhas, hhas.isRecord_iff.mp hrecord⟩
      · exact .inr ⟨hchildren, rfl, tag, htag, hkind, hunnamed⟩
    · cases h
  · rintro (⟨hhas, hcanonical⟩ | ⟨hchildren, rfl, tag, htag, hkind, hunnamed⟩)
    · have hrecord := hhas.isRecord_iff.mpr hcanonical
      obtain ⟨hchildren, rfl, tag, htag, hkind⟩ := hhas
      rw [ownTag?_of_tag hchildren htag, if_pos (.inl ⟨hkind, hrecord⟩)]
    · rw [ownTag?_of_tag hchildren htag, if_pos (.inr ⟨hkind, hunnamed⟩)]

theorem PassContext.HasStruct.not_hasUnnamedEnum {other : Nat}
    (h : context.HasStruct type attributes id) :
    ¬ context.HasUnnamedEnum type attributes other := by
  obtain ⟨hchildren, -, tag, htag, hkind⟩ := h
  rintro ⟨hchildren', -, tag', htag', hkind', -⟩
  rw [hchildren] at hchildren'
  cases hchildren'
  rw [htag] at htag'
  cases htag'
  rw [hkind] at hkind'
  cases hkind'

/-! What the visit of a type name adds. -/

/-- Only a visit that binds its declaration adds something. -/
theorem PassContext.finishes_of_mem_added {artifact : Artifact}
    (h : artifact ∈ context.added visit) : context.isBlacklisted visit.declaration = false ∧
      (context.visit visit.before visit.declaration).2 = none := by
  cases hlisted : context.isBlacklisted visit.declaration with
  | true =>
    rw [added, visit_of_blacklisted hlisted, List.drop_length] at h
    cases h
  | false =>
    cases hbind : context.bind visit.before.declared visit.before.previousEnd
        visit.declaration with
    | ok next => exact ⟨rfl, by rw [visit_of_bound hlisted hbind]⟩
    | error error =>
      rw [added, PassContext.visit, hlisted, hbind] at h
      simp at h

theorem PassContext.names_of_visit (hbody : visit.declaration.body = .typeName type attributes)
    (hlisted : context.isBlacklisted visit.declaration = false)
    (hfinish : (context.visit visit.before visit.declaration).2 = none) :
    ∃ next, context.Names visit.before.declared visit.declaration.name type attributes next ∧
      context.added visit = next.artifacts.drop visit.before.declared.artifacts.length := by
  obtain ⟨next, hnext⟩ := bound_of_visit hlisted hfinish
  refine ⟨next, ?_, by rw [added, visit_of_bound hlisted hnext]⟩
  unfold PassContext.bind at hnext
  rw [hbody] at hnext
  exact typeName_names hnext

theorem Declared.drop_declare (declared : Declared) (artifact : Artifact) (aliases : List String) :
    (declared.declare artifact aliases).artifacts.drop declared.artifacts.length = [artifact] :=
  List.drop_left

theorem map_name_of_made {symbols : SymbolTable} {fields : List CField} {made : List Field}
    (h : List.Forall₂ (fun field made => ∃ resolved,
      context.resolve symbols field.type = .ok resolved ∧ made = ⟨field.name, resolved.type⟩)
      fields made) : made.map Field.name = fields.map CField.name := by
  induction h with
  | nil => rfl
  | cons hmade _ ih =>
    obtain ⟨resolved, -, rfl⟩ := hmade
    exact congrArg (_ :: ·) ih

theorem Enumerator.constant_name {enumerator : Enumerator} {value : String × Option String}
    (h : enumerator.constant = .ok value) : value.1 = enumerator.name := by
  unfold constant at h
  split at h
  · cases h; rfl
  · cases h; rfl
  · split at h <;> (cases h; rfl)
  · cases h

theorem map_name_of_constants {constants : List Enumerator}
    {values : List (String × Option String)}
    (h : List.Forall₂ (fun constant value => constant.constant = .ok value) constants values) :
    values.map (·.1) = constants.map Enumerator.name := by
  induction h with
  | nil => rfl
  | cons hvalue _ ih => exact congrArg₂ List.cons (Enumerator.constant_name hvalue) ih

/-- What a type name declares when nothing goes wrong, with what decides it. -/
theorem PassContext.added_typeName (hbody : visit.declaration.body = .typeName type attributes)
    (hlisted : context.isBlacklisted visit.declaration = false)
    (hfinish : (context.visit visit.before visit.declaration).2 = none) :
    (∃ id fields, context.HasStruct type attributes id ∧ type.canonical = .tag id false ∧
        context.added visit = [.struct visit.declaration.name fields] ∧
        (Artifact.struct visit.declaration.name fields).Describes context.tags type) ∨
    (∃ id constants, context.HasUnnamedEnum type attributes id ∧
        context.added visit = [.enumeration visit.declaration.name constants] ∧
        ((Artifact.enumeration visit.declaration.name constants).Describes context.tags type ↔
          type.canonical = .tag id false)) ∨
    (context.ownTag? type attributes = none ∧ ∃ signature result parameters style,
        type.canonical = .pointer (.function result parameters style) ∧
        context.added visit = [.callback visit.declaration.name signature]) ∨
    (context.ownTag? type attributes = none ∧ context.added visit = [] ∧
      ¬ ∃ result parameters style, type.canonical = .pointer (.function result parameters style)) := by
  obtain ⟨next, hnames, hadded⟩ := names_of_visit hbody hlisted hfinish
  cases hnames with
  | @struct id tag fields own found kind record made =>
    rw [Declared.drop_declare] at hadded
    obtain ⟨hchildren, hnone, -⟩ := ownTag?_eq_some own
    have hhas : context.HasStruct type attributes id := ⟨hchildren, hnone, tag, found, kind⟩
    have hcanonical := hhas.isRecord_iff.mp record
    exact .inl ⟨id, fields, hhas, hcanonical, hadded, id, tag, hcanonical, found, kind,
      map_name_of_made made⟩
  | @enumeration id tag values own found kind unnamed made =>
    rw [Declared.drop_declare] at hadded
    obtain ⟨hchildren, hnone, -⟩ := ownTag?_eq_some own
    refine .inr (.inl ⟨id, values, ⟨hchildren, hnone, tag, found, kind, unnamed⟩, hadded, ?_, ?_⟩)
    · rintro ⟨other, -, hcanonical, -⟩
      rw [hcanonical, CType.tag_of_children hchildren hcanonical]
    · intro hcanonical
      exact ⟨id, tag, hcanonical, found, kind, map_name_of_constants made⟩
  | @callback result signature own pointer made =>
    rw [Declared.drop_declare] at hadded
    obtain ⟨result, parameters, style, hcanonical⟩ := CType.canonical_of_callbackResult? pointer
    exact .inr (.inr (.inl ⟨own, signature, result, parameters, style, hcanonical, hadded⟩))
  | nothing own pointer =>
    rw [List.drop_length] at hadded
    refine .inr (.inr (.inr ⟨own, hadded, ?_⟩))
    rintro ⟨result, parameters, style, hcanonical⟩
    obtain ⟨found, hfound⟩ := CType.exists_callbackResult? hcanonical
    rw [pointer] at hfound
    cases hfound

theorem PassContext.HasUnnamedEnum.eq {other : Nat}
    (h : context.HasUnnamedEnum type attributes id)
    (hother : context.HasUnnamedEnum type attributes other) : other = id := by
  have hsame := h.1.symm.trans hother.1
  exact (TypeChild.definition.inj (List.head_eq_of_cons_eq hsame)).symm

theorem PassContext.not_owned (h : context.ownTag? type attributes = none) (id : Nat) :
    ¬ (context.HasStruct type attributes id ∧ type.canonical = .tag id false) ∧
      ¬ context.HasUnnamedEnum type attributes id := by
  rw [← not_or, ← ownTag?_eq_some_iff, h]
  simp

theorem PassContext.describes_of_mem_added
    (hbody : visit.declaration.body = .typeName type attributes) {artifact : Artifact}
    (h : artifact ∈ context.added visit) :
    artifact.name = visit.declaration.name ∧
      (artifact.Describes context.tags type ↔ ¬ ∃ id,
        context.HasUnnamedEnum type attributes id ∧ type.canonical ≠ .tag id false) := by
  obtain ⟨hlisted, hfinish⟩ := finishes_of_mem_added h
  rcases added_typeName hbody hlisted hfinish with
    ⟨id, fields, hhas, -, hadded, hdescribes⟩ | ⟨id, constants, hhas, hadded, hdescribes⟩ |
      ⟨hown, signature, result, parameters, style, hcanonical, hadded⟩ | ⟨-, hadded, -⟩
  · rw [hadded, List.mem_singleton] at h
    subst h
    refine ⟨rfl, fun _ => ?_, fun _ => hdescribes⟩
    rintro ⟨other, hother, -⟩
    exact hhas.not_hasUnnamedEnum hother
  · rw [hadded, List.mem_singleton] at h
    subst h
    refine ⟨rfl, hdescribes.trans ⟨?_, ?_⟩⟩
    · rintro hcanonical ⟨other, hother, hne⟩
      rw [hhas.eq hother] at hne
      exact hne hcanonical
    · intro hnone
      by_contra hne
      exact hnone ⟨id, hhas, hne⟩
  · rw [hadded, List.mem_singleton] at h
    subst h
    refine ⟨rfl, fun _ => ?_, fun _ => ⟨result, parameters, style, hcanonical⟩⟩
    rintro ⟨other, hother, -⟩
    exact (not_owned hown other).2 hother
  · rw [hadded] at h
    cases h

theorem PassContext.kinds_of_added
    (hbody : visit.declaration.body = .typeName type attributes)
    (hlisted : context.isBlacklisted visit.declaration = false)
    (hfinish : (context.visit visit.before visit.declaration).2 = none) :
    ((∃ name fields, Artifact.struct name fields ∈ context.added visit) ↔
      ∃ id, context.HasStruct type attributes id ∧ type.canonical = .tag id false) ∧
    ((∃ name constants, Artifact.enumeration name constants ∈ context.added visit) ↔
      ∃ id, context.HasUnnamedEnum type attributes id) ∧
    ((∃ name signature, Artifact.callback name signature ∈ context.added visit) ↔
      (∃ result parameters style, type.canonical = .pointer (.function result parameters style)) ∧
        ¬ ∃ id, context.HasUnnamedEnum type attributes id) := by
  rcases added_typeName hbody hlisted hfinish with
    ⟨id, fields, hhas, hcanonical, hadded, -⟩ | ⟨id, constants, hhas, hadded, -⟩ |
      ⟨hown, signature, result, parameters, style, hcanonical, hadded⟩ | ⟨hown, hadded, hpointer⟩
  · have hnone : ∀ other, ¬ context.HasUnnamedEnum type attributes other :=
      fun _ => hhas.not_hasUnnamedEnum
    have hsome : ∃ id, context.HasStruct type attributes id ∧ type.canonical = .tag id false :=
      ⟨id, hhas, hcanonical⟩
    simp only [hadded, hsome, hnone]
    simp [hcanonical]
  · have hnone : ∀ other, ¬ context.HasStruct type attributes other :=
      fun _ hother => hother.not_hasUnnamedEnum hhas
    have hsome : ∃ id, context.HasUnnamedEnum type attributes id := ⟨id, hhas⟩
    simp [hadded, hnone, hsome]
  · have hnone := fun other => (not_owned hown other).2
    simp [hadded, hnone, hcanonical]
  · have hstruct := fun other => (not_owned hown other).1
    have hnone := fun other => (not_owned hown other).2
    simp only [hadded, hpointer, hstruct, hnone]
    simp

/-- What a type name declares goes by that name, and describes the type that the name stands for
unless it is the enum written in the type of something else. The struct is declared for the struct
itself, the callback for a pointer to a function, and the enum whatever its declarator makes of
it. -/
theorem typeName_describes_iff (context : PassContext) (visit : Visit) {type : CType}
    {attributes : Nat} (hbody : visit.declaration.body = .typeName type attributes) :
    (∀ artifact ∈ context.added visit, artifact.name = visit.declaration.name ∧
      (artifact.Describes context.tags type ↔ ¬ ∃ id,
        context.HasUnnamedEnum type attributes id ∧ type.canonical ≠ .tag id false)) ∧
    (context.isBlacklisted visit.declaration = false →
      (context.visit visit.before visit.declaration).2 = none →
      ((∃ name fields, Artifact.struct name fields ∈ context.added visit) ↔
        ∃ id, context.HasStruct type attributes id ∧ type.canonical = .tag id false) ∧
      ((∃ name constants, Artifact.enumeration name constants ∈ context.added visit) ↔
        ∃ id, context.HasUnnamedEnum type attributes id) ∧
      ((∃ name signature, Artifact.callback name signature ∈ context.added visit) ↔
        (∃ result parameters style, type.canonical = .pointer (.function result parameters style)) ∧
          ¬ ∃ id, context.HasUnnamedEnum type attributes id)) := by
  constructor
  · intro artifact hartifact
    exact PassContext.describes_of_mem_added hbody hartifact
  · intro hlisted hfinish
    exact PassContext.kinds_of_added hbody hlisted hfinish

def pointContext : PassContext where
  source := ⟨.default, [], [⟨"./point.h", "typedef struct { int x; } point;\n"⟩], []⟩
  target := ⟨.x86_64, .linux, true, false, false, none⟩
  tags := [⟨.struct, none, some "point",
    .record [⟨"x", .basic .int, none, false, none, false⟩] ⟨4, 4, [0]⟩⟩]
  files := ["point.h"]
  blacklist := []
  prefixes := []
  oddPrefix := none

def pointVisit : Visit where
  before := ⟨.empty, some ⟨⟨0, 25⟩, some ⟨0, 25⟩⟩, []⟩
  declaration := ⟨"point", ⟨0, 26⟩, ⟨⟨0, 0⟩, some ⟨0, 0⟩⟩, ⟨⟨0, 31⟩, some ⟨0, 31⟩⟩,
    .typeName (.tag 0 true) 0⟩

theorem point_declares_struct :
    (∃ name fields, Artifact.struct name fields ∈ pointContext.added pointVisit) ∧
      ∀ artifact ∈ pointContext.added pointVisit, artifact.name = "point" ∧
        artifact.Describes pointContext.tags (.tag 0 true) := by
  obtain ⟨hdescribes, hkinds⟩ := typeName_describes_iff pointContext pointVisit rfl
  obtain ⟨hstruct, -, -⟩ := hkinds (by decide) (by decide +kernel)
  refine ⟨hstruct.mpr ⟨0, ⟨rfl, rfl, _, rfl, rfl⟩, rfl⟩, fun artifact hartifact => ?_⟩
  obtain ⟨hname, hiff⟩ := hdescribes artifact hartifact
  refine ⟨hname, hiff.mpr ?_⟩
  rintro ⟨id, ⟨hchildren, -⟩, hne⟩
  cases hchildren
  exact hne rfl

def inkContext : PassContext where
  source := ⟨.default, [],
    [⟨"./ink.h", "typedef enum { INK_RED, INK_BLUE } *ink_pointer;\n"⟩], []⟩
  target := ⟨.x86_64, .linux, true, false, false, none⟩
  tags := [⟨.enumeration, none, none,
    .enumeration [⟨"INK_RED", 0, .none⟩, ⟨"INK_BLUE", 1, .none⟩] .unsigned⟩]
  files := ["ink.h"]
  blacklist := []
  prefixes := []
  oddPrefix := none

def inkTag : Declaration :=
  ⟨"", ⟨0, 8⟩, ⟨⟨0, 8⟩, some ⟨0, 8⟩⟩, ⟨⟨0, 34⟩, some ⟨0, 34⟩⟩,
    .tag 0 [⟨"INK_RED", 0, .none⟩, ⟨"INK_BLUE", 1, .none⟩]⟩

def inkPointer : Declaration :=
  ⟨"ink_pointer", ⟨0, 36⟩, ⟨⟨0, 0⟩, some ⟨0, 0⟩⟩, ⟨⟨0, 47⟩, some ⟨0, 47⟩⟩,
    .typeName (.pointer (.tag 0 true)) 0⟩

/-- The name of the pointer becomes the name of the enum. -/
theorem ink_pointer_declares_enum :
    ¬ ∀ visit ∈ inkContext.visits .start [inkTag, inkPointer], ∀ type attributes,
      visit.declaration.body = .typeName type attributes →
        ∀ artifact ∈ inkContext.added visit, artifact.Describes inkContext.tags type := by
  intro h
  have hvisit : (⟨(inkContext.visit .start inkTag).1, inkPointer⟩ : Visit) ∈
      inkContext.visits .start [inkTag, inkPointer] := by
    with_unfolding_all exact List.mem_cons_of_mem _ List.mem_cons_self
  have hadded : inkContext.added ⟨(inkContext.visit .start inkTag).1, inkPointer⟩ =
      [.enumeration "ink_pointer" [("INK_RED", none), ("INK_BLUE", none)]] := rfl
  obtain ⟨id, tag, hcanonical, -⟩ := h _ hvisit _ _ rfl _ (hadded ▸ List.mem_singleton_self _)
  cases hcanonical

end HeaderBindings
