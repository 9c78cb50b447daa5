import HeaderBindings.Proofs.ForeignLayout
import HeaderBindings.Proofs.ReferenceOrigin
import HeaderBindings.Proofs.DeclaredArtifact

/-! Where the fields of a struct are, in C and in its artifact. The artifact keeps the names and the
types of the named members only: bit fields, members without a name, packing and alignments are lost
on the way. Where a struct has none of them, and its types refer to what they name, the two agree. -/

namespace HeaderBindings

variable {context : PassContext} {declarations : List Declaration} {before after : List Visit}
  {visit : Visit}

/-! Types and the arrays around them. -/

/-- The types that a type is resolved through: itself, and the elements of arrays. -/
inductive CType.Reaches : CType → CType → Prop
  | itself (type : CType) : type.Reaches type
  | element {type element part : CType} {bound : ArrayBound}
      (shown : type.shown.peel = .array element bound) (inner : element.Reaches part) :
      type.Reaches part

theorem CType.canonical_of_peel {type inner : CType} (h : type.shown.peel = inner) :
    type.canonical = inner.canonical := by
  rw [← h, canonical_peel, canonical_shown]

theorem extent_of_resolvePointer {tags : TagTable} {symbols : SymbolTable} {prefixes : List String}
    {name : String} {pointee : CType} {resolved : Resolved} (target : Target)
    (h : resolvePointer tags symbols prefixes name pointee = .ok resolved) :
    resolved.type.extent target = target.word := by
  unfold resolvePointer at h
  split at h
  · cases h; rfl
  · cases h
  · dsimp only at h
    split at h
    · cases h; rfl
    · split at h
      · cases h; rfl
      · split at h <;> (cases h; rfl)

theorem extent_of_resolveTag {target : Target} {tags : TagTable} {symbols : SymbolTable}
    {prefixes : List String} {id : Nat} {tag : Tag} {resolved : Resolved}
    (htag : tags[id]? = some tag) (hunknown : symbols.find? tag.spelling = none)
    (h : resolveTag target tags symbols prefixes id = .ok resolved) :
    (CType.tag id false).layout target tags = some (resolved.type.extent target) := by
  unfold resolveTag at h
  rw [htag] at h
  dsimp only at h
  rw [hunknown] at h
  dsimp only at h
  split at h
  · next constants type hkind hbody =>
    rw [BasicType.extent_of_resolve h, CType.layout, htag, Option.map_some, hbody]
    rfl
  · cases h
  · cases h

/-- A type takes as much as its foreign type, if all it is resolved through does when it goes by a
name. -/
theorem CType.layout_of_resolve {target : Target} {tags : TagTable} {symbols : SymbolTable}
    {prefixes : List String} {type : CType} {resolved : Resolved}
    (hparts : ∀ part, type.Reaches part →
      part.canonical.layout target tags = part.layout target tags ∧
        ∀ artifact, (part.spellings tags).findSome? (symbols.lookup ·) = some artifact →
          part.layout target tags = some (artifact.extent target))
    (h : type.resolve target tags symbols prefixes = .ok resolved) :
    type.layout target tags = some (resolved.type.extent target) := by
  fun_induction CType.resolve target tags symbols prefixes type generalizing resolved
  case case1 type name artifact known =>
    cases h
    refine (hparts type (.itself type)).2 artifact ?_
    rw [findSome?_spellings, known, Option.some_or]
  case case2 type name unknown arithmetic hpeel =>
    rw [← (hparts type (.itself type)).1, canonical_of_peel hpeel,
      BasicType.extent_of_resolve h]
    rfl
  case case3 type name unknown inner hpeel =>
    rw [← (hparts type (.itself type)).1, canonical_of_peel hpeel,
      extent_of_resolvePointer target h]
    rfl
  case case5 type name unknown element count hpeel ih =>
    -- the parts of the element are parts of the array, so what is known of them carries over
    obtain ⟨inner, hinner, h⟩ := bind_eq_ok_iff.mp h
    cases h
    have hreaches : type.Reaches element := .element hpeel (.itself element)
    have helement := ih (fun part hpart => hparts part (.element hpeel hpart)) hinner
    have hdvd := (inner.type.extent_aligned target).2
    rw [← (hparts type (.itself type)).1, canonical_of_peel hpeel, canonical, layout,
      (hparts element hreaches).1, helement]
    exact congrArg (fun size => some (size, (inner.type.extent target).2))
      (roundUp_of_dvd (Nat.dvd_mul_right_of_dvd hdvd _))
  case case9 type name unknown id here hpeel =>
    rw [← (hparts type (.itself type)).1, canonical_of_peel hpeel]
    cases htag : tags[id]? with
    | none =>
      rw [resolveTag, htag] at h
      cases h
    | some tag =>
      cases hfound : symbols.find? tag.spelling with
      | none => exact extent_of_resolveTag htag hfound h
      | some artifact =>
        rw [resolveTag_eq_ofArtifact htag hfound] at h
        cases h
        rw [← canonical_of_peel hpeel, (hparts type (.itself type)).1]
        refine (hparts type (.itself type)).2 artifact ?_
        rw [findSome?_spellings, unknown, Option.none_or, declaredName_canonical, hpeel]
        simpa [htag] using hfound
  all_goals cases h

/-! Declarations behind references. -/

theorem PassContext.typeName_of_struct {name : String} {fields : List Field}
    (h : Artifact.struct name fields ∈ context.added visit) :
    ∃ type attributes id tag, visit.declaration.body = .typeName type attributes ∧
      context.ownTag? type attributes = some id ∧ type.canonical = .tag id false ∧
      context.tags[id]? = some tag ∧
      List.Forall₂ (fun field made => ∃ resolved,
        context.resolve visit.before.declared.symbols field.type = .ok resolved ∧
          made = ⟨field.name, resolved.type⟩) (tag.fields.filter (!·.implicit)) fields := by
  obtain ⟨-, hmakes⟩ := makes_of_mem_added h
  rcases hmakes with ⟨aliases, hmakes⟩ | hmakes
  · cases hmakes with
    | @struct type attributes tag fields body found kind record made =>
      obtain ⟨id, hchildren, rfl, htag⟩ := definedTag_eq_some_iff.mp found
      have hhas : context.HasStruct type 0 id := ⟨hchildren, rfl, tag, htag, kind⟩
      have hcanonical := hhas.isRecord_iff.mp record
      exact ⟨type, 0, id, tag, body, ownTag?_eq_some_iff.mpr (.inl ⟨hhas, hcanonical⟩),
        hcanonical, htag, made⟩
  · cases hmakes

theorem PassContext.typeName_of_callback {name : String} {signature : Signature}
    (h : Artifact.callback name signature ∈ context.added visit) :
    ∃ type attributes result parameters style,
      visit.declaration.body = .typeName type attributes ∧
      context.ownTag? type attributes = none ∧
      type.canonical = .pointer (.function result parameters style) := by
  obtain ⟨-, hmakes⟩ := makes_of_mem_added h
  rcases hmakes with ⟨aliases, hmakes⟩ | hmakes
  · cases hmakes with
    | @callback type result attributes signature body pointer made =>
      obtain ⟨hlisted, hfinish⟩ := finishes_of_mem_added h
      rcases added_typeName body hlisted hfinish with ⟨id, fields, -, -, hadded, -⟩ |
        ⟨id, constants, -, hadded, -⟩ | ⟨hown, -, result, parameters, style, hcanonical, -⟩ |
        ⟨-, hadded, -⟩
      · rw [hadded] at h
        simp at h
      · rw [hadded] at h
        simp at h
      · exact ⟨type, attributes, result, parameters, style, body, hown, hcanonical⟩
      · rw [hadded] at h
        cases h
  · cases hmakes

/-- A type whose own declaration is a type name stands for the same, unless it only shares a tag
with it. -/
theorem PassContext.Declares.canonical_eq {part type : CType} {attributes : Nat}
    (h : context.Declares visit.declaration part)
    (hbody : visit.declaration.body = .typeName type attributes) :
    part.canonical = type.canonical ∨
      ∃ id, context.ownTag? type attributes = some id ∧ part.canonical = .tag id false := by
  rcases h with ⟨meaning, own, attributes, hshown, hown, hmeaning⟩ | ⟨id, htag, hcanonical⟩
  · rw [hbody] at hown
    cases hown
    refine .inl ?_
    rw [← CType.canonical_shown, hshown, CType.canonical, hmeaning]
  · rw [tagOf?, hbody] at htag
    exact .inr ⟨id, htag, hcanonical⟩

theorem PassContext.Declares.canonical_of_struct {part : CType} {name : String}
    {fields : List Field} (h : context.Declares visit.declaration part)
    (hadded : Artifact.struct name fields ∈ context.added visit) :
    ∃ id, context.tagOf? visit.declaration = some id ∧ part.canonical = .tag id false := by
  obtain ⟨type, attributes, id, tag, hbody, hown, hcanonical, -, -⟩ := typeName_of_struct hadded
  refine ⟨id, by rw [tagOf?, hbody]; exact hown, ?_⟩
  rcases h.canonical_eq hbody with hsame | ⟨other, hother, hpart⟩
  · rw [hsame, hcanonical]
  · rw [hown] at hother
    cases hother
    exact hpart

theorem PassContext.Declares.canonical_of_callback {part : CType} {name : String}
    {signature : Signature} (h : context.Declares visit.declaration part)
    (hadded : Artifact.callback name signature ∈ context.added visit) :
    ∃ target, part.canonical = .pointer target := by
  obtain ⟨type, attributes, result, parameters, style, hbody, hown, hcanonical⟩ :=
    typeName_of_callback hadded
  rcases h.canonical_eq hbody with hsame | ⟨id, hid, -⟩
  · exact ⟨_, hsame.trans hcanonical⟩
  · rw [hown] at hid
    cases hid

/-! Ordinary structs. -/

/-- What a part of a type refers to is its own declaration: an enum of four bytes, a callback, or a
struct that has members. -/
structure PassContext.Suits (context : PassContext) (part : CType) (origin : Visit) : Prop where
  declares : context.Declares origin.declaration part
  enumeration : ∀ name constants, Artifact.enumeration name constants ∈ context.added origin →
    part.layout context.target context.tags = some (4, 4)
  struct : ∀ name, Artifact.struct name [] ∉ context.added origin

/-- A struct that asks for no packing and no alignment, with plain fields whose types refer to
what suits them, and only to structs that are ordinary too. -/
inductive PassContext.IsOrdinary (context : PassContext) : List Visit → Visit → Prop
  | mk {before : List Visit} {visit : Visit} {id : Nat} {tag : Tag} {fields : List CField}
      (own : context.tagOf? visit.declaration = some id) (found : context.tags[id]? = some tag)
      (body : tag.body = .record fields
        (recordLayout context.target context.tags .natural fields))
      (plain : ∀ field ∈ fields, field.IsPlain)
      (natural : ∀ field ∈ fields, ∀ part, field.type.Reaches part →
        part.canonical.layout context.target context.tags =
          part.layout context.target context.tags)
      (suits : ∀ field ∈ fields, ∀ part, field.type.Reaches part →
        ∀ origin ∈ context.origin? before part, context.Suits part origin)
      (structs : ∀ field ∈ fields, ∀ part, field.type.Reaches part →
        ∀ origin ∈ context.origin? before part, ∀ name members,
          Artifact.struct name members ∈ context.added origin →
          ∀ earlier later, before = earlier ++ origin :: later →
            context.IsOrdinary earlier origin) :
      context.IsOrdinary before visit

/-- The struct of a visit has fields of the given names, and the layout that they have. -/
def PassContext.Places (context : PassContext) (visit : Visit) (members : List Field) : Prop :=
  ∃ id tag fields layout, context.tagOf? visit.declaration = some id ∧
    context.tags[id]? = some tag ∧ tag.body = .record fields layout ∧
    members.map Field.name = fields.map CField.name ∧
    (layout.size, layout.alignment) =
      (Placement.of (fieldExtents context.target members)).extent ∧
    layout.offsets = (fieldOffsets context.target members).map (8 * ·)

theorem PassContext.Suits.layout {part : CType} {origin : Visit} {artifact : Artifact}
    (h : context.Suits part origin)
    (hnatural : part.canonical.layout context.target context.tags =
      part.layout context.target context.tags)
    (hadded : artifact ∈ context.added origin) (htype : artifact.isType = true)
    (hplaces : ∀ name members, artifact = .struct name members → context.Places origin members) :
    part.layout context.target context.tags = some (artifact.extent context.target) := by
  cases artifact with
  | enumeration name constants => exact h.enumeration name constants hadded
  | struct name members =>
    obtain ⟨id, hid, hcanonical⟩ := h.declares.canonical_of_struct hadded
    obtain ⟨id', tag, fields, layout, hid', htag, hbody, -, hextent, -⟩ := hplaces name members rfl
    rw [hid] at hid'
    cases hid'
    cases members with
    | nil => exact absurd hadded (h.struct name)
    | cons member rest =>
      rw [← hnatural, hcanonical, CType.layout, htag, Option.map_some, hbody]
      exact congrArg some hextent
  | callback name signature =>
    obtain ⟨target, hcanonical⟩ := h.declares.canonical_of_callback hadded
    rw [← hnatural, hcanonical]
    rfl
  | function name signature comment variadic => cases htype

/-- A type whose references suit it takes as much as its foreign type. -/
theorem PassContext.layout_of_suits {type : CType} {resolved : Resolved}
    (hvisits : context.visits .start declarations = before ++ visit :: after)
    (hnatural : ∀ part, type.Reaches part → part.canonical.layout context.target context.tags =
      part.layout context.target context.tags)
    (hsuits : ∀ part, type.Reaches part → ∀ origin ∈ context.origin? before part,
      context.Suits part origin)
    (hplaces : ∀ part, type.Reaches part → ∀ origin ∈ context.origin? before part,
      ∀ name members, Artifact.struct name members ∈ context.added origin →
        context.Places origin members)
    (h : context.resolve visit.before.declared.symbols type = .ok resolved) :
    type.layout context.target context.tags = some (resolved.type.extent context.target) := by
  refine CType.layout_of_resolve
    (fun part hpart => ⟨hnatural part hpart, fun artifact hspelled => ?_⟩) (resolve_eq_ok h).1
  rw [findSome?_lookup_before hvisits, Option.bind_eq_some_iff] at hspelled
  obtain ⟨origin, horigin, hhead⟩ := hspelled
  obtain ⟨-, spelling, -, htaken⟩ := mem_of_origin? horigin
  obtain ⟨own, hown, htype⟩ := added_of_mem_taken htaken
  rw [hown] at hhead
  cases hhead
  have hadded : artifact ∈ context.added origin := hown ▸ List.mem_singleton_self artifact
  refine (hsuits part hpart origin horigin).layout (hnatural part hpart) hadded htype ?_
  rintro name members rfl
  exact hplaces part hpart origin horigin name members hadded

theorem PassContext.IsOrdinary.places (h : context.IsOrdinary before visit) :
    ∀ after, context.visits .start declarations = before ++ visit :: after →
      ∀ name members, Artifact.struct name members ∈ context.added visit →
        context.Places visit members := by
  -- the structs inside were visited earlier, and are ordinary there
  induction h with
  | @mk before visit id tag fields own found body plain natural suits structs ih =>
    intro after hvisits name members hadded
    obtain ⟨type, attributes, id', tag', hbody, hown, -, hfound, made⟩ :=
      typeName_of_struct hadded
    have hid : context.tagOf? visit.declaration = some id' := by rw [tagOf?, hbody]; exact hown
    rw [own] at hid
    cases hid
    rw [found] at hfound
    cases hfound
    have hfields : tag.fields.filter (!·.implicit) = fields := by
      rw [Tag.fields, body]
      exact List.filter_eq_self.mpr fun field hfield => by rw [(plain field hfield).implicit]; rfl
    rw [hfields] at made
    have hextents : List.Forall₂ (fun field extent => field.IsPlain ∧
        field.type.layout context.target context.tags = some extent ∧ 0 < extent.2) fields
        (members.map (·.type.extent context.target)) := by
      have hmembers := (List.forall₂_and_left _ _).mpr ⟨fun field hfield => hfield, made⟩
      refine List.forall₂_map_right_iff.mpr (hmembers.imp fun field made hmade => ?_)
      obtain ⟨hfield, resolved, hresolved, rfl⟩ := hmade
      refine ⟨plain field hfield, ?_, (resolved.type.extent_aligned context.target).1⟩
      refine layout_of_suits hvisits (natural field hfield) (suits field hfield) ?_ hresolved
      intro part hpart origin horigin name members hstruct
      obtain ⟨earlier, later, rfl⟩ := List.append_of_mem (mem_of_origin? horigin).1
      refine ih field hfield part hpart origin horigin name members hstruct earlier later rfl
        (later ++ visit :: after) ?_ name members hstruct
      rw [hvisits, List.append_assoc, List.cons_append]
    have hlayout := recordLayout_eq_of_plain hextents
    rw [← fieldExtents_eq_map] at hlayout
    exact ⟨id, tag, fields, _, own, found, body, map_name_of_made made, by rw [hlayout],
      by rw [hlayout, fieldOffsets]⟩

/-- The fields of an ordinary struct are where its artifact has them, in bits here and in bytes
there. -/
theorem run_field_offsets (context : PassContext) {declarations : List Declaration}
    {before after : List Visit} {visit : Visit}
    (hvisits : context.visits .start declarations = before ++ visit :: after)
    (hordinary : context.IsOrdinary before visit) {name : String} {members : List Field}
    (hadded : Artifact.struct name members ∈ context.added visit) :
    ∃ id tag fields layout, context.tagOf? visit.declaration = some id ∧
      context.tags[id]? = some tag ∧ tag.body = .record fields layout ∧
      members.map Field.name = fields.map CField.name ∧
      layout.offsets = (fieldOffsets context.target members).map (8 * ·) := by
  obtain ⟨id, tag, fields, layout, hid, htag, hbody, hnames, -, hoffsets⟩ :=
    hordinary.places after hvisits name members hadded
  exact ⟨id, tag, fields, layout, hid, htag, hbody, hnames, hoffsets⟩

def sampleFields : List CField :=
  [⟨"kind", .basic .char, none, false, none, false⟩,
    ⟨"value", .basic .double, none, false, none, false⟩]

def seriesFields : List CField :=
  [⟨"count", .basic .short, none, false, none, false⟩,
    ⟨"first", .spelled (.alias "sample") (.tag 0 true), none, false, none, false⟩,
    ⟨"rest", .array (.basic .int) (.fixed 3), none, false, none, false⟩]

def seriesContext : PassContext where
  source := ⟨.default, [], [⟨"./series.h",
    "typedef struct { char kind; double value; } sample;\n" ++
    "typedef struct { short count; sample first; int rest[3]; } series;\n"⟩], []⟩
  target := ⟨.x86_64, .linux, true, false, false, none⟩
  tags := [⟨.struct, none, some "sample", .record sampleFields ⟨16, 8, [0, 64]⟩⟩,
    ⟨.struct, none, some "series", .record seriesFields ⟨40, 8, [0, 64, 192]⟩⟩]
  files := ["series.h"]
  blacklist := []
  prefixes := []
  oddPrefix := none

def sampleName : Declaration :=
  ⟨"sample", ⟨0, 44⟩, ⟨⟨0, 0⟩, some ⟨0, 0⟩⟩, ⟨⟨0, 50⟩, some ⟨0, 50⟩⟩, .typeName (.tag 0 true) 0⟩

def seriesName : Declaration :=
  ⟨"series", ⟨0, 111⟩, ⟨⟨0, 52⟩, some ⟨0, 52⟩⟩, ⟨⟨0, 117⟩, some ⟨0, 117⟩⟩,
    .typeName (.tag 1 true) 0⟩

def sampleTag : Declaration :=
  ⟨"", ⟨0, 8⟩, ⟨⟨0, 8⟩, some ⟨0, 8⟩⟩, ⟨⟨0, 43⟩, some ⟨0, 43⟩⟩, .tag 0 []⟩

def seriesTag : Declaration :=
  ⟨"", ⟨0, 60⟩, ⟨⟨0, 60⟩, some ⟨0, 60⟩⟩, ⟨⟨0, 110⟩, some ⟨0, 110⟩⟩, .tag 1 []⟩

def sampleVisit : Visit := ⟨⟨.empty, some sampleTag.stop, []⟩, sampleName⟩

def sampleStruct : Artifact :=
  .struct "sample" [⟨"kind", .integer "char" true 8⟩, ⟨"value", .floating "double" 64⟩]

def sampleVisits : List Visit :=
  [⟨.start, sampleTag⟩, sampleVisit,
    ⟨⟨Declared.empty.declare sampleStruct [], some sampleName.stop, []⟩, seriesTag⟩]

def seriesVisit : Visit :=
  ⟨⟨Declared.empty.declare sampleStruct [], some seriesTag.stop, []⟩, seriesName⟩

theorem visits_series : seriesContext.visits .start [sampleTag, sampleName, seriesTag, seriesName] =
    sampleVisits ++ seriesVisit :: [] := by
  with_unfolding_all rfl

theorem CType.eq_of_basic_reaches {type : BasicType} {part : CType}
    (h : (CType.basic type).Reaches part) : part = .basic type := by
  cases h with
  | itself => rfl
  | element shown => cases shown

theorem sample_parts : ∀ field ∈ sampleFields, field.IsPlain ∧
    ∀ part, field.type.Reaches part → ∃ type, part = .basic type := by
  intro field hfield
  simp only [sampleFields, List.mem_cons, List.not_mem_nil, or_false] at hfield
  rcases hfield with rfl | rfl <;>
    exact ⟨⟨rfl, rfl, rfl, rfl⟩, fun part hpart => ⟨_, CType.eq_of_basic_reaches hpart⟩⟩

theorem series_parts : ∀ field ∈ seriesFields, field.IsPlain ∧
    ∀ part, field.type.Reaches part → (∃ type, part = .basic type) ∨
      part = .array (.basic .int) (.fixed 3) ∨ part = .spelled (.alias "sample") (.tag 0 true) := by
  intro field hfield
  simp only [seriesFields, List.mem_cons, List.not_mem_nil, or_false] at hfield
  rcases hfield with rfl | rfl | rfl
  · exact ⟨⟨rfl, rfl, rfl, rfl⟩, fun part hpart => .inl ⟨_, CType.eq_of_basic_reaches hpart⟩⟩
  · refine ⟨⟨rfl, rfl, rfl, rfl⟩, fun part hpart => ?_⟩
    cases hpart with
    | itself => exact .inr (.inr rfl)
    | element shown => cases shown
  · refine ⟨⟨rfl, rfl, rfl, rfl⟩, fun part hpart => ?_⟩
    cases hpart with
    | itself => exact .inr (.inl rfl)
    | element shown inner =>
      cases shown
      exact .inl ⟨_, CType.eq_of_basic_reaches inner⟩

theorem sample_ordinary : seriesContext.IsOrdinary [⟨.start, sampleTag⟩] sampleVisit := by
  refine .mk rfl rfl rfl (fun field hfield => (sample_parts field hfield).1) ?_ ?_ ?_
  · intro field hfield part hpart
    obtain ⟨type, rfl⟩ := (sample_parts field hfield).2 part hpart
    rfl
  · intro field hfield part hpart origin horigin
    obtain ⟨type, rfl⟩ := (sample_parts field hfield).2 part hpart
    cases horigin
  · intro field hfield part hpart origin horigin
    obtain ⟨type, rfl⟩ := (sample_parts field hfield).2 part hpart
    cases horigin

theorem sample_added : seriesContext.added sampleVisit = [sampleStruct] := by
  with_unfolding_all rfl

theorem sample_origin : seriesContext.origin? sampleVisits
    (.spelled (.alias "sample") (.tag 0 true)) = some sampleVisit := by
  with_unfolding_all rfl

theorem series_ordinary : seriesContext.IsOrdinary sampleVisits seriesVisit := by
  refine .mk rfl rfl rfl (fun field hfield => (series_parts field hfield).1) ?_ ?_ ?_
  · intro field hfield part hpart
    rcases (series_parts field hfield).2 part hpart with ⟨type, rfl⟩ | rfl | rfl <;> rfl
  · intro field hfield part hpart origin horigin
    rcases (series_parts field hfield).2 part hpart with ⟨type, rfl⟩ | rfl | rfl
    · cases horigin
    · cases horigin
    · rw [sample_origin] at horigin
      cases horigin
      refine ⟨.inl ⟨.tag 0 true, .tag 0 true, 0, rfl, rfl, rfl⟩, ?_, ?_⟩
      · intro name constants hadded
        rw [sample_added, List.mem_singleton] at hadded
        cases hadded
      · intro name hadded
        rw [sample_added, List.mem_singleton] at hadded
        cases hadded
  · intro field hfield part hpart origin horigin name members hmembers earlier later hsplit
    rcases (series_parts field hfield).2 part hpart with ⟨type, rfl⟩ | rfl | rfl
    · cases horigin
    · cases horigin
    · rw [sample_origin] at horigin
      cases horigin
      -- the visit occurs once in the list, so the split is behind the first visit
      rcases earlier with _ | ⟨first, _ | ⟨second, _ | ⟨third, rest⟩⟩⟩
      · exact absurd (congrArg (·.declaration.name) (List.head_eq_of_cons_eq hsplit)) (by decide)
      · obtain rfl : _ = first := List.head_eq_of_cons_eq hsplit
        exact sample_ordinary
      · have hlast := List.tail_eq_of_cons_eq (List.tail_eq_of_cons_eq hsplit)
        exact absurd (congrArg (·.declaration.name) (List.head_eq_of_cons_eq hlast)) (by decide)
      · have hlength := congrArg List.length hsplit
        simp [sampleVisits] at hlength

/-- The struct inside starts at the ninth byte, the array behind it at the twenty-fifth. -/
theorem series_fields_in_place :
    let members : List Field := [⟨"count", .integer "short" true 16⟩,
      ⟨"first", .reference sampleStruct⟩, ⟨"rest", .array (.integer "int" true 32) 3⟩]
    Artifact.struct "series" members ∈ seriesContext.added seriesVisit ∧
      [0, 64, 192] = (fieldOffsets seriesContext.target members).map (8 * ·) := by
  intro members
  have hadded : Artifact.struct "series" members ∈ seriesContext.added seriesVisit := by
    with_unfolding_all exact List.mem_singleton_self _
  obtain ⟨id, tag, fields, layout, hid, htag, hbody, -, hoffsets⟩ :=
    run_field_offsets seriesContext visits_series series_ordinary hadded
  cases hid
  cases htag
  cases hbody
  exact ⟨hadded, hoffsets⟩

def cellContext : PassContext where
  source := ⟨.default, [], [⟨"./cell.h",
    "typedef struct { char tag; union { int i; float f; }; int last; } cell;\n"⟩], []⟩
  target := ⟨.x86_64, .linux, true, false, false, none⟩
  tags := [⟨.struct, none, some "cell", .record [⟨"tag", .basic .char, none, false, none, false⟩,
      ⟨"", .tag 1 true, none, true, none, false⟩, ⟨"last", .basic .int, none, false, none, false⟩]
      ⟨12, 4, [0, 32, 64]⟩⟩,
    ⟨.union, none, none, .record [⟨"i", .basic .int, none, false, none, false⟩,
      ⟨"f", .basic .float, none, false, none, false⟩] ⟨4, 4, [0, 0]⟩⟩]
  files := ["cell.h"]
  blacklist := []
  prefixes := []
  oddPrefix := none

def cellTag : Declaration :=
  ⟨"", ⟨0, 8⟩, ⟨⟨0, 8⟩, some ⟨0, 8⟩⟩, ⟨⟨0, 65⟩, some ⟨0, 65⟩⟩, .tag 0 []⟩

def cellName : Declaration :=
  ⟨"cell", ⟨0, 66⟩, ⟨⟨0, 0⟩, some ⟨0, 0⟩⟩, ⟨⟨0, 70⟩, some ⟨0, 70⟩⟩, .typeName (.tag 0 true) 0⟩

def cellVisit : Visit := ⟨⟨.empty, some cellTag.stop, []⟩, cellName⟩

/-- The union leaves no room behind, so the field after it is four bytes too early. -/
theorem cell_last_displaced :
    ¬ ∀ visit ∈ cellContext.visits .start [cellTag, cellName], ∀ name members,
      Artifact.struct name members ∈ cellContext.added visit → ∀ id tag fields layout,
        cellContext.tagOf? visit.declaration = some id → cellContext.tags[id]? = some tag →
          tag.body = .record fields layout →
            ∀ place ∈ (members.map Field.name).zip (fieldOffsets cellContext.target members),
              (place.1, 8 * place.2) ∈ (fields.map CField.name).zip layout.offsets := by
  intro h
  have hvisits : cellContext.visits .start [cellTag, cellName] =
      [⟨.start, cellTag⟩, cellVisit] := by with_unfolding_all rfl
  have hvisit : cellVisit ∈ cellContext.visits .start [cellTag, cellName] := by
    rw [hvisits]
    exact List.mem_cons_of_mem _ List.mem_cons_self
  have hadded : Artifact.struct "cell" [⟨"tag", .integer "char" true 8⟩,
      ⟨"last", .integer "int" true 32⟩] ∈ cellContext.added cellVisit := by
    with_unfolding_all exact List.mem_singleton_self _
  have hplace := h cellVisit hvisit _ _ hadded 0 _ _ _ rfl rfl rfl ("last", 4) (by decide)
  exact absurd hplace (by decide)

end HeaderBindings
