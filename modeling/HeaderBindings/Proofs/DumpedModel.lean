import HeaderBindings.Dump
import HeaderBindings.Proofs.TextLine
import Mathlib.Data.List.Forall2
import Mathlib.Data.List.Induction

/-! What a dump tells about a model. Two lists of artifacts have the same dump just when their kinds
come up in the same order and the artifacts of each kind are the same one by one, but for labels, for
what the artifacts behind references hold, and for the layout of comments. -/

namespace HeaderBindings

/-! Artifacts that a dump does not tell apart. -/

/-- Types that are the same if a reference is only known by the kind and the name that it leads to. -/
inductive ForeignType.Same : ForeignType → ForeignType → Prop
  | integer (name : String) (signed : Bool) (width : Int) :
      Same (.integer name signed width) (.integer name signed width)
  | floating (name : String) (width : Int) : Same (.floating name width) (.floating name width)
  | void : Same .void .void
  | pointer : Same .pointer .pointer
  | string : Same .string .string
  | array {element other : ForeignType} (length : Int) (elements : element.Same other) :
      Same (.array element length) (.array other length)
  | reference {artifact other : Artifact} (kind : artifact.kind = other.kind)
      (name : artifact.name = other.name) : Same (.reference artifact) (.reference other)

structure Field.Same (field other : Field) : Prop where
  name : field.name = other.name
  type : field.type.Same other.type

structure Parameter.Same (parameter other : Parameter) : Prop where
  name : parameter.name = other.name
  type : parameter.type.Same other.type

structure Signature.Same (signature other : Signature) : Prop where
  parameters : List.Forall₂ Parameter.Same signature.parameters other.parameters
  result : signature.result.Same other.result

/-- The free text of a function's comment, with single spaces for all white space. -/
def describe (signature : Signature) (comment : String) : String :=
  joinLines (DocComment.parse comment (signature.parameters.map (·.name))).description

inductive Artifact.Same : Artifact → Artifact → Prop
  | enumeration (name : String) (constants : List (String × Option String)) :
      Same (.enumeration name constants) (.enumeration name constants)
  | struct (name : String) {fields others : List Field}
      (members : List.Forall₂ Field.Same fields others) :
      Same (.struct name fields) (.struct name others)
  | callback (name : String) {signature other : Signature} (types : signature.Same other) :
      Same (.callback name signature) (.callback name other)
  | function (name : String) (variadic : Bool) {signature other : Signature}
      {comment comment' : String} (types : signature.Same other)
      (description : describe signature comment = describe other comment') :
      Same (.function name signature comment variadic) (.function name other comment' variadic)

/-! Entries. -/

theorem Yaml.record_inj {entries others : List (String × Yaml)} :
    Yaml.record entries = .record others ↔ entries = others := by
  refine ⟨fun h => ?_, congrArg _⟩
  refine (List.map_inj_right ?_).mp (Yaml.mapping.inj h)
  rintro ⟨key, value⟩ ⟨key', value'⟩ hentry
  simpa using hentry

theorem ForeignType.same_of_entry {type other : ForeignType} (h : type.entry = other.entry) :
    type.Same other := by
  fun_induction ForeignType.entry type generalizing other with
  | case1 name signed width =>
    cases other <;> simp [entry, Yaml.record_inj] at h
    obtain ⟨rfl, rfl, rfl⟩ := h
    exact .integer name signed width
  | case2 name width =>
    cases other <;> simp [entry, Yaml.record_inj] at h
    obtain ⟨rfl, rfl⟩ := h
    exact .floating name width
  | case3 =>
    cases other <;> simp [entry, Yaml.record_inj] at h
    exact .void
  | case4 =>
    cases other <;> simp [entry, Yaml.record_inj] at h
    exact .pointer
  | case5 =>
    cases other <;> simp [entry, Yaml.record_inj] at h
    exact .string
  | case6 element length ih =>
    cases other <;> simp [entry, Yaml.record_inj] at h
    obtain ⟨helement, rfl⟩ := h
    exact .array length (ih helement)
  | case7 artifact =>
    cases other <;> simp [entry, Yaml.record_inj] at h
    exact .reference h.1 h.2

theorem ForeignType.entry_eq_iff {type other : ForeignType} :
    type.entry = other.entry ↔ type.Same other := by
  refine ⟨same_of_entry, fun h => ?_⟩
  induction h with
  | array length _ ih => simp [entry, ih]
  | reference kind name => simp [entry, kind, name]
  | _ => rfl

theorem Field.entry_eq_iff {field other : Field} : field.entry = other.entry ↔ field.Same other := by
  have hsame : field.Same other ↔ field.name = other.name ∧ field.type.Same other.type :=
    ⟨fun h => ⟨h.name, h.type⟩, fun h => ⟨h.1, h.2⟩⟩
  simp [entry, Yaml.record_inj, ForeignType.entry_eq_iff, hsame]

/-- A name that is left out is the empty one. -/
theorem Parameter.entry_eq_iff {parameter other : Parameter} :
    parameter.entry = other.entry ↔ parameter.Same other := by
  have hsame : parameter.Same other ↔
      parameter.name = other.name ∧ parameter.type.Same other.type :=
    ⟨fun h => ⟨h.name, h.type⟩, fun h => ⟨h.1, h.2⟩⟩
  rw [entry, entry, Yaml.record_inj, hsame]
  by_cases hname : parameter.name = "" <;> by_cases hother : other.name = ""
  · simp [hname, hother, ForeignType.entry_eq_iff]
  · simp [hname, hother, Ne.symm hother]
  · simp [hname, hother]
  · simp [hname, hother, ForeignType.entry_eq_iff]

/-- A value that is left out is none. -/
theorem constantEntry_inj {constant other : String × Option String} :
    constantEntry constant = constantEntry other ↔ constant = other := by
  obtain ⟨name, value⟩ := constant
  obtain ⟨name', value'⟩ := other
  cases value <;> cases value' <;> simp [constantEntry, Yaml.record_inj]

theorem map_eq_map_iff {α β : Type} {f : α → β} {R : α → α → Prop} (h : ∀ a b, f a = f b ↔ R a b)
    {xs ys : List α} : xs.map f = ys.map f ↔ List.Forall₂ R xs ys := by
  rw [← List.forall₂_eq_eq_eq, List.forall₂_map_left_iff, List.forall₂_map_right_iff]
  simp only [h]

theorem Signature.entries_eq_iff {name name' : String} {signature other : Signature} :
    signature.entries name = other.entries name' ↔ name = name' ∧ signature.Same other := by
  have hsame : signature.Same other ↔
      List.Forall₂ Parameter.Same signature.parameters other.parameters ∧
        signature.result.Same other.result :=
    ⟨fun h => ⟨h.parameters, h.result⟩, fun h => ⟨h.1, h.2⟩⟩
  simp only [entries, List.cons.injEq, Prod.mk.injEq, Yaml.string.injEq, Yaml.list.injEq,
    ForeignType.entry_eq_iff, map_eq_map_iff fun _ _ => Parameter.entry_eq_iff, hsame]
  tauto

/-- What the entry of a function has behind its types. -/
def remarks (variadic : Bool) (description : String) : List (String × Yaml) :=
  (if variadic then [("var_args", .boolean true)] else []) ++
    if description = "" then [] else [("doc", .string description)]

/-- A description that is left out is the empty one. -/
theorem entry_function (name : String) (signature : Signature) (comment : String)
    (variadic : Bool) :
    (Artifact.function name signature comment variadic).entry =
      .record (signature.entries name ++ remarks variadic (describe signature comment)) := by
  have hempty : (DocComment.parse comment (signature.parameters.map (·.name))).description.isEmpty =
      decide (describe signature comment = "") := by
    rw [Bool.eq_iff_iff, List.isEmpty_iff, decide_eq_true_iff, describe, joinLines_eq_empty_iff]
    exact trimBlankLines_eq_nil_iff
  simp only [Artifact.entry, remarks, hempty, decide_eq_true_eq, List.append_assoc]
  rfl

theorem remarks_inj {variadic variadic' : Bool} {description description' : String} :
    remarks variadic description = remarks variadic' description' ↔
      variadic = variadic' ∧ description = description' := by
  unfold remarks
  by_cases hd : description = "" <;> by_cases hd' : description' = ""
  · cases variadic <;> cases variadic' <;> simp [hd, hd']
  · cases variadic <;> cases variadic' <;> simp [hd, hd', Ne.symm hd']
  · cases variadic <;> cases variadic' <;> simp [hd, hd']
  · cases variadic <;> cases variadic' <;> simp [hd, hd']

theorem Artifact.same_of_entry {artifact other : Artifact} (hkind : artifact.kind = other.kind)
    (h : artifact.entry = other.entry) : artifact.Same other := by
  cases artifact with
  | enumeration name constants =>
    cases other <;> simp only [kind, String.reduceEq] at hkind
    simp only [entry, Yaml.record_inj, List.cons.injEq, Prod.mk.injEq, Yaml.string.injEq,
      Yaml.list.injEq, true_and, and_true] at h
    obtain ⟨rfl, hconstants⟩ := h
    rw [(List.map_inj_right fun _ _ => constantEntry_inj.mp).mp hconstants]
    exact .enumeration name _
  | struct name fields =>
    cases other <;> simp only [kind, String.reduceEq] at hkind
    simp only [entry, Yaml.record_inj, List.cons.injEq, Prod.mk.injEq, Yaml.string.injEq,
      Yaml.list.injEq, true_and, and_true] at h
    obtain ⟨rfl, hfields⟩ := h
    exact .struct name ((map_eq_map_iff fun _ _ => Field.entry_eq_iff).mp hfields)
  | callback name signature =>
    cases other <;> simp only [kind, String.reduceEq] at hkind
    obtain ⟨rfl, hsignature⟩ := Signature.entries_eq_iff.mp (Yaml.record_inj.mp h)
    exact .callback name hsignature
  | function name signature comment variadic =>
    cases other <;> simp only [kind, String.reduceEq] at hkind
    rw [entry_function, entry_function, Yaml.record_inj] at h
    obtain ⟨hentries, hremarks⟩ := List.append_inj h rfl
    obtain ⟨rfl, hsignature⟩ := Signature.entries_eq_iff.mp hentries
    obtain ⟨rfl, hdescription⟩ := remarks_inj.mp hremarks
    exact .function name variadic hsignature hdescription

theorem Artifact.Same.entry_eq {artifact other : Artifact} (h : artifact.Same other) :
    artifact.entry = other.entry := by
  cases h with
  | enumeration => rfl
  | struct name members =>
    rw [entry, entry, (map_eq_map_iff fun _ _ => Field.entry_eq_iff).mpr members]
  | callback name types =>
    rw [entry, entry, Signature.entries_eq_iff.mpr ⟨rfl, types⟩]
  | function name variadic types description =>
    rw [entry_function, entry_function, Signature.entries_eq_iff.mpr ⟨rfl, types⟩, description]

/-! Groups. -/

theorem eraseDups_concat {α : Type} [BEq α] [LawfulBEq α] (xs : List α) (x : α) :
    (xs ++ [x]).eraseDups = if xs.contains x then xs.eraseDups else xs.eraseDups ++ [x] := by
  rw [List.eraseDups_append]
  cases hx : xs.contains x <;> simp_all [List.removeAll, List.eraseDups_cons]

theorem nodup_eraseDups {α : Type} [BEq α] [LawfulBEq α] (xs : List α) : xs.eraseDups.Nodup := by
  induction xs using List.reverseRecOn with
  | nil => simp
  | append_singleton xs x ih =>
    rw [eraseDups_concat]
    split
    · exact ih
    · next hx =>
      simp only [List.contains_iff_mem] at hx
      refine List.nodup_append.mpr ⟨ih, by simp, ?_⟩
      rintro y hy _ hz rfl
      rw [List.mem_singleton.mp hz, List.mem_eraseDups] at hy
      exact hx hy

/-- The group of a kind. -/
def groupOf (kind : String) : String := kind ++ "s"

theorem groupOf_inj {kind other : String} : groupOf kind = groupOf other ↔ kind = other :=
  String.append_left_inj "s"

/-- A new entry goes behind the others of its group, and its group behind the other groups if it is
new as well. -/
theorem addToGroup_map {kinds : List String} (hkinds : kinds.Nodup) (kind : String) (entry : Yaml)
    (found : String → List Yaml) (hnew : kind ∉ kinds → found kind = []) :
    addToGroup (groupOf kind) entry (kinds.map fun other => (groupOf other, found other)) =
      (if kinds.contains kind then kinds else kinds ++ [kind]).map fun other =>
        (groupOf other, if other = kind then found other ++ [entry] else found other) := by
  induction kinds with
  | nil => simp [addToGroup, hnew]
  | cons first rest ih =>
    obtain ⟨hfirst, hrest⟩ := List.nodup_cons.mp hkinds
    rw [List.map_cons, addToGroup]
    by_cases hkind : first = kind
    · subst hkind
      have hothers : rest.map (fun other => (groupOf other, found other)) = rest.map fun other =>
          (groupOf other, if other = first then found other ++ [entry] else found other) := by
        refine List.map_congr_left fun other hother => ?_
        rw [if_neg fun h : other = first => hfirst (h ▸ hother)]
      simp [hothers]
    · have hgroup : groupOf first ≠ groupOf kind := fun h => hkind (groupOf_inj.mp h)
      rw [if_neg hgroup, ih hrest fun h => hnew (by simp [h, Ne.symm hkind])]
      have hcontains : (first :: rest).contains kind = rest.contains kind := by
        simp [Ne.symm hkind]
      rw [hcontains]
      split <;> simp [hkind]

theorem filter_kind_eq_nil {artifacts : List Artifact} {kind : String}
    (h : kind ∉ (artifacts.map Artifact.kind).eraseDups) :
    (artifacts.filter fun artifact => artifact.kind = kind) = [] := by
  rw [List.mem_eraseDups] at h
  refine List.filter_eq_nil_iff.mpr fun artifact hartifact hkind => ?_
  exact h (List.mem_map.mpr ⟨artifact, hartifact, by simpa using hkind⟩)

theorem groups_eq (artifacts : List Artifact) :
    groups artifacts = (artifacts.map Artifact.kind).eraseDups.map fun kind =>
      (groupOf kind, (artifacts.filter fun artifact => artifact.kind = kind).map Artifact.entry) := by
  induction artifacts using List.reverseRecOn with
  | nil => rfl
  | append_singleton artifacts artifact ih =>
    unfold groups at ih ⊢
    rw [List.foldl_append, ih]
    have hnew : artifact.kind ∉ (artifacts.map Artifact.kind).eraseDups →
        (artifacts.filter fun other => other.kind = artifact.kind).map Artifact.entry = [] :=
      fun h => by rw [filter_kind_eq_nil h, List.map_nil]
    refine (addToGroup_map (nodup_eraseDups _) artifact.kind artifact.entry (fun kind =>
      (artifacts.filter fun other => other.kind = kind).map Artifact.entry) hnew).trans ?_
    rw [List.map_append, List.map_singleton, eraseDups_concat]
    have hcontains : (artifacts.map Artifact.kind).eraseDups.contains artifact.kind =
        (artifacts.map Artifact.kind).contains artifact.kind := by
      rw [Bool.eq_iff_iff, List.contains_iff_mem, List.contains_iff_mem, List.mem_eraseDups]
    rw [hcontains]
    refine List.map_congr_left fun kind _ => ?_
    by_cases hkind : kind = artifact.kind
    · subst hkind
      simp
    · simp [hkind, Ne.symm hkind]

/-- Artifacts of one kind have the same entries just when they are the same. -/
theorem map_entry_eq_iff (kind : String) {artifacts others : List Artifact}
    (h : ∀ artifact ∈ artifacts, artifact.kind = kind)
    (h' : ∀ artifact ∈ others, artifact.kind = kind) :
    artifacts.map Artifact.entry = others.map Artifact.entry ↔
      List.Forall₂ Artifact.Same artifacts others := by
  constructor
  · intro hentries
    induction artifacts generalizing others with
    | nil =>
      rw [List.map_eq_nil_iff.mp hentries.symm]
      exact .nil
    | cons artifact rest ih =>
      obtain ⟨other, rest', rfl, hother, hrest⟩ := List.map_eq_cons_iff.mp hentries.symm
      have hkind : artifact.kind = other.kind :=
        (h artifact List.mem_cons_self).trans (h' other List.mem_cons_self).symm
      refine .cons (Artifact.same_of_entry hkind hother.symm) (ih ?_ ?_ hrest.symm)
      · exact fun a ha => h a (List.mem_cons_of_mem _ ha)
      · exact fun a ha => h' a (List.mem_cons_of_mem _ ha)
  · intro hsame
    rw [← List.forall₂_eq_eq_eq, List.forall₂_map_left_iff, List.forall₂_map_right_iff]
    exact hsame.imp fun _ _ same => same.entry_eq

/-- Dumps with the same module and the same library are equal just when the kinds of artifacts come
up in the same order and the artifacts of each kind are the same one by one. -/
theorem dump_eq_iff (moduleName library : Yaml) (artifacts others : List Artifact) :
    dump moduleName library artifacts = dump moduleName library others ↔
      (artifacts.map Artifact.kind).eraseDups = (others.map Artifact.kind).eraseDups ∧
        ∀ kind, List.Forall₂ Artifact.Same
          (artifacts.filter fun artifact => artifact.kind = kind)
          (others.filter fun artifact => artifact.kind = kind) := by
  have hentries : ∀ kind,
      (artifacts.filter fun artifact => artifact.kind = kind).map Artifact.entry =
          (others.filter fun artifact => artifact.kind = kind).map Artifact.entry ↔
        List.Forall₂ Artifact.Same (artifacts.filter fun artifact => artifact.kind = kind)
          (others.filter fun artifact => artifact.kind = kind) := by
    intro kind
    refine map_entry_eq_iff kind (fun artifact h => ?_) fun artifact h => ?_
    · simpa using (List.mem_filter.mp h).2
    · simpa using (List.mem_filter.mp h).2
  have hgroups : dump moduleName library artifacts = dump moduleName library others ↔
      groups artifacts = groups others := by
    rw [dump, dump, Yaml.record_inj, List.append_cancel_left_eq]
    refine List.map_inj_right ?_
    rintro ⟨key, entries⟩ ⟨key', entries'⟩ h
    simpa using h
  rw [hgroups, groups_eq, groups_eq]
  constructor
  · intro h
    have hkinds : (artifacts.map Artifact.kind).eraseDups = (others.map Artifact.kind).eraseDups := by
      have hkeys := congrArg (List.map Prod.fst) h
      rw [List.map_map, List.map_map] at hkeys
      exact (List.map_inj_right fun _ _ => groupOf_inj.mp).mp hkeys
    refine ⟨hkinds, fun kind => (hentries kind).mp ?_⟩
    by_cases hkind : kind ∈ (others.map Artifact.kind).eraseDups
    · rw [hkinds] at h
      exact (Prod.mk.inj (List.map_inj_left.mp h kind hkind)).2
    · rw [filter_kind_eq_nil hkind, filter_kind_eq_nil (hkinds ▸ hkind)]
  · rintro ⟨hkinds, hsame⟩
    rw [hkinds]
    exact List.map_congr_left fun kind _ => by rw [(hentries kind).mpr (hsame kind)]

end HeaderBindings
