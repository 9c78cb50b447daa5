import HeaderBindings.Binding.TypeView
import HeaderBindings.Proofs.CanonicalType
import HeaderBindings.Proofs.Escape
import Mathlib.Data.PFun

/-! Taking spellings off a type comes to an end at every kind that the type stands for, and leaves what
it stands for as it is. Each turn goes on with a smaller written type or with the meaning, at which it
ends. A kind that the type does not stand for is never met, unless it is one that spellings show as. -/

namespace HeaderBindings

variable {tags : TagTable} {kind own : TypeKind} {type meaning : CType} {spelling : Spelling}
  {view : TypeView}

/-! Types as they show. -/

theorem CType.sizeOf_shown_le (type : CType) : sizeOf type.shown ≤ sizeOf type := by
  induction type using CType.shown.induct with
  | case1 spelling meaning hidden ih =>
    rw [shown, if_pos hidden, spelled.sizeOf_spec]
    omega
  | case2 spelling meaning hidden => exact Nat.le_of_eq (by rw [shown, if_neg hidden])
  | case3 other h => exact Nat.le_of_eq (by rw [shown.eq_2 _ h])

/-- A spelling that shows is a name or asks for the type of something, and hides no attribute. -/
theorem CType.of_shown_eq_spelled (h : type.shown = .spelled spelling meaning) :
    spelling.isUnseen = false ∧ meaning.hasAttribute = false := by
  induction type using CType.shown.induct with
  | case1 spelling meaning hidden ih =>
    rw [shown, if_pos hidden] at h
    exact ih h
  | case2 spelling meaning hidden =>
    rw [shown, if_neg hidden] at h
    obtain ⟨rfl, rfl⟩ := CType.spelled.inj h
    simpa using hidden
  | case3 other hother =>
    rw [shown.eq_2 _ hother] at h
    exact absurd h (hother _ _)

theorem CType.peel_shown (h : type.hasAttribute = false) : type.shown.peel = type.peel := by
  induction type using CType.shown.induct with
  | case1 spelling meaning hidden ih =>
    rw [hasAttribute, Bool.or_eq_false_iff] at h
    rw [h.2, Bool.or_false] at hidden
    rw [shown, if_pos (by rw [hidden]; rfl), ih h.2]
    cases spelling <;> first | rfl | cases hidden
  | case2 spelling meaning hidden => rw [shown, if_neg hidden]
  | case3 other hother => rw [shown.eq_2 _ hother]

section

variable {name : String} (h : type.shown = .spelled (.alias name) meaning)

include h

theorem CType.canonical_of_shown_eq : meaning.canonical = type.canonical := by
  rw [← type.canonical_shown, h, canonical]

theorem CType.sizeOf_of_shown_eq : sizeOf meaning < sizeOf type := by
  have hle := type.sizeOf_shown_le
  rw [h, spelled.sizeOf_spec] at hle
  omega

theorem CType.peel_of_shown_eq : type.shown.peel = meaning.shown.peel := by
  rw [h, peel_shown (of_shown_eq_spelled h).2]
  rfl

end

theorem CType.kind?_canonical (h : ∀ spelling meaning, type ≠ .spelled spelling meaning) :
    type.canonical.kind? tags = type.kind? tags := by
  cases type with
  | spelled spelling meaning => exact absurd rfl (h spelling meaning)
  | array element bound => cases bound <;> rfl
  | function result parameters style => cases style <;> rfl
  | _ => rfl

/-! Kinds on the way. -/

/-- Whether a kind is one that spellings show as. -/
def TypeKind.isOfSpelling : TypeKind → Bool
  | .elaborated | .typeName | .unsupported .unexposed => true
  | _ => false

/-- A type without spellings is no tag or type name as it is written. -/
theorem CType.kind?_ne_name (type : CType) :
    type.kind? tags ≠ some .elaborated ∧ type.kind? tags ≠ some .typeName := by
  cases type with
  | basic type => cases type <;> simp [kind?, BasicType.kind?]
  | array element bound => cases bound <;> simp [kind?]
  | function result parameters style => cases style <;> simp [kind?]
  | tag id here => rw [kind?]; split <;> simp
  | _ => simp [kind?]

namespace TypeView

/-- A type shows as what it stands for, unless a spelling shows. -/
theorem kind?_eq_or (tags : TagTable) (view : TypeView) :
    view.kind? tags = (meant view.type).kind? tags ∨
      ∃ own, view.kind? tags = some own ∧ own.isOfSpelling = true := by
  cases view with
  | written type =>
    rw [kind?, TypeView.type]
    cases hshown : type.shown with
    | spelled spelling meaning => cases spelling <;> exact .inr ⟨_, rfl, rfl⟩
    | tag id here => exact .inr ⟨_, rfl, rfl⟩
    | _ => exact .inl (CType.kind?_canonical (by simp)).symm
  | named name meaning => exact .inr ⟨_, rfl, rfl⟩
  | meant type =>
    refine .inl ?_
    rw [kind?, kind?, TypeView.type, type.canonical_canonical]

theorem kind?_meant_of_eq_none (h : view.kind? tags = none) :
    (meant view.type).kind? tags = none := by
  rcases view.kind?_eq_or tags with hsame | ⟨own, hown, -⟩
  · rw [← hsame, h]
  · rw [hown] at h
    cases h

theorem canonical_type_turn (view : TypeView) :
    view.turn.type.canonical = view.type.canonical := by
  cases view with
  | written type =>
    rw [turn, TypeView.type]
    split
    · next hshown => rw [hshown]; rfl
    · rw [TypeView.type, CType.canonical_canonical]
  | named name meaning => exact meaning.canonical_shown
  | meant type => rfl

theorem turn_of_not_alias (h : ¬ ∃ name meaning, type.shown = .spelled (.alias name) meaning) :
    (written type).turn = meant type.shown := by
  rw [turn]
  split
  · next name meaning hshown => exact absurd ⟨name, meaning, hshown⟩ h
  · rfl

theorem kind?_meant_turn (tags : TagTable) (view : TypeView) :
    (meant view.turn.type).kind? tags = (meant view.type).kind? tags := by
  rw [kind?, kind?, canonical_type_turn]

/-! The search. -/

theorem round_of_kind (h : view.kind? tags = some kind) :
    view.round tags kind = .inl (.ok view) := by
  rw [round, h]
  exact if_pos rfl

theorem round_of_ne (h : view.kind? tags = some own) (hne : own ≠ kind) :
    view.round tags kind = .inr view.turn := by
  rw [round, h]
  exact if_neg hne

/-- Rounds, one after the other, for as long as none of them ends the search. There is no outcome if
that never happens. -/
def unspell (tags : TagTable) (kind : TypeKind) : TypeView →. Except ResolveError TypeView :=
  PFun.fix fun view => Part.some (view.round tags kind)

theorem unspell_of_kind (h : view.kind? tags = some kind) :
    Except.ok view ∈ unspell tags kind view :=
  PFun.fix_stop (Part.mem_some_iff.mpr (round_of_kind h).symm)

theorem unspell_of_ne (h : view.kind? tags = some own) (hne : own ≠ kind) :
    unspell tags kind view = unspell tags kind view.turn :=
  PFun.fix_fwd_eq (Part.mem_some_iff.mpr (round_of_ne h hne).symm)

/-- The search ends at a kind, without a change to what is meant. -/
def EndsAt (tags : TagTable) (kind : TypeKind) (view result : TypeView) : Prop :=
  Except.ok result ∈ unspell tags kind view ∧ result.kind? tags = some kind ∧
    result.type.canonical = view.type.canonical

variable {result : TypeView}

theorem endsAt_self (h : view.kind? tags = some kind) : view.EndsAt tags kind view :=
  ⟨unspell_of_kind h, h, rfl⟩

theorem endsAt_of_turn (h : view.kind? tags = some own) (hne : own ≠ kind)
    (hturn : view.turn.EndsAt tags kind result) : view.EndsAt tags kind result := by
  obtain ⟨hunspell, hkind, hcanonical⟩ := hturn
  exact ⟨unspell_of_ne h hne ▸ hunspell, hkind, by rw [hcanonical, canonical_type_turn]⟩

theorem endsAt_meant (h : (meant type).kind? tags = some kind) :
    (meant type.shown).EndsAt tags kind (meant type.shown) := by
  refine endsAt_self ?_
  rw [← h, kind?, kind?, CType.canonical_shown]

theorem ne_typeName_of_meant (h : (meant type).kind? tags = some kind) : .typeName ≠ kind := by
  rintro rfl
  exact type.canonical.kind?_ne_name.2 h

/-- The spelling around a type that shows as another kind than it is meant as, and that is neither a
type name nor a tag, asks for the type of something. -/
theorem peel_shown_eq_canonical
    (halias : ¬ ∃ name meaning, type.shown = .spelled (.alias name) meaning)
    (htag : ∀ id here, type.canonical ≠ .tag id here)
    (hkind : (written type).kind? tags ≠ (meant type).kind? tags) :
    type.shown.peel = type.canonical := by
  have hmeant := type.canonical_shown
  rw [kind?, kind?, ← hmeant] at hkind
  rw [← hmeant] at htag ⊢
  cases hshown : type.shown with
  | spelled spelling meaning =>
    have hseen := (CType.of_shown_eq_spelled hshown).1
    cases spelling with
    | «alias» name => exact absurd ⟨name, meaning, hshown⟩ halias
    | typeofType | typeofValue => rfl
    | _ => cases hseen
  | tag id here => exact absurd (by rw [hshown]; rfl) (htag id false)
  | _ =>
    rw [hshown] at hkind
    exact absurd (CType.kind?_canonical (by simp)).symm hkind

theorem peel_shown_of_kind (h : (written type).kind? tags = some kind)
    (hspelling : kind.isOfSpelling = false) : type.shown.peel = type.shown := by
  rw [kind?] at h
  cases hshown : type.shown with
  | spelled spelling meaning =>
    rw [hshown] at h
    cases spelling <;> cases h <;> cases hspelling
  | _ => rfl

/-- A written type: the induction is on the type names in front of what it stands for. -/
theorem exists_endsAt_written (type : CType) (h : (meant type).kind? tags = some kind) :
    ∃ result, (written type).EndsAt tags kind result ∧
      (kind.isOfSpelling = false → (∀ id here, type.canonical ≠ .tag id here) →
        result.type = type.shown.peel) := by
  cases hown : (written type).kind? tags with
  | none =>
    have hnone := kind?_meant_of_eq_none hown
    rw [kind?, TypeView.type, CType.canonical_shown] at hnone
    exact absurd (hnone.symm.trans h) (by simp)
  | some own =>
    by_cases hsame : own = kind
    · subst hsame
      exact ⟨written type, endsAt_self hown,
        fun hspelling _ => (peel_shown_of_kind hown hspelling).symm⟩
    · by_cases halias : ∃ name meaning, type.shown = .spelled (.alias name) meaning
      · obtain ⟨name, meaning, hshown⟩ := halias
        have hcanonical := CType.canonical_of_shown_eq hshown
        have hsmaller := CType.sizeOf_of_shown_eq hshown
        obtain ⟨result, hends, hpeel⟩ :=
          exists_endsAt_written meaning (by rw [← h, kind?, kind?, hcanonical])
        have hturn : (written type).turn.EndsAt tags kind result := by
          rw [turn, hshown]
          exact endsAt_of_turn rfl (ne_typeName_of_meant h) hends
        refine ⟨result, endsAt_of_turn hown hsame hturn, fun hspelling htag => ?_⟩
        rw [CType.peel_of_shown_eq hshown]
        exact hpeel hspelling (hcanonical ▸ htag)
      · have hturn : (written type).turn.EndsAt tags kind (meant type.shown) := by
          rw [turn_of_not_alias halias]
          exact endsAt_meant h
        have hkind : (written type).kind? tags ≠ (meant type).kind? tags := by
          rw [hown, h]
          simpa using hsame
        exact ⟨_, endsAt_of_turn hown hsame hturn, fun _ htag =>
          type.canonical_shown.trans (peel_shown_eq_canonical halias htag hkind).symm⟩
termination_by sizeOf type

theorem exists_endsAt (h : (meant view.type).kind? tags = some kind) :
    ∃ result, view.EndsAt tags kind result := by
  cases view with
  | written type =>
    have hmeant : (meant type).kind? tags = some kind := by
      rw [← h, kind?, kind?, TypeView.type, CType.canonical_shown]
    obtain ⟨result, hends, -⟩ := exists_endsAt_written type hmeant
    exact ⟨result, hends⟩
  | named name meaning =>
    obtain ⟨result, hends, -⟩ := exists_endsAt_written meaning h
    exact ⟨result, endsAt_of_turn rfl (ne_typeName_of_meant h) hends⟩
  | meant type =>
    refine ⟨_, endsAt_self (h.symm ▸ ?_)⟩
    rw [kind?, kind?, TypeView.type, CType.canonical_canonical]

/-- A search for a kind that no spelling shows as ends only if the type stands for one of that kind, or
for one whose kind cannot be asked for. The induction is on the rounds of the search. -/
theorem kind?_meant_of_mem_unspell (hspelling : kind.isOfSpelling = false)
    {outcome : Except ResolveError TypeView} (h : outcome ∈ unspell tags kind view) :
    (meant view.type).kind? tags = none ∨ (meant view.type).kind? tags = some kind := by
  refine PFun.fixInduction h fun view _ ih => ?_
  cases hown : view.kind? tags with
  | none => exact .inl (kind?_meant_of_eq_none hown)
  | some own =>
    by_cases hsame : own = kind
    · subst hsame
      rcases view.kind?_eq_or tags with hmeant | ⟨other, hother, hshows⟩
      · exact .inr (hmeant.symm.trans hown)
      · obtain rfl := Option.some.inj (hown.symm.trans hother)
        rw [hspelling] at hshows
        cases hshows
    · have hturn := ih view.turn (Part.mem_some_iff.mpr (round_of_ne hown hsame).symm)
      rwa [kind?_meant_turn] at hturn

/-- Without the guarantee of the caller the search goes on for ever. -/
theorem unspell_eq_none (h : (meant view.type).kind? tags = some own) (hne : own ≠ kind)
    (hspelling : kind.isOfSpelling = false) : unspell tags kind view = Part.none := by
  rw [Part.eq_none_iff]
  intro outcome houtcome
  rcases kind?_meant_of_mem_unspell hspelling houtcome with hnone | hkind
  · rw [h] at hnone
    cases hnone
  · exact hne (Option.some.inj (h.symm.trans hkind))

end TypeView

/-! Types that are asked for where they are known to be of a kind. -/

/-- The type of a kind under the spellings of a type. It is looked for only if the type stands for one
of that kind. -/
def CType.unspelledAs (tags : TagTable) (kind : TypeKind) : CType →. Option CType := fun type =>
  if (TypeView.meant type).kind? tags = some kind then
    (TypeView.unspell tags kind (.written type)).map fun outcome =>
      outcome.toOption.map TypeView.type
  else Part.some none

/-- The kinds that types are asked for by. -/
def TypeKind.isAsked : TypeKind → Bool
  | .pointer | .constantArray => true
  | _ => false

theorem TypeKind.isOfSpelling_of_isAsked (h : kind.isAsked = true) : kind.isOfSpelling = false := by
  cases kind <;> first | rfl | cases h

theorem CType.ne_tag_of_isAsked (h : type.kind? tags = some kind) (hasked : kind.isAsked = true)
    (id : Nat) (here : Bool) : type ≠ .tag id here := by
  rintro rfl
  rw [kind?] at h
  split at h <;> cases h <;> cases hasked

theorem TypeView.kind?_meant_eq (tags : TagTable) (type : CType) :
    (meant type).kind? tags = type.shown.peel.kind? tags := by
  have hmeant : type.shown.peel.canonical = type.canonical := by
    rw [CType.canonical_peel, CType.canonical_shown]
  rw [kind?, ← hmeant]
  exact CType.kind?_canonical (type.shown.peel_ne_spelled)

/-- What is asked for is what stands under the spellings of a type, if that is of the kind. -/
theorem CType.unspelledAs_eq (hasked : kind.isAsked = true) (type : CType) :
    unspelledAs tags kind type =
      Part.some (if type.shown.peel.kind? tags = some kind then some type.shown.peel else none) := by
  rw [unspelledAs, TypeView.kind?_meant_eq]
  split
  · next hkind =>
    have hmeant : (TypeView.meant type).kind? tags = some kind := by
      rw [TypeView.kind?_meant_eq, hkind]
    obtain ⟨result, ⟨hunspell, -⟩, hpeel⟩ := TypeView.exists_endsAt_written type hmeant
    have hspelling := TypeKind.isOfSpelling_of_isAsked hasked
    rw [Part.eq_some_iff.mpr hunspell, Part.map_some,
      ← hpeel hspelling (ne_tag_of_isAsked hmeant hasked)]
    rfl
  · rfl

theorem CType.mem_unspelledAs_iff {found : CType} (hasked : kind.isAsked = true) :
    some found ∈ unspelledAs tags kind type ↔
      type.shown.peel = found ∧ found.kind? tags = some kind := by
  rw [unspelledAs_eq hasked, Part.mem_some_iff]
  constructor
  · intro h
    split at h
    · next hkind =>
      obtain rfl := Option.some.inj h
      exact ⟨rfl, hkind⟩
    · cases h
  · rintro ⟨rfl, hkind⟩
    exact (if_pos hkind).symm

/-- What is done with a type by those who ask for what it is under its spellings. They ask only where
the type stands for a type of that kind, so that the search ends, and go on with what is found. -/
structure CType.AsksSafely (tags : TagTable) (type : CType) : Prop where
  pointer_ends : (unspelledAs tags .pointer type).Dom
  array_ends : (unspelledAs tags .constantArray type).Dom
  callback : ∀ result, type.callbackResult? = some result ↔
    ∃ target parameters style, some (CType.pointer target) ∈ unspelledAs tags .pointer type ∧
      target.inside = .function result parameters style
  pointer : ∀ target symbols prefixes inner,
    symbols.find? (type.shown.declaredName tags) = none →
    some (CType.pointer inner) ∈ unspelledAs tags .pointer type →
    type.resolve target tags symbols prefixes =
      resolvePointer tags symbols prefixes (type.shown.declaredName tags) inner
  array : ∀ target symbols prefixes element count,
    symbols.find? (type.shown.declaredName tags) = none →
    some (CType.array element (.fixed count)) ∈ unspelledAs tags .constantArray type →
    type.resolve target tags symbols prefixes =
      (element.resolve target tags symbols prefixes).map fun element =>
        ⟨.array element.type count, "Array<" ++ element.label ++ ">", element.named⟩

theorem CType.asksSafely (tags : TagTable) (type : CType) : type.AsksSafely tags where
  pointer_ends := by rw [unspelledAs_eq rfl]; trivial
  array_ends := by rw [unspelledAs_eq rfl]; trivial
  callback result := by
    rw [callbackResult?]
    constructor
    · intro h
      split at h
      · next target hpeel =>
        split at h
        · next own parameters style hinside =>
          obtain rfl := Option.some.inj h
          exact ⟨target, parameters, style, (mem_unspelledAs_iff rfl).mpr ⟨hpeel, rfl⟩, hinside⟩
        · cases h
      · cases h
    · rintro ⟨target, parameters, style, hfound, hinside⟩
      rw [((mem_unspelledAs_iff rfl).mp hfound).1]
      dsimp only
      rw [hinside]
  pointer target symbols prefixes inner hunknown h := by
    rw [resolve_of_unknown hunknown, ((mem_unspelledAs_iff rfl).mp h).1]
  array target symbols prefixes element count hunknown h := by
    rw [resolve_of_unknown hunknown, ((mem_unspelledAs_iff rfl).mp h).1]
    dsimp only
    cases element.resolve target tags symbols prefixes <;> rfl

/-- Spellings are taken off a type until it is of the kind that it stands for, and no other search for a
kind of type ends. Those who ask for pointers, arrays and pointers to functions see to it before. -/
theorem TypeView.unspell_ends (tags : TagTable) (view : TypeView) (kind : TypeKind)
    (h : (meant view.type).kind? tags = some kind) :
    (∃ result, view.EndsAt tags kind result) ∧
      (∀ other, other ≠ kind → other.isOfSpelling = false →
        unspell tags other view = Part.none) ∧
      ∀ type : CType, type.AsksSafely tags :=
  ⟨exists_endsAt h, fun _ hne => unspell_eq_none h hne.symm, CType.asksSafely tags⟩

/-- The type name of `typedef struct point *handle; typedef handle row[4];`. -/
def rowOfHandles : CType :=
  .spelled (.alias "row")
    (.array (.spelled (.alias "handle") (.pointer (.tag 0 false))) (.fixed 4))

/-- The elements keep their type name. -/
theorem rowOfHandles_unspelled :
    (TypeView.meant (TypeView.written rowOfHandles).type).kind? [] = some .constantArray ∧
      (∃ result, (TypeView.written rowOfHandles).EndsAt [] .constantArray result) ∧
      some (CType.array (.spelled (.alias "handle") (.pointer (.tag 0 false))) (.fixed 4)) ∈
        CType.unspelledAs [] .constantArray rowOfHandles ∧
      TypeView.unspell [] .pointer (.written rowOfHandles) = Part.none := by
  have hkind : (TypeView.meant (TypeView.written rowOfHandles).type).kind? [] =
      some .constantArray := rfl
  obtain ⟨hends, hnever, -⟩ := TypeView.unspell_ends [] (.written rowOfHandles) .constantArray hkind
  exact ⟨hkind, hends, (CType.mem_unspelledAs_iff rfl).mpr ⟨rfl, rfl⟩,
    hnever .pointer (by decide) rfl⟩

end HeaderBindings
