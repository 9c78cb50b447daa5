import HeaderBindings.Binding.Pass

/-! Types as they are written, and what is inside them: the same type without the spellings around
it, with its children, and as it is meant. -/

namespace HeaderBindings

/-- Whether what is inside a type is written there, and not behind a name or a value. -/
def CType.isWrittenOut : CType → Bool
  | .spelled (.alias _) _ => false
  | .spelled .typeofValue _ => false
  | .spelled _ meaning => meaning.isWrittenOut
  | _ => true

/-! Types and what is inside them. -/

theorem CType.children_of_isWrittenOut {type : CType} (h : type.isWrittenOut = true) :
    type.children = type.inside.children := by
  induction type using CType.inside.induct with
  | case1 spelling meaning ih =>
    rw [inside]
    cases spelling with
    | «alias» | typeofValue => cases h
    | _ => exact ih h
  | case2 other h' => rw [inside.eq_2 _ h']

/-- All that shows of a type behind a name or a value is the name or the value. -/
theorem CType.children_of_not_isWrittenOut {type : CType} (h : type.isWrittenOut = false) :
    type.children = [.mention] ∨ type.children = [.expression] := by
  induction type using CType.inside.induct with
  | case1 spelling meaning ih =>
    cases spelling with
    | «alias» => exact .inl rfl
    | typeofValue => exact .inr rfl
    | _ => exact ih h
  | case2 other h' => cases other <;> first | cases h | exact absurd rfl (h' _ _)

theorem CType.inside_shown (type : CType) : type.shown.inside = type.inside := by
  induction type using CType.shown.induct with
  | case1 spelling meaning hidden ih => rw [shown, if_pos hidden, ih, inside]
  | case2 spelling meaning hidden => rw [shown, if_neg hidden]
  | case3 other h => rw [shown.eq_2 _ h]

theorem CType.inside_canonical (type : CType) : type.canonical.inside = type.canonical := by
  induction type using CType.inside.induct with
  | case1 spelling meaning ih => rw [canonical, ih]
  | case2 other h => cases other <;> first | rfl | exact absurd rfl (h _ _)

mutual

theorem CType.canonical_canonical : (type : CType) → type.canonical.canonical = type.canonical
  | .basic _ | .tag _ _ => rfl
  | .pointer target => congrArg CType.pointer target.canonical_canonical
  | .block target => congrArg CType.block target.canonical_canonical
  | .array element bound => congrArg (CType.array · bound) element.canonical_canonical
  | .function result parameters style => by
    simp only [CType.canonical, result.canonical_canonical, canonicalParameters_idem parameters]
  | .spelled _ meaning => meaning.canonical_canonical
  | .complex inner => congrArg CType.complex inner.canonical_canonical
  | .atomic inner => congrArg CType.atomic inner.canonical_canonical
  | .vector extended element count =>
    congrArg (CType.vector extended · count) element.canonical_canonical

theorem canonicalParameters_idem : (parameters : List CParameter) →
    canonicalParameters (canonicalParameters parameters) = canonicalParameters parameters
  | [] => rfl
  | ⟨name, type⟩ :: rest => by
    simp only [canonicalParameters, type.canonical_canonical, canonicalParameters_idem rest]

end

theorem CType.canonical_inside (type : CType) : type.inside.canonical = type.canonical := by
  induction type using CType.inside.induct with
  | case1 spelling meaning ih => rw [inside, canonical, ih]
  | case2 other h => rw [inside.eq_2 _ h]

theorem CType.inside_ne_spelled (type : CType) (spelling : Spelling) (meaning : CType) :
    type.inside ≠ .spelled spelling meaning := by
  induction type using CType.inside.induct with
  | case1 _ _ ih => rw [inside]; exact ih
  | case2 other h =>
    rw [inside.eq_2 _ h]
    intro he
    exact h _ _ he

theorem CType.inside_of_canonical_pointer {type target : CType}
    (h : type.canonical = .pointer target) :
    ∃ written, type.inside = .pointer written ∧ written.canonical = target := by
  rw [← canonical_inside] at h
  cases he : type.inside with
  | pointer written =>
    rw [he, canonical] at h
    exact ⟨written, rfl, (CType.pointer.inj h)⟩
  | spelled spelling meaning => exact absurd he (type.inside_ne_spelled _ _)
  | _ => simp [he, canonical] at h

theorem CType.inside_of_canonical_function {type result : CType} {parameters : List CParameter}
    {style : ParameterStyle} (h : type.canonical = .function result parameters style) :
    ∃ result parameters, type.inside = .function result parameters style := by
  rw [← canonical_inside] at h
  cases he : type.inside with
  | function result parameters style =>
    rw [he, canonical] at h
    obtain ⟨-, -, rfl⟩ := CType.function.inj h
    exact ⟨result, parameters, rfl⟩
  | spelled spelling meaning => exact absurd he (type.inside_ne_spelled _ _)
  | _ => simp [he, canonical] at h

theorem CType.inside_of_canonical_tag {type : CType} {id : Nat} {here : Bool}
    (h : type.canonical = .tag id here) : ∃ written, type.inside = .tag id written := by
  rw [← canonical_inside] at h
  cases he : type.inside with
  | tag own written =>
    rw [he, canonical] at h
    obtain ⟨rfl, -⟩ := CType.tag.inj h
    exact ⟨written, rfl⟩
  | spelled spelling meaning => exact absurd he (type.inside_ne_spelled _ _)
  | _ => simp [he, canonical] at h

/-- A tag is all that a type shows only if the type stands for that very tag. -/
theorem CType.tag_of_children {type : CType} {id other : Nat} {here : Bool}
    (hchildren : type.children = [.definition id]) (htag : type.canonical = .tag other here) :
    other = id := by
  obtain ⟨written, hinside⟩ := inside_of_canonical_tag htag
  cases hw : type.isWrittenOut with
  | true =>
    rw [children_of_isWrittenOut hw, hinside, children] at hchildren
    cases written with
    | true => exact TypeChild.definition.inj (List.head_eq_of_cons_eq hchildren)
    | false => cases hchildren
  | false =>
    rcases children_of_not_isWrittenOut hw with h | h <;> rw [h] at hchildren <;> cases hchildren

/-- Removing the spellings leaves what is inside, as it is written or as it is meant. -/
theorem CType.peel_eq (type : CType) :
    type.peel = type.inside ∨ type.peel = type.canonical := by
  induction type using CType.peel.induct with
  | case1 meaning => exact .inr (by rw [peel, canonical])
  | case2 meaning => exact .inr (by rw [peel, canonical])
  | case3 spelling meaning h1 h2 ih => rw [peel.eq_3 _ _ h1 h2, inside, canonical]; exact ih
  | case4 other h1 h2 h3 => exact .inl (by rw [peel.eq_4 _ h1 h2 h3, inside.eq_2 _ h3])

theorem CType.peel_ne_spelled (type : CType) (spelling : Spelling) (meaning : CType) :
    type.peel ≠ .spelled spelling meaning := by
  rcases type.peel_eq with hpeel | hpeel
  · rw [hpeel]
    exact type.inside_ne_spelled spelling meaning
  · rw [hpeel, ← type.inside_canonical]
    exact type.canonical.inside_ne_spelled spelling meaning

theorem CType.canonical_shown (type : CType) : type.shown.canonical = type.canonical := by
  rw [← canonical_inside, inside_shown, canonical_inside]

theorem CType.canonical_peel (type : CType) : type.peel.canonical = type.canonical := by
  rcases type.peel_eq with hpeel | hpeel
  · rw [hpeel, canonical_inside]
  · rw [hpeel, canonical_canonical]

theorem CType.declaredName_canonical (tags : TagTable) (type : CType) :
    type.canonical.declaredName tags =
      match type.shown.peel with
      | .tag id _ => (tags[id]?.map Tag.spelling).getD ""
      | _ => "" := by
  have hcanonical : type.shown.peel.canonical = type.canonical := by
    rw [canonical_peel, canonical_shown]
  rw [← hcanonical]
  cases hpeel : type.shown.peel with
  | spelled spelling meaning => exact absurd hpeel (type.shown.peel_ne_spelled _ _)
  | _ => rfl

theorem CType.inside_of_callbackResult? {type result : CType}
    (h : type.callbackResult? = some result) :
    ∃ target result parameters style, type.inside = .pointer target ∧
      target.inside = .function result parameters style := by
  unfold callbackResult? at h
  split at h
  · next target hpeel =>
    split at h
    · next _ parameters style hfunction =>
      rcases type.shown.peel_eq with he | he
      · rw [hpeel, inside_shown] at he
        exact ⟨target, _, parameters, style, he.symm, hfunction⟩
      · obtain ⟨written, hwritten, rfl⟩ := inside_of_canonical_pointer (he.symm.trans hpeel)
        rw [inside_canonical] at hfunction
        obtain ⟨own, ownParameters, hown⟩ := inside_of_canonical_function hfunction
        exact ⟨written, own, ownParameters, style, (inside_shown type).symm.trans hwritten, hown⟩
    · cases h
  · cases h

theorem CType.canonical_of_callbackResult? {type result : CType}
    (h : type.callbackResult? = some result) :
    ∃ result parameters style, type.canonical = .pointer (.function result parameters style) := by
  obtain ⟨target, own, parameters, style, htype, htarget⟩ := inside_of_callbackResult? h
  refine ⟨own.canonical, canonicalParameters parameters, style, ?_⟩
  rw [← canonical_inside, htype, canonical, ← canonical_inside target, htarget, canonical]

theorem CType.exists_callbackResult? {type result : CType} {parameters : List CParameter}
    {style : ParameterStyle} (h : type.canonical = .pointer (.function result parameters style)) :
    ∃ found, type.callbackResult? = some found := by
  have hpointer : ∃ target, type.shown.peel = .pointer target ∧
      target.canonical = .function result parameters style := by
    rcases type.shown.peel_eq with hpeel | hpeel
    · obtain ⟨written, hwritten, hmeant⟩ := inside_of_canonical_pointer h
      exact ⟨written, by rw [hpeel, inside_shown, hwritten], hmeant⟩
    · refine ⟨.function result parameters style, ?_, ?_⟩
      · rw [hpeel, canonical_shown, h]
      · have hinside := type.canonical_canonical
        rw [h] at hinside
        exact CType.pointer.inj hinside
  obtain ⟨target, hpeel, hmeant⟩ := hpointer
  obtain ⟨own, ownParameters, hfunction⟩ := inside_of_canonical_function hmeant
  exact ⟨own, by rw [callbackResult?, hpeel]; dsimp only; rw [hfunction]⟩

end HeaderBindings
