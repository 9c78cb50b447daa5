import HeaderBindings.Proofs.EnumValue
import HeaderBindings.Proofs.ModuleBlock
import HeaderBindings.Proofs.TypeText
import HeaderBindings.Shell.Regex

/-! Ruby source that declares foreign types and functions. A block is read in one way only, whatever
the words in it are, so that it is well formed exactly if the words in it are. -/

namespace HeaderBindings

/-! Words. -/

/-- What identifiers of C are written with: compilers take the dollar sign for a letter. -/
def isNameLetter (c : Char) : Bool := isWordChar c || c = '$'

-- A property of the letters of a text is decided along the text, not over all characters there are.
instance decidableForallLetters {text : List Char} {p : Char → Prop} [DecidablePred p] :
    Decidable (∀ c ∈ text, p c) :=
  List.decidableBAll p text

/-- A stretch of such letters, or nothing. -/
@[ext] structure RubyWord where
  text : String
  letters : ∀ c ∈ text.toList, isNameLetter c = true

/-- Whether a word is an identifier, as behind the colon of a symbol. -/
def RubyWord.IsSymbol (word : RubyWord) : Prop :=
  (∀ c ∈ word.text.toList, isWordChar c = true) ∧
    word.text.toList.head?.any (!·.isDigit) = true

/-- Whether a word can be the name of a class: two words of the language begin with an upper-case
letter as well. -/
def RubyWord.IsConstant (word : RubyWord) : Prop :=
  (∀ c ∈ word.text.toList, isWordChar c = true) ∧
    word.text.toList.head?.any Char.isUpper = true ∧ word.text ≠ "BEGIN" ∧ word.text ≠ "END"

/-- What can stand for the value of a constant. -/
@[ext] structure RubyValue where
  text : String
  unbroken : ',' ∉ text.toList

/-- An integer literal, with or without a sign. -/
def IsRubyInteger (text : String) : Prop :=
  match text.toList with
  | '-' :: digits => (rubyNumber? digits).isSome = true
  | digits => (rubyNumber? digits).isSome = true

/-! Blocks. -/

inductive RubyType where
  | symbol (name : RubyWord)
  | byValue (name : RubyWord)
  | array (element : RubyType) (length : Int)

def RubyType.text : RubyType → String
  | .symbol name => ":" ++ name.text
  | .byValue name => name.text ++ ".by_value"
  | .array element length => "[" ++ element.text ++ ", " ++ toString length ++ "]"

def RubyType.IsValid : RubyType → Prop
  | .symbol name => name.IsSymbol
  | .byValue name => name.IsConstant
  | .array element _ => element.IsValid

structure RubyConstant where
  name : RubyWord
  value : Option RubyValue

def RubyConstant.text (constant : RubyConstant) : String :=
  "\n    :" ++ constant.name.text ++
    (match constant.value with | some value => ", " ++ value.text | none => "")

def RubyConstant.IsValid (constant : RubyConstant) : Prop :=
  constant.name.IsSymbol ∧ ∀ value ∈ constant.value, IsRubyInteger value.text

structure RubyField where
  name : RubyWord
  type : RubyType

def RubyField.text (field : RubyField) : String := ":" ++ field.name.text ++ ", " ++ field.type.text

def RubyField.IsValid (field : RubyField) : Prop := field.name.IsSymbol ∧ field.type.IsValid

structure RubySignature where
  parameters : List RubyType
  result : RubyType

def RubySignature.text (signature : RubySignature) : String :=
  "[" ++ joinStrings ", " (signature.parameters.map RubyType.text) ++ "], " ++ signature.result.text

def RubySignature.IsValid (signature : RubySignature) : Prop :=
  (∀ type ∈ signature.parameters, type.IsValid) ∧ signature.result.IsValid

/-- A line of a comment. -/
@[ext] structure RubyRemark where
  line : String
  isRemark : IsRemark line

/-- The declaration of an enum, of a struct, of a callback, or of a function below comments. -/
inductive RubyBlock where
  | enumeration (name : RubyWord) (constants : List RubyConstant)
  | layout (name : RubyWord) (fields : List RubyField)
  | callback (name : RubyWord) (signature : RubySignature)
  | attachment (remarks : List RubyRemark) (name function : RubyWord) (signature : RubySignature)

def RubyBlock.text : RubyBlock → String
  | .enumeration name constants =>
    "  enum :" ++ name.text ++ ", [" ++ joinStrings "," (constants.map RubyConstant.text) ++ "\n  ]"
  | .layout name fields =>
    "  class " ++ name.text ++ " < FFI::Struct\n    layout " ++
      joinStrings ",\n           " (fields.map RubyField.text) ++ "\n  end"
  | .callback name signature => "  callback :" ++ name.text ++ ", " ++ signature.text
  | .attachment remarks name function signature =>
    joinStrings "\n" (remarks.map RubyRemark.line ++
      ["  attach_function :" ++ name.text ++ ", :" ++ function.text ++ ", " ++ signature.text])

def RubyBlock.IsValid : RubyBlock → Prop
  | .enumeration name constants => name.IsSymbol ∧ ∀ constant ∈ constants, constant.IsValid
  | .layout name fields => name.IsConstant ∧ ∀ field ∈ fields, field.IsValid
  | .callback name signature => name.IsSymbol ∧ signature.IsValid
  | .attachment _ name function signature =>
    name.IsSymbol ∧ function.IsSymbol ∧ signature.IsValid

def IsRubyBlock (text : String) : Prop := ∃ block : RubyBlock, block.IsValid ∧ block.text = text

/-! A block is read in one way. -/

/-- A stretch of certain characters goes up to the first other one. -/
theorem span_append_inj {α : Type} {p : α → Bool} {front front' rest rest' : List α}
    (hfront : ∀ c ∈ front, p c = true) (hfront' : ∀ c ∈ front', p c = true)
    (hrest : ∀ c ∈ rest.head?, p c = false) (hrest' : ∀ c ∈ rest'.head?, p c = false)
    (h : front ++ rest = front' ++ rest') : front = front' ∧ rest = rest' := by
  have htaken : ∀ {front rest : List α}, (∀ c ∈ front, p c = true) →
      (∀ c ∈ rest.head?, p c = false) → (front ++ rest).takeWhile p = front := by
    intro front rest hfront hrest
    rw [List.takeWhile_append_of_pos hfront]
    cases rest with
    | nil => exact List.append_nil front
    | cons c rest =>
      rw [List.takeWhile_cons_of_neg (by simp [hrest c rfl]), List.append_nil]
  have hsame : front = front' := by
    rw [← htaken hfront hrest, h, htaken hfront' hrest']
  exact ⟨hsame, List.append_cancel_left (hsame ▸ h)⟩

/-- A stretch without a character goes up to the first of that character. -/
theorem append_cons_inj_of_first {c : Char} {front front' rest rest' : List Char}
    (hfront : c ∉ front) (hfront' : c ∉ front') (h : front ++ c :: rest = front' ++ c :: rest') :
    front = front' ∧ rest = rest' := by
  have hother : ∀ {front : List Char}, c ∉ front → ∀ d ∈ front, decide (d ≠ c) = true :=
    fun hfront d hd => decide_eq_true fun heq => hfront (heq ▸ hd)
  have hends : ∀ rest : List Char, ∀ d ∈ (c :: rest).head?, decide (d ≠ c) = false := by
    rintro rest _ ⟨⟩
    exact decide_eq_false (not_not_intro rfl)
  obtain ⟨hsame, htail⟩ := span_append_inj (hother hfront) (hother hfront') (hends _) (hends _) h
  exact ⟨hsame, (List.cons.inj htail).2⟩

theorem RubyWord.append_inj {word other : RubyWord} {rest rest' : List Char}
    (hrest : ∀ c ∈ rest.head?, isNameLetter c = false)
    (hrest' : ∀ c ∈ rest'.head?, isNameLetter c = false)
    (h : word.text.toList ++ rest = other.text.toList ++ rest') : word = other ∧ rest = rest' := by
  obtain ⟨htext, hsame⟩ := span_append_inj word.letters other.letters hrest hrest' h
  exact ⟨RubyWord.ext (String.toList_inj.mp htext), hsame⟩

theorem RubyWord.append_ne_cons {word : RubyWord} {c d : Char} {rest tail : List Char}
    (hword : isNameLetter d = false) (hne : c ≠ d) : word.text.toList ++ c :: rest ≠ d :: tail := by
  intro h
  have hletters := word.letters
  cases hfirst : word.text.toList with
  | nil =>
    rw [hfirst] at h
    exact hne (List.cons.inj h).1
  | cons first more =>
    rw [hfirst] at h hletters
    have hletter := hletters first List.mem_cons_self
    rw [(List.cons.inj h).1, hword] at hletter
    cases hletter

section

variable {α : Type} {item : α → List Char} {separator closing : List Char}
  (Follows : List Char → Prop) {xs ys : List α} {rest rest' : List Char}
  (hitem : ∀ a b rest rest', Follows rest → Follows rest' →
    item a ++ rest = item b ++ rest' → a = b ∧ rest = rest')
  (hnext : ∀ a rest, Follows (separator ++ item a ++ rest))
  (hclosing : Follows (closing ++ rest)) (hclosing' : Follows (closing ++ rest'))
  (hsplit : ∀ rest rest', separator ++ rest ≠ closing ++ rest')

include hitem hnext hclosing hclosing' hsplit

/-- Items of a list are found one by one, if each item ends where what can follow it begins, and a
separator cannot be taken for the end of the list. -/
theorem flatMap_append_inj
    (h : xs.flatMap (fun x => separator ++ item x) ++ (closing ++ rest) =
      ys.flatMap (fun y => separator ++ item y) ++ (closing ++ rest')) :
    xs = ys ∧ rest = rest' := by
  have hfollows : ∀ (zs : List α) rest, Follows (closing ++ rest) →
      Follows (zs.flatMap (fun z => separator ++ item z) ++ (closing ++ rest)) := by
    intro zs rest hclosing
    cases zs with
    | nil => exact hclosing
    | cons z zs =>
      rw [List.flatMap_cons, List.append_assoc]
      exact hnext z _
  induction xs generalizing ys with
  | nil =>
    cases ys with
    | nil => exact ⟨rfl, List.append_cancel_left h⟩
    | cons y ys =>
      rw [List.flatMap_cons, List.append_assoc, List.append_assoc] at h
      exact absurd h.symm (hsplit _ _)
  | cons x xs ih =>
    cases ys with
    | nil =>
      rw [List.flatMap_cons, List.append_assoc, List.append_assoc] at h
      exact absurd h (hsplit _ _)
    | cons y ys =>
      rw [List.flatMap_cons, List.flatMap_cons, List.append_assoc, List.append_assoc,
        List.append_assoc, List.append_assoc] at h
      obtain ⟨rfl, hrest⟩ := hitem x y _ _ (hfollows xs rest hclosing) (hfollows ys rest' hclosing')
        (List.append_cancel_left h)
      obtain ⟨rfl, hsame⟩ := ih hrest
      exact ⟨rfl, hsame⟩

theorem joinWith_append_inj (hstart : ∀ a rest rest', item a ++ rest ≠ closing ++ rest')
    (h : joinWith separator (xs.map item) ++ (closing ++ rest) =
      joinWith separator (ys.map item) ++ (closing ++ rest')) : xs = ys ∧ rest = rest' := by
  cases xs with
  | nil =>
    cases ys with
    | nil => exact ⟨rfl, List.append_cancel_left h⟩
    | cons y ys =>
      rw [List.map_cons, joinWith_cons, List.append_assoc] at h
      exact absurd h.symm (hstart y _ _)
  | cons x xs =>
    cases ys with
    | nil =>
      rw [List.map_cons, joinWith_cons, List.append_assoc] at h
      exact absurd h (hstart x _ _)
    | cons y ys =>
      -- with a separator in front, the first item is like the others
      have hcons := congrArg (separator ++ ·) h
      simp only [List.map_cons, joinWith_cons, List.flatMap_map, ← List.append_assoc] at hcons
      refine flatMap_append_inj Follows hitem hnext hclosing hclosing' hsplit ?_
      simpa only [List.flatMap_cons, List.append_assoc] using hcons

end

/-! Types. -/

/-- What cannot belong to a word any more. -/
def EndsWord (rest : List Char) : Prop := ∀ c ∈ rest.head?, isNameLetter c = false

theorem endsWord_cons {c : Char} (h : isNameLetter c = false) (rest : List Char) :
    EndsWord (c :: rest) := by
  rintro _ ⟨⟩
  exact h

theorem sign_not_mem_toString {c : Char} (hdigit : c.isDigit = false) (hminus : c ≠ '-') (n : Int) :
    c ∉ (toString n).toList := by
  intro hmem
  rcases isDigit_of_mem_toString hmem with h | ⟨h, -⟩
  · rw [hdigit] at h
    cases h
  · exact hminus h

theorem toList_symbol (name : RubyWord) :
    (RubyType.symbol name).text.toList = ':' :: name.text.toList := by
  rw [RubyType.text, String.toList_append]
  rfl

theorem toList_byValue (name : RubyWord) :
    (RubyType.byValue name).text.toList = name.text.toList ++ '.' :: "by_value".toList := by
  rw [RubyType.text, String.toList_append]
  rfl

theorem toList_array (element : RubyType) (length : Int) :
    (RubyType.array element length).text.toList =
      '[' :: (element.text.toList ++ ',' :: ' ' :: ((toString length).toList ++ [']'])) := by
  rw [RubyType.text]
  simp only [String.toList_append, List.append_assoc]
  rfl

theorem RubyType.append_inj {type other : RubyType} {rest rest' : List Char}
    (hrest : EndsWord rest) (hrest' : EndsWord rest')
    (h : type.text.toList ++ rest = other.text.toList ++ rest') : type = other ∧ rest = rest' := by
  induction type generalizing other rest rest' with
  | symbol name =>
    rw [toList_symbol, List.cons_append] at h
    cases other with
    | symbol name' =>
      rw [toList_symbol, List.cons_append] at h
      obtain ⟨rfl, hsame⟩ := RubyWord.append_inj hrest hrest' (List.cons.inj h).2
      exact ⟨rfl, hsame⟩
    | byValue name' =>
      rw [toList_byValue, List.append_assoc, List.cons_append] at h
      exact absurd h.symm (RubyWord.append_ne_cons rfl (by decide))
    | array element length =>
      rw [toList_array] at h
      cases (List.cons.inj h).1
  | byValue name =>
    rw [toList_byValue, List.append_assoc, List.cons_append] at h
    cases other with
    | symbol name' =>
      rw [toList_symbol, List.cons_append] at h
      exact absurd h (RubyWord.append_ne_cons rfl (by decide))
    | byValue name' =>
      rw [toList_byValue, List.append_assoc, List.cons_append] at h
      have hdot := fun rest : List Char => endsWord_cons (c := '.') rfl ("by_value".toList ++ rest)
      obtain ⟨rfl, hsame⟩ := RubyWord.append_inj (hdot rest) (hdot rest') h
      exact ⟨rfl, List.append_cancel_left (List.cons.inj hsame).2⟩
    | array element length =>
      rw [toList_array, List.cons_append] at h
      exact absurd h (RubyWord.append_ne_cons rfl (by decide))
  | array element length ih =>
    rw [toList_array, List.cons_append] at h
    cases other with
    | symbol name' =>
      rw [toList_symbol] at h
      cases (List.cons.inj h).1
    | byValue name' =>
      simp only [toList_byValue, List.append_assoc, List.cons_append] at h
      exact absurd h.symm (RubyWord.append_ne_cons rfl (by decide))
    | array element' length' =>
      rw [toList_array, List.cons_append] at h
      simp only [List.append_assoc, List.cons_append, List.nil_append] at h
      have hcomma := fun rest : List Char => endsWord_cons (c := ',') rfl rest
      have hclose : ∀ n : Int, ']' ∉ (toString n).toList := sign_not_mem_toString rfl (by decide)
      obtain ⟨rfl, hlength⟩ := ih (hcomma _) (hcomma _) (List.cons.inj h).2
      obtain ⟨hsame, hrest⟩ := append_cons_inj_of_first (hclose length) (hclose length')
        (List.cons.inj (List.cons.inj hlength).2).2
      rw [toString_int_inj (String.toList_inj.mp hsame)]
      exact ⟨rfl, hrest⟩

/-- The text of a type begins with a bracket, with a colon, or as a word with a point behind it. -/
theorem RubyType.append_ne_cons {type : RubyType} {c : Char} {rest tail : List Char}
    (hword : isNameLetter c = false) (hsigns : c ∉ ['[', ':', '.']) :
    type.text.toList ++ rest ≠ c :: tail := by
  intro h
  cases type with
  | symbol name =>
    rw [toList_symbol] at h
    exact hsigns (by simp [← (List.cons.inj h).1])
  | byValue name =>
    rw [toList_byValue, List.append_assoc, List.cons_append] at h
    exact RubyWord.append_ne_cons hword (fun heq => hsigns (by simp [← heq])) h
  | array element length =>
    rw [toList_array] at h
    exact hsigns (by simp [← (List.cons.inj h).1])

theorem toList_joinStrings {α : Type} (separator : String) (text : α → String) (items : List α) :
    (joinStrings separator (items.map text)).toList =
      joinWith separator.toList (items.map fun item => (text item).toList) := by
  rw [joinStrings, String.toList_ofList, List.map_map]
  rfl

theorem RubySignature.text_inj {signature other : RubySignature}
    (h : signature.text.toList = other.text.toList) : signature = other := by
  have hsplit : ∀ signature : RubySignature, signature.text.toList =
      '[' :: (joinWith ", ".toList (signature.parameters.map fun type => type.text.toList) ++
        ("], ".toList ++ (signature.result.text.toList ++ []))) := by
    intro signature
    rw [RubySignature.text]
    simp only [String.toList_append, toList_joinStrings, List.append_assoc, List.append_nil]
    rfl
  rw [hsplit, hsplit] at h
  have hcomma := fun rest => endsWord_cons (c := ',') rfl rest
  have hclose := fun rest => endsWord_cons (c := ']') rfl rest
  obtain ⟨hparameters, hresult⟩ := joinWith_append_inj EndsWord
    (fun _ _ _ _ => RubyType.append_inj)
    (fun a rest => hcomma _) (hclose _) (hclose _)
    (fun rest rest' heq => absurd (List.cons.inj heq).1 (by decide))
    (fun a rest rest' heq => RubyType.append_ne_cons rfl (by decide) heq)
    (List.cons.inj h).2
  obtain ⟨hsame, -⟩ := RubyType.append_inj (by rintro _ ⟨⟩) (by rintro _ ⟨⟩) hresult
  cases signature
  cases other
  exact congrArg₂ RubySignature.mk hparameters hsame

/-! Members of enums and structs. -/

/-- What comes behind a constant: the next one, or the end of the enum on a line of its own. -/
def FollowsConstant (rest : List Char) : Prop :=
  (∃ more, rest = ',' :: '\n' :: more) ∨ rest = "\n  ]".toList

theorem FollowsConstant.endsWord {rest : List Char} (h : FollowsConstant rest) : EndsWord rest := by
  rcases h with ⟨more, rfl⟩ | rfl
  · exact endsWord_cons rfl _
  · exact endsWord_cons rfl _

theorem FollowsConstant.ne_value {rest : List Char} (h : FollowsConstant rest)
    (value : List Char) : rest ≠ ',' :: ' ' :: value := by
  rcases h with ⟨more, rfl⟩ | rfl
  · intro h
    cases (List.cons.inj (List.cons.inj h).2).1
  · intro h
    cases (List.cons.inj h).1

/-- The value of a constant goes up to the comma behind it, or to the end of the enum. -/
theorem RubyValue.append_inj {value other : RubyValue} {rest rest' : List Char}
    (hrest : FollowsConstant rest) (hrest' : FollowsConstant rest')
    (h : value.text.toList ++ rest = other.text.toList ++ rest') : value = other ∧ rest = rest' := by
  have hcomma : ∀ (value : RubyValue) (more : List Char),
      ',' ∉ value.text.toList ++ "\n  ]".toList ∧ ',' ∈ value.text.toList ++ ',' :: more := by
    intro value more
    simp [value.unbroken]
  rcases hrest with ⟨more, rfl⟩ | rfl
  · rcases hrest' with ⟨more', rfl⟩ | rfl
    · obtain ⟨htext, hmore⟩ := append_cons_inj_of_first value.unbroken other.unbroken h
      exact ⟨RubyValue.ext (String.toList_inj.mp htext), congrArg (',' :: ·) hmore⟩
    · exact absurd (h ▸ (hcomma value _).2) (hcomma other []).1
  · rcases hrest' with ⟨more', rfl⟩ | rfl
    · exact absurd (h.symm ▸ (hcomma other _).2) (hcomma value []).1
    · exact ⟨RubyValue.ext (String.toList_inj.mp (List.append_cancel_right h)), rfl⟩

theorem RubyConstant.append_inj {constant other : RubyConstant} {rest rest' : List Char}
    (hrest : FollowsConstant rest) (hrest' : FollowsConstant rest')
    (h : constant.text.toList ++ rest = other.text.toList ++ rest') :
    constant = other ∧ rest = rest' := by
  have hsplit : ∀ (constant : RubyConstant) (rest : List Char),
      constant.text.toList ++ rest = "\n    :".toList ++ (constant.name.text.toList ++
        match constant.value with
        | some value => ',' :: ' ' :: (value.text.toList ++ rest)
        | none => rest) := by
    intro constant rest
    rw [RubyConstant.text]
    cases constant.value <;> simp [String.toList_append]
  have hends : ∀ (value : Option RubyValue) (rest : List Char), FollowsConstant rest →
      EndsWord (match value with
        | some value => ',' :: ' ' :: (value.text.toList ++ rest)
        | none => rest) := by
    intro value rest hrest
    cases value with
    | none => exact hrest.endsWord
    | some value => exact endsWord_cons rfl _
  rw [hsplit, hsplit] at h
  obtain ⟨hname, hvalue⟩ := RubyWord.append_inj (hends _ rest hrest) (hends _ rest' hrest')
    (List.append_cancel_left h)
  obtain ⟨name, value⟩ := constant
  obtain ⟨name', value'⟩ := other
  dsimp only at hname hvalue
  subst hname
  cases value with
  | none =>
    cases value' with
    | none => exact ⟨rfl, hvalue⟩
    | some value' => exact absurd hvalue (hrest.ne_value _)
  | some value =>
    cases value' with
    | none => exact absurd hvalue.symm (hrest'.ne_value _)
    | some value' =>
      obtain ⟨rfl, hsame⟩ :=
        RubyValue.append_inj hrest hrest' (List.cons.inj (List.cons.inj hvalue).2).2
      exact ⟨rfl, hsame⟩

theorem RubyField.append_inj {field other : RubyField} {rest rest' : List Char}
    (hrest : EndsWord rest) (hrest' : EndsWord rest')
    (h : field.text.toList ++ rest = other.text.toList ++ rest') :
    field = other ∧ rest = rest' := by
  have hsplit : ∀ (field : RubyField) (rest : List Char), field.text.toList ++ rest =
      ':' :: (field.name.text.toList ++ ',' :: ' ' :: (field.type.text.toList ++ rest)) := by
    intro field rest
    rw [RubyField.text]
    simp [String.toList_append]
  rw [hsplit, hsplit] at h
  obtain ⟨hname, htypes⟩ :=
    RubyWord.append_inj (endsWord_cons rfl _) (endsWord_cons rfl _) (List.cons.inj h).2
  obtain ⟨htype, hsame⟩ :=
    RubyType.append_inj hrest hrest' (List.cons.inj (List.cons.inj htypes).2).2
  cases field
  cases other
  exact ⟨congrArg₂ RubyField.mk hname htype, hsame⟩

/-! Lines of a function. -/

theorem flatMap_remarks_inj {remarks others : List RubyRemark} {line line' : List Char}
    (hline : ¬ "  #".toList <+: line) (hline' : ¬ "  #".toList <+: line')
    (h : remarks.flatMap (fun remark => remark.line.toList ++ ['\n']) ++ line =
      others.flatMap (fun remark => remark.line.toList ++ ['\n']) ++ line') :
    remarks = others ∧ line = line' := by
  have hopening : ∀ (remark : RubyRemark) (rest : List RubyRemark) (line : List Char),
      "  #".toList <+:
        (remark :: rest).flatMap (fun remark => remark.line.toList ++ ['\n']) ++ line := by
    intro remark rest line
    rw [List.flatMap_cons, List.append_assoc, List.append_assoc]
    exact remark.isRemark.opening.trans (List.prefix_append _ _)
  induction remarks generalizing others with
  | nil =>
    cases others with
    | nil => exact ⟨rfl, h⟩
    | cons other others =>
      rw [List.flatMap_nil, List.nil_append] at h
      exact absurd (h ▸ hopening other others line') hline
  | cons remark remarks ih =>
    cases others with
    | nil =>
      rw [List.flatMap_nil, List.nil_append] at h
      exact absurd (h ▸ hopening remark remarks line) hline'
    | cons other others =>
      simp only [List.flatMap_cons, List.append_assoc, List.cons_append, List.nil_append] at h
      obtain ⟨htext, hrest⟩ :=
        append_cons_inj_of_first remark.isRemark.oneLine other.isRemark.oneLine h
      obtain ⟨rfl, hsame⟩ := ih hrest
      rw [RubyRemark.ext (String.toList_inj.mp htext)]
      exact ⟨rfl, hsame⟩

/-! Blocks. -/

/-- What tells a block from one of another kind. -/
def RubyBlock.opening : RubyBlock → String
  | .enumeration _ _ => "  e"
  | .layout _ _ => "  cl"
  | .callback _ _ => "  ca"
  | .attachment [] _ _ _ => "  a"
  | .attachment (_ :: _) _ _ _ => "  #"

theorem toList_enumeration (name : RubyWord) (constants : List RubyConstant) :
    (RubyBlock.enumeration name constants).text.toList =
      "  enum :".toList ++ (name.text.toList ++ (',' :: ' ' :: '[' ::
        (joinWith ",".toList (constants.map fun constant => constant.text.toList) ++
          ("\n  ]".toList ++ [])))) := by
  rw [RubyBlock.text]
  simp only [String.toList_append, toList_joinStrings, List.append_assoc, List.append_nil]
  rfl

theorem toList_layout (name : RubyWord) (fields : List RubyField) :
    (RubyBlock.layout name fields).text.toList =
      "  class ".toList ++ (name.text.toList ++ (' ' :: ("< FFI::Struct\n    layout ".toList ++
        (joinWith ",\n           ".toList (fields.map fun field => field.text.toList) ++
          ("\n  end".toList ++ []))))) := by
  rw [RubyBlock.text]
  simp only [String.toList_append, toList_joinStrings, List.append_assoc, List.append_nil]
  rfl

theorem toList_callback (name : RubyWord) (signature : RubySignature) :
    (RubyBlock.callback name signature).text.toList =
      "  callback :".toList ++ (name.text.toList ++ (',' :: ' ' :: signature.text.toList)) := by
  rw [RubyBlock.text]
  simp only [String.toList_append, List.append_assoc]
  rfl

theorem toList_attachment (remarks : List RubyRemark) (name function : RubyWord)
    (signature : RubySignature) :
    (RubyBlock.attachment remarks name function signature).text.toList =
      remarks.flatMap (fun remark => remark.line.toList ++ ['\n']) ++
        ("  attach_function :".toList ++ (name.text.toList ++ (',' :: ' ' :: ':' ::
          (function.text.toList ++ (',' :: ' ' :: signature.text.toList))))) := by
  rw [RubyBlock.text, joinStrings, String.toList_ofList, List.map_append, List.map_cons,
    List.map_nil, joinWith_append_cons, List.flatMap_nil, List.append_nil, List.map_map,
    List.flatMap_map]
  simp only [String.toList_append, List.append_assoc]
  rfl

theorem RubyBlock.opening_prefix (block : RubyBlock) :
    block.opening.toList <+: block.text.toList := by
  cases block with
  | enumeration name constants =>
    rw [toList_enumeration]
    exact (by decide : "  e".toList <+: "  enum :".toList).trans (List.prefix_append _ _)
  | layout name fields =>
    rw [toList_layout]
    exact (by decide : "  cl".toList <+: "  class ".toList).trans (List.prefix_append _ _)
  | callback name signature =>
    rw [toList_callback]
    exact (by decide : "  ca".toList <+: "  callback :".toList).trans (List.prefix_append _ _)
  | attachment remarks name function signature =>
    rw [toList_attachment]
    cases remarks with
    | nil =>
      exact (by decide : "  a".toList <+: "  attach_function :".toList).trans
        (List.prefix_append _ _)
    | cons remark remarks =>
      rw [List.flatMap_cons, List.append_assoc, List.append_assoc]
      exact remark.isRemark.opening.trans (List.prefix_append _ _)

theorem toList_constant (constant : RubyConstant) :
    constant.text.toList = '\n' :: ("    :" ++ constant.name.text ++
      (match constant.value with | some value => ", " ++ value.text | none => "")).toList := by
  rw [RubyConstant.text]
  simp only [String.toList_append]
  rfl

theorem RubyBlock.opening_eq {block other : RubyBlock} (h : block.text = other.text) :
    block.opening = other.opening := by
  have hmem : ∀ block : RubyBlock, block.opening ∈ ["  e", "  cl", "  ca", "  a", "  #"] := by
    intro block
    cases block with
    | attachment remarks => cases remarks <;> simp [opening]
    | _ => simp [opening]
  have hopenings : ∀ opening ∈ ["  e", "  cl", "  ca", "  a", "  #"],
      ∀ opening' ∈ ["  e", "  cl", "  ca", "  a", "  #"],
        opening.toList <+: opening'.toList → opening = opening' := by decide
  rcases List.prefix_or_prefix_of_prefix block.opening_prefix (h ▸ other.opening_prefix) with
    hprefix | hprefix
  · exact hopenings _ (hmem block) _ (hmem other) hprefix
  · exact (hopenings _ (hmem other) _ (hmem block) hprefix).symm

theorem RubyBlock.enumeration_inj {name name' : RubyWord} {constants constants' : List RubyConstant}
    (h : (enumeration name constants).text = (enumeration name' constants').text) :
    enumeration name constants = enumeration name' constants' := by
  have htext := congrArg String.toList h
  rw [toList_enumeration, toList_enumeration] at htext
  obtain ⟨rfl, hrest⟩ := RubyWord.append_inj (endsWord_cons rfl _) (endsWord_cons rfl _)
    (List.append_cancel_left htext)
  have hbracket := (List.cons.inj (List.cons.inj (List.cons.inj hrest).2).2).2
  obtain ⟨rfl, -⟩ := joinWith_append_inj FollowsConstant
    (fun a b rest rest' => RubyConstant.append_inj)
    (fun a rest => .inl ⟨_, by rw [toList_constant]; rfl⟩) (.inr rfl) (.inr rfl)
    (fun rest rest' heq => absurd (List.cons.inj heq).1 (by decide))
    (fun a rest rest' heq => by
      rw [RubyConstant.text] at heq
      simp at heq) hbracket
  rfl

theorem RubyBlock.layout_inj {name name' : RubyWord} {fields fields' : List RubyField}
    (h : (layout name fields).text = (layout name' fields').text) :
    layout name fields = layout name' fields' := by
  have htext := congrArg String.toList h
  rw [toList_layout, toList_layout] at htext
  obtain ⟨rfl, hrest⟩ := RubyWord.append_inj (endsWord_cons rfl _) (endsWord_cons rfl _)
    (List.append_cancel_left htext)
  obtain ⟨rfl, -⟩ := joinWith_append_inj EndsWord
    (fun a b rest rest' => RubyField.append_inj)
    (fun a rest => endsWord_cons rfl _) (endsWord_cons rfl _) (endsWord_cons rfl _)
    (fun rest rest' heq => absurd (List.cons.inj heq).1 (by decide))
    (fun a rest rest' heq => by
      rw [RubyField.text] at heq
      simp at heq)
    (List.append_cancel_left (List.cons.inj hrest).2)
  rfl

theorem RubyBlock.callback_inj {name name' : RubyWord} {signature signature' : RubySignature}
    (h : (callback name signature).text = (callback name' signature').text) :
    callback name signature = callback name' signature' := by
  have htext := congrArg String.toList h
  rw [toList_callback, toList_callback] at htext
  obtain ⟨rfl, hrest⟩ := RubyWord.append_inj (endsWord_cons rfl _) (endsWord_cons rfl _)
    (List.append_cancel_left htext)
  rw [RubySignature.text_inj (List.cons.inj (List.cons.inj hrest).2).2]

theorem RubyBlock.attachment_inj {remarks remarks' : List RubyRemark}
    {name function name' function' : RubyWord} {signature signature' : RubySignature}
    (h : (attachment remarks name function signature).text =
      (attachment remarks' name' function' signature').text) :
    attachment remarks name function signature =
      attachment remarks' name' function' signature' := by
  have htext := congrArg String.toList h
  rw [toList_attachment, toList_attachment] at htext
  have hline : ∀ rest : List Char, ¬ "  #".toList <+: "  attach_function :".toList ++ rest := by
    intro rest hprefix
    obtain ⟨more, hmore⟩ := hprefix
    simp at hmore
  obtain ⟨rfl, hlines⟩ := flatMap_remarks_inj (hline _) (hline _) htext
  obtain ⟨rfl, hrest⟩ := RubyWord.append_inj (endsWord_cons rfl _) (endsWord_cons rfl _)
    (List.append_cancel_left hlines)
  obtain ⟨rfl, hsignature⟩ := RubyWord.append_inj (endsWord_cons rfl _) (endsWord_cons rfl _)
    (List.cons.inj (List.cons.inj (List.cons.inj hrest).2).2).2
  rw [RubySignature.text_inj (List.cons.inj (List.cons.inj hsignature).2).2]

theorem RubyBlock.text_inj {block other : RubyBlock} (h : block.text = other.text) :
    block = other := by
  have hopening := opening_eq h
  cases block with
  | enumeration name constants =>
    cases other with
    | enumeration name' constants' => exact enumeration_inj h
    | attachment remarks => cases remarks <;> simp [opening] at hopening
    | _ => simp [opening] at hopening
  | layout name fields =>
    cases other with
    | layout name' fields' => exact layout_inj h
    | attachment remarks => cases remarks <;> simp [opening] at hopening
    | _ => simp [opening] at hopening
  | callback name signature =>
    cases other with
    | callback name' signature' => exact callback_inj h
    | attachment remarks => cases remarks <;> simp [opening] at hopening
    | _ => simp [opening] at hopening
  | attachment remarks name function signature =>
    cases other with
    | attachment remarks' name' function' signature' => exact attachment_inj h
    | _ => cases remarks <;> simp [opening] at hopening

theorem RubyBlock.isRubyBlock_text_iff (block : RubyBlock) :
    IsRubyBlock block.text ↔ block.IsValid := by
  constructor
  · rintro ⟨other, hvalid, htext⟩
    rwa [text_inj htext] at hvalid
  · exact fun hvalid => ⟨block, hvalid, rfl⟩

end HeaderBindings
