import HeaderBindings.Binding.Model
import HeaderBindings.C.Literal
import HeaderBindings.Proofs.DeclaredArtifact
import HeaderBindings.Proofs.NameText
import HeaderBindings.Proofs.Stop
import Mathlib.Data.List.DropRight

/-! The values of enum constants. In a foreign enum a constant without a number comes after its
predecessor. So it does in C, as long as a type is left that holds what comes next; behind the
largest number of all, C starts again at zero. A computed value is not written there. -/

namespace HeaderBindings

/-! Foreign enums: a list of symbols, with numbers behind some of them. -/

inductive RubyItem where
  | symbol (name : String)
  | number (value : Int)
  deriving DecidableEq, Repr

def isRubySpace (c : Char) : Bool := (9 ≤ c.toNat && c.toNat ≤ 13) || c = ' '

/-- A number without a sign: the letter behind a leading zero tells its base. -/
def rubyNumber? (text : List Char) : Option Nat :=
  let read (base : Nat) (digits : List Char) : Option Nat :=
    if digits ≠ [] ∧ digits.all (isDigitOf base) then some (digitsValue base digits) else none
  match text with
  | '0' :: x :: rest =>
    if x = 'x' ∨ x = 'X' then read 16 rest
    else if x = 'b' ∨ x = 'B' then read 2 rest
    else if x = 'd' ∨ x = 'D' then read 10 rest
    else if x = 'o' ∨ x = 'O' then read 8 rest
    else read 8 (x :: rest)
  | _ => read 10 text

def rubyItem? (text : List Char) : Option RubyItem :=
  match (text.dropWhile isRubySpace).rdropWhile isRubySpace with
  | ':' :: name => some (.symbol (String.ofList name))
  | number => (rubyNumber? number).map fun (value : Nat) => .number value

/-- The items between the commas of a text. -/
def rubyItems? (text : List Char) : Option (List RubyItem) := (splitAtChar ',' text).mapM rubyItem?

def rubyList? (text : List Char) : Option (List RubyItem) :=
  if text.all isRubySpace then some [] else rubyItems? text

/-- What stands between the first bracket and the one that closes it. -/
def bracketed (text : List Char) : List Char :=
  ((text.dropWhile (· ≠ '[')).drop 1).takeWhile (· ≠ ']')

/-- A symbol has the number behind it, or else the next one. -/
def foreignValues? (next : Int) : List RubyItem → Option (List (String × Int))
  | [] => some []
  | .symbol name :: .number value :: rest =>
    (foreignValues? (value + 1) rest).map ((name, value) :: ·)
  | .symbol name :: rest => (foreignValues? (next + 1) rest).map ((name, next) :: ·)
  | .number _ :: _ => none

/-- The constants of a foreign enum with their values. -/
def readForeignEnum? (block : String) : Option (List (String × Int)) :=
  (rubyList? (bracketed block.toList)).bind (foreignValues? 0)

/-! Enums in C. -/

/-- An integer literal of digits only, whose value C gives. -/
def IsPlainLiteral (text : String) (value : Nat) : Prop :=
  '\'' ∉ text.toList ∧ ∃ literal, readInteger? text = some literal ∧
    literal.suffix = .none ∧ literal.value = value

/-- A constant of an enum that has no literal, or a plain one with the value that C gives it. -/
def Enumerator.IsPlain (constant : Enumerator) : Prop :=
  match constant.text with
  | .none | .expression => True
  | .literal text => ∃ value : Nat, IsPlainLiteral text value ∧ constant.value = value
  | .unspelled => False

/-- The value that comes after some constants. -/
def valueBehind (next : Int) (earlier : List Enumerator) : Int :=
  (earlier.getLast?.map (·.value + 1)).getD next

example : rubyNumber? "0x1F".toList = some 31 ∧ rubyNumber? "017".toList = some 15 := by decide

example : readForeignEnum? "  enum :mode, [\n    :read,\n    :write, 0x10,\n    :both\n  ]" =
    some [("read", 0), ("write", 16), ("both", 17)] := by decide

/-! Literals. -/

def LiteralSuffix.weight (suffix : LiteralSuffix) : Nat :=
  suffix.longs + suffix.unsignedSuffix.toNat + suffix.bitPrecise.toNat + suffix.imaginary.toNat

theorem LiteralSuffix.weight_of_read? {found result : LiteralSuffix} {letters : List Char}
    (h : found.read? letters = some result) :
    letters = [] ∧ result = found ∨ found.weight < result.weight := by
  unfold weight
  fun_induction LiteralSuffix.read? found letters with
  | case1 => exact .inl ⟨rfl, (Option.some.inj h).symm⟩
  | _ => grind

theorem LiteralSuffix.eq_nil_of_read? {letters : List Char}
    (h : LiteralSuffix.none.read? letters = some .none) : letters = [] := by
  rcases weight_of_read? h with ⟨hnil, -⟩ | hweight
  · exact hnil
  · exact absurd hweight (lt_irrefl _)

theorem code_of_isDigitOf {base : Nat} {c : Char} (h : isDigitOf base c = true) :
    48 ≤ c.toNat ∧ c.toNat ≤ 102 := by
  have hcode : c.toNat = c.val.toNat := rfl
  have hdigits : '0'.val.toNat = 48 ∧ '9'.val.toNat = 57 := ⟨rfl, rfl⟩
  have hlower : 'a'.val.toNat = 97 ∧ 'f'.val.toNat = 102 := ⟨rfl, rfl⟩
  have hupper : 'A'.val.toNat = 65 ∧ 'F'.val.toNat = 70 := ⟨rfl, rfl⟩
  unfold isDigitOf hexValue? at h
  simp only [Char.isDigit, Char.le_def, ge_iff_le, Bool.and_eq_true, decide_eq_true_eq,
    UInt32.le_iff_toNat_le] at h
  split at h
  · omega
  · split at h
    · omega
    · split at h
      · omega
      · cases h

theorem isDigit_of_decimal {c : Char} (h : isDigitOf 10 c = true) : c.isDigit = true := by
  unfold isDigitOf hexValue? at h
  split at h
  · next hdigit => exact hdigit
  · split at h
    · rw [Option.any_some, decide_eq_true_eq] at h
      omega
    · split at h
      · rw [Option.any_some, decide_eq_true_eq] at h
        omega
      · cases h

/-- Where nothing follows the digits, all characters behind the sign of the base are digits. -/
theorem splitLiteral_cases {text digits : List Char} {base : Nat}
    (h : splitLiteral text = (base, digits, [])) :
    digits.all (isDigitOf base) = true ∧
      ((∃ x, text = '0' :: x :: digits ∧
          ((x = 'x' ∨ x = 'X') ∧ base = 16 ∨ (x = 'b' ∨ x = 'B') ∧ base = 2)) ∨
        text = digits ∧ (base = 8 ∧ (∃ x rest, text = '0' :: x :: rest) ∨
          base = 10 ∧ ∀ x rest, text ≠ '0' :: x :: rest)) := by
  have hcut : ∀ {own : Nat} {body : List Char},
      (own, body.takeWhile (isDigitOf own), body.dropWhile (isDigitOf own)) = (base, digits, []) →
        own = base ∧ body = digits ∧ digits.all (isDigitOf base) = true := by
    intro own body heq
    obtain ⟨rfl, rest⟩ := Prod.mk.inj heq
    obtain ⟨htaken, hnone⟩ := Prod.mk.inj rest
    have hall : ∀ c ∈ body, isDigitOf own c = true := List.dropWhile_eq_nil_iff.mp hnone
    have hbody : body = digits := by rw [← htaken, List.takeWhile_eq_self_iff.mpr hall]
    exact ⟨rfl, hbody, List.all_eq_true.mpr (hbody ▸ hall)⟩
  unfold splitLiteral at h
  dsimp only at h
  split at h
  · next x rest =>
    split at h
    · next hx =>
      obtain ⟨rfl, rfl, hall⟩ := hcut h
      exact ⟨hall, .inl ⟨x, rfl, .inl ⟨hx, rfl⟩⟩⟩
    · split at h
      · next hx =>
        obtain ⟨rfl, rfl, hall⟩ := hcut h
        exact ⟨hall, .inl ⟨x, rfl, .inr ⟨hx, rfl⟩⟩⟩
      · obtain ⟨rfl, hbody, hall⟩ := hcut h
        exact ⟨hall, .inr ⟨hbody, .inl ⟨rfl, x, rest, rfl⟩⟩⟩
  · next hother =>
    obtain ⟨rfl, hbody, hall⟩ := hcut h
    exact ⟨hall, .inr ⟨hbody, .inr ⟨rfl, hother⟩⟩⟩

theorem IsPlainLiteral.split {text : String} {value : Nat} (h : IsPlainLiteral text value) :
    ∃ base digits, splitLiteral text.toList = (base, digits, []) ∧ digits ≠ [] ∧
      digitsValue base digits = value := by
  obtain ⟨hquote, literal, hread, hsuffix, hvalue⟩ := h
  have hfilter : text.toList.filter (· ≠ '\'') = text.toList := by
    rw [List.filter_eq_self]
    intro c hc
    exact decide_eq_true fun heq => hquote (heq ▸ hc)
  unfold readInteger? at hread
  rw [hfilter] at hread
  split at hread
  next base digits suffix hsplit =>
    split at hread
    · cases hread
    · next hne =>
      split at hread
      · next found hfound =>
        split at hread
        · cases hread
        · cases hread
          rw [show found = .none from hsuffix] at hfound
          rw [LiteralSuffix.eq_nil_of_read? hfound] at hsplit
          exact ⟨base, digits, hsplit, by simpa using hne, hvalue⟩
      · cases hread

/-- A plain literal is the same number in Ruby. -/
theorem IsPlainLiteral.rubyNumber? {text : String} {value : Nat} (h : IsPlainLiteral text value) :
    rubyNumber? text.toList = some value := by
  obtain ⟨base, digits, hsplit, hne, rfl⟩ := h.split
  obtain ⟨hall, hform⟩ := splitLiteral_cases hsplit
  unfold HeaderBindings.rubyNumber?
  rcases hform with ⟨x, htext, hbase⟩ | ⟨htext, hbase⟩
  · rw [htext]
    rcases hbase with ⟨rfl | rfl, rfl⟩ | ⟨rfl | rfl, rfl⟩ <;> simp [hne, hall]
  · rcases hbase with ⟨rfl, x, rest, hzero⟩ | ⟨rfl, hother⟩
    · have hdigits : digits = '0' :: x :: rest := htext.symm.trans hzero
      rw [hdigits, List.all_cons, Bool.and_eq_true] at hall
      have hx : isDigitOf 8 x = true := (List.all_eq_true.mp hall.2) x List.mem_cons_self
      have hletter : ∀ letter, isDigitOf 8 letter = false → x ≠ letter := by
        rintro _ hletter rfl
        rw [hx] at hletter
        cases hletter
      rw [hzero, hdigits]
      simp only
      rw [if_neg (not_or.mpr ⟨hletter 'x' (by decide), hletter 'X' (by decide)⟩),
        if_neg (not_or.mpr ⟨hletter 'b' (by decide), hletter 'B' (by decide)⟩),
        if_neg (not_or.mpr ⟨hletter 'd' (by decide), hletter 'D' (by decide)⟩),
        if_neg (not_or.mpr ⟨hletter 'o' (by decide), hletter 'O' (by decide)⟩),
        if_pos ⟨List.cons_ne_nil _ _, hall.2⟩]
      rfl
    · rw [htext] at hother ⊢
      split
      · next x rest => exact absurd rfl (hother x rest)
      · exact if_pos ⟨hne, hall⟩

theorem isDigitOf_mono {base larger : Nat} (hbase : base ≤ larger) {c : Char}
    (h : isDigitOf base c = true) : isDigitOf larger c = true := by
  unfold isDigitOf at h ⊢
  cases hvalue : hexValue? c with
  | none =>
    rw [hvalue] at h
    cases h
  | some digit =>
    rw [hvalue, Option.any_some, decide_eq_true_eq] at h
    simp only [Option.any_some, decide_eq_true_eq]
    omega

theorem IsPlainLiteral.characters {text : String} {value : Nat} (h : IsPlainLiteral text value) :
    text.toList.head?.any Char.isDigit = true ∧
      ∀ c ∈ text.toList, c = 'x' ∨ c = 'X' ∨ isDigitOf 16 c = true := by
  obtain ⟨base, digits, hsplit, hne, -⟩ := h.split
  obtain ⟨hall, hform⟩ := splitLiteral_cases hsplit
  have hdigits : base ≤ 16 → ∀ c ∈ digits, isDigitOf 16 c = true := fun hbase c hc =>
    isDigitOf_mono hbase (List.all_eq_true.mp hall c hc)
  rcases hform with ⟨x, htext, hbase⟩ | ⟨htext, hbase⟩
  · rw [htext]
    refine ⟨rfl, fun c hc => ?_⟩
    have hx : x = 'x' ∨ x = 'X' ∨ isDigitOf 16 x = true := by
      rcases hbase with ⟨rfl | rfl, -⟩ | ⟨rfl | rfl, -⟩ <;> decide
    rcases List.mem_cons.mp hc with rfl | hc
    · decide
    · rcases List.mem_cons.mp hc with rfl | hc
      · exact hx
      · exact .inr (.inr (hdigits (by omega) c hc))
  · rw [htext]
    refine ⟨?_, fun c hc => .inr (.inr (hdigits (by omega) c hc))⟩
    rcases hbase with ⟨-, x, rest, hzero⟩ | ⟨rfl, -⟩
    · rw [← htext, hzero]
      rfl
    · cases digits with
      | nil => exact absurd rfl hne
      | cons first rest =>
        rw [List.all_cons, Bool.and_eq_true] at hall
        exact isDigit_of_decimal hall.1

/-! Items of a list. -/

/-- A character that stands between the items of a list, or around it. -/
def isListSign (c : Char) : Bool := c = ',' || c = '[' || c = ']' || isRubySpace c

/-- A text that is one item of a list, or part of one. -/
def IsListWord (text : List Char) : Prop := ∀ c ∈ text, isListSign c = false

instance (text : List Char) : Decidable (IsListWord text) :=
  decidable_of_iff (text.all (!isListSign ·) = true) (by simp [IsListWord])

theorem isNameSign_of_isListSign {c : Char} (h : isListSign c = true) : isNameSign c = true := by
  unfold isListSign at h
  simp only [Bool.or_eq_true, decide_eq_true_eq] at h
  rcases h with ((rfl | rfl) | rfl) | hspace
  · decide
  · decide
  · decide
  · unfold isRubySpace at hspace
    simp only [Bool.or_eq_true, Bool.and_eq_true, decide_eq_true_eq] at hspace
    rcases hspace with hspace | rfl
    · have hunderscore : c ≠ '_' := by
        rintro rfl
        exact absurd hspace.2 (by decide)
      simp [isNameSign, hunderscore]
      omega
    · decide

theorem IsListWord.not_space {text : List Char} (h : IsListWord text) :
    ∀ c ∈ text, isRubySpace c = false := by
  intro c hc
  have hsign := h c hc
  unfold isListSign at hsign
  simp only [Bool.or_eq_false_iff] at hsign
  exact hsign.2

theorem IsListWord.not_mem {text : List Char} (h : IsListWord text) {c : Char}
    (hc : isListSign c = true) : c ∉ text := by
  intro hmem
  rw [h c hmem] at hc
  cases hc

theorem isListWord_memberIdentifier (prefixes : List String) {name : String}
    (h : IsListWord name.toList) : IsListWord (memberIdentifier prefixes name).toList := by
  intro c hc
  rw [← Bool.not_eq_true]
  intro hsign
  exact sign_not_mem_memberIdentifier prefixes (isNameSign_of_isListSign hsign)
    (h.not_mem hsign) hc

theorem IsPlainLiteral.isListWord {text : String} {value : Nat} (h : IsPlainLiteral text value) :
    IsListWord text.toList := by
  intro c hc
  rcases h.characters.2 c hc with rfl | rfl | hdigit
  · decide
  · decide
  · have hcode := code_of_isDigitOf hdigit
    have hbracket : ∀ d, isDigitOf 16 d = false → c ≠ d := by
      rintro _ hd rfl
      rw [hdigit] at hd
      cases hd
    have hcomma := hbracket ',' (by decide)
    have hopen := hbracket '[' (by decide)
    have hclose := hbracket ']' (by decide)
    have hblank := hbracket ' ' (by decide)
    simp [isListSign, isRubySpace, hcomma, hopen, hclose, hblank]
    omega

theorem trim_word {front word back : List Char} (hfront : ∀ c ∈ front, isRubySpace c = true)
    (hback : ∀ c ∈ back, isRubySpace c = true) (hword : ∀ c ∈ word, isRubySpace c = false)
    (hne : word ≠ []) :
    ((front ++ word ++ back).dropWhile isRubySpace).rdropWhile isRubySpace = word := by
  have hstart : (word ++ back).dropWhile isRubySpace = word ++ back := by
    cases word with
    | nil => exact absurd rfl hne
    | cons c rest => exact List.dropWhile_cons_of_neg (by simp [hword c List.mem_cons_self])
  have hend : ¬ isRubySpace (word.getLast hne) = true := by
    simp [hword _ (List.getLast_mem hne)]
  rw [List.append_assoc, List.dropWhile_append_of_pos hfront, hstart, List.rdropWhile,
    List.reverse_append, List.dropWhile_append_of_pos (by simpa using hback)]
  exact List.rdropWhile_eq_self_iff.mpr fun _ => hend

theorem rubyItem?_symbol {front name back : List Char} (hfront : ∀ c ∈ front, isRubySpace c = true)
    (hback : ∀ c ∈ back, isRubySpace c = true) (hname : IsListWord name) :
    rubyItem? (front ++ ':' :: name ++ back) = some (.symbol (String.ofList name)) := by
  have hword : ∀ c ∈ ':' :: name, isRubySpace c = false :=
    List.forall_mem_cons.mpr ⟨rfl, hname.not_space⟩
  unfold rubyItem?
  rw [trim_word hfront hback hword (List.cons_ne_nil _ _)]
  rfl

theorem rubyItem?_number {front back : List Char} {text : String} {value : Nat}
    (hfront : ∀ c ∈ front, isRubySpace c = true) (hback : ∀ c ∈ back, isRubySpace c = true)
    (h : IsPlainLiteral text value) :
    rubyItem? (front ++ text.toList ++ back) = some (.number value) := by
  have hhead := h.characters.1
  unfold rubyItem?
  rw [trim_word hfront hback h.isListWord.not_space ?_]
  · split
    · next name htext =>
      rw [htext] at hhead
      cases hhead
    · rw [h.rubyNumber?]
      rfl
  · intro hnil
    rw [hnil] at hhead
    cases hhead

theorem rubyItems?_append {first second : List Char} {items others : List RubyItem}
    (hfirst : rubyItems? first = some items) (hsecond : rubyItems? second = some others) :
    rubyItems? (first ++ ',' :: second) = some (items ++ others) := by
  unfold rubyItems? at *
  rw [splitAtChar_eq_splitOn] at *
  rw [List.splitOn_append_cons_self, List.mapM_append, hfirst, hsecond]
  rfl

theorem rubyItems?_singleton {text : List Char} {item : RubyItem} (hcomma : ',' ∉ text)
    (h : rubyItem? text = some item) : rubyItems? text = some [item] := by
  rw [rubyItems?, splitAtChar_eq_splitOn, List.splitOn_eq_singleton hcomma, List.mapM_cons, h]
  rfl

/-! Rendered enums. -/

section

variable (prefixes : List String) (skipped : Nat)

/-- The name of a constant in the binding. -/
def Enumerator.member (constant : Enumerator) : String :=
  memberIdentifier prefixes (String.ofList (constant.name.toList.drop skipped))

/-- The number that is written for a constant. -/
def Enumerator.number? (constant : Enumerator) : Option Int :=
  match constant.text with
  | .literal _ => some constant.value
  | _ => none

def Enumerator.items (constant : Enumerator) : List RubyItem :=
  .symbol (constant.member prefixes skipped) :: constant.number?.toList.map .number

variable {prefixes skipped}

theorem Enumerator.isListWord_member {constant : Enumerator}
    (h : IsListWord constant.name.toList) :
    IsListWord (constant.member prefixes skipped).toList := by
  refine isListWord_memberIdentifier prefixes fun c hc => h c ?_
  rw [String.toList_ofList] at hc
  exact (List.drop_sublist _ _).subset hc

theorem comma_not_mem_of_space {text : List Char} (h : ∀ c ∈ text, isRubySpace c = true) :
    ',' ∉ text := by
  intro hmem
  cases h ',' hmem

theorem toList_renderConstant (constant : Enumerator) (text : Option String) :
    (renderConstant prefixes skipped (constant.name, text)).toList =
      "\n    ".toList ++ ':' :: (constant.member prefixes skipped).toList ++
        text.toList.flatMap fun text => ',' :: (" ".toList ++ text.toList) := by
  cases text <;> simp [renderConstant, Enumerator.member]

theorem rubyItems?_member {constant : Enumerator} {back : List Char}
    (hname : IsListWord constant.name.toList) (hback : ∀ c ∈ back, isRubySpace c = true) :
    rubyItems? ("\n    ".toList ++ ':' :: (constant.member prefixes skipped).toList ++ back) =
      some [.symbol (constant.member prefixes skipped)] := by
  have hmember : IsListWord (constant.member prefixes skipped).toList :=
    constant.isListWord_member hname
  have hcomma : ',' ∉ (constant.member prefixes skipped).toList := hmember.not_mem rfl
  have hspace := comma_not_mem_of_space hback
  refine rubyItems?_singleton (by simp [hcomma, hspace]) ?_
  rw [rubyItem?_symbol (List.all_eq_true.mp rfl) hback hmember, String.ofList_toList]

theorem Enumerator.recorded {constant : Enumerator} {value : String × Option String}
    (hplain : constant.IsPlain) (hmade : constant.constant = .ok value) :
    value = (constant.name, none) ∧ constant.number? = none ∨
      ∃ text number, value = (constant.name, some text) ∧ IsPlainLiteral text number ∧
        constant.number? = some ↑number := by
  unfold IsPlain at hplain
  unfold Enumerator.constant at hmade
  unfold number?
  cases htext : constant.text with
  | unspelled =>
    rw [htext] at hmade
    cases hmade
  | none | expression =>
    rw [htext] at hmade
    cases hmade
    exact .inl ⟨rfl, rfl⟩
  | literal text =>
    rw [htext] at hplain hmade
    obtain ⟨number, hliteral, hnumber⟩ := hplain
    dsimp only at hmade
    rw [if_pos hliteral.characters.1] at hmade
    cases hmade
    exact .inr ⟨text, number, rfl, hliteral, congrArg some hnumber⟩

/-- The items of a constant's line: its symbol, and the number of its literal. -/
theorem Enumerator.rubyItems?_render {constant : Enumerator} {value : String × Option String}
    {back : List Char} (hconstant : constant.IsPlain)
    (hname : IsListWord constant.name.toList) (hmade : constant.constant = .ok value)
    (hback : ∀ c ∈ back, isRubySpace c = true) :
    rubyItems? ((renderConstant prefixes skipped value).toList ++ back) =
      some (constant.items prefixes skipped) := by
  unfold items
  rcases constant.recorded hconstant hmade with
    ⟨rfl, hnumber⟩ | ⟨text, number, rfl, hplain, hnumber⟩
  · rw [toList_renderConstant, hnumber]
    simpa using rubyItems?_member hname hback
  · have hcomma : ',' ∉ text.toList := hplain.isListWord.not_mem rfl
    have hspace := comma_not_mem_of_space hback
    have hsymbol : rubyItems? ("\n    ".toList ++ ':' ::
        (constant.member prefixes skipped).toList ++ []) =
          some [.symbol (constant.member prefixes skipped)] :=
      rubyItems?_member hname (by simp)
    have hitem : rubyItems? (" ".toList ++ text.toList ++ back) = some [.number number] :=
      rubyItems?_singleton (by simp [hcomma, hspace])
        (rubyItem?_number (List.all_eq_true.mp rfl) hback hplain)
    rw [toList_renderConstant, hnumber]
    simpa using rubyItems?_append hsymbol hitem

theorem Enumerator.bracket_not_mem_render {constant : Enumerator}
    {value : String × Option String} (hconstant : constant.IsPlain)
    (hname : IsListWord constant.name.toList) (hmade : constant.constant = .ok value) :
    ']' ∉ (renderConstant prefixes skipped value).toList := by
  have hmember : ']' ∉ (constant.member prefixes skipped).toList :=
    (constant.isListWord_member hname).not_mem rfl
  rcases constant.recorded hconstant hmade with ⟨rfl, -⟩ | ⟨text, number, rfl, hplain, -⟩
  · simp [toList_renderConstant, hmember]
  · have htext : ']' ∉ text.toList := hplain.isListWord.not_mem rfl
    simp [toList_renderConstant, hmember, htext]

theorem rubyItems?_constants {constants : List Enumerator} {values : List (String × Option String)}
    {back : List Char}
    (hmade : List.Forall₂ (fun constant value => constant.constant = .ok value) constants values)
    (hplain : ∀ constant ∈ constants, constant.IsPlain)
    (hnames : ∀ constant ∈ constants, IsListWord constant.name.toList) (hne : constants ≠ [])
    (hback : ∀ c ∈ back, isRubySpace c = true) :
    rubyItems? (joinWith [','] (values.map fun value =>
        (renderConstant prefixes skipped value).toList) ++ back) =
      some (constants.flatMap (Enumerator.items prefixes skipped)) := by
  induction hmade with
  | nil => exact absurd rfl hne
  | @cons constant value rest others hfirst hrest ih =>
    obtain ⟨hconstant, hothers⟩ := List.forall_mem_cons.mp hplain
    obtain ⟨hname, hothernames⟩ := List.forall_mem_cons.mp hnames
    cases hrest with
    | nil => simpa [joinWith] using constant.rubyItems?_render hconstant hname hfirst hback
    | cons hsecond hmore =>
      have hline : rubyItems? ((renderConstant prefixes skipped value).toList ++ []) =
          some (constant.items prefixes skipped) :=
        constant.rubyItems?_render hconstant hname hfirst (by simp)
      have hlines := ih hothers hothernames (List.cons_ne_nil _ _)
      simpa [joinWith] using rubyItems?_append hline hlines

variable (prefixes skipped) in
/-- What a foreign enum makes of constants. -/
def foreignMembers (next : Int) : List Enumerator → List (String × Int)
  | [] => []
  | constant :: rest =>
    let value := constant.number?.getD next
    (constant.member prefixes skipped, value) :: foreignMembers (value + 1) rest

theorem foreignValues?_items (constants : List Enumerator) (next : Int) :
    foreignValues? next (constants.flatMap (Enumerator.items prefixes skipped)) =
      some (foreignMembers prefixes skipped next constants) := by
  induction constants generalizing next with
  | nil => rfl
  | cons constant rest ih =>
    rw [List.flatMap_cons, foreignMembers, Enumerator.items]
    cases hnumber : constant.number? with
    | some value =>
      simp [foreignValues?, ih]
    | none =>
      -- what follows is a symbol again, or nothing
      have hsymbol : ∀ value more,
          rest.flatMap (Enumerator.items prefixes skipped) ≠ .number value :: more := by
        cases rest <;> simp [Enumerator.items]
      have hnext := foreignValues?.eq_3 next (constant.member prefixes skipped) _ hsymbol
      simp [hnext, ih]

theorem foreignMembers_names (constants : List Enumerator) (next : Int) :
    (foreignMembers prefixes skipped next constants).map Prod.fst =
      constants.map (Enumerator.member prefixes skipped) := by
  induction constants generalizing next with
  | nil => rfl
  | cons constant rest ih => rw [foreignMembers, List.map_cons, List.map_cons, ih]

theorem forall_split_cons_iff {α : Type} {x : α} {xs : List α} {P : List α → α → Prop} :
    (∀ earlier y later, x :: xs = earlier ++ y :: later → P earlier y) ↔
      P [] x ∧ ∀ earlier y later, xs = earlier ++ y :: later → P (x :: earlier) y := by
  constructor
  · intro h
    refine ⟨h [] x xs rfl, fun earlier y later hsplit => ?_⟩
    exact h (x :: earlier) y later (by rw [hsplit]; rfl)
  · rintro ⟨hfirst, hrest⟩ earlier y later hsplit
    cases earlier with
    | nil =>
      obtain ⟨rfl, -⟩ := List.cons.inj hsplit
      exact hfirst
    | cons z earlier =>
      obtain ⟨rfl, hlater⟩ := List.cons.inj hsplit
      exact hrest earlier y later hlater

theorem valueBehind_cons (next : Int) (constant : Enumerator) (earlier : List Enumerator) :
    valueBehind next (constant :: earlier) = valueBehind (constant.value + 1) earlier := by
  unfold valueBehind
  cases earlier with
  | nil => rfl
  | cons second rest => simp [List.getLast?_cons]

theorem Enumerator.number?_getD_eq_iff {constant : Enumerator} {next : Int} :
    constant.number?.getD next = constant.value ↔
      ((∀ text, constant.text ≠ .literal text) → constant.value = next) := by
  unfold number?
  cases constant.text with
  | literal text => simp
  | _ => simp [eq_comm]

theorem foreignMembers_values_iff (constants : List Enumerator) (next : Int) :
    (foreignMembers prefixes skipped next constants).map Prod.snd = constants.map Enumerator.value ↔
      ∀ earlier constant later, constants = earlier ++ constant :: later →
        (∀ text, constant.text ≠ .literal text) → constant.value = valueBehind next earlier := by
  induction constants generalizing next with
  | nil => simp [foreignMembers]
  | cons constant rest ih =>
    rw [forall_split_cons_iff, foreignMembers, List.map_cons, List.map_cons, List.cons.injEq,
      Enumerator.number?_getD_eq_iff]
    -- once the first value is right, both sides go on counting from it
    refine and_congr_right fun hcounted => ?_
    simp only [Enumerator.number?_getD_eq_iff.mpr hcounted, valueBehind_cons]
    exact ih _

end

theorem bracketed_append {front body rest : List Char} (hfront : '[' ∉ front) (hbody : ']' ∉ body) :
    bracketed (front ++ '[' :: body ++ ']' :: rest) = body := by
  have hskip : ∀ c ∈ front, decide (c ≠ '[') = true := fun c hc =>
    decide_eq_true fun heq => hfront (heq ▸ hc)
  have hkeep : ∀ c ∈ body, decide (c ≠ ']') = true := fun c hc =>
    decide_eq_true fun heq => hbody (heq ▸ hc)
  unfold bracketed
  rw [List.append_assoc, List.dropWhile_append_of_pos hskip, List.cons_append,
    List.dropWhile_cons_of_neg (by decide), List.drop_one, List.tail_cons,
    List.takeWhile_append_of_pos hkeep, List.takeWhile_cons_of_neg (by decide), List.append_nil]

/-- Reading a rendered enum gives its constants, as a foreign enum counts them. -/
theorem readForeignEnum?_render (prefixes : List String) {name : String}
    {constants : List Enumerator} {values : List (String × Option String)}
    (hmade : List.Forall₂ (fun constant value => constant.constant = .ok value) constants values)
    (hplain : ∀ constant ∈ constants, constant.IsPlain) (hname : IsListWord name.toList)
    (hnames : ∀ constant ∈ constants, IsListWord constant.name.toList) :
    readForeignEnum? (renderEnumeration prefixes name values) =
      some (foreignMembers prefixes (constantPrefixLength (constants.map (·.name))) 0
        constants) := by
  rw [← map_name_of_constants hmade]
  generalize hskipped : constantPrefixLength (values.map (·.1)) = skipped
  have hfront : '[' ∉ ("  enum :" ++ memberIdentifier prefixes name ++ ", ").toList := by
    have hmember : '[' ∉ (memberIdentifier prefixes name).toList :=
      (isListWord_memberIdentifier prefixes hname).not_mem rfl
    simp [hmember]
  let lines := joinWith [','] (values.map fun value =>
    (renderConstant prefixes skipped value).toList)
  have hlines : ']' ∉ lines ++ "\n  ".toList := by
    intro hmem
    rcases List.mem_append.mp hmem with hmem | hmem
    · rcases mem_joinWith hmem with hmem | ⟨line, hline, hmem⟩
      · exact absurd hmem (by decide)
      · obtain ⟨value, hvalue, rfl⟩ := List.mem_map.mp hline
        obtain ⟨constant, hconstant, hrecorded⟩ := exists_mem_of_forall₂ hmade hvalue
        exact constant.bracket_not_mem_render (hplain constant hconstant)
          (hnames constant hconstant) hrecorded hmem
    · exact absurd hmem (by decide)
  have hblock : (renderEnumeration prefixes name values).toList =
      ("  enum :" ++ memberIdentifier prefixes name ++ ", ").toList ++
        '[' :: (lines ++ "\n  ".toList) ++ ']' :: [] := by
    simp [renderEnumeration, joinStrings, lines, hskipped, Function.comp_def]
  rw [readForeignEnum?, hblock, bracketed_append hfront hlines]
  unfold rubyList?
  cases constants with
  | nil =>
    cases hmade
    rfl
  | cons constant rest =>
    have hitems : rubyItems? (lines ++ "\n  ".toList) =
        some ((constant :: rest).flatMap (Enumerator.items prefixes skipped)) :=
      rubyItems?_constants hmade hplain hnames (List.cons_ne_nil _ _)
        (List.all_eq_true.mp rfl)
    have hfilled : ¬ (lines ++ "\n  ".toList).all isRubySpace = true := by
      intro hspaces
      obtain ⟨value, others, -, -, rfl⟩ := List.forall₂_cons_left_iff.mp hmade
      have hcolon : ':' ∈ (renderConstant prefixes skipped value).toList := by simp [renderConstant]
      have hmem : ':' ∈ lines :=
        mem_joinWith_of_mem (List.mem_map_of_mem List.mem_cons_self) hcolon
      exact absurd (List.all_eq_true.mp hspaces ':' (List.mem_append_left _ hmem)) (by decide)
    rw [if_neg hfilled, hitems, Option.bind_some, foreignValues?_items]

theorem PassContext.Makes.enumerators {context : PassContext} {symbols : SymbolTable}
    {previous : Option Mark} {declaration : Declaration} {name : String}
    {values : List (String × Option String)}
    (h : context.Makes symbols previous declaration (.enumeration name values)) :
    List.Forall₂ (fun constant value => constant.constant = .ok value)
      (context.enumerators declaration) values := by
  rcases h with ⟨aliases, h⟩ | h
  · unfold PassContext.enumerators
    cases h with
    | tag body found kind named made => simpa [body, found, kind, named] using made
    | enumeration body found kind unnamed made => simpa [body, found, kind, unnamed] using made
  · cases h

/-- Read as a foreign enum, the list that is rendered for an enum has its constants in order, and
each one has its value in C exactly when each that has no literal comes right after its predecessor.
The names of C have none of the signs in them that stand around the items of a list. -/
theorem visit_enum_values_iff (context : PassContext) {visit : Visit} {name : String}
    {values : List (String × Option String)}
    (hadded : .enumeration name values ∈ context.added visit) (hname : IsListWord name.toList)
    (hnames : ∀ constant ∈ context.enumerators visit.declaration, IsListWord constant.name.toList)
    (hplain : ∀ constant ∈ context.enumerators visit.declaration, constant.IsPlain)
    (prefixes : List String) :
    ∃ members, readForeignEnum? (renderEnumeration prefixes name values) = some members ∧
      members.map Prod.fst = (context.enumerators visit.declaration).map
        (Enumerator.member prefixes (constantPrefixLength
          ((context.enumerators visit.declaration).map Enumerator.name))) ∧
      (members.map Prod.snd = (context.enumerators visit.declaration).map Enumerator.value ↔
        ∀ earlier constant later,
          context.enumerators visit.declaration = earlier ++ constant :: later →
            (∀ text, constant.text ≠ .literal text) →
              constant.value = valueBehind 0 earlier) := by
  obtain ⟨-, hmakes⟩ := PassContext.makes_of_mem_added hadded
  exact ⟨_, readForeignEnum?_render prefixes hmakes.enumerators hplain hname hnames,
    foreignMembers_names _ _, foreignMembers_values_iff _ _⟩

def modeConstants : List Enumerator :=
  [⟨"READ", 0, .none⟩, ⟨"WRITE", 16, .literal "0x10"⟩, ⟨"BOTH", 17, .none⟩,
    ⟨"ALL", 18, .expression⟩]

/-- A header with an enum whose constants have values of all kinds. -/
def modeContext : PassContext where
  source := ⟨.default, [],
    [⟨"./mode.h", "enum mode { READ, WRITE = 0x10, BOTH, ALL = BOTH + 1 };\n"⟩], []⟩
  target := ⟨.x86_64, .linux, true, false, false, none⟩
  tags := [⟨.enumeration, some "mode", none, .enumeration modeConstants .unsigned⟩]
  files := ["mode.h"]
  blacklist := []
  prefixes := []
  oddPrefix := none

def modeVisit : Visit :=
  ⟨.start, "", ⟨0, 5⟩, ⟨⟨0, 0⟩, some ⟨0, 0⟩⟩, ⟨⟨0, 54⟩, some ⟨0, 54⟩⟩, .tag 0 modeConstants⟩

def modeValues : List (String × Option String) :=
  [("READ", none), ("WRITE", some "0x10"), ("BOTH", none), ("ALL", none)]

theorem mode_values :
    Artifact.enumeration "mode" modeValues ∈ modeContext.added modeVisit ∧
      ∃ members, readForeignEnum? (renderEnumeration [] "mode" modeValues) = some members ∧
        members.map Prod.snd = [0, 16, 17, 18] := by
  have hadded : Artifact.enumeration "mode" modeValues ∈ modeContext.added modeVisit :=
    (show modeContext.added modeVisit = [.enumeration "mode" modeValues] by
      with_unfolding_all rfl) ▸ List.mem_singleton_self _
  have hconstants : modeContext.enumerators modeVisit.declaration = modeConstants := rfl
  have hnames : ∀ constant ∈ modeContext.enumerators modeVisit.declaration,
      IsListWord constant.name.toList := by rw [hconstants]; decide
  have hplain : ∀ constant ∈ modeContext.enumerators modeVisit.declaration, constant.IsPlain := by
    have hliteral : IsPlainLiteral "0x10" 16 := ⟨by decide, ⟨16, false, .none⟩, by decide, rfl, rfl⟩
    rw [hconstants]
    simp only [modeConstants, List.forall_mem_cons]
    exact ⟨trivial, ⟨16, hliteral, rfl⟩, trivial, trivial, by simp⟩
  obtain ⟨members, hread, -, hiff⟩ :=
    visit_enum_values_iff modeContext hadded (by decide) hnames hplain []
  refine ⟨hadded, members, hread, hiff.mpr ?_⟩
  rw [hconstants]
  simp [modeConstants, forall_split_cons_iff, valueBehind]

def limitSettings : Settings :=
  { Settings.default with
    moduleName := .string "M"
    library := .string "m"
    headers := [.string "limit.h"] }

def limitUnit : TranslationUnit :=
  limitSettings.unit []
    (.ofFiles [("limit.h", "enum limit { LIMIT_TOP = 0xFFFFFFFFFFFFFFFF, LIMIT_NEXT };\n")])

def limitConstants : List Enumerator :=
  [⟨"LIMIT_TOP", 18446744073709551615, .literal "0xFFFFFFFFFFFFFFFF"⟩, ⟨"LIMIT_NEXT", 0, .none⟩]

def limitValues : List (String × Option String) :=
  [("LIMIT_TOP", some "0xFFFFFFFFFFFFFFFF"), ("LIMIT_NEXT", none)]

/-- The name and the constants of an artifact that is an enum. -/
def Artifact.enumeration? : Artifact → Option (String × List (String × Option String))
  | .enumeration name values => some (name, values)
  | _ => none

theorem Artifact.enumeration?_eq_some {artifact : Artifact} {name : String}
    {values : List (String × Option String)} (h : artifact.enumeration? = some (name, values)) :
    artifact = .enumeration name values := by
  cases artifact <;> cases h
  rfl

set_option maxRecDepth 100000 in
theorem limit_visited :
    ∃ visit ∈ (limitSettings.context limitUnit).visits .start limitUnit.declarations,
      .enumeration "limit" limitValues ∈ (limitSettings.context limitUnit).added visit ∧
        (limitSettings.context limitUnit).enumerators visit.declaration = limitConstants := by
  have hany : (((limitSettings.context limitUnit).visits .start limitUnit.declarations).any
      fun visit => ((limitSettings.context limitUnit).added visit).any
          (·.enumeration? = some ("limit", limitValues)) &&
        (limitSettings.context limitUnit).enumerators visit.declaration = limitConstants) =
          true := by
    decide +kernel
  obtain ⟨visit, hvisit, hfound⟩ := List.any_eq_true.mp hany
  obtain ⟨hartifact, hconstants⟩ := Bool.and_eq_true_iff.mp hfound
  obtain ⟨artifact, hadded, henum⟩ := List.any_eq_true.mp hartifact
  cases Artifact.enumeration?_eq_some (of_decide_eq_true henum)
  exact ⟨visit, hvisit, hadded, of_decide_eq_true hconstants⟩

/-- Behind the largest number C starts again at zero, and a foreign enum goes on, though no value of
the enum is computed. -/
theorem limit_starts_again :
    ¬ ∀ visit ∈ (limitSettings.context limitUnit).visits .start limitUnit.declarations,
      ∀ name values, .enumeration name values ∈ (limitSettings.context limitUnit).added visit →
        ∀ constants, (limitSettings.context limitUnit).enumerators visit.declaration = constants →
          (∀ constant ∈ constants, constant.IsPlain) →
          ∀ members, readForeignEnum? (renderEnumeration [] name values) = some members →
            (members.map Prod.snd = constants.map Enumerator.value ↔
              ∀ earlier constant later, constants = earlier ++ constant :: later →
                constant.text = .expression → constant.value = valueBehind 0 earlier) := by
  intro h
  obtain ⟨visit, hvisit, hadded, hconstants⟩ := limit_visited
  have hplain : ∀ constant ∈ limitConstants, constant.IsPlain := by
    have hliteral : IsPlainLiteral "0xFFFFFFFFFFFFFFFF" 18446744073709551615 :=
      ⟨by decide, ⟨18446744073709551615, false, .none⟩, by decide +kernel, rfl, rfl⟩
    simp only [limitConstants, List.forall_mem_cons]
    exact ⟨⟨_, hliteral, rfl⟩, trivial, by simp⟩
  have hread : readForeignEnum? (renderEnumeration [] "limit" limitValues) =
      some [("top", 18446744073709551615), ("next", 18446744073709551616)] := by decide +kernel
  have hcomputed : ∀ earlier constant later, limitConstants = earlier ++ constant :: later →
      constant.text = .expression → constant.value = valueBehind 0 earlier := by
    simp [limitConstants, forall_split_cons_iff]
  have hequal := (h visit hvisit _ _ hadded _ hconstants hplain _ hread).mpr hcomputed
  exact absurd hequal (by decide)

end HeaderBindings
