import HeaderBindings.Text.Letter
import HeaderBindings.Yaml.Fault
import HeaderBindings.Yaml.Plain

/-!
What the text of a scalar means under a tag.
-/

namespace HeaderBindings

/-! Dates. -/

def monthLength (year month : Nat) : Nat :=
  if month = 2 then
    if year % 4 = 0 ∧ (year % 100 ≠ 0 ∨ year % 400 = 0) then 29 else 28
  else if month = 4 ∨ month = 6 ∨ month = 9 ∨ month = 11 then 30 else 31

/-- The first part of a date that is out of its bounds. -/
def Date.fault? (date : Date) : Option MomentFault :=
  if date.year = 0 then some (.year date.year)
  else if date.month = 0 ∨ 12 < date.month then some .month
  else if date.day = 0 ∨ monthLength date.year date.month < date.day then some .day
  else none

/-- The first part of a moment that is out of its bounds; the zone is looked at first. -/
def Moment.fault? (moment : Moment) : Option MomentFault :=
  let zone := moment.zone.bind fun minutes =>
    if 24 * 60 ≤ minutes.natAbs then some (MomentFault.zone minutes) else none
  zone.or (moment.date.fault?.or
    (if 24 ≤ moment.hour then some .hour
    else if 60 ≤ moment.minute then some .minute
    else if 60 ≤ moment.second then some .second
    else none))

def timestampMeaning (text : String) : Except YamlFault Yaml :=
  match readTimestamp (withoutFinalBreak text.toList) with
  | some (.date date) =>
    match date.fault? with
    | some fault => .error (.moment fault)
    | none => .ok (.date date)
  | some (.moment moment) =>
    match moment.fault? with
    | some fault => .error (.moment fault)
    | none => .ok (.moment moment)
  | none => .error .notTimestamp

/-! Words. -/

def booleanMeaning (text : String) : Except YamlFault Yaml :=
  let lower := String.ofList (lowercase text.toList)
  if trueWords.contains lower then .ok (.boolean true)
  else if falseWords.contains lower then .ok (.boolean false)
  else .error (.notBoolean lower)

/-! Numbers. -/

def integralMeaning (base : Nat) (text : List Char) : Except YamlFault Int :=
  match readIntegral base text with
  | .ok value => .ok value
  | .error .malformed => .error (.notInteger base (String.ofList text))
  | .error (.tooLong digits) => .error (.tooManyDigits digits)

/-- An integer without its sign: in base 2, 16 or 8 by its first digits, or in groups of sixty. -/
def unsignedMeaning (text : List Char) : Except YamlFault Int :=
  match text with
  | [] => .error .emptyNumber
  | ['0'] => .ok 0
  | '0' :: 'b' :: digits => integralMeaning 2 digits
  | '0' :: 'x' :: digits => integralMeaning 16 digits
  | '0' :: digits => integralMeaning 8 ('0' :: digits)
  | digits => do
    let groups ← (splitAtChar ':' digits).mapM (integralMeaning 10)
    return groups.foldl (fun n group => 60 * n + group) 0

/-- Applies a reading to a number without its sign and its lines. -/
def signedMeaning {α : Type} (text : List Char) (negate : α → α)
    (read : List Char → Except YamlFault α) : Except YamlFault α := do
  let text := text.filter (· ≠ '_')
  if text.isEmpty then throw .emptyNumber
  let magnitude ← read (dropSign text)
  return if isNegative text then negate magnitude else magnitude

def integerMeaning (text : String) : Except YamlFault Yaml :=
  (signedMeaning text.toList (- ·) unsignedMeaning).map .integer

def realMeaning (text : List Char) : Except YamlFault Binary64 :=
  match readReal text with
  | some value => .ok value
  | none => .error (.notReal (String.ofList text))

/-- Groups of sixty, the last one first, each counting sixty times the one before. The weights are
exact until they are rounded; there is no number for the largest ones. -/
def addSixties (total : Binary64) (weight : Nat) : List Binary64 → Except YamlFault Binary64
  | [] => .ok total
  | group :: groups =>
    match Binary64.ofRatio false weight 1 with
    | .infinity _ => .error .tooManyGroups
    | factor => addSixties (total.add (group.multiply factor)) (weight * 60) groups

def unsignedRealMeaning (text : List Char) : Except YamlFault Binary64 :=
  if text = ".inf".toList then .ok (.infinity false)
  else if text = ".nan".toList then .ok .nan
  else match splitAtChar ':' text with
    | [single] => realMeaning single
    | groups => do
      let groups ← groups.mapM realMeaning
      addSixties .zero 1 groups.reverse

def floatMeaning (text : String) : Except YamlFault Yaml :=
  (signedMeaning (lowercase text.toList) Binary64.negate unsignedRealMeaning).map .float

/-! Bytes. -/

def base64Value? (c : Char) : Option Nat :=
  if 'A' ≤ c ∧ c ≤ 'Z' then some (c.toNat - 'A'.toNat)
  else if 'a' ≤ c ∧ c ≤ 'z' then some (c.toNat - 'a'.toNat + 26)
  else if c.isDigit then some (c.toNat - '0'.toNat + 52)
  else if c = '+' then some 62
  else if c = '/' then some 63
  else none

/-- Bytes from characters of base 64. `held` has the digits of a group so far, the last one first,
and `fillers` counts the equals signs behind them. Other characters are passed over, a full group
and one that is filled up give bytes, and nothing counts behind the latter. -/
def base64Bytes (held : List Nat) (fillers : Nat) : List Char → Option (List Nat)
  | [] => if held.isEmpty then some [] else none
  | c :: rest =>
    if c = '=' then
      match held with
      | [d, b, a] => some [4 * a + b / 16, b % 16 * 16 + d / 4]
      | [b, a] =>
        if 1 ≤ fillers then some [4 * a + b / 16] else base64Bytes held (fillers + 1) rest
      | _ => base64Bytes held fillers rest
    else match base64Value? c, held with
      | none, _ => base64Bytes held fillers rest
      | some e, [d, b, a] =>
        (base64Bytes [] 0 rest).map fun bytes =>
          (4 * a + b / 16) :: (b % 16 * 16 + d / 4) :: (d % 4 * 64 + e) :: bytes
      | some e, held => base64Bytes (e :: held) 0 rest

def binaryMeaning (text : String) : Except YamlFault Yaml :=
  if text.toList.any fun c => 128 ≤ c.toNat then .error .malformed
  else match base64Bytes [] 0 text.toList with
    | some values => .ok (.bytes values)
    | none => .error .malformed

end HeaderBindings
