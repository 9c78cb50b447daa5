import HeaderBindings.C.Literal
import HeaderBindings.C.Macro

/-!
The pragma that limits the alignment of members. Limits can be saved and taken back, by a label or
in reverse order. A pragma that is not well formed changes nothing.
-/

namespace HeaderBindings

/-- The present limit in bytes, and the saved ones with their labels. -/
structure Packing where
  limit : Option Nat
  saved : List (Option String × Option Nat)
  /-- The limit where no pragma speaks. -/
  start : Option Nat
  deriving Repr

def Packing.ofStart (start : Option Nat) : Packing := ⟨start, [], start⟩

/-- What a pragma does to the saved limits. -/
inductive PackingMove where
  | save (label : Option String)
  | restore (label : Option String)
  | stay

/-- A limit as it is written; nought means none. -/
def packingLimit? (token : Token) : Option (Option Nat) :=
  match (if token.kind = .number then readInteger? token.text else none) with
  | some literal =>
    if literal.value = 0 then some none
    else if [1, 2, 4, 8, 16].contains literal.value then some (some literal.value)
    else none
  | none => none

def Packing.move (packing : Packing) : PackingMove → Packing
  | .stay => packing
  | .save label => { packing with saved := (label, packing.limit) :: packing.saved }
  | .restore none =>
    match packing.saved with
    | (_, limit) :: rest => { packing with limit, saved := rest }
    | [] => packing
  | .restore (some label) =>
    match packing.saved.dropWhile fun entry => entry.1 ≠ some label with
    | (_, limit) :: rest => { packing with limit, saved := rest }
    | [] => packing

/-- Carries out the pragma whose words are given, without the parentheses around them. -/
def Packing.apply (packing : Packing) (tokens : List Token) : Packing :=
  let moving? (word : Token) (label : Option String) : Option PackingMove :=
    match word.text with
    | "push" => some (.save label)
    | "pop" => some (.restore label)
    | _ => none
  let labelled? (token : Token) : Option String :=
    if token.isName then some token.text else none
  match tokens with
  | [] => { packing with limit := packing.start }
  | [one] =>
    match packingLimit? one, moving? one none with
    | some limit, _ => { packing with limit }
    | none, some move => packing.move move
    | none, none => packing
  | [word, _, second] =>
    match packingLimit? second, labelled? second with
    | some limit, _ =>
      match moving? word none with
      | some move => { packing.move move with limit }
      | none => packing
    | none, some label => (moving? word (some label)).elim packing packing.move
    | none, none => packing
  | [word, _, label, _, last] =>
    match packingLimit? last, (labelled? label).bind fun label => moving? word (some label) with
    | some limit, some move => { packing.move move with limit }
    | _, _ => packing
  | _ => packing

/-- Carries out the pragma that names a kind of alignment, given its words behind the name: a kind
saves the limit and sets its own, and the word for none takes a saved one back. -/
def Packing.align (packing : Packing) (tokens : List Token) : Packing :=
  match tokens.map Token.text with
  | ["=", "packed"] => { packing.move (.save none) with limit := some 1 }
  | ["=", "natural"] | ["=", "native"] | ["=", "power"] =>
    { packing.move (.save none) with limit := none }
  | ["=", "reset"] =>
    if packing.saved.isEmpty then { packing with limit := packing.start }
    else packing.move (.restore none)
  | _ => packing

end HeaderBindings
