import HeaderBindings.Binding.Resolve
import HeaderBindings.C.Layout
import Mathlib.Data.List.Forall2

/-! The layout of a struct of foreign types: its fields follow each other, each at the next multiple
of its alignment. Without packing, alignments of their own and bit fields, the fields of a C struct
are placed in the same way. -/

namespace HeaderBindings

/-! Multiples of an alignment. -/

theorem le_roundUp (value unit : Nat) : value ≤ roundUp value unit := by
  unfold roundUp
  split
  · exact Nat.le_refl value
  · next hunit =>
    have hlt := Nat.lt_div_mul_add (a := value + unit - 1) (Nat.pos_of_ne_zero hunit)
    omega

theorem dvd_roundUp (value : Nat) {unit : Nat} (h : 0 < unit) : unit ∣ roundUp value unit := by
  rw [roundUp, if_neg (Nat.ne_of_gt h)]
  exact Nat.dvd_mul_left unit _

theorem roundUp_of_dvd {value unit : Nat} (h : unit ∣ value) : roundUp value unit = value := by
  unfold roundUp
  split
  · rfl
  · next hunit =>
    obtain ⟨count, rfl⟩ := h
    have hpos := Nat.pos_of_ne_zero hunit
    have hcount : (unit * count + unit - 1) / unit = count := by
      rw [Nat.add_sub_assoc hpos, Nat.mul_add_div hpos, Nat.div_eq_of_lt (by omega), Nat.add_zero]
    rw [hcount, Nat.mul_comm]

theorem roundUp_mul_eight (value unit : Nat) :
    roundUp (8 * value) (8 * unit) = 8 * roundUp value unit := by
  unfold roundUp
  by_cases hunit : unit = 0
  · simp [hunit]
  · have hbytes : (8 * value + 8 * unit - 1) / 8 = value + unit - 1 := by omega
    rw [if_neg (by omega), if_neg hunit, ← Nat.div_div_eq_div_mul, hbytes]
    exact Nat.mul_left_comm _ _ _

/-! Fields behind each other. -/

/-- How far a struct is filled, its alignment, and where its fields are, in bytes. -/
structure Placement where
  bytes : Nat
  alignment : Nat
  offsets : List Nat

def Placement.start : Placement := ⟨0, 1, []⟩

def Placement.add (placement : Placement) (extent : Nat × Nat) : Placement :=
  let start := roundUp placement.bytes extent.2
  ⟨start + extent.1, max placement.alignment extent.2, placement.offsets ++ [start]⟩

def Placement.of (extents : List (Nat × Nat)) : Placement := extents.foldl Placement.add .start

def Placement.extent (placement : Placement) : Nat × Nat :=
  (roundUp placement.bytes placement.alignment, placement.alignment)

theorem Placement.alignment_pos (extents : List (Nat × Nat)) : 0 < (of extents).alignment := by
  have hkeeps : ∀ placement : Placement, 0 < placement.alignment →
      0 < (extents.foldl Placement.add placement).alignment := by
    induction extents with
    | nil => exact fun _ h => h
    | cons extent rest ih =>
      exact fun placement h => ih _ (Nat.lt_of_lt_of_le h (Nat.le_max_left _ _))
  exact hkeeps .start Nat.one_pos

/-- A struct member that is nothing but a field with a type. -/
structure CField.IsPlain (field : CField) : Prop where
  bits : field.bits = none
  implicit : field.implicit = false
  aligned : field.aligned = none
  packed : field.packed = false

/-- The rules for a struct that asks for nothing. -/
def RecordRules.natural : RecordRules := ⟨.struct, false, none, none⟩

/-- A placement in bytes as a record that is filled so far, in bits. -/
def Placement.inBits (placement : Placement) : RecordExtent :=
  ⟨8 * placement.bytes, placement.alignment, placement.offsets.map (8 * ·)⟩

theorem Placement.inBits_add {target : Target} {tags : TagTable} {field : CField}
    {extent : Nat × Nat} (placement : Placement) (hplain : field.IsPlain)
    (hlayout : field.type.layout target tags = some extent) (hpos : 0 < extent.2) :
    placement.inBits.add target tags .natural field = (placement.add extent).inBits := by
  have halignment : field.alignmentIn .natural extent.2 = extent.2 := by
    simp [CField.alignmentIn, RecordRules.natural, atMost, hplain.packed, hplain.aligned]
    omega
  have hkind : ¬ RecordRules.natural.kind = .union := TagKind.noConfusion
  have hle := le_roundUp placement.bytes extent.2
  have hend : max (8 * placement.bytes) (8 * roundUp placement.bytes extent.2 + 8 * extent.1) =
      8 * (roundUp placement.bytes extent.2 + extent.1) := by omega
  simp only [RecordExtent.add, hlayout, hplain.bits, Option.getD_some, halignment, if_neg hkind,
    inBits, add, roundUp_mul_eight, hend, List.map_append, List.map_cons, List.map_nil]

/-- In a struct that asks for nothing, plain fields are where a placement puts them. -/
theorem recordLayout_eq_of_plain {target : Target} {tags : TagTable} {fields : List CField}
    {extents : List (Nat × Nat)}
    (h : List.Forall₂ (fun field extent => field.IsPlain ∧
      field.type.layout target tags = some extent ∧ 0 < extent.2) fields extents) :
    recordLayout target tags .natural fields =
      ⟨(Placement.of extents).extent.1, (Placement.of extents).extent.2,
        (Placement.of extents).offsets.map (8 * ·)⟩ := by
  have hfold : ∀ placement : Placement,
      fields.foldl (RecordExtent.add target tags .natural) placement.inBits =
        (extents.foldl Placement.add placement).inBits := by
    induction h with
    | nil => exact fun _ => rfl
    | cons hfield _ ih =>
      intro placement
      obtain ⟨hplain, hlayout, hpos⟩ := hfield
      rw [List.foldl_cons, List.foldl_cons, placement.inBits_add hplain hlayout hpos, ih]
  have hbytes : ∀ bytes : Nat, (8 * bytes + 7) / 8 = bytes := by omega
  have hall : fields.foldl (RecordExtent.add target tags .natural)
      ⟨0, RecordRules.natural.aligned.getD 1, []⟩ = (Placement.of extents).inBits :=
    hfold .start
  unfold recordLayout
  dsimp only
  rw [hall]
  simp only [Placement.inBits, Placement.extent, hbytes]

/-! Foreign types. -/

/-- The arithmetic type of C that a foreign scalar is called after. -/
def foreignScalar : String → BasicType
  | "bool" => .bool
  | "char" => .char
  | "uchar" => .unsignedChar
  | "short" => .short
  | "ushort" => .unsignedShort
  | "int" => .int
  | "uint" => .unsigned
  | "long" => .long
  | "ulong" => .unsignedLong
  | "long_long" => .longLong
  | "ulong_long" => .unsignedLongLong
  | "float" => .float
  | "double" => .double
  | "long_double" => .longDouble
  | _ => .void

def BasicType.extent (target : Target) (type : BasicType) : Nat × Nat :=
  (type.size target / 8, type.alignment target / 8)

def Target.word (target : Target) : Nat × Nat := (target.wordWidth / 8, target.wordWidth / 8)

mutual

/-- The size and the alignment of a value of a foreign type, in bytes. -/
def ForeignType.extent (target : Target) : ForeignType → Nat × Nat
  | .integer name _ _ => (foreignScalar name).extent target
  | .floating name _ => (foreignScalar name).extent target
  | .void => BasicType.void.extent target
  | .pointer => target.word
  | .string => target.word
  | .array element count =>
    ((element.extent target).1 * count.toNat, (element.extent target).2)
  | .reference artifact => artifact.extent target

/-- An enum is an `int` of four bytes, and a struct without fields has one of a byte. -/
def Artifact.extent (target : Target) : Artifact → Nat × Nat
  | .enumeration _ _ => (4, 4)
  | .struct _ [] => (1, 1)
  | .struct _ (field :: rest) => (Placement.of (fieldExtents target (field :: rest))).extent
  | .callback _ _ => target.word
  | .function _ _ _ _ => target.word

def fieldExtents (target : Target) : List Field → List (Nat × Nat)
  | [] => []
  | ⟨_, type⟩ :: rest => type.extent target :: fieldExtents target rest

end

theorem fieldExtents_eq_map (target : Target) (fields : List Field) :
    fieldExtents target fields = fields.map (·.type.extent target) := by
  induction fields with
  | nil => rfl
  | cons field rest ih =>
    obtain ⟨name, type⟩ := field
    rw [fieldExtents, ih, List.map_cons]

/-- Where the fields of a struct of foreign types are, in bytes. -/
def fieldOffsets (target : Target) (fields : List Field) : List Nat :=
  (Placement.of (fieldExtents target fields)).offsets

theorem Target.wordWidth_cases (target : Target) :
    target.wordWidth = 32 ∨ target.wordWidth = 64 := by
  unfold wordWidth
  cases target.machine <;> simp [Machine.wordWidth]

theorem Target.longWidth_cases (target : Target) :
    target.longWidth = 32 ∨ target.longWidth = 64 := by
  unfold longWidth
  split
  · exact .inl rfl
  · exact target.wordWidth_cases

theorem Target.longDouble_width (target : Target) :
    8 ∣ BasicType.longDouble.width target ∧ 0 < BasicType.longDouble.width target := by
  unfold BasicType.width
  dsimp only
  split
  · decide
  · split <;> decide
  · decide

theorem foreignScalar_alignment (target : Target) (name : String) :
    8 ∣ (foreignScalar name).alignment target ∧ 0 < (foreignScalar name).alignment target := by
  have hlong := target.longWidth_cases
  have hlongDouble := target.longDouble_width
  unfold foreignScalar
  split <;> simp only [BasicType.alignment]
  case h_14 =>
    split
    · decide
    · exact hlongDouble
  all_goals
    simp only [BasicType.width]
    try split
    all_goals omega

theorem foreignScalar_aligned (target : Target) (name : String) :
    0 < ((foreignScalar name).extent target).2 ∧
      ((foreignScalar name).extent target).2 ∣ ((foreignScalar name).extent target).1 := by
  obtain ⟨⟨bytes, hbytes⟩, hpos⟩ := foreignScalar_alignment target name
  have hdvd := dvd_roundUp ((foreignScalar name).width target) hpos
  unfold BasicType.extent BasicType.size
  obtain ⟨count, hcount⟩ := hdvd
  rw [hcount, hbytes, Nat.mul_assoc, Nat.mul_div_cancel_left _ (by decide),
    Nat.mul_div_cancel_left _ (by decide)]
  exact ⟨by omega, Nat.dvd_mul_right bytes count⟩

theorem Target.word_aligned (target : Target) :
    0 < target.word.2 ∧ target.word.2 ∣ target.word.1 := by
  have hword := target.wordWidth_cases
  exact ⟨by unfold word; omega, Nat.dvd_refl _⟩

theorem Artifact.extent_aligned (target : Target) (artifact : Artifact) :
    0 < (artifact.extent target).2 ∧ (artifact.extent target).2 ∣ (artifact.extent target).1 := by
  cases artifact with
  | enumeration name constants => exact ⟨Nat.succ_pos 3, Nat.dvd_refl 4⟩
  | struct name fields =>
    cases fields with
    | nil => exact ⟨Nat.one_pos, Nat.dvd_refl 1⟩
    | cons field rest =>
      have hpos := Placement.alignment_pos (fieldExtents target (field :: rest))
      exact ⟨hpos, dvd_roundUp _ hpos⟩
  | callback name signature => exact target.word_aligned
  | function name signature comment variadic => exact target.word_aligned

/-- Values of foreign types fill whole multiples of their alignment. -/
theorem ForeignType.extent_aligned (target : Target) : (type : ForeignType) →
    0 < (type.extent target).2 ∧ (type.extent target).2 ∣ (type.extent target).1
  | .integer name _ _ => foreignScalar_aligned target name
  | .floating name _ => foreignScalar_aligned target name
  | .void => foreignScalar_aligned target ""
  | .pointer => target.word_aligned
  | .string => target.word_aligned
  | .array element _ =>
    ⟨(element.extent_aligned target).1,
      Nat.dvd_mul_right_of_dvd (element.extent_aligned target).2 _⟩
  | .reference artifact => artifact.extent_aligned target

theorem BasicType.extent_of_resolve {target : Target} {type : BasicType} {resolved : Resolved}
    (h : type.resolve target = .ok resolved) :
    resolved.type.extent target = type.extent target := by
  cases type with
  | char =>
    simp only [BasicType.resolve] at h
    split at h <;> (cases h; rfl)
  | _ => cases h <;> rfl

end HeaderBindings
