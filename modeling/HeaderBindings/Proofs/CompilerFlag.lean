import HeaderBindings.CommandLine.CompilerArguments
import Mathlib.Data.List.Infix

/-! Flags that are passed on to the compiler. Arguments are split from left to right, and all that is
kept from one to the next is whether a group is open. So the split of a row of arguments is put together
from those of its parts, and a flag may carry its own mark or stand in a group. -/

namespace HeaderBindings

/-! The pieces of an argument. -/

section

variable {first : Char} {others lead rest piece separator text : List Char}

/-- A separator whose first character does not come again in it begins nowhere in front of the place
where it is met. -/
theorem not_separator_prefix {c : Char} (hfirst : first ∉ others)
    (h : ¬ first :: others <+: c :: lead) :
    ¬ first :: others <+: c :: (lead ++ (first :: (others ++ rest))) := by
  intro hprefix
  have hlead : c :: lead <+: c :: (lead ++ (first :: (others ++ rest))) :=
    List.prefix_append (c :: lead) _
  rcases List.prefix_or_prefix_of_prefix hprefix hlead with hinside | ⟨part, hpart⟩
  · exact h hinside
  · have hrest : part <+: first :: (others ++ rest) :=
      (List.prefix_append_right_inj (c :: lead)).mp (hpart ▸ hprefix)
    cases part with
    | nil => exact h (by rw [← hpart, List.append_nil])
    | cons d part =>
      have hd : d = first := (List.cons_prefix_cons.mp hrest).1
      have hothers : lead ++ d :: part = others := (List.cons.inj hpart).2
      exact hfirst (by simp [← hothers, hd])

theorem splitAtText_append (hfirst : first ∉ others) (hlead : ¬ first :: others <:+: lead) :
    splitAtText (first :: others) piece (lead ++ (first :: (others ++ rest))) =
      (piece.reverse ++ lead) :: splitAtText (first :: others) [] rest := by
  induction lead generalizing piece with
  | nil =>
    rw [List.nil_append, splitAtText, if_pos (by simp)]
    simp
  | cons c lead ih =>
    rw [List.infix_cons_iff, not_or] at hlead
    have hskip : ¬ first :: others <+: c :: (lead ++ (first :: (others ++ rest))) :=
      not_separator_prefix hfirst hlead.1
    rw [List.cons_append, splitAtText, if_neg (by simpa using hskip), ih hlead.2]
    simp

theorem splitAtText_of_not_infix (h : ¬ separator <:+: text) :
    splitAtText separator piece text = [piece.reverse ++ text] := by
  induction text generalizing piece with
  | nil => simp [splitAtText]
  | cons c text ih =>
    rw [List.infix_cons_iff, not_or] at h
    rw [splitAtText, if_neg (by simp [h.1]), ih h.2]
    simp

end

/-- Whether an argument has the mark of the compiler in it. -/
def IsMarked (argument : String) : Prop := compilerMark.toList <:+: argument.toList

instance (argument : String) : Decidable (IsMarked argument) :=
  inferInstanceAs (Decidable (compilerMark.toList <:+: argument.toList))

section

variable {argument flag : String}

theorem compilerPieces_of_not_isMarked (h : ¬ IsMarked argument) : compilerPieces argument = [] := by
  rw [compilerPieces, splitAtText_of_not_infix h]
  rfl

theorem compilerPieces_mark_append (h : ¬ IsMarked flag) :
    compilerPieces (compilerMark ++ flag) = [flag] := by
  have hmark : compilerMark.toList = '-' :: "Wc,".toList := rfl
  have hempty : ¬ compilerMark.toList <:+: [] := by simp [hmark]
  rw [IsMarked, hmark] at h
  rw [hmark] at hempty
  have hsplit : splitAtText ('-' :: "Wc,".toList) [] ('-' :: ("Wc,".toList ++ flag.toList)) =
      [] :: splitAtText ('-' :: "Wc,".toList) [] flag.toList :=
    splitAtText_append (by decide) hempty
  rw [compilerPieces, String.toList_append, hmark, List.cons_append, hsplit,
    splitAtText_of_not_infix h]
  simp

end

/-! One argument after the other. -/

namespace SplitArguments

instance : Append SplitArguments :=
  ⟨fun first second => ⟨first.own ++ second.own, first.compiler ++ second.compiler⟩⟩

variable {first second third : SplitArguments}

@[ext] theorem ext (hown : first.own = second.own) (hcompiler : first.compiler = second.compiler) :
    first = second := by
  obtain ⟨own, compiler⟩ := first
  obtain rfl : own = second.own := hown
  obtain rfl : compiler = second.compiler := hcompiler
  rfl

@[simp] theorem own_append : (first ++ second).own = first.own ++ second.own := rfl

@[simp] theorem compiler_append : (first ++ second).compiler = first.compiler ++ second.compiler := rfl

theorem append_assoc : first ++ second ++ third = first ++ (second ++ third) := by
  ext1 <;> simp

theorem append_cancel_left (h : first ++ second = first ++ third) : second = third := by
  ext1
  · exact List.append_cancel_left (congrArg SplitArguments.own h)
  · exact List.append_cancel_left (congrArg SplitArguments.compiler h)

end SplitArguments

def opensFlags (argument : String) : Bool := compilerPieces argument = [groupStart]

def closesFlags (argument : String) : Bool := compilerPieces argument = [groupEnd]

/-- Whether a group is open behind some arguments; `grouped` says whether one is open in front. -/
def groupedBehind (grouped : Bool) : List String → Bool
  | [] => grouped
  | argument :: rest =>
    groupedBehind (opensFlags argument || (grouped && !closesFlags argument)) rest

section

variable {grouped : Bool} {argument flag : String} {arguments before rest flags : List String}

theorem splitArguments_cons :
    splitArguments grouped (argument :: rest) =
      splitArguments grouped [argument] ++
        splitArguments (groupedBehind grouped [argument]) rest := by
  have hmarks : groupEnd ≠ groupStart := by decide
  simp only [groupedBehind, opensFlags, closesFlags, splitArguments]
  rcases compilerPieces argument with - | ⟨piece, - | ⟨next, pieces⟩⟩
  · cases grouped <;> rfl
  · by_cases hstart : piece = groupStart
    · subst hstart
      ext1 <;> simp
    · by_cases hend : piece = groupEnd
      · subst hend
        ext1 <;> simp [hmarks]
      · ext1 <;> simp [hstart, hend, SplitArguments.addCompiler]
  · ext1 <;> simp [SplitArguments.addCompiler]

/-- The split of a row is that of its first part and, as that part leaves the group, that of the rest. -/
theorem splitArguments_append :
    splitArguments grouped (before ++ rest) =
      splitArguments grouped before ++ splitArguments (groupedBehind grouped before) rest := by
  induction before generalizing grouped with
  | nil => ext1 <;> rfl
  | cons argument before ih =>
    have hfirst : splitArguments grouped (argument :: before) =
        splitArguments grouped [argument] ++
          splitArguments (groupedBehind grouped [argument]) before := splitArguments_cons
    rw [List.cons_append, splitArguments_cons, ih, hfirst, SplitArguments.append_assoc]
    rfl

/-- Whether a group is open behind some arguments: one of them opens it, and none behind that one
closes it. -/
def LeavesOpen (arguments : List String) : Prop :=
  ∃ before mark after, arguments = before ++ mark :: after ∧ opensFlags mark = true ∧
    ∀ argument ∈ after, closesFlags argument = false

theorem leavesOpen_cons_iff :
    LeavesOpen (argument :: rest) ↔
      LeavesOpen rest ∨ opensFlags argument = true ∧ ∀ other ∈ rest, closesFlags other = false := by
  constructor
  · rintro ⟨before, mark, after, hsplit, hopens, hafter⟩
    cases before with
    | nil =>
      obtain ⟨rfl, rfl⟩ := List.cons.inj hsplit
      exact .inr ⟨hopens, hafter⟩
    | cons first before => exact .inl ⟨before, mark, after, (List.cons.inj hsplit).2, hopens, hafter⟩
  · rintro (⟨before, mark, after, rfl, hopens, hafter⟩ | ⟨hopens, hrest⟩)
    · exact ⟨argument :: before, mark, after, rfl, hopens, hafter⟩
    · exact ⟨[], argument, rest, rfl, hopens, hrest⟩

theorem groupedBehind_eq_true_iff :
    groupedBehind grouped arguments = true ↔
      LeavesOpen arguments ∨ grouped = true ∧ ∀ other ∈ arguments, closesFlags other = false := by
  induction arguments generalizing grouped with
  | nil => simp [groupedBehind, LeavesOpen]
  | cons argument rest ih =>
    simp only [groupedBehind, ih, leavesOpen_cons_iff, Bool.or_eq_true, Bool.and_eq_true,
      Bool.not_eq_true', List.forall_mem_cons]
    tauto

theorem groupedBehind_eq_false_iff : groupedBehind false before = false ↔ ¬ LeavesOpen before := by
  rw [← Bool.not_eq_true, groupedBehind_eq_true_iff]
  simp

/-- Splitting goes through a place between two arguments exactly if no group is open there. -/
theorem splitArguments_append_iff :
    (∀ rest, splitArguments false (before ++ rest) =
        splitArguments false before ++ splitArguments false rest) ↔ ¬ LeavesOpen before := by
  rw [← groupedBehind_eq_false_iff]
  constructor
  · intro h
    have hword := h ["word"]
    rw [splitArguments_append] at hword
    have hbehind := SplitArguments.append_cancel_left hword
    cases hgrouped : groupedBehind false before with
    | false => rfl
    | true =>
      rw [hgrouped] at hbehind
      exact absurd hbehind (by decide +kernel)
  · intro h rest
    rw [splitArguments_append, h]

/-! Flags with a mark each, and flags in a group. -/

theorem groupedBehind_append :
    groupedBehind grouped (before ++ rest) = groupedBehind (groupedBehind grouped before) rest := by
  induction before generalizing grouped with
  | nil => rfl
  | cons argument before ih => exact ih

/-- A flag that is neither marked nor, behind a mark, the beginning or the end of a group. -/
structure IsPlainFlag (flag : String) : Prop where
  unmarked : ¬ IsMarked flag
  ne_start : flag ≠ groupStart
  ne_end : flag ≠ groupEnd

instance (flag : String) : Decidable (IsPlainFlag flag) :=
  decidable_of_iff (¬ IsMarked flag ∧ flag ≠ groupStart ∧ flag ≠ groupEnd)
    ⟨fun ⟨unmarked, ne_start, ne_end⟩ => ⟨unmarked, ne_start, ne_end⟩,
      fun ⟨unmarked, ne_start, ne_end⟩ => ⟨unmarked, ne_start, ne_end⟩⟩

/-- Whether all that an argument does is to pass a flag on. -/
def PassesOn (grouped : Bool) (argument flag : String) : Prop :=
  splitArguments grouped [argument] = ⟨[], [flag]⟩ ∧ groupedBehind grouped [argument] = grouped

theorem passesOn_mark (h : IsPlainFlag flag) : PassesOn grouped (compilerMark ++ flag) flag := by
  have hpieces := compilerPieces_mark_append h.unmarked
  constructor
  · simp [splitArguments, hpieces, h.ne_start, h.ne_end, SplitArguments.addCompiler]
  · simp [groupedBehind, opensFlags, closesFlags, hpieces, h.ne_start, h.ne_end]

theorem passesOn_inside (h : IsPlainFlag flag) : PassesOn true flag flag := by
  have hpieces := compilerPieces_of_not_isMarked h.unmarked
  constructor
  · simp [splitArguments, hpieces, SplitArguments.addCompiler]
  · simp [groupedBehind, opensFlags, closesFlags, hpieces]

theorem splitArguments_of_passesOn {form : String → String}
    (h : ∀ flag ∈ flags, PassesOn grouped (form flag) flag) :
    splitArguments grouped (flags.map form) = ⟨[], flags⟩ ∧
      groupedBehind grouped (flags.map form) = grouped := by
  induction flags with
  | nil => exact ⟨rfl, rfl⟩
  | cons flag flags ih =>
    obtain ⟨⟨hsplit, hbehind⟩, hrest⟩ := List.forall_mem_cons.mp h
    obtain ⟨hflags, hend⟩ := ih hrest
    constructor
    · rw [List.map_cons, splitArguments_cons, hsplit, hbehind, hflags]
      rfl
    · rw [List.map_cons, ← List.singleton_append, groupedBehind_append, hbehind, hend]

theorem splitArguments_group (h : ∀ flag ∈ flags, IsPlainFlag flag) :
    let group := [compilerMark ++ groupStart] ++ flags ++ [compilerMark ++ groupEnd]
    splitArguments false group = ⟨[], flags⟩ ∧ groupedBehind false group = false := by
  have hstart : compilerPieces (compilerMark ++ groupStart) = [groupStart] :=
    compilerPieces_mark_append (by decide +kernel)
  have hend : compilerPieces (compilerMark ++ groupEnd) = [groupEnd] :=
    compilerPieces_mark_append (by decide +kernel)
  have hmarks : groupEnd ≠ groupStart := by decide
  have hopen : splitArguments false [compilerMark ++ groupStart] = ⟨[], []⟩ ∧
      groupedBehind false [compilerMark ++ groupStart] = true := by
    simp [splitArguments, groupedBehind, opensFlags, hstart]
  have hclose : splitArguments true [compilerMark ++ groupEnd] = ⟨[], []⟩ ∧
      groupedBehind true [compilerMark ++ groupEnd] = false := by
    simp [splitArguments, groupedBehind, opensFlags, closesFlags, hend, hmarks]
  have hflags : splitArguments true flags = ⟨[], flags⟩ ∧ groupedBehind true flags = true := by
    have hinside : ∀ flag ∈ flags, PassesOn true (id flag) flag := fun flag hflag =>
      passesOn_inside (h flag hflag)
    simpa using splitArguments_of_passesOn hinside
  dsimp only
  simp only [splitArguments_append, groupedBehind_append, hopen, hflags, hclose]
  exact ⟨by ext1 <;> simp, trivial⟩

end

/-- Behind arguments that leave no group open, flags reach the compiler in the same way with a mark each
and in a group, whatever comes next; and splitting goes through the place between. -/
theorem splitArguments_flags {before flags : List String} (hclosed : ¬ LeavesOpen before)
    (hflags : ∀ flag ∈ flags, IsPlainFlag flag) (after : List String) :
    let marked := before ++ flags.map (compilerMark ++ ·) ++ after
    let group := [compilerMark ++ groupStart] ++ flags ++ [compilerMark ++ groupEnd]
    splitArguments false marked = splitArguments false (before ++ group ++ after) ∧
      splitArguments false marked =
        splitArguments false before ++ ⟨[], flags⟩ ++ splitArguments false after ∧
      ∀ rest, splitArguments false (before ++ rest) =
        splitArguments false before ++ splitArguments false rest := by
  have hbehind := groupedBehind_eq_false_iff.mpr hclosed
  have hpasses : ∀ flag ∈ flags, PassesOn false (compilerMark ++ flag) flag := fun flag hflag =>
    passesOn_mark (hflags flag hflag)
  have hmarks := splitArguments_of_passesOn hpasses
  have hgroup := splitArguments_group hflags
  dsimp only at hgroup ⊢
  have hmarked : splitArguments false (before ++ flags.map (compilerMark ++ ·) ++ after) =
      splitArguments false before ++ ⟨[], flags⟩ ++ splitArguments false after := by
    rw [splitArguments_append, splitArguments_append, groupedBehind_append, hbehind, hmarks.1,
      hmarks.2]
  refine ⟨?_, hmarked, splitArguments_append_iff.mpr hclosed⟩
  rw [hmarked, splitArguments_append, splitArguments_append, groupedBehind_append, hbehind, hgroup.1,
    hgroup.2]

/-- A group is closed in front, and one is left open behind. -/
theorem splitArguments_width_flags :
    let before := ["-m", "M", "-Wc,--startgroup", "-g", "-Wc,--endgroup"]
    let flags := ["-DWIDTH=8", "", "-I/usr/include"]
    let after := ["a.h", "-Wc,--startgroup", "-w"]
    let group := [compilerMark ++ groupStart] ++ flags ++ [compilerMark ++ groupEnd]
    ¬ LeavesOpen before ∧ (∀ flag ∈ flags, IsPlainFlag flag) ∧
      splitArguments false (before ++ flags.map (compilerMark ++ ·) ++ after) =
        splitArguments false (before ++ group ++ after) ∧
      splitArguments false (before ++ group ++ after) =
        ⟨["-m", "M", "a.h"], ["-g", "-DWIDTH=8", "", "-I/usr/include", "-w"]⟩ := by
  intro before flags after group
  have hclosed : ¬ LeavesOpen before := groupedBehind_eq_false_iff.mp (by decide +kernel)
  have hflags : ∀ flag ∈ flags, IsPlainFlag flag := by decide +kernel
  obtain ⟨hsame, hsplit, -⟩ := splitArguments_flags hclosed hflags after
  refine ⟨hclosed, hflags, hsame, ?_⟩
  rw [← hsame, hsplit]
  decide +kernel

end HeaderBindings
