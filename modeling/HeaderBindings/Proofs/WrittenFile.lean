import HeaderBindings.File.Error
import HeaderBindings.Proofs.TextLine
import Mathlib.Data.List.Induction
import Mathlib.Data.List.TakeWhile

/-! Files that have been written. A path leads to the text that was written to it, and what is in
any other place stays. -/

namespace HeaderBindings

variable {tree written : FileTree} {place reached : FilePlace} {text : String}

theorem pathParts_of_not_mem {name : List Char} (h : '/' ∉ name) : pathParts name = [name] := by
  rw [pathParts, splitAtChar_eq_splitOn, List.splitOn_eq_singleton h]

theorem pathParts_slash (lead rest : List Char) :
    pathParts (lead ++ '/' :: rest) = pathParts lead ++ pathParts rest := by
  simp only [pathParts, splitAtChar_eq_splitOn, List.splitOn_append_cons_self]

namespace FileTree

theorem at_eq_directory_iff {found : FilePlace} :
    tree.at place = .directory found ↔ found = place ∧
      (place = [] ∨ place = rootPlace ∨ place ∈ tree.directories ∨ place ∈ systemPlaces) := by
  unfold FileTree.at
  split
  · next hknown => simp [hknown, eq_comm]
  · next hunknown =>
    refine iff_of_false ?_ fun h => hunknown h.2
    split
    · simp
    · split <;> simp

theorem at_eq_file {found : FilePlace} {old : String} (h : tree.at place = .file found old) :
    found = place := by
  unfold FileTree.at at h
  split at h
  · cases h
  · split at h
    · cases h
      rfl
    · split at h <;> cases h
      rfl

theorem directories_set (tree : FileTree) (place : FilePlace) (text : String) :
    (tree.set place text).directories = tree.directories := by
  unfold FileTree.set
  split <;> rfl

theorem lookup_filter_of_ne {other : FilePlace} (h : other ≠ place)
    (texts : List (FilePlace × String)) :
    (texts.filter (·.1 ≠ place)).lookup other = texts.lookup other := by
  induction texts with
  | nil => rfl
  | cons entry rest ih =>
    obtain ⟨own, found⟩ := entry
    by_cases hown : own = place
    · rw [List.filter_cons_of_neg (by simpa using hown), ih, List.lookup_cons, hown,
        beq_eq_false_iff_ne.mpr h]
    · rw [List.filter_cons_of_pos (by simpa using hown), List.lookup_cons, List.lookup_cons, ih]

/-- A text that is put in one place is seen in no other. -/
theorem at_set_of_ne {other : FilePlace} (h : other ≠ place) :
    (tree.set place text).at other = tree.at other := by
  have hlookup : (tree.set place text).texts.lookup other = tree.texts.lookup other := by
    unfold FileTree.set
    split
    · rfl
    · rw [List.lookup_cons, beq_eq_false_iff_ne.mpr h]
      exact lookup_filter_of_ne h tree.texts
  unfold FileTree.at
  rw [directories_set, hlookup]

theorem at_set (hdevice : deviceAt? place = none) (h : ∀ found, tree.at place ≠ .directory found) :
    (tree.set place text).at place = .file place text := by
  have hunknown := fun hknown => h place (at_eq_directory_iff.mpr ⟨rfl, hknown⟩)
  unfold FileTree.at
  rw [directories_set, if_neg hunknown]
  simp [FileTree.set, hdevice]

/-- A device is found in its place, unless there is a directory. -/
theorem at_eq_of_device {device : Device} (hdevice : deviceAt? place = some device)
    (h : ∀ found, tree.at place ≠ .directory found) : tree.at place = .file place "" := by
  have hunknown := fun hknown => h place (at_eq_directory_iff.mpr ⟨rfl, hknown⟩)
  unfold FileTree.at
  rw [if_neg hunknown, hdevice, Option.isSome_some, if_pos rfl]

/-! Paths. -/

theorem step_eq_directory {start : FileLookup} {part : PathPart}
    (h : tree.step start part = .directory reached) : ∃ place, start = .directory place := by
  cases start with
  | directory place => exact ⟨place, rfl⟩
  | _ => cases h

theorem step_set_of_directory {start : FileLookup} {part : PathPart}
    (h : tree.step start part = .directory reached) :
    (tree.set place text).step start part = .directory reached := by
  obtain ⟨before, rfl⟩ := step_eq_directory h
  unfold FileTree.step at h ⊢
  dsimp only at h ⊢
  split_ifs at h ⊢
  · exact h
  · exact h
  · exact h
  · rw [at_eq_directory_iff] at h ⊢
    rwa [directories_set]

theorem follow_set_of_directory {path : List Char} (h : tree.follow path = .directory reached) :
    (tree.set place text).follow path = .directory reached := by
  unfold FileTree.follow at h ⊢
  generalize pathParts path = parts at h ⊢
  -- from the last part back, as a step leads to a directory only from one
  induction parts using List.reverseRecOn generalizing reached with
  | nil => exact h
  | append_singleton parts last ih =>
    rw [List.foldl_append, List.foldl_cons, List.foldl_nil] at h ⊢
    obtain ⟨before, hbefore⟩ := step_eq_directory h
    rw [hbefore] at h
    rw [ih hbefore]
    exact step_set_of_directory h

theorem step_empty (tree : FileTree) (place : FilePlace) :
    tree.step (.directory place) [] = .directory place := by
  simp [FileTree.step]

/-- A path is its last part behind a path that ends with a slash, or behind none. -/
theorem follow_append {parent name : List Char}
    (hparent : parent = [] ∨ ∃ lead, parent = lead ++ ['/']) (hname : '/' ∉ name)
    (h : tree.follow parent = .directory reached) :
    tree.follow (parent ++ name) = tree.step (.directory reached) name := by
  unfold FileTree.follow at h ⊢
  rcases hparent with rfl | ⟨lead, rfl⟩
  · rw [pathParts_of_not_mem (by simp), List.foldl_cons, List.foldl_nil, step_empty] at h
    have hstart : startPlace name = [] := if_neg fun hhead => hname (List.mem_of_mem_head? hhead)
    rw [List.nil_append, pathParts_of_not_mem hname, hstart, List.foldl_cons, List.foldl_nil]
    cases h
    rfl
  · have hstart : startPlace (lead ++ '/' :: name) = startPlace (lead ++ ['/']) := by
      cases lead <;> rfl
    rw [pathParts_slash, pathParts_of_not_mem List.not_mem_nil, List.foldl_append, List.foldl_cons,
      List.foldl_nil] at h
    obtain ⟨before, hbefore⟩ := step_eq_directory h
    rw [hbefore, step_empty] at h
    rw [List.append_assoc, List.singleton_append, pathParts_slash, pathParts_of_not_mem hname,
      List.foldl_append, hstart, hbefore, h, List.foldl_cons, List.foldl_nil]

theorem split_last_slash {path parent : List Char}
    (hparent : parent = (path.reverse.dropWhile (· ≠ '/')).reverse) :
    (parent = [] ∨ ∃ lead, parent = lead ++ ['/']) ∧ '/' ∉ path.drop parent.length ∧
      parent ++ path.drop parent.length = path := by
  have hsplit : parent ++ (path.reverse.takeWhile (· ≠ '/')).reverse = path := by
    rw [hparent, ← List.reverse_append, List.takeWhile_append_dropWhile, List.reverse_reverse]
  have hname : path.drop parent.length = (path.reverse.takeWhile (· ≠ '/')).reverse := by
    conv_lhs => rw [← hsplit, List.drop_left]
  refine ⟨?_, ?_, by rw [hname, hsplit]⟩
  · rw [hparent]
    cases hrest : path.reverse.dropWhile (· ≠ '/') with
    | nil => exact .inl rfl
    | cons c rest =>
      have hslash := List.head?_dropWhile_not (· ≠ '/') path.reverse
      rw [hrest] at hslash
      have hc : c = '/' := by simpa using hslash
      exact .inr ⟨rest.reverse, by rw [hc, List.reverse_cons]⟩
  · rw [hname, List.mem_reverse]
    intro hmem
    simpa using List.mem_takeWhile_imp hmem

/-- A name that leads to a file, or could lead to one, is a part of the place. -/
theorem step_eq_at {name : PathPart}
    (hdirectory : ∀ found, tree.step (.directory reached) name ≠ .directory found)
    (hlong : tree.step (.directory reached) name ≠ .longName) (other : FileTree) :
    other.step (.directory reached) name = other.at (reached ++ [name]) := by
  unfold FileTree.step at *
  dsimp only at *
  split_ifs at * with hsame hup hlength
  · exact absurd rfl (hdirectory _)
  · exact absurd rfl (hdirectory _)
  · exact absurd rfl (hdirectory _)
  · exact absurd rfl hlong
  · rfl

theorem step_eq_file {name : PathPart} {found : FilePlace} {old : String}
    (h : tree.step (.directory reached) name = .file found old) : found = reached ++ [name] := by
  have hother : ∀ other, tree.step (.directory reached) name ≠ .directory other := by simp [h]
  have hlong : tree.step (.directory reached) name ≠ .longName := by simp [h]
  exact at_eq_file ((step_eq_at hother hlong tree).symm.trans h)

/-- A path that ends with a name in a directory that is there. -/
def EndsWith (tree : FileTree) (path : String) (reached : FilePlace) (name : PathPart) : Prop :=
  path ≠ "" ∧ ∃ parent, parent ++ name = path.toList ∧
    (parent = [] ∨ ∃ lead, parent = lead ++ ['/']) ∧ '/' ∉ name ∧
    tree.follow parent = .directory reached

theorem EndsWith.find {path : String} {name : PathPart} (h : tree.EndsWith path reached name) :
    tree.find path = tree.step (.directory reached) name := by
  obtain ⟨hnonempty, parent, hsplit, hparent, hname, hreached⟩ := h
  rw [FileTree.find, if_neg hnonempty, ← hsplit, follow_append hparent hname hreached]

theorem EndsWith.set {path : String} {name : PathPart} (h : tree.EndsWith path reached name) :
    (tree.set place text).EndsWith path reached name := by
  obtain ⟨hnonempty, parent, hsplit, hparent, hname, hreached⟩ := h
  exact ⟨hnonempty, parent, hsplit, hparent, hname, follow_set_of_directory hreached⟩

/-- A text goes to a file that is there, or to one that is made in a directory that is there. -/
theorem write_eq_ok {path : String} (h : tree.write path text = .ok written) :
    ∃ reached name, tree.EndsWith path reached name ∧
      written = tree.set (reached ++ [name]) text ∧
      (∀ found, tree.step (.directory reached) name ≠ .directory found) ∧
      tree.step (.directory reached) name ≠ .longName := by
  unfold FileTree.write at h
  dsimp only at h
  split at h
  · cases h
  · next reached hreached hdirectory =>
    split at h
    · cases h
    · next hnonempty =>
      split at h
      · cases h
      · next hlength =>
        rw [not_not, List.length_reverse, ← @List.length_reverse _ path.toList] at hlength
        have hnamed : (path.toList.reverse.dropWhile (· = '/')).reverse = path.toList := by
          rw [(List.dropWhile_suffix _).eq_of_length hlength, List.reverse_reverse]
        rw [hnamed] at h hreached
        obtain ⟨hparent, hname, hsplit⟩ := @split_last_slash path.toList _ rfl
        have hends : tree.EndsWith path reached _ :=
          ⟨hnonempty, _, hsplit, hparent, hname, hreached⟩
        refine ⟨_, _, hends, ?_⟩
        rw [hends.find] at h hdirectory
        cases hstep : tree.step (.directory reached) _ with
        | directory found =>
          rw [hstep] at hdirectory
          exact absurd rfl hdirectory
        | file found old =>
          rw [hstep] at h
          cases h
          exact ⟨by rw [step_eq_file hstep], by simp, by simp⟩
        | missing =>
          rw [hstep] at h
          simp only [FileLookup.file?] at h
          split at h
          · cases h
            exact ⟨rfl, by simp, by simp⟩
          · cases h
        | throughFile | longName =>
          rw [hstep] at h
          cases h
  all_goals cases h

/-- One file has been written: the path leads to it, it is no device and holds the text, and there
is nothing new in any other place. -/
def IsWritten (tree : FileTree) (path text : String) (written : FileTree) : Prop :=
  ∃ place, deviceAt? place = none ∧ written.find path = .file place text ∧
    ∀ other, other ≠ place → written.at other = tree.at other

theorem isWritten_of_write {path : String} (hregular : tree.device? path = none)
    (h : tree.write path text = .ok written) : tree.IsWritten path text written := by
  obtain ⟨reached, name, hends, rfl, hother, hlong⟩ := write_eq_ok h
  have hat := step_eq_at hother hlong
  have hfile : ∀ found, tree.at (reached ++ [name]) ≠ .directory found := by rwa [hat] at hother
  have hdevice : deviceAt? (reached ++ [name]) = none := by
    cases hfound : deviceAt? (reached ++ [name]) with
    | none => rfl
    | some device =>
      -- the path would lead to the device
      rw [device?, hends.find, hat, at_eq_of_device hfound hfile] at hregular
      exact hfound.symm.trans hregular
  refine ⟨reached ++ [name], hdevice, ?_, fun _ hne => at_set_of_ne hne⟩
  rw [hends.set.find, hat, at_set hdevice hfile]

end FileTree

end HeaderBindings
