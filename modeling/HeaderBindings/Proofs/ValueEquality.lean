import HeaderBindings.Yaml.Value

/-! Whether two values are the same can be decided. -/

namespace HeaderBindings

mutual

def Yaml.same : Yaml → Yaml → Bool
  | .null, .null => true
  | .boolean a, .boolean b => a = b
  | .integer a, .integer b => a = b
  | .float a, .float b => a = b
  | .string a, .string b => a = b
  | .date a, .date b => a = b
  | .moment a, .moment b => a = b
  | .bytes a, .bytes b => a = b
  | .list items, .list others => areSame items others
  | .mapping entries, .mapping others => areSameEntries entries others
  | .set members, .set others => areSame members others
  | .pair a b, .pair c d => a.same c && b.same d
  | .shared a value, .shared b other => a = b && value.same other
  | .again a p, .again b q => a = b && p = q
  | _, _ => false

def areSame : List Yaml → List Yaml → Bool
  | [], [] => true
  | value :: values, other :: others => value.same other && areSame values others
  | _, _ => false

def areSameEntries : List (Yaml × Yaml) → List (Yaml × Yaml) → Bool
  | [], [] => true
  | (key, value) :: entries, (other, its) :: others =>
    key.same other && value.same its && areSameEntries entries others
  | _, _ => false

end

mutual

theorem Yaml.eq_of_same {value other : Yaml} (h : value.same other = true) : value = other := by
  unfold Yaml.same at h
  -- left are the values that have others inside, in the order of their constructors
  split at h <;> simp_all
  · exact eq_of_areSame h
  · exact eq_of_areSameEntries h
  · exact eq_of_areSame h
  · exact ⟨Yaml.eq_of_same h.1, Yaml.eq_of_same h.2⟩
  · exact Yaml.eq_of_same h.2

theorem eq_of_areSame {values others : List Yaml} (h : areSame values others = true) :
    values = others := by
  unfold areSame at h
  split at h <;> simp_all
  exact ⟨Yaml.eq_of_same h.1, eq_of_areSame h.2⟩

theorem eq_of_areSameEntries {entries others : List (Yaml × Yaml)}
    (h : areSameEntries entries others = true) : entries = others := by
  unfold areSameEntries at h
  split at h <;> simp_all
  exact ⟨⟨Yaml.eq_of_same h.1.1, Yaml.eq_of_same h.1.2⟩, eq_of_areSameEntries h.2⟩

end

mutual

theorem Yaml.same_self (value : Yaml) : value.same value = true := by
  cases value with
  | list items => exact areSame_self items
  | mapping entries => exact areSameEntries_self entries
  | set members => exact areSame_self members
  | pair first second => simp [Yaml.same, Yaml.same_self first, Yaml.same_self second]
  | shared id value => simp [Yaml.same, Yaml.same_self value]
  | _ => simp [Yaml.same]

theorem areSame_self (values : List Yaml) : areSame values values = true := by
  cases values with
  | nil => rfl
  | cons value values => simp [areSame, Yaml.same_self value, areSame_self values]

theorem areSameEntries_self (entries : List (Yaml × Yaml)) : areSameEntries entries entries = true := by
  cases entries with
  | nil => rfl
  | cons entry entries =>
    obtain ⟨key, value⟩ := entry
    simp [areSameEntries, Yaml.same_self key, Yaml.same_self value, areSameEntries_self entries]

end

instance : DecidableEq Yaml := fun value other =>
  decidable_of_iff (value.same other = true)
    ⟨Yaml.eq_of_same, fun h => h ▸ Yaml.same_self value⟩

end HeaderBindings
