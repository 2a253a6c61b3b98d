import LuaAssist.Text.Keyed

/-!
# What is looked up after a change

Entries are looked up by their keys. A change of the entry of one key is told by what is then
looked up under that key, and every other key keeps what it had.
-/

namespace LuaAssist

section Entries

variable {κ α : Type} [BEq κ] [LawfulBEq κ] [DecidableEq κ]

/-- The first entry answers for its key. -/
theorem lookup_cons_eq_ite (other key : κ) (value : α) (entries : List (κ × α)) :
    ((key, value) :: entries).lookup other =
      if other = key then some value else entries.lookup other := by
  rw [List.lookup_cons]
  by_cases hother : other = key
  · rw [if_pos hother, hother, beq_self_eq_true]
  · rw [if_neg hother, beq_false_of_ne hother]

/-- What is looked up after the entries of one key were taken away. -/
theorem lookup_filter_ne (entries : List (κ × α)) (removed other : κ) :
    (entries.filter fun (key, _) => key ≠ removed).lookup other =
      if other = removed then none else entries.lookup other := by
  induction entries with
  | nil => exact (ite_self none).symm
  | cons entry rest ih =>
    obtain ⟨key, value⟩ := entry
    by_cases hkey : key = removed
    · rw [List.filter_cons_of_neg (by simpa using hkey), ih, lookup_cons_eq_ite, hkey]
      exact ite_congr rfl (fun _ => rfl) fun hother => (if_neg hother).symm
    · rw [List.filter_cons_of_pos (by simpa using hkey), lookup_cons_eq_ite, lookup_cons_eq_ite, ih]
      by_cases hother : other = key
      · rw [if_pos hother, if_pos hother, if_neg fun heq => hkey (hother.symm.trans heq)]
      · rw [if_neg hother, if_neg hother]

end Entries

namespace Keyed

variable {α : Type}

/-- A changed value is found under its name, and under every other name what was there. -/
theorem lookup_alterEntries (change : Option α → α) (name other : Text)
    (entries : List (Text × α)) :
    (alterEntries change name entries).lookup other =
      if other = name then some (change (entries.lookup name)) else entries.lookup other := by
  induction entries with
  | nil => exact lookup_cons_eq_ite other name _ []
  | cons entry rest ih =>
    obtain ⟨key, value⟩ := entry
    rw [alterEntries, lookup_cons_eq_ite other, lookup_cons_eq_ite name]
    by_cases hkey : key = name
    · rw [if_pos hkey, if_pos hkey.symm, lookup_cons_eq_ite, hkey]
      exact ite_congr rfl (fun _ => rfl) fun hother => (if_neg hother).symm
    · rw [if_neg hkey, if_neg (Ne.symm hkey), lookup_cons_eq_ite, ih]
      by_cases hother : other = name
      · rw [if_pos hother, if_pos hother, if_neg fun heq => hkey (heq.symm.trans hother)]
      · rw [if_neg hother, if_neg hother]

/-- The last value that was put under a name is found there. -/
theorem get?_set (map : Keyed α) (name other : Text) (value : α) :
    (map.set name value).get? other = if other = name then some value else map.get? other :=
  lookup_alterEntries _ name other map.entries

/-- An appended value comes behind those that were under its name. -/
theorem get?_push (map : Keyed (List α)) (name other : Text) (value : α) :
    (map.push name value).get? other =
      if other = name then some ((map.get? name).getD [] ++ [value]) else map.get? other :=
  lookup_alterEntries _ name other map.entries

end Keyed

end LuaAssist
