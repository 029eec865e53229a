import Mathlib.Data.List.AList

/-! # Dictionaries of lists

A key that a dictionary does not have stands for the empty list. Values are added to the
list of a key, or dropped from all lists, where a list that becomes empty goes with its
key.
-/

namespace QuadControl.Lib

/-- Lists by their keys. -/
abbrev Multimap (Key Value : Type) := AList fun _ : Key => List Value

namespace Multimap

variable {Key Value : Type} [DecidableEq Key]

/-- The list of a key, which defaults to the empty one. -/
def get (map : Multimap Key Value) (key : Key) : List Value := (map.lookup key).getD []

def add (map : Multimap Key Value) (key : Key) (value : Value) : Multimap Key Value :=
  map.insert key (map.get key ++ [value])

/-- What is left of an entry, unless that is nothing. -/
def keepEntry (keep : Value → Bool) (entry : Sigma fun _ : Key => List Value) :
    Option (Sigma fun _ : Key => List Value) :=
  if entry.2.filter keep = [] then none else some ⟨entry.1, entry.2.filter keep⟩

omit [DecidableEq Key] in
theorem filterMap_keep_cons (keep : Value → Bool) (entry : Sigma fun _ : Key => List Value)
    (entries : List (Sigma fun _ : Key => List Value)) :
    (entry :: entries).filterMap (keepEntry keep) =
      if entry.2.filter keep = [] then entries.filterMap (keepEntry keep)
      else ⟨entry.1, entry.2.filter keep⟩ :: entries.filterMap (keepEntry keep) := by
  by_cases none : entry.2.filter keep = []
  · rw [if_pos none]
    exact List.filterMap_cons_none (if_pos none)
  · rw [if_neg none]
    exact List.filterMap_cons_some (if_neg none)

omit [DecidableEq Key] in
theorem keys_keep (keep : Value → Bool) (entries : List (Sigma fun _ : Key => List Value)) :
    (entries.filterMap (keepEntry keep)).keys.Sublist entries.keys := by
  induction entries with
  | nil => exact List.Sublist.refl _
  | cons entry entries ih =>
      rw [filterMap_keep_cons]
      split
      · exact ih.cons entry.1
      · exact ih.cons_cons entry.1

/-- Only the values that are to be kept, and no key without any. -/
def filter (map : Multimap Key Value) (keep : Value → Bool) : Multimap Key Value :=
  ⟨map.entries.filterMap (keepEntry keep), (keys_keep keep map.entries).nodup map.keys_nodup⟩

/-- The values of all keys. -/
def values (map : Multimap Key Value) : List Value := map.entries.flatMap Sigma.snd

variable (map : Multimap Key Value)

@[simp] theorem get_empty (key : Key) : (∅ : Multimap Key Value).get key = [] := rfl

omit [DecidableEq Key] in
@[simp] theorem values_empty : (∅ : Multimap Key Value).values = [] := rfl

@[simp] theorem get_add_self (key : Key) (value : Value) :
    (map.add key value).get key = map.get key ++ [value] := by
  rw [get, add, AList.lookup_insert]
  rfl

theorem get_add_of_ne {key other : Key} (ne : other ≠ key) (value : Value) :
    (map.add key value).get other = map.get other := by
  rw [get, add, AList.lookup_insert_ne ne]
  rfl

theorem dlookup_keep (keep : Value → Bool) (key : Key)
    {entries : List (Sigma fun _ : Key => List Value)} (nodup : entries.NodupKeys) :
    ((entries.filterMap (keepEntry keep)).dlookup key).getD [] =
      ((entries.dlookup key).getD []).filter keep := by
  induction entries with
  | nil => rfl
  | cons entry entries ih =>
      obtain ⟨key', list⟩ := entry
      obtain ⟨fresh, nodup⟩ := List.nodupKeys_cons.mp nodup
      have later := ih nodup
      rw [filterMap_keep_cons]
      by_cases same : key = key'
      · subst same
        have missing : (entries.filterMap (keepEntry keep)).dlookup key = none := by
          apply List.dlookup_eq_none.mpr
          intro inside
          exact fresh ((keys_keep keep entries).subset inside)
        rw [List.dlookup_cons_eq, Option.getD_some]
        split
        · rename_i none
          rw [missing, none]
          rfl
        · rw [List.dlookup_cons_eq, Option.getD_some]
      · rw [List.dlookup_cons_ne _ _ same]
        split
        · exact later
        · rw [List.dlookup_cons_ne _ _ same]
          exact later

@[simp] theorem get_filter (keep : Value → Bool) (key : Key) :
    (map.filter keep).get key = (map.get key).filter keep :=
  dlookup_keep keep key map.nodupKeys

omit [DecidableEq Key] in
@[simp] theorem values_filter (keep : Value → Bool) :
    (map.filter keep).values = map.values.filter keep := by
  obtain ⟨entries, nodup⟩ := map
  simp only [filter, values]
  clear nodup
  induction entries with
  | nil => rfl
  | cons entry entries ih =>
      rw [filterMap_keep_cons, List.flatMap_cons, List.filter_append, ← ih]
      split
      · rename_i none
        rw [none, List.nil_append]
      · rw [List.flatMap_cons]

theorem values_kerase {key : Key} {entries : List (Sigma fun _ : Key => List Value)} :
    (((entries.dlookup key).getD []) ++ (entries.kerase key).flatMap Sigma.snd).Perm
      (entries.flatMap Sigma.snd) := by
  by_cases inside : key ∈ entries.keys
  · obtain ⟨list, before, behind, fresh, rfl, rest⟩ := List.exists_of_kerase inside
    have found : (before ++ ⟨key, list⟩ :: behind).dlookup key = some list := by
      rw [List.dlookup_append, List.dlookup_eq_none.mpr fresh, List.dlookup_cons_eq]
      rfl
    rw [rest, found, Option.getD_some, List.flatMap_append, List.flatMap_append, List.flatMap_cons]
    exact List.perm_append_comm_assoc _ _ _
  · rw [List.dlookup_eq_none.mpr inside, List.kerase_of_notMem_keys inside]
    exact List.Perm.refl _

/-- A value that is added is one more. -/
theorem values_add (key : Key) (value : Value) :
    (map.add key value).values.Perm (value :: map.values) := by
  rw [values, add, AList.entries_insert, List.flatMap_cons, List.append_assoc]
  apply List.perm_middle.trans
  exact values_kerase.cons value

end Multimap

end QuadControl.Lib
