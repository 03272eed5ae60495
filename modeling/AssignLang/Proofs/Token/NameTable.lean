import AssignLang.Token.NameTable

namespace AssignLang.NameTable

def Valid (table : NameTable) : Prop :=
  ∀ (name : String) (slot : Nat), table.slots[name]? = some slot → table.names[slot]? = some name

theorem valid_empty : empty.Valid := by
  intro name slot h
  simp [empty] at h

theorem intern_name {table : NameTable} (valid : table.Valid) (name : String) :
    (table.intern name).1.name = name := by
  cases h : table.slots[name]? with
  | none => simp [intern, h]
  | some slot => simp [intern, h, Array.getD_eq_getD_getElem?, valid name slot h]

theorem valid_intern {table : NameTable} (valid : table.Valid) (name : String) :
    (table.intern name).2.Valid := by
  cases h : table.slots[name]? with
  | some slot => simpa [intern, h] using valid
  | none =>
      intro other slot hslot
      simp only [intern, h, Std.TreeMap.getElem?_insert, Std.LawfulEqCmp.compare_eq_iff_eq] at hslot ⊢
      split at hslot
      · rename_i same
        cases hslot
        simp [same]
      · have bound := valid other slot hslot
        have less : slot < table.names.size := (Array.getElem?_eq_some_iff.1 bound).1
        rw [Array.getElem?_push_lt less, ← bound, Array.getElem?_eq_getElem less]

end AssignLang.NameTable
