import AssignLang.Store

namespace AssignLang

abbrev Bindings (α : Type) := List (String × α)

namespace Bindings

variable {α β : Type}

def assign (name : String) (value : α) : Bindings α → Bindings α
  | [] => [(name, value)]
  | (other, old) :: rest =>
    if other = name then (other, value) :: rest else (other, old) :: assign name value rest

theorem lookup_cons (name other : String) (value : α) (rest : Bindings α) :
    List.lookup name ((other, value) :: rest) =
      if name = other then some value else List.lookup name rest := by
  by_cases h : name = other
  · subst h
    rw [List.lookup_cons_self, if_pos rfl]
  · rw [List.lookup_cons, beq_eq_false_iff_ne.2 h, if_neg h]

theorem lookup_assign (name other : String) (value : α) (bindings : Bindings α) :
    (assign name value bindings).lookup other =
      if other = name then some value else bindings.lookup other := by
  induction bindings with
  | nil => simp [assign, lookup_cons]
  | cons binding rest ih =>
      obtain ⟨first, old⟩ := binding
      by_cases h : first = name
      · subst h
        by_cases h' : other = first <;> simp [assign, lookup_cons, h']
      · simp only [assign, h, if_false, lookup_cons, ih]
        by_cases h' : other = first
        · subst h'
          simp [h]
        · simp [h']

theorem map_assign (f : α → β) (name : String) (value : α) (bindings : Bindings α) :
    (assign name value bindings).map (fun binding => (binding.1, f binding.2)) =
      assign name (f value) (bindings.map fun binding => (binding.1, f binding.2)) := by
  induction bindings with
  | nil => rfl
  | cons binding rest ih =>
      by_cases h : binding.1 = name <;> simp [assign, h, ih]

theorem lookup_map (f : α → β) (name : String) (bindings : Bindings α) :
    (bindings.map fun binding => (binding.1, f binding.2)).lookup name =
      (bindings.lookup name).map f := by
  induction bindings with
  | nil => rfl
  | cons binding rest ih =>
      obtain ⟨first, value⟩ := binding
      by_cases h : name = first <;> simp [lookup_cons, h, ih]

def BindsOnlyAt (bindings : Bindings α) (name : String) (position : Nat) : Prop :=
  ∀ other value, bindings[other]? = some (name, value) → other = position

theorem BindsOnlyAt.tail {binding : String × α} {rest : Bindings α} {name : String}
    {position : Nat} (h : BindsOnlyAt (binding :: rest) name (position + 1)) :
    binding.1 ≠ name ∧ BindsOnlyAt rest name position := by
  refine ⟨?_, fun other value found => ?_⟩
  · rintro rfl
    exact absurd (h 0 binding.2 rfl) (Nat.succ_ne_zero position).symm
  · exact Nat.succ.inj (h (other + 1) value found)

theorem lookup_eq_of_bindsOnlyAt {bindings : Bindings α} {name : String} {value : α}
    {position : Nat} (found : bindings[position]? = some (name, value))
    (only : BindsOnlyAt bindings name position) : bindings.lookup name = some value := by
  induction bindings generalizing position with
  | nil => simp at found
  | cons binding rest ih =>
      obtain ⟨first, old⟩ := binding
      cases position with
      | zero =>
          simp only [List.getElem?_cons_zero, Option.some.injEq, Prod.mk.injEq] at found
          simp [found]
      | succ position =>
          obtain ⟨different, only⟩ := only.tail
          rw [lookup_cons, if_neg (Ne.symm different)]
          exact ih found only

theorem assign_eq_modify {bindings : Bindings α} {name : String} {old : α} {position : Nat}
    (found : bindings[position]? = some (name, old))
    (only : BindsOnlyAt bindings name position) (value : α) :
    assign name value bindings = bindings.modify position fun binding => (binding.1, value) := by
  induction bindings generalizing position with
  | nil => simp at found
  | cons binding rest ih =>
      obtain ⟨first, first'⟩ := binding
      cases position with
      | zero =>
          simp only [List.getElem?_cons_zero, Option.some.injEq, Prod.mk.injEq] at found
          simp [assign, found]
      | succ position =>
          obtain ⟨different, only⟩ := only.tail
          rw [assign, if_neg different, ih found only, List.modify_succ_cons]

theorem lookup_eq_none {bindings : Bindings α} {name : String}
    (h : ∀ (position : Nat) value, bindings[position]? ≠ some (name, value)) :
    bindings.lookup name = none := by
  rw [List.lookup_eq_none_iff]
  rintro ⟨other, value⟩ member
  obtain ⟨position, found⟩ := List.mem_iff_getElem?.1 member
  rw [bne_iff_ne]
  rintro rfl
  exact h position value found

theorem assign_eq_append {bindings : Bindings α} {name : String} (value : α)
    (h : ∀ (position : Nat) value, bindings[position]? ≠ some (name, value)) :
    assign name value bindings = bindings ++ [(name, value)] := by
  induction bindings with
  | nil => rfl
  | cons binding rest ih =>
      obtain ⟨first, old⟩ := binding
      have different : first ≠ name := by
        rintro rfl
        exact h 0 old rfl
      rw [assign, if_neg different, ih fun position value => h (position + 1) value,
        List.cons_append]

end Bindings

namespace Store

structure Valid (store : Store) : Prop where
  bound : ∀ (name : String) (position : Nat), store.positions[name]? = some position →
    ∃ value, store.bindings[position]? = some (name, value)
  indexed : ∀ (position : Nat) name value, store.bindings[position]? = some (name, value) →
    store.positions[name]? = some position

theorem valid_empty : empty.Valid where
  bound := by simp [empty]
  indexed := by simp [empty]

variable {store : Store}

theorem Valid.bindsOnlyAt (valid : store.Valid) {name : String} {position : Nat}
    (h : store.positions[name]? = some position) :
    Bindings.BindsOnlyAt store.toList name position := by
  intro other value found
  rw [toList, Array.getElem?_toList] at found
  exact Option.some.inj ((valid.indexed other name value found).symm.trans h)

theorem Valid.unbound (valid : store.Valid) {name : String} (h : store.positions[name]? = none)
    (position : Nat) (value : Value) : store.toList[position]? ≠ some (name, value) := by
  intro found
  rw [toList, Array.getElem?_toList] at found
  rw [valid.indexed position name value found] at h
  cases h

theorem get?_eq_lookup (valid : store.Valid) (name : String) :
    store.get? name = store.toList.lookup name := by
  cases h : store.positions[name]? with
  | none => rw [Bindings.lookup_eq_none (valid.unbound h), get?, h, Option.bind_none]
  | some position =>
      obtain ⟨value, found⟩ := valid.bound name position h
      have listed : store.toList[position]? = some (name, value) := by
        rw [toList, Array.getElem?_toList, found]
      rw [Bindings.lookup_eq_of_bindsOnlyAt listed (valid.bindsOnlyAt h)]
      simp [get?, h, found]

theorem toList_set (valid : store.Valid) (name : String) (value : Value) :
    (store.set name value).toList = Bindings.assign name value store.toList := by
  cases h : store.positions[name]? with
  | none => rw [toList_set_new h, Bindings.assign_eq_append value (valid.unbound h)]
  | some position =>
      obtain ⟨old, found⟩ := valid.bound name position h
      have listed : store.toList[position]? = some (name, old) := by
        rw [toList, Array.getElem?_toList, found]
      rw [Bindings.assign_eq_modify listed (valid.bindsOnlyAt h)]
      simp [set, h, toList]

theorem valid_set (valid : store.Valid) (name : String) (value : Value) :
    (store.set name value).Valid := by
  cases h : store.positions[name]? with
  | none =>
      simp only [set, h]
      constructor
      · intro other position found
        simp only [Std.TreeMap.getElem?_insert, Std.LawfulEqCmp.compare_eq_iff_eq] at found
        split at found
        · rename_i same
          cases found
          exact ⟨value, by simp [same]⟩
        · obtain ⟨old, bound⟩ := valid.bound other position found
          have less : position < store.bindings.size := (Array.getElem?_eq_some_iff.1 bound).1
          exact ⟨old, by rw [Array.getElem?_push_lt less, ← bound, Array.getElem?_eq_getElem less]⟩
      · intro position other found' found
        simp only [Std.TreeMap.getElem?_insert, Std.LawfulEqCmp.compare_eq_iff_eq]
        rw [Array.getElem?_push] at found
        split at found
        · rename_i last
          cases found
          simp [last]
        · have old := valid.indexed position other found' found
          rw [if_neg, old]
          rintro rfl
          simp [h] at old
  | some position =>
      simp only [set, h]
      constructor
      · intro other position' found
        obtain ⟨old, bound⟩ := valid.bound other position' found
        rw [Array.getElem?_modify]
        split
        · exact ⟨value, by simp [bound]⟩
        · exact ⟨old, bound⟩
      · intro position' other found' found
        rw [Array.getElem?_modify] at found
        split at found
        · obtain ⟨old, bound, same⟩ := Option.map_eq_some_iff.1 found
          cases same
          exact valid.indexed position' old.1 old.2 bound
        · exact valid.indexed position' other found' found

end Store

end AssignLang
