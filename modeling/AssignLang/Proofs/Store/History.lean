import AssignLang.Proofs.Store
import Mathlib.Data.List.Induction
import Mathlib.Data.List.Nodup

namespace AssignLang

theorem eraseDups_concat {α : Type} [DecidableEq α] (list : List α) (x : α) :
    (list ++ [x]).eraseDups = if x ∈ list then list.eraseDups else list.eraseDups ++ [x] := by
  rw [List.eraseDups_append]
  by_cases old : x ∈ list
  · have none : [x].removeAll list = [] := by simp [List.removeAll, old]
    rw [none, if_pos old, List.eraseDups_nil, List.append_nil]
  · have kept : [x].removeAll list = [x] := by simp [List.removeAll, old]
    rw [kept, if_neg old]
    rfl

theorem nodup_eraseDups {α : Type} [DecidableEq α] (list : List α) : list.eraseDups.Nodup := by
  induction list using List.reverseRecOn with
  | nil => exact .nil
  | append_singleton list x ih =>
      rw [eraseDups_concat]
      split
      · exact ih
      · rename_i new
        rw [← List.mem_eraseDups] at new
        simpa using List.Nodup.concat new ih

namespace Bindings

variable {α : Type}

def firstNames (history : Bindings α) : List String := (history.map (·.1)).eraseDups

def last? (history : Bindings α) (name : String) : Option α := history.reverse.lookup name

theorem firstNames_concat (history : Bindings α) (name : String) (value : α) :
    firstNames (history ++ [(name, value)]) =
      if name ∈ firstNames history then firstNames history else firstNames history ++ [name] := by
  simp only [firstNames, List.map_append, List.map_cons, List.map_nil, eraseDups_concat,
    List.mem_eraseDups]

theorem nodup_firstNames (history : Bindings α) : history.firstNames.Nodup := nodup_eraseDups _

theorem last?_concat (history : Bindings α) (name other : String) (value : α) :
    last? (history ++ [(name, value)]) other =
      if other = name then some value else last? history other := by
  rw [last?, List.reverse_concat, lookup_cons]
  rfl

theorem map_fst_assign (name : String) (value : α) (bindings : Bindings α) :
    (assign name value bindings).map (·.1) =
      if name ∈ bindings.map (·.1) then bindings.map (·.1) else bindings.map (·.1) ++ [name] := by
  induction bindings with
  | nil => simp [assign]
  | cons binding rest ih =>
      obtain ⟨first, old⟩ := binding
      by_cases same : first = name
      · simp [assign, same]
      · rw [assign, if_neg same, List.map_cons, ih]
        by_cases member : name ∈ rest.map (·.1)
        · simp_all
        · simp_all [Ne.symm same]

theorem assign_of_notMem {name : String} {bindings : Bindings α} (value : α)
    (new : name ∉ bindings.map (·.1)) :
    assign name value bindings = bindings ++ [(name, value)] := by
  refine assign_eq_append value fun position old found => new ?_
  exact List.mem_map.2 ⟨(name, old), List.mem_of_getElem? found, rfl⟩

end Bindings

namespace Store

variable {store : Store}

theorem setAll_concat (store : Store) (history : Bindings Value) (name : String) (value : Value) :
    store.setAll (history ++ [(name, value)]) = (store.setAll history).set name value := by
  simp [setAll]

theorem valid_setAll (valid : store.Valid) (history : Bindings Value) :
    (store.setAll history).Valid := by
  induction history using List.reverseRecOn with
  | nil => exact valid
  | append_singleton history assignment ih =>
      rw [setAll_concat]
      exact valid_set ih _ _

theorem map_fst_setAll (history : Bindings Value) :
    (empty.setAll history).toList.map (·.1) = history.firstNames := by
  induction history using List.reverseRecOn with
  | nil => rfl
  | append_singleton history assignment ih =>
      rw [setAll_concat, toList_set (valid_setAll valid_empty history), Bindings.map_fst_assign, ih,
        Bindings.firstNames_concat]

theorem lookup_setAll (history : Bindings Value) (name : String) :
    (empty.setAll history).toList.lookup name = history.last? name := by
  induction history using List.reverseRecOn with
  | nil => rfl
  | append_singleton history assignment ih =>
      rw [setAll_concat, toList_set (valid_setAll valid_empty history), Bindings.lookup_assign, ih,
        Bindings.last?_concat]

theorem mem_toList_iff (valid : store.Valid) {name : String} {value : Value} :
    (name, value) ∈ store.toList ↔ store.get? name = some value := by
  constructor
  · intro member
    obtain ⟨position, found⟩ := List.mem_iff_getElem?.1 member
    rw [toList, Array.getElem?_toList] at found
    simp [get?, valid.indexed position name value found, found]
  · intro found
    obtain ⟨position, indexed, read⟩ := Option.bind_eq_some_iff.1 found
    obtain ⟨other, bound⟩ := valid.bound name position indexed
    rw [bound, Option.map_some, Option.some.injEq] at read
    subst read
    exact List.mem_iff_getElem?.2 ⟨position, by rw [toList, Array.getElem?_toList, bound]⟩

theorem Valid.index_iff (valid : store.Valid) {name : String} {position : Nat} :
    store.positions[name]? = some position ↔
      ∃ value, store.bindings[position]? = some (name, value) :=
  ⟨valid.bound name position, fun ⟨value, found⟩ => valid.indexed position name value found⟩

theorem beq_iff_toList_eq {other : Store} (valid : store.Valid) (valid' : other.Valid) :
    (store == other) = true ↔ store.toList = other.toList := by
  have halves : (store == other) = true ↔
      (store.positions == other.positions) = true ∧ store.bindings = other.bindings := by
    rw [← beq_iff_eq (a := store.bindings), ← Bool.and_eq_true]
    rfl
  rw [halves, toList, toList, Array.toList_inj]
  refine ⟨And.right, fun same => ⟨?_, same⟩⟩
  -- the index of a valid store is told by its array
  have agree (name : String) : store.positions[name]? = other.positions[name]? := by
    apply Option.ext
    intro position
    rw [valid.index_iff, valid'.index_iff, same]
  exact (Std.TreeMap.Equiv.of_forall_constGet?_eq agree).beq

end Store

/-- After any assignments to the empty store its bindings are the assigned names, each once, in the
order in which they were first assigned and with the value that they were last assigned; this value
is the one that is found. Every position of the index is that of a binding of the name, and two such
stores are equal exactly if their bindings are. -/
theorem Store.reflects_history (history : Bindings Value) :
    let store := empty.setAll history
    (store.toList.map (·.1) = history.firstNames ∧ history.firstNames.Nodup ∧
      ∀ name value, (name, value) ∈ store.toList ↔ history.last? name = some value) ∧
    (∀ name, store.get? name = history.last? name) ∧
    store.size = history.firstNames.length ∧
    (∀ name position, store.positions[name]? = some position →
      ∃ inside : position < store.bindings.size, store.bindings[position].1 = name) ∧
    ∀ other : Bindings Value, (store == empty.setAll other) = true ↔
      store.toList = (empty.setAll other).toList := by
  intro store
  have valid (history : Bindings Value) : (empty.setAll history).Valid :=
    valid_setAll valid_empty history
  have read (name : String) : store.get? name = history.last? name := by
    rw [get?_eq_lookup (valid history), lookup_setAll]
  have names : store.toList.map (·.1) = history.firstNames := map_fst_setAll history
  refine ⟨⟨names, history.nodup_firstNames, fun name value => ?_⟩, read, ?_, ?_, ?_⟩
  · rw [mem_toList_iff (valid history), read]
  · rw [← names, List.length_map]
    rfl
  · intro name position indexed
    obtain ⟨value, bound⟩ := (valid history).bound name position indexed
    obtain ⟨inside, found⟩ := Array.getElem?_eq_some_iff.1 bound
    exact ⟨inside, by rw [found]⟩
  · exact fun other => beq_iff_toList_eq (valid history) (valid other)

theorem Store.reflects_history_reassigned :
    let history : Bindings Value :=
      [("b", ⟨1, by decide⟩), ("a", ⟨2, by decide⟩), ("b", ⟨3, by decide⟩)]
    let store := empty.setAll history
    store.positions["b"]? = some 0 ∧ store.toList.map (·.1) = ["b", "a"] ∧
      store.get? "b" = some ⟨3, by decide⟩ ∧
      ∃ inside : 0 < store.bindings.size, store.bindings[0].1 = "b" := by
  intro history store
  have indexed : store.positions["b"]? = some 0 := by decide +kernel
  obtain ⟨⟨names, -, -⟩, read, -, bound, -⟩ := reflects_history history
  exact ⟨indexed, names, read "b", bound "b" 0 indexed⟩

end AssignLang
