import Std.Data.TreeMap
import AssignLang.Value

namespace AssignLang

structure Assignment where
  name : String
  value : Value
deriving DecidableEq, Repr, Inhabited

structure Store where
  positions : Std.TreeMap String Nat
  bindings : Array (String × Value)

namespace Store

def empty : Store := ⟨∅, #[]⟩

instance : Inhabited Store := ⟨empty⟩

def get? (store : Store) (name : String) : Option Value :=
  store.positions[name]?.bind fun position => store.bindings[position]?.map (·.2)

def set (store : Store) (name : String) (value : Value) : Store :=
  match store.positions[name]? with
  | some position =>
    { store with bindings := store.bindings.modify position fun binding => (binding.1, value) }
  | none =>
    { positions := store.positions.insert name store.bindings.size
      bindings := store.bindings.push (name, value) }

def assign (store : Store) (assignment : Assignment) : Store :=
  store.set assignment.name assignment.value

def toList (store : Store) : List (String × Value) := store.bindings.toList

def size (store : Store) : Nat := store.bindings.size

def isEmpty (store : Store) : Bool := store.bindings.isEmpty

def setAll (store : Store) (pairs : List (String × Value)) : Store :=
  pairs.foldl (fun store pair => store.set pair.1 pair.2) store

/-- Two stores are equal if both their indices and their bindings are. -/
instance : BEq Store := ⟨fun a b => a.positions == b.positions && a.bindings == b.bindings⟩

@[simp]
theorem toList_empty : empty.toList = [] := rfl

theorem toList_set_new {store : Store} {name : String} {value : Value}
    (h : store.positions[name]? = none) :
    (store.set name value).toList = store.toList ++ [(name, value)] := by
  simp [set, h, toList]

end Store

end AssignLang
