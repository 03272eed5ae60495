import Std.Data.TreeMap

namespace AssignLang

structure Symbol where
  slot : Nat
  name : String
deriving DecidableEq, Repr, Inhabited

/-- Every spelling once, and the slot of each. Slots are exact numbers; those of a text are below
its number of bytes (`TokenStream.slot_lt_utf8ByteSize`). -/
structure NameTable where
  slots : Std.TreeMap String Nat
  names : Array String

namespace NameTable

def empty : NameTable := ⟨∅, #[]⟩

instance : Inhabited NameTable := ⟨empty⟩

def intern (table : NameTable) (name : String) : Symbol × NameTable :=
  match table.slots[name]? with
  | some slot => (⟨slot, table.names.getD slot ""⟩, table)
  | none =>
    (⟨table.names.size, name⟩,
      { slots := table.slots.insert name table.names.size, names := table.names.push name })

def size (table : NameTable) : Nat := table.names.size

def isEmpty (table : NameTable) : Bool := table.names.isEmpty

def listing (table : NameTable) : List (Nat × String) :=
  table.names.toList.zipIdx.map fun entry => (entry.2, entry.1)

end NameTable

end AssignLang
