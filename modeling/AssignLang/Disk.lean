import AssignLang.IoFault

/-!
# A directory as a value

The files of a directory, and what reading a path in it gives. Names are separated by slashes; `.`
stays where it is and `..` goes up. A name can only be looked up in a directory, so a slash after
the name of a file is a fault. Names and paths are bounded in length. Above the directory there are
only directories of which no name is known.
-/

namespace AssignLang

inductive Entry where
  | file (bytes : List UInt8)
  | directory
deriving DecidableEq, Repr

structure Disk where
  entries : List (List String × Entry)
deriving DecidableEq, Repr

namespace Disk

def steps (path : String) : List String :=
  (path.splitOn "/").filter fun name => name != "" && name != "."

def ofPaths (entries : List (String × Entry)) : Disk :=
  ⟨entries.map fun entry => (steps entry.1, entry.2)⟩

def entry? (disk : Disk) (path : List String) : Option Entry :=
  match disk.entries.lookup path with
  | some entry => some entry
  | none =>
    if path.isEmpty || disk.entries.any fun entry => path.isPrefixOf entry.1 then some .directory
    else none

abbrev Location := Option (List String)

def found? (disk : Disk) : Location → Option Entry
  | none => some .directory
  | some path => disk.entry? path

def nameLimit : Nat := 255

def pathLimit : Nat := 4095

def step (disk : Disk) (location : Location) (name : String) : Except IoFault Location :=
  match disk.found? location with
  | none => .error .notFound
  | some (.file _) => .error .notADirectory
  | some .directory =>
    if nameLimit < name.utf8ByteSize then .error .invalidFilename
    else if name = "" ∨ name = "." then .ok location
    else
      match location with
      | none => if name = ".." then .ok none else .error .notFound
      | some path =>
        if name = ".." then .ok (if path.isEmpty then none else some path.dropLast)
        else .ok (some (path ++ [name]))

def read (disk : Disk) (path : String) : Except IoFault (List UInt8) :=
  if path.toList.contains '\x00' then .error .invalidInput
  else if path = "" then .error .notFound
  else if pathLimit < path.utf8ByteSize then .error .invalidFilename
  else
    let start : Location := if path.startsWith "/" then none else some []
    match (path.splitOn "/").foldlM (disk.step · ·) start with
    | .error fault => .error fault
    | .ok location =>
      match disk.found? location with
      | none => .error .notFound
      | some .directory => .error .isADirectory
      | some (.file bytes) => .ok bytes

end Disk

end AssignLang
