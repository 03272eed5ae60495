namespace AssignLang

def cutLines {α : Type} [DecidableEq α] (lineFeed : α) : List α → List (List α)
  | [] => []
  | x :: rest =>
    if x = lineFeed then [x] :: cutLines lineFeed rest
    else
      match cutLines lineFeed rest with
      | [] => [[x]]
      | line :: lines => (x :: line) :: lines

def dropLastIf {α : Type} [DecidableEq α] (last : α) (list : List α) : List α :=
  if list.getLast? = some last then list.dropLast else list

/-- The line without its line feed and without a carriage return before the line feed. A line
without a line feed stays as it is. -/
def withoutEnd {α : Type} [DecidableEq α] (lineFeed carriageReturn : α) (line : List α) : List α :=
  if line.getLast? = some lineFeed then dropLastIf carriageReturn line.dropLast else line

def byteLines (bytes : List UInt8) : List (List UInt8) := cutLines 0x0a bytes

def textLines (text : String) : List String :=
  (cutLines '\n' text.toList).map fun line => String.ofList (withoutEnd '\n' '\r' line)

def chopped (line : List Char) : List Char := dropLastIf '\r' (dropLastIf '\n' line)

end AssignLang
