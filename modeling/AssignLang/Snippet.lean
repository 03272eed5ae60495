import AssignLang.Span
import AssignLang.Text.Styled
import AssignLang.Unicode.Width

namespace AssignLang

structure Cell where
  start : Nat
  stop : Nat
  width : Nat
  shown : String
deriving DecidableEq, Repr

def tabWidth : Nat := 4

def repeated (c : Char) (count : Nat) : String := String.ofList (List.replicate count c)

def cellsFrom (offset column : Nat) : List Char → List Cell
  | [] => []
  | c :: rest =>
    let stop := offset + c.utf8Size
    if c = '\t' then
      let width := tabWidth - column % tabWidth
      ⟨offset, stop, width, repeated ' ' width⟩ :: cellsFrom stop (column + width) rest
    else
      let width := Unicode.width c
      ⟨offset, stop, width, c.toString⟩ :: cellsFrom stop (column + width) rest

structure TextLine where
  number : Nat
  offset : Nat
  chars : List Char
deriving DecidableEq, Repr

/-- The line of the text that holds a byte offset, where `line` is the part of the current line
that was passed, last character first. -/
def findLine (target number offset : Nat) (line : List Char) (position : Nat) :
    List Char → TextLine
  | [] => ⟨number, offset, line.reverse⟩
  | c :: rest =>
    if c = '\n' then
      if target ≤ position then ⟨number, offset, line.reverse⟩
      else findLine target (number + 1) (position + 1) [] (position + 1) rest
    else findLine target number offset (c :: line) (position + c.utf8Size) rest

def TextLine.ofOffset (text : String) (target : Nat) : TextLine :=
  findLine target 1 0 [] 0 text.toList

def charsBefore (target offset : Nat) : List Char → Nat
  | [] => 0
  | c :: rest =>
    if offset + c.utf8Size ≤ target then charsBefore target (offset + c.utf8Size) rest + 1 else 0

def trimEnd (chars : List Char) : List Char :=
  (chars.reverse.dropWhile fun c => c == '\n' || c == '\r' || c == '\x00').reverse

/-- The line of a text where a span starts, laid out in columns. What the span covers of later lines
is left out. -/
structure Snippet where
  number : Nat
  column : Nat
  cells : List Cell
  finish : Nat
  span : Span
deriving DecidableEq, Repr

namespace Snippet

def ofSpan (text : String) (span : Span) : Snippet :=
  let line := TextLine.ofOffset text span.start
  let trimmed := trimEnd line.chars
  { number := line.number
    column := charsBefore span.start line.offset line.chars + 1
    cells := cellsFrom line.offset 0 trimmed
    finish := line.offset + (String.ofList trimmed).utf8ByteSize
    -- an empty span counts as one byte, so that it has a caret
    span := ⟨span.start, max span.stop (span.start + 1)⟩ }

def covers (snippet : Snippet) (cell : Cell) : Bool :=
  snippet.span.start < cell.stop && cell.start < snippet.span.stop

def paint (style : Style) (painting : Bool) : List (Bool × String) → Styled
  | [] => if painting then [.reset] else []
  | (pointed, piece) :: rest =>
    (if pointed && !painting then [.style style]
      else if !pointed && painting then [.reset] else []) ++
    .text piece :: paint style pointed rest

def pointer : Style := ⟨false, some .red⟩

def source (snippet : Snippet) : Styled :=
  paint pointer false (snippet.cells.map fun cell => (snippet.covers cell, cell.shown))

/-- The carets below the line. A column that is not pointed out is blank as long as the span has
not ended, and then left out; there is one more column after the line. -/
def carets (snippet : Snippet) : Styled :=
  let last : Cell := ⟨snippet.finish, snippet.finish + 1, 1, ""⟩
  paint pointer false ((snippet.cells ++ [last]).map fun cell =>
    (snippet.covers cell,
      if snippet.covers cell then repeated '^' cell.width
      else if cell.start < snippet.span.stop then repeated ' ' cell.width
      else ""))

end Snippet

end AssignLang
