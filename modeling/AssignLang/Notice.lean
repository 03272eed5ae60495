import AssignLang.Snippet
import AssignLang.Text.Lines

namespace AssignLang

structure Notice.Label where
  path : String
  source : String
  span : Span
  message : String
deriving DecidableEq, Repr, Inhabited

/-- What a renderer is given. -/
structure Notice where
  message : String
  label : Option Notice.Label
  notes : List String
deriving DecidableEq, Repr, Inhabited

namespace Notice

def headStyle : Style := ⟨true, some .brightRed⟩

def headlineStyle : Style := ⟨true, none⟩

def borderStyle : Style := ⟨false, some .blue⟩

def headline (message : String) : Styled :=
  [.style headStyle, .text "error", .style headlineStyle, .text s!": {message}", .reset,
    .text "\n"]

def border (indent : Nat) (sign : String) : Styled :=
  .text (repeated ' ' indent ++ " ") :: Styled.painted borderStyle sign

def note (indent : Nat) (text : String) : Styled :=
  match textLines text with
  | [] => []
  | first :: rest =>
    border indent "=" ++ .text s!" {first}\n" ::
      rest.map fun line => .text (repeated ' ' indent ++ s!"   {line}\n")

def place (path : String) (snippet : Snippet) (message : String) : Styled :=
  let number := toString snippet.number
  let indent := number.length
  border indent "┌─" ++ [.text s!" {path}:{snippet.number}:{snippet.column}\n"] ++
  border indent "│" ++ [.text "\n"] ++
  Styled.painted borderStyle number ++ [.text " "] ++ Styled.painted borderStyle "│" ++
  [.text " "] ++ snippet.source ++ [.text "\n"] ++
  border indent "│" ++ [.text " "] ++ snippet.carets ++ [.text " "] ++
  Styled.painted Snippet.pointer message ++ [.text "\n"]

def noteBlock (indent : Nat) (bordered : Bool) (texts : List String) : Styled :=
  (if bordered && !texts.isEmpty then border indent "│" ++ [.text "\n"] else []) ++
    texts.flatMap (note indent)

/-- Renders a notice whose label stays in one line. A label that does not is drawn as far as its
first line goes. -/
def laidOut (notice : Notice) : Styled :=
  headline notice.message ++
    (match notice.label with
      | some label =>
        let snippet := Snippet.ofSpan label.source label.span
        place label.path snippet label.message ++
          noteBlock (toString snippet.number).length true notice.notes
      | none => noteBlock 0 false notice.notes) ++
    [.text "\n"]

end Notice

end AssignLang
