namespace AssignLang

inductive Mark (σ : Type) where
  | text (content : String)
  | style (chosen : σ)
  | reset
deriving DecidableEq, Repr, Inhabited

/-- What a terminal is sent where a style starts, and where styles end. -/
structure Terminal (σ : Type) where
  set : σ → String
  reset : String

inductive Colour where
  | blue
  | red
  | brightRed
  | brightGreen
  | brightMagenta
deriving DecidableEq, Repr, Inhabited

def Colour.code : Colour → String
  | blue => "34"
  | red => "31"
  | brightRed => "38;5;9"
  | brightGreen => "38;5;10"
  | brightMagenta => "38;5;13"

structure Style where
  bold : Bool
  colour : Option Colour
deriving DecidableEq, Repr, Inhabited

abbrev Styled (σ : Type := Style) := List (Mark σ)

def controlSequence (parameters : String) : String := "\x1b[" ++ parameters ++ "m"

def resetSequence : String := controlSequence "0"

/-- Setting a style starts from no style, so that none adds to the one before it. -/
def Style.sequence (style : Style) : String :=
  resetSequence ++ (if style.bold then controlSequence "1" else "") ++
    style.colour.elim "" fun colour => controlSequence colour.code

def Terminal.ansi : Terminal Style := ⟨Style.sequence, resetSequence⟩

section

variable {σ : Type}

def Terminal.plain : Terminal σ := ⟨fun _ => "", ""⟩

def Mark.written (terminal : Terminal σ) : Mark σ → String
  | text content => content
  | style chosen => terminal.set chosen
  | reset => terminal.reset

namespace Styled

def written (terminal : Terminal σ) (styled : Styled σ) : String :=
  String.join (styled.map (Mark.written terminal))

def plain (styled : Styled σ) : String := styled.written .plain

@[simp]
theorem written_nil (terminal : Terminal σ) : written terminal [] = "" := rfl

@[simp]
theorem written_cons (terminal : Terminal σ) (mark : Mark σ) (rest : Styled σ) :
    written terminal (mark :: rest) = mark.written terminal ++ written terminal rest := by
  simp [written]

@[simp]
theorem plain_nil : plain ([] : Styled σ) = "" := rfl

@[simp]
theorem plain_text_cons (content : String) (rest : Styled σ) :
    plain (.text content :: rest) = content ++ plain rest :=
  written_cons _ _ _

@[simp]
theorem plain_style_cons (chosen : σ) (rest : Styled σ) :
    plain (.style chosen :: rest) = plain rest := by
  simp [plain, Mark.written, Terminal.plain]

@[simp]
theorem plain_reset_cons (rest : Styled σ) : plain (.reset :: rest) = plain rest := by
  simp [plain, Mark.written, Terminal.plain]

@[simp]
theorem plain_append (first second : Styled σ) :
    (first ++ second).plain = first.plain ++ second.plain := by
  simp [plain, written]

end Styled

end

namespace Styled

def output (styled : Styled) (coloured : Bool) : String :=
  if coloured then styled.written .ansi else styled.plain

def painted (style : Style) (text : String) : Styled := [.style style, .text text, .reset]

@[simp]
theorem plain_painted (style : Style) (text : String) : (painted style text).plain = text := by
  simp [painted]

end Styled

end AssignLang
