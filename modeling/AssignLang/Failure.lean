import AssignLang.Diagnostic
import AssignLang.IoFault
import AssignLang.Notice

namespace AssignLang

inductive Failure where
  | run (path text : String) (diagnostic : Diagnostic)
  | io (fault : IoFault)
deriving DecidableEq, Repr, Inhabited

namespace Failure

def message : Failure → String
  | run _ _ diagnostic => s!"failed to run program: {diagnostic.message}"
  | io _ => "IO operation failed"

/-- What is to be rendered. A span that goes past the end of the text is cut there. -/
def notice : Failure → Notice
  | run path text diagnostic =>
    { message := s!"{diagnostic.cause.title}: {diagnostic.message}"
      label := some ⟨path, text, diagnostic.span.clamp text.utf8ByteSize, diagnostic.cause.label⟩
      notes := diagnostic.cause.notes }
  | io fault => { message := "Standard IO error", label := none, notes := [fault.description] }

/-- The failure as a renderer puts it. A renderer writes texts and sets styles, and does not see
which terminal it writes to. -/
def rendered {σ : Type} (renderer : Notice → Styled σ) (failure : Failure) : Styled σ :=
  renderer failure.notice

def render (failure : Failure) : Styled := failure.rendered Notice.laidOut

end Failure

end AssignLang
