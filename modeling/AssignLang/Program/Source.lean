import AssignLang.Failure
import AssignLang.Session

namespace AssignLang

def runText (path text : String) : Except Failure Session :=
  let session := run text
  match session.diagnostics with
  | diagnostic :: _ => .error (.run path text diagnostic)
  | [] => .ok session

def runBytes (path : String) (bytes : List UInt8) : Except Failure Session :=
  let decoded := Utf8.decode bytes
  let outcome := Session.new.execute (TokenStream.ofChars decoded.chars)
  let asked := outcome.2.scanner.cursor.requests
  match decoded.met asked, outcome.1.diagnostics with
  | some flaw, _ => .error (.io (.ofFlaw flaw))
  | none, [] => .ok outcome.1
  | none, diagnostic :: _ =>
    -- what is left after the characters that were read is decoded in one piece
    let read := decoded.chars.take asked
    match Utf8.text? (bytes.drop (Utf8.encode read).length) with
    | some rest => .error (.run path (String.ofList read ++ rest) diagnostic)
    | none => .error (.io .invalidData)

def runFile (path : String) (content : Except IoFault (List UInt8)) : Except Failure Session :=
  match content with
  | .ok bytes => runBytes path bytes
  | .error fault => .error (.io fault)

end AssignLang
