import AssignLang.Snippet
import AssignLang.Text.Lines
import AssignLang.Text.Utf8
import AssignLang.Token.Stream
import AssignLang.IoFault

namespace AssignLang

def alignRight (columns : Nat) (text : String) : String :=
  repeated ' ' (columns - text.length) ++ text

def Lexeme.listing (lexeme : Lexeme) : String :=
  s!"{alignRight 4 (toString lexeme.line)}: {lexeme.token.describe} [{lexeme.span.text}]\n"

def LexFault.listing (fault : LexFault) : String :=
  s!"[at {fault.span.start}] Lexical error: {fault.cause.label} ({fault.message})\n" ++
    String.join (fault.cause.notes.map fun note => note ++ "\n")

def TokenStream.listing (stream : TokenStream) : String :=
  let pulled := stream.pullAll
  String.join (pulled.1.map Lexeme.listing) ++ pulled.2.1.elim "" LexFault.listing

def NameTable.text (names : NameTable) : String :=
  String.join (names.listing.map fun entry => s!"({entry.1}): {entry.2}\n")

def fileListing (text : String) : String :=
  let stream := TokenStream.ofChars text.toList
  stream.listing ++ "\nIdentifiers:\n" ++ stream.pullAll.2.2.names.text

inductive Reply where
  | output (text : String)
  | stop
  | fail (fault : IoFault)
deriving DecidableEq, Repr

def prompt : String := ">> "

def Reply.ofLine (line : List UInt8) : Reply :=
  match Utf8.text? line with
  | none => .fail .invalidData
  | some text =>
    match String.ofList (chopped text.toList) with
    | "" => .output ""
    | ".exit" => .stop
    | entered => .output (TokenStream.ofString entered).listing

end AssignLang
