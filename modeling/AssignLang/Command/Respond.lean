import AssignLang.Command.Arguments
import AssignLang.Command.Collect
import AssignLang.Command.Listing
import AssignLang.Program.Source

namespace AssignLang

structure Input where
  file : String → Except IoFault (List UInt8)
  stdin : List UInt8

structure Transcript where
  code : Nat
  stdout : String
  stderr : Styled
deriving DecidableEq, Repr

def statusLine (colour : Colour) (word text : String) : Styled :=
  [.style ⟨true, some colour⟩, .text (alignRight 11 word), .reset, .text s!" {text}\n"]

namespace Command

def banner : String := "Enter program (blank line to execute):\n"

def stdinPath : String := "<stdin>"

def versionText : String := "assignc 0.1.0\n"

def usage : String :=
  "usage: assignc run [-e | --explain] [-q | --quiet] [PATH]\n" ++
  "       assignc lex [PATH]\n" ++
  "       assignc -V | --version\n"

def greeting : Command → String
  | run none _ _ => banner
  | _ => ""

def outcome (path : Option String) (input : Input) : Styled × Except Failure Session :=
  match path with
  | some path => (statusLine .brightGreen "Running" path, runFile path (input.file path))
  | none =>
    match collectLines input.stdin with
    | .ok text => (statusLine .brightGreen "Running" stdinPath, runText stdinPath text)
    | .error fault => ([], .error (.io fault))

def conclude (greeting : String) (explain quiet : Bool) (outcome : Styled × Except Failure Session)
    (elapsed : String) : Transcript :=
  let status := fun lines : Styled => if quiet then [] else lines
  match outcome.2 with
  | .ok session =>
    { code := 0
      stdout := greeting ++ session.report.text
      stderr := status outcome.1 ++
        status (statusLine .brightGreen "Finished" s!"in {elapsed}") }
  | .error (.run path text diagnostic) =>
    { code := 1
      stdout := greeting ++ Report.error.text
      stderr := status outcome.1 ++
        (if explain then (Failure.run path text diagnostic).render else []) ++
        status (statusLine .brightRed "Failed" s!"in {elapsed}") }
  | .error (.io fault) =>
    { code := 1, stdout := greeting, stderr := status outcome.1 ++ (Failure.io fault).render }

def respondListing (path : String) (content : Except IoFault (List UInt8)) : Transcript :=
  let started := statusLine .brightMagenta "Lexing" path
  let failed := fun fault : IoFault =>
    ({ code := 1, stdout := "", stderr := started ++ (Failure.io fault).render } : Transcript)
  match content with
  | .error fault => failed fault
  | .ok bytes =>
    match Utf8.text? bytes with
    | none => failed .invalidData
    | some text => { code := 0, stdout := fileListing text, stderr := started }

def respondLines : List (List UInt8) → Transcript
  | [] => ⟨0, prompt, []⟩
  | line :: rest =>
    match Reply.ofLine line with
    | .stop => ⟨0, prompt, []⟩
    | .fail fault => ⟨1, prompt, (Failure.io fault).render⟩
    | .output text =>
      let later := respondLines rest
      { later with stdout := prompt ++ text ++ later.stdout }

def respond (command : Command) (input : Input) (elapsed : String) : Transcript :=
  match command with
  | run path explain quiet =>
    conclude (run path explain quiet).greeting explain quiet (outcome path input) elapsed
  | lex (some path) => respondListing path (input.file path)
  | lex none => respondLines (byteLines input.stdin)
  | version => ⟨0, versionText, []⟩

def refusal : Transcript := ⟨2, "", [.text usage]⟩

end Command

def respondTo (arguments : List String) (input : Input) (elapsed : String) : Transcript :=
  match Command.ofArguments? arguments with
  | some command => command.respond input elapsed
  | none => Command.refusal

def wantsColour (setting : Option String) : Bool :=
  setting.elim false (· != "")

structure Written where
  code : Nat
  stdout : String
  stderr : String
deriving DecidableEq, Repr

def Transcript.written (transcript : Transcript) (setting : Option String) : Written :=
  { code := transcript.code
    stdout := transcript.stdout
    stderr := transcript.stderr.output (wantsColour setting) }

end AssignLang
