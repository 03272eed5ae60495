import AssignLang.Command.Respond
import AssignLang.Elapsed

namespace AssignLang

/-- The fault that an error of the system stands for. The code of a path through a file is 20 and
that of a name that is too long 36, with either sign. -/
def IoFault.ofError : IO.Error → IoFault
  | .noFileOrDirectory .. | .noSuchThing .. => .notFound
  | .permissionDenied .. => .permissionDenied
  | .alreadyExists .. => .alreadyExists
  | .invalidArgument _ code _ => if code = 36 ∨ code = -36 then .invalidFilename else .invalidInput
  | .timeExpired .. => .timedOut
  | .unexpectedEof => .unexpectedEof
  | .interrupted .. => .interrupted
  | .resourceVanished .. => .brokenPipe
  | .resourceExhausted .. => .outOfMemory
  | .inappropriateType _ code _ => if code = 20 ∨ code = -20 then .notADirectory else .isADirectory
  | _ => .other

def readContent (path : String) : IO (Except IoFault (List UInt8)) := do
  try
    let bytes ← IO.FS.readBinFile path
    return .ok bytes.toList
  catch error =>
    return .error (.ofError error)

partial def readLine (input : IO.FS.Stream) (line : ByteArray) : IO ByteArray := do
  let byte ← input.read 1
  if byte.isEmpty then return line
  let line := line ++ byte
  if byte = ⟨#[0x0a]⟩ then return line else readLine input line

partial def readProgram (input : IO.FS.Stream) (program : ByteArray) : IO ByteArray := do
  let line ← readLine input .empty
  let program := program ++ line
  if line.isEmpty || (withoutEnd 0x0a 0x0d line.toList).isEmpty then return program
  else readProgram input program

def write (output : IO.FS.Stream) (text : String) : IO Unit := do
  output.putStr text
  output.flush

def finish (setting : Option String) (greeting : String) (transcript : Transcript) : IO UInt32 := do
  let written := transcript.written setting
  let rest := written.stdout.toList.drop greeting.length
  write (← IO.getStdout) (String.ofList rest)
  write (← IO.getStderr) written.stderr
  return written.code.toUInt32

partial def answerLines (setting : Option String) : IO UInt32 := do
  write (← IO.getStdout) prompt
  let line ← readLine (← IO.getStdin) .empty
  if line.isEmpty then return 0
  match Reply.ofLine line.toList with
  | .stop => return 0
  | .fail fault =>
    write (← IO.getStderr) ((Failure.io fault).render.output (wantsColour setting))
    return 1
  | .output text =>
    write (← IO.getStdout) text
    answerLines setting

def readInput (command : Command) : IO Input := do
  match command with
  | .run none _ _ =>
    write (← IO.getStdout) command.greeting
    let program ← readProgram (← IO.getStdin) .empty
    return ⟨fun _ => .error .notFound, program.toList⟩
  | _ =>
    let content ← match command.path? with
      | some path => readContent path
      | none => pure (.error .notFound)
    return ⟨fun _ => content, []⟩

def perform (setting : Option String) (command : Command) : IO UInt32 := do
  let started ← IO.monoNanosNow
  let input ← readInput command
  match command with
  | .lex none => answerLines setting
  | .run path explain quiet =>
    let outcome ← IO.lazyPure fun _ => Command.outcome path input
    let nanoseconds := (← IO.monoNanosNow) - started
    let elapsed := Elapsed.text (nanoseconds / 1000000000) (nanoseconds % 1000000000)
    finish setting command.greeting
      (Command.conclude command.greeting explain quiet outcome elapsed)
  | _ => finish setting command.greeting (command.respond input "")

end AssignLang

open AssignLang in
def main (arguments : List String) : IO UInt32 := do
  let setting ← IO.getEnv "FORCE_COLOR"
  match Command.ofArguments? arguments with
  | some command => perform setting command
  | none => finish setting "" Command.refusal
