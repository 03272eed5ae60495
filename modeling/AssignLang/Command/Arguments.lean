/-!
# Command line arguments

    run [-e | --explain] [-q | --quiet] [PATH]
    lex [PATH]
    -V | --version

Short flags may be joined, flags may follow the path, `--` ends the flags and a single `-` is a
path. A flag may be given once, and there is at most one path, which is not empty. Everything else
is refused.
-/

namespace AssignLang

inductive Command where
  | run (path : Option String) (explain quiet : Bool)
  | lex (path : Option String)
  | version
deriving DecidableEq, Repr

inductive Flag where
  | explain
  | quiet
deriving DecidableEq, Repr

def Flag.ofLetter? : Char → Option Flag
  | 'e' => some .explain
  | 'q' => some .quiet
  | _ => none

def Flag.ofWord? : String → Option Flag
  | "explain" => some .explain
  | "quiet" => some .quiet
  | _ => none

structure Arguments where
  path : Option String
  flags : List Flag
  ended : Bool
deriving DecidableEq, Repr

namespace Arguments

def none : Arguments := ⟨.none, [], false⟩

def addPath (arguments : Arguments) (path : String) : Option Arguments :=
  if path = "" ∨ arguments.path.isSome then .none else some { arguments with path := some path }

def addFlag (known : List Flag) (arguments : Arguments) (flag : Flag) : Option Arguments :=
  if flag ∈ known ∧ flag ∉ arguments.flags then
    some { arguments with flags := flag :: arguments.flags }
  else .none

def add (known : List Flag) (arguments : Arguments) (argument : String) : Option Arguments :=
  if arguments.ended then arguments.addPath argument
  else
    match argument.toList with
    | ['-', '-'] => some { arguments with ended := true }
    | '-' :: '-' :: word => do
      let flag ← Flag.ofWord? (String.ofList word)
      arguments.addFlag known flag
    | '-' :: letter :: letters =>
      (letter :: letters).foldlM (fun arguments letter => do
        let flag ← Flag.ofLetter? letter
        addFlag known arguments flag) arguments
    | _ => arguments.addPath argument

def read? (known : List Flag) (arguments : List String) : Option Arguments :=
  arguments.foldlM (add known) none

end Arguments

namespace Command

def asksVersion (argument : String) : Bool :=
  argument == "--version" || "-V".toList.isPrefixOf argument.toList

def ofArguments? : List String → Option Command
  | [] => none
  | "run" :: rest => do
    let arguments ← Arguments.read? [.explain, .quiet] rest
    some (.run arguments.path (.explain ∈ arguments.flags) (.quiet ∈ arguments.flags))
  | "lex" :: rest => do
    let arguments ← Arguments.read? [] rest
    some (.lex arguments.path)
  | argument :: _ => if asksVersion argument then some .version else none

def path? : Command → Option String
  | run path _ _ => path
  | lex path => path
  | version => none

end Command

end AssignLang
