import AssignLang.IoFault
import AssignLang.Text.Lines

namespace AssignLang

def joinLines : List (List UInt8) → Except IoFault String
  | [] => .ok ""
  | line :: rest =>
    match Utf8.text? line with
    | none => .error .invalidData
    | some text =>
      if text = "" then .ok ""
      else (joinLines rest).map fun program => text ++ "\n" ++ program

def collectLines (input : List UInt8) : Except IoFault String :=
  joinLines ((byteLines input).map (withoutEnd 0x0a 0x0d))

end AssignLang
