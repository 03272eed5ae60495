import AssignLang.Unicode.Extending
import AssignLang.Unicode.Printable

namespace AssignLang

def hexDigits (code : Nat) : String :=
  String.ofList (Nat.toDigits 16 code)

/-- The halfwidth voicing marks U+FF9E and U+FF9F. They extend the kana before them, and yet each has
a shape that shows on its own. -/
def isVoicingMark (c : Char) : Bool :=
  c.toNat == 0xff9e || c.toNat == 0xff9f

/-- The character as it stands between quotes: tab, line ends, NUL, the quote and the backslash
have escapes of their own, and all else that does not show as itself is written by its code. -/
def escaped (c : Char) : String :=
  if c = '\x00' then "\\0"
  else if c = '\t' then "\\t"
  else if c = '\r' then "\\r"
  else if c = '\n' then "\\n"
  else if c = '\'' then "\\'"
  else if c = '\\' then "\\\\"
  else if (Unicode.isExtending c && !isVoicingMark c) || !Unicode.isPrintable c then
    "\\u\x7b" ++ hexDigits c.toNat ++ "\x7d"
  else c.toString

def quoted (c : Char) : String := "'" ++ escaped c ++ "'"

end AssignLang
