import MonitorWire.Bytes.Basic
import MonitorWire.Unicode.Additions

namespace MonitorWire

namespace Text

def hexText (n : Nat) : String :=
  String.ofList ((Nat.toDigits 16 n))

/-- The Hangul fillers: letters that only hold the place of a missing jamo and show nothing. -/
def hangulFillers : List Nat := [0x115F, 0x1160, 0x3164, 0xFFA0]

def isPrintable (c : Char) : Bool :=
  if hangulFillers.contains c.toNat then false else
  match Unicode.Latest.categoryOf c.toNat with
  | .spaceSeparator => c == ' '
  | .lineSeparator | .paragraphSeparator | .control | .format | .surrogate | .privateUse
  | .unassigned => false
  | _ => true

def unicodeEscape (c : Char) : List Char := ("\\u\x7b" ++ hexText c.toNat ++ "\x7d").toList

def debugChar (c : Char) : List Char :=
  if c == '"' then ['\\', '"']
  else if c == '\\' then ['\\', '\\']
  else if c.toNat == 0 then ['\\', '0']
  else if c == '\t' then ['\\', 't']
  else if c == '\n' then ['\\', 'n']
  else if c == '\r' then ['\\', 'r']
  else if Unicode.Latest.extendsGrapheme c.toNat then unicodeEscape c
  else if isPrintable c then [c]
  else unicodeEscape c

def debugCharQuoted (c : Char) : String :=
  let body := if c == '\'' then ['\\', '\''] else if c == '"' then ['"'] else debugChar c
  String.ofList ('\'' :: body ++ ['\''])

def debugQuote (s : String) : String :=
  String.ofList ('"' :: s.toList.flatMap debugChar ++ ['"'])

end Text

end MonitorWire
