
namespace MonitorWire

namespace Text

def isSpace (c : Char) : Bool :=
  let n := c.toNat
  (9 ≤ n && n ≤ 13) || n == 32 || n == 0x85 || n == 0xA0 || n == 0x1680 ||
    (0x2000 ≤ n && n ≤ 0x200A) || n == 0x2028 || n == 0x2029 || n == 0x202F ||
    n == 0x205F || n == 0x3000

def trimChars (cs : List Char) : List Char :=
  ((cs.dropWhile isSpace).reverse.dropWhile isSpace).reverse

def trim (s : String) : String := String.ofList (trimChars s.toList)

def isBlank (s : String) : Bool := s.toList.all isSpace

/-- The value of ASCII decimal digits, most significant first; `none` for an empty list or
another character. -/
def digitsValue? (cs : List Char) : Option Nat :=
  if cs.isEmpty then none
  else cs.foldl (fun acc c => acc.bind fun a =>
    if c.isDigit then some (10 * a + (c.toNat - 48)) else none) (some 0)

def parseUnsigned (s : String) (bound : Nat) : Option Nat :=
  let digits := match s.toList with
    | '+' :: rest => rest
    | cs => cs
  match digitsValue? digits with
  | some n => if n < bound then some n else none
  | none => none

def splitLast (c : Char) (s : String) : Option (String × String) :=
  let cs := s.toList
  match (List.range cs.length).reverse.find? (fun i => cs[i]? == some c) with
  | some i => some (String.ofList (cs.take i), String.ofList (cs.drop (i + 1)))
  | none => none

def splitChar (c : Char) (s : String) : List String :=
  (s.toList.splitOn c).map String.ofList

end Text

end MonitorWire
