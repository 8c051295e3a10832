import MonitorWire.Unicode.Category
import MonitorWire.Unicode.Property
import MonitorWire.Unicode.Fold

namespace MonitorWire

namespace Regex

structure CharSet where
  ranges : Array (Nat × Nat)
  deriving DecidableEq, Repr, Inhabited

namespace CharSet

def maxCode : Nat := 0x10FFFF

def normalize (rs : List (Nat × Nat)) : CharSet :=
  ⟨((Unicode.mergeRanges rs).toList.flatMap (Unicode.cutRange · (0xD800, 0xDFFF))).toArray⟩

def empty : CharSet := ⟨#[]⟩

def full : CharSet := ⟨#[(0, 0xD7FF), (0xE000, maxCode)]⟩

def single (c : Char) : CharSet := ⟨#[(c.toNat, c.toNat)]⟩

def range (lo hi : Char) : CharSet := normalize [(lo.toNat, hi.toNat)]

def union (s t : CharSet) : CharSet := normalize (s.ranges.toList ++ t.ranges.toList)

def gaps (next : Nat) : List (Nat × Nat) → List (Nat × Nat)
  | [] => if next ≤ maxCode then [(next, maxCode)] else []
  | (a, b) :: rest => (if next < a then [(next, a - 1)] else []) ++ gaps (b + 1) rest

def complement (s : CharSet) : CharSet := normalize (gaps 0 s.ranges.toList)

def inter (s t : CharSet) : CharSet := complement (union (complement s) (complement t))

def diff (s t : CharSet) : CharSet := inter s (complement t)

def symmDiff (s t : CharSet) : CharSet := union (diff s t) (diff t s)

def memCode (s : CharSet) (c : Nat) : Bool := Unicode.rangesHold s.ranges c

def mem (s : CharSet) (c : Char) : Bool := memCode s c.toNat

def ofRanges (rs : Unicode.Ranges) : CharSet := normalize rs.toList

def decimalRanges : Unicode.Ranges :=
  #[(48, 57), (1632, 1641), (1776, 1785), (1984, 1993), (2406, 2415), (2534, 2543),
    (2662, 2671), (2790, 2799), (2918, 2927), (3046, 3055), (3174, 3183), (3302, 3311),
    (3430, 3439), (3558, 3567), (3664, 3673), (3792, 3801), (3872, 3881), (4160, 4169),
    (4240, 4249), (6112, 6121), (6160, 6169), (6470, 6479), (6608, 6617), (6784, 6793),
    (6800, 6809), (6992, 7001), (7088, 7097), (7232, 7241), (7248, 7257), (42528, 42537),
    (43216, 43225), (43264, 43273), (43472, 43481), (43504, 43513), (43600, 43609),
    (44016, 44025), (65296, 65305), (66720, 66729), (68912, 68921), (68928, 68937),
    (69734, 69743), (69872, 69881), (69942, 69951), (70096, 70105), (70384, 70393),
    (70736, 70745), (70864, 70873), (71248, 71257), (71360, 71369), (71376, 71395),
    (71472, 71481), (71904, 71913), (72016, 72025), (72688, 72697), (72784, 72793),
    (73040, 73049), (73120, 73129), (73552, 73561), (90416, 90425), (92768, 92777),
    (92864, 92873), (93008, 93017), (93552, 93561), (118000, 118009), (120782, 120831),
    (123200, 123209), (123632, 123641), (124144, 124153), (124401, 124410), (125264, 125273),
    (130032, 130041)]

def digit : CharSet := ofRanges decimalRanges

def space : CharSet := ofRanges (Unicode.propertyRanges "White_Space")

def word : CharSet :=
  normalize (Unicode.propertyRanges "Alphabetic" ++
    Unicode.categoryRanges (fun c => c.isMark || c == .decimalNumber || c == .connectorPunctuation) ++
    Unicode.propertyRanges "Join_Control").toList

def isAscii (s : CharSet) : Bool := s.ranges.all (·.2 < 0x80)

def size (s : CharSet) : Nat := s.ranges.foldl (fun n (a, b) => n + (b + 1 - a)) 0

def isWord (c : Char) : Bool := word.mem c

def posix (name : String) : Option CharSet :=
  let r := fun (ps : List (Nat × Nat)) => some (normalize ps)
  match name with
  | "alnum" => r [(0x30, 0x39), (0x41, 0x5A), (0x61, 0x7A)]
  | "alpha" => r [(0x41, 0x5A), (0x61, 0x7A)]
  | "ascii" => r [(0x0, 0x7F)]
  | "blank" => r [(0x9, 0x9), (0x20, 0x20)]
  | "cntrl" => r [(0x0, 0x1F), (0x7F, 0x7F)]
  | "digit" => r [(0x30, 0x39)]
  | "graph" => r [(0x21, 0x7E)]
  | "lower" => r [(0x61, 0x7A)]
  | "print" => r [(0x20, 0x7E)]
  | "punct" => r [(0x21, 0x2F), (0x3A, 0x40), (0x5B, 0x60), (0x7B, 0x7E)]
  | "space" => r [(0x9, 0xD), (0x20, 0x20)]
  | "upper" => r [(0x41, 0x5A)]
  | "word" => r [(0x30, 0x39), (0x41, 0x5A), (0x5F, 0x5F), (0x61, 0x7A)]
  | "xdigit" => r [(0x30, 0x39), (0x41, 0x46), (0x61, 0x66)]
  | _ => none

def caseFold (s : CharSet) : CharSet :=
  normalize (s.ranges.toList ++ s.ranges.toList.flatMap fun (a, b) =>
    (Unicode.foldPartners a b).map fun c => (c, c))

def asciiFold (s : CharSet) : CharSet :=
  let partner := fun (r : Nat × Nat) (lo hi : Nat) (shift : Int) =>
    if max r.1 lo ≤ min r.2 hi then
      [((max r.1 lo + shift).toNat, (min r.2 hi + shift).toNat)]
    else []
  normalize (s.ranges.toList ++ s.ranges.toList.flatMap fun r =>
    partner r 0x41 0x5A 32 ++ partner r 0x61 0x7A (-32))

end CharSet

end Regex

end MonitorWire
