import MonitorWire.Unicode.Bidi
import MonitorWire.Unicode.Additions
import MonitorWire.Unicode.Idna
import MonitorWire.Unicode.Joining
import MonitorWire.Unicode.Normalize
import MonitorWire.Url.Punycode

namespace MonitorWire

namespace Url

namespace Idna

open Unicode

def deniedInDomain (c : Char) : Bool :=
  c.toNat ≤ 0x20 || c.toNat == 0x7F || "%#/:<>?@[\\]^|".toList.contains c

def mapDomain (cs : List Char) : Option (List Char) :=
  (cs.mapM fun (c : Char) =>
    match idnaStatus c.toNat with
    | .valid | .deviation => some [c]
    | .ignored => some []
    | .mapped text => some text
    | .disallowed => none).map List.flatten

def mayStay (c : Char) : Bool :=
  match idnaStatus c.toNat with
  | .valid | .deviation => true
  | _ => false

def isMark (c : Char) : Bool := (Latest.categoryOf c.toNat).isMark

def viramaClass : Nat := 9

/-- The first code point before position `i` (or after it, going right) whose joining type
is not transparent. -/
def joiningNeighbour (label : Array Char) : Nat → Bool → Nat → Option JoiningType
  | 0, _, _ => none
  | fuel + 1, right, i =>
    match label[i]? with
    | none => none
    | some c =>
      match joiningTypeOf c.toNat with
      | .transparent =>
        if right then joiningNeighbour label fuel right (i + 1)
        else if i == 0 then none
        else joiningNeighbour label fuel right (i - 1)
      | t => some t

/-- Whether the joiner at position `i` is placed where joiners belong: after a virama, or, for
a zero-width non-joiner, between a letter joining to the left and a letter joining to the
right, with only transparent code points in between. -/
def joinerFits (label : Array Char) (i : Nat) (c : Char) : Bool :=
  let afterVirama := i > 0 && (label[i - 1]?.map fun b => combiningClass b.toNat == viramaClass).getD false
  if afterVirama then true
  else if c.toNat == 0x200D then false
  else
    let fuel := label.size + 1
    let left := if i == 0 then none else joiningNeighbour label fuel false (i - 1)
    let right := joiningNeighbour label fuel true (i + 1)
    (left == some .leftJoining || left == some .dualJoining) &&
      (right == some .rightJoining || right == some .dualJoining)

def joinersFit (label : List Char) : Bool :=
  let arr := label.toArray
  label.zipIdx.all fun (c, i) =>
    if c.toNat == 0x200C || c.toNat == 0x200D then joinerFits arr i c else true

def isRightToLeft (c : Char) : Bool :=
  match bidiClassOf c.toNat with
  | .rightToLeft | .arabicLetter | .arabicNumber => true
  | _ => false

/-- The class of the last code point of a label that is not a nonspacing mark. -/
def lastClassBeforeMarks (classes : List BidiClass) : Option BidiClass :=
  (classes.reverse.dropWhile (· == .nonspacingMark)).head?

/-- Whether a label follows the rules for right-to-left text in names: it starts with a
left-to-right or right-to-left letter; a left-to-right label holds only left-to-right
letters, European digits, neutral characters and marks and ends (marks aside) with a letter
or digit of its kind; a right-to-left label holds no left-to-right letter, ends with a
right-to-left letter or a digit, and does not mix European and Arabic digits. -/
def bidiFits (label : List Char) : Bool :=
  let classes := label.map fun c => bidiClassOf c.toNat
  match classes with
  | [] => true
  | first :: rest =>
    match first with
    | .leftToRight =>
      rest.all (fun k => [.leftToRight, .europeanNumber, .europeanSeparator, .commonSeparator,
          .europeanTerminator, .otherNeutral, .boundaryNeutral, .nonspacingMark].contains k) &&
        (match lastClassBeforeMarks classes with
          | some .leftToRight | some .europeanNumber => true
          | _ => false)
    | .rightToLeft | .arabicLetter =>
      rest.all (fun k => [.rightToLeft, .arabicLetter, .arabicNumber, .europeanNumber,
          .europeanSeparator, .commonSeparator, .europeanTerminator, .otherNeutral,
          .boundaryNeutral, .nonspacingMark].contains k) &&
        (match lastClassBeforeMarks classes with
          | some .rightToLeft | some .arabicLetter | some .europeanNumber
          | some .arabicNumber => true
          | _ => false) &&
        !(rest.contains .europeanNumber && rest.contains .arabicNumber)
    | _ => false

def hasAcePrefix (label : List Char) : Bool := label.take 4 == ['x', 'n', '-', '-']

def labelFits (label : List Char) : Bool :=
  isNfc label && !hasAcePrefix label && !label.contains '.' &&
    !(label.head?.map isMark).getD false && label.all mayStay && joinersFit label &&
    !label.any deniedInDomain

def decodeLimit : Nat := 2000

def encodeLimit : Nat := 1000

/-- The label as it is checked: an `xn--` label decoded, if it decodes to a label that is not
ASCII. Any other label that is not ASCII will be encoded, so it must be within the limit. -/
def decodeLabel (label : List Char) : Option (List Char) :=
  if hasAcePrefix label then do
    if label.any (fun c => c.toNat ≥ 0x80) then none
    if label.length - 4 > decodeLimit then none
    let decoded ← Punycode.decode (label.drop 4)
    if decoded.all (fun c => c.toNat < 0x80) then none
    pure decoded
  else if label.length > encodeLimit && label.any (fun c => c.toNat ≥ 0x80) then none
  else some label

def process (domain : List Char) : Option (List Char) := do
  let mapped ← mapDomain domain
  let normal := nfc mapped
  let labels ← (normal.splitOn '.').mapM decodeLabel
  if !labels.all labelFits then none
  if labels.any (·.any isRightToLeft) && !labels.all bidiFits then none
  pure normal

end Idna

end Url

end MonitorWire
