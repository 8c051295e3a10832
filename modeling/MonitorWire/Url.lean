import MonitorWire.Bytes.Basic
import MonitorWire.Bytes.Utf8
import MonitorWire.Url.Idna

namespace MonitorWire

namespace Url

inductive UrlError where
  | emptyHost
  | badDomain
  | invalidPort
  | invalidIpv4
  | invalidIpv6
  | invalidDomainChar
  | relativeWithoutBase
  deriving DecidableEq, Repr

def UrlError.text : UrlError → String
  | .emptyHost => "empty host"
  | .badDomain => "invalid international domain name"
  | .invalidPort => "invalid port number"
  | .invalidIpv4 => "invalid IPv4 address"
  | .invalidIpv6 => "invalid IPv6 address"
  | .invalidDomainChar => "invalid domain character"
  | .relativeWithoutBase => "relative URL without a base"

def specialSchemes : List String := ["http", "https", "ws", "wss", "ftp", "file"]

def isAlpha (c : Char) : Bool := ('a' ≤ c && c ≤ 'z') || ('A' ≤ c && c ≤ 'Z')

def isDigit (c : Char) : Bool := '0' ≤ c && c ≤ '9'

def isHex (c : Char) : Bool := (Bytes.hexValue? c).isSome

def hexOf (c : Char) : Nat := (Bytes.hexValue? c).getD 0

def isSchemeChar (c : Char) : Bool := isAlpha c || isDigit c || c == '+' || c == '-' || c == '.'

def scheme : List Char → Option (String × List Char)
  | [] => none
  | c :: rest =>
    if !isAlpha c then none
    else
      let body := rest.takeWhile isSchemeChar
      match rest.drop body.length with
      | ':' :: after => some (String.ofList ((c :: body).map Char.toLower), after)
      | _ => none

def hexPiece (cs : List Char) : Nat × Nat × List Char :=
  let ds := (cs.takeWhile isHex).take 4
  (ds.foldl (fun acc d => acc * 16 + hexOf d) 0, ds.length, cs.drop ds.length)

/-- Reads a decimal part of an embedded IPv4 address: no leading zero unless it is the whole
part, and at most 255. -/
def ipv4Part (cs : List Char) : Option (Nat × List Char) :=
  let ds := cs.takeWhile isDigit
  match ds with
  | [] => none
  | [d] => some (d.toNat - 48, cs.drop 1)
  | '0' :: _ => none
  | _ =>
    let v := ds.foldl (fun acc d => acc * 10 + (d.toNat - 48)) 0
    if v > 255 then none else some (v, cs.drop ds.length)

/-- Reads the four dotted parts of an IPv4 address closing an IPv6 address; it fills two
pieces, so at most six pieces may come before it. -/
def embeddedIpv4 (pieces : Nat) (cs : List Char) : Bool :=
  if pieces > 6 then false
  else
    let rec go : Nat → List Char → Bool
      | 0, rest => rest.isEmpty
      | k + 1, rest =>
        let rest := if k == 3 then some rest
          else match rest with
            | '.' :: r => some r
            | _ => none
        match rest.bind ipv4Part with
        | some (_, r) => go k r
        | none => false
    go 4 cs

def ipv6Pieces (compressed : Bool) : Nat → Nat → List Char → Bool
  | 0, _, _ => false
  | _ + 1, pieces, [] => pieces == 8 || compressed
  | fuel + 1, pieces, ':' :: rest =>
    if pieces == 8 || compressed then false
    else ipv6Pieces true fuel (pieces + 1) rest
  | fuel + 1, pieces, cs =>
    if pieces == 8 then false
    else
      let (_, len, rest) := hexPiece cs
      match rest with
      | '.' :: _ =>
        len != 0 && embeddedIpv4 pieces cs && (pieces + 2 == 8 || compressed)
      | ':' :: [] => false
      | ':' :: r => if len == 0 then false else ipv6Pieces compressed fuel (pieces + 1) r
      | [] => if len == 0 then false else ipv6Pieces compressed fuel (pieces + 1) []
      | _ => false

def isIpv6 (cs : List Char) : Bool :=
  match cs with
  | [] | [_] => false
  | ':' :: ':' :: rest => ipv6Pieces true (cs.length + 2) 1 rest
  | ':' :: _ => false
  | _ => ipv6Pieces false (cs.length + 2) 0 cs

def ipv4Number (cs : List Char) : Option (Option Nat) :=
  if cs.isEmpty then none
  else
    let (radix, digits) := match cs with
      | '0' :: 'x' :: rest => (16, rest)
      | '0' :: 'X' :: rest => (16, rest)
      | '0' :: rest@(_ :: _) => (8, rest)
      | _ => (10, cs)
    if digits.isEmpty then some (some 0)
    else
      let ok := digits.all fun c =>
        if radix == 8 then '0' ≤ c && c ≤ '7'
        else if radix == 10 then isDigit c else isHex c
      if !ok then none
      else
        let v := digits.foldl (fun acc d => acc * radix + hexOf d) 0
        some (if v < Nat.pow 2 32 then some v else none)

/-- Whether the last label of a host (a final empty label aside) is a number, which makes
the host an IPv4 address. -/
def endsInNumber (host : List Char) : Bool :=
  let labels := (host.splitOn '.').reverse
  let last := match labels with
    | [] :: next :: _ => some next
    | [] :: [] => none
    | l :: _ => some l
    | [] => none
  match last with
  | none => false
  | some l => (!l.isEmpty && l.all isDigit) || (ipv4Number l).isSome

def isIpv4 (host : List Char) : Bool :=
  let parts := host.splitOn '.'
  let parts := if parts.getLast? == some [] then parts.dropLast else parts
  if parts.length > 4 || parts.isEmpty then false
  else
    match parts.mapM ipv4Number with
    | none => false
    | some numbers =>
      match numbers.mapM id with
      | none => false
      | some ns =>
        let init := ns.dropLast
        let last := ns.getLast?.getD 0
        last < Nat.pow 256 (4 - init.length) && init.all (· ≤ 255)

def forbiddenInHost (c : Char) : Bool :=
  c.toNat == 0 || "\t\n\r #/:<>?@[\\]^|".toList.contains c

def percentDecode : List Char → Bytes
  | '%' :: a :: b :: rest =>
    if isHex a && isHex b then UInt8.ofNat (hexOf a * 16 + hexOf b) :: percentDecode rest
    else (Utf8.encodeChar '%') ++ percentDecode (a :: b :: rest)
  | c :: rest => Utf8.encodeChar c ++ percentDecode rest
  | [] => []

def checkHost (host : List Char) : Except UrlError Unit :=
  if host.head? == some '[' then
    if host.getLast? != some ']' || host.length < 2 then .error .invalidIpv6
    else if isIpv6 ((host.drop 1).dropLast) then .ok ()
    else .error .invalidIpv6
  else
    match Idna.process (Utf8.lossyChars (percentDecode host)) with
    | none => .error .badDomain
    | some d =>
      if d.isEmpty then .error .emptyHost
      else if endsInNumber d then (if isIpv4 d then .ok () else .error .invalidIpv4)
      else .ok ()

def checkOpaqueHost (host : List Char) : Except UrlError Unit :=
  if host.head? == some '[' then
    if host.getLast? != some ']' || host.length < 2 then .error .invalidIpv6
    else if isIpv6 ((host.drop 1).dropLast) then .ok ()
    else .error .invalidIpv6
  else if host.any forbiddenInHost then .error .invalidDomainChar
  else .ok ()

def checkPort (cs : List Char) : Except UrlError Unit :=
  let ds := cs.takeWhile isDigit
  let v := ds.foldl (fun acc d => acc * 10 + (d.toNat - 48)) 0
  if v > 65535 then .error .invalidPort
  else
    match cs.drop ds.length with
    | [] => .ok ()
    | c :: _ => if "/\\?#".toList.contains c then .ok () else .error .invalidPort

def hostLength (special : Bool) : Bool → List Char → Nat
  | _, [] => 0
  | inside, c :: rest =>
    if (c == ':' && !inside) || c == '/' || c == '?' || c == '#' || (special && c == '\\') then 0
    else if c == '[' then hostLength special true rest + 1
    else if c == ']' then hostLength special false rest + 1
    else hostLength special inside rest + 1

def lastAt (special : Bool) (cs : List Char) : Option Nat :=
  let auth := cs.takeWhile fun c => !(c == '/' || c == '?' || c == '#' || (special && c == '\\'))
  (auth.zipIdx.filter (·.1 == '@')).getLast?.map (·.2)

/-- Checks an authority and what follows it. User information counts only if it names a user
or a password: a lone colon names neither. -/
def checkAuthority (special : Bool) (cs : List Char) : Except UrlError Unit := do
  let (rest, hasInfo) ← match lastAt special cs with
    | none => pure (cs, false)
    | some 0 =>
      match cs.drop 1 with
      | c :: _ =>
        if c == '/' || c == '?' || c == '#' || (special && c == '\\') then throw .emptyHost
        else pure (cs.drop 1, false)
      | [] => pure (cs.drop 1, false)
    | some k => pure (cs.drop (k + 1), cs.take k != [':'])
  let host := rest.take (hostLength special false rest)
  let after := rest.drop host.length
  if special && host.isEmpty then throw .emptyHost
  if special then checkHost host else checkOpaqueHost host
  if host.isEmpty && (after.head? == some ':' || hasInfo) then throw .emptyHost
  match after with
  | ':' :: port => checkPort port
  | _ => pure ()

def check (s : String) : Except UrlError Unit :=
  let cs := s.toList
  let cs := (cs.dropWhile (·.toNat ≤ 0x20)).reverse.dropWhile (·.toNat ≤ 0x20) |>.reverse
  let cs := cs.filter fun c => c != '\t' && c != '\n' && c != '\r'
  match scheme cs with
  | none => .error .relativeWithoutBase
  | some (name, rest) =>
    if specialSchemes.contains name then
      checkAuthority true (rest.dropWhile fun c => c == '/' || c == '\\')
    else
      match rest with
      | '/' :: '/' :: after => checkAuthority false after
      | _ => .ok ()

def problem? (s : String) : Option String :=
  match check s with
  | .ok () => none
  | .error e => some e.text

end Url

end MonitorWire
