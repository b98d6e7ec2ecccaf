import MotionLink.Text.Numeral

/-!
# Network addresses

Addresses of four octets, written in decimal, and of eight 16-bit groups,
written in hexadecimal. In the written form of groups the longest run of zero
groups is left out, the first of several, if it has at least two; an address
that maps an octet address ends in that address.

Reading is strict about octets (no leading zero) and liberal about groups: up
to four digits each, one run of any length left out, octets in place of the
last two. Only an endpoint is read with a zone (`%`) behind its groups.
-/

namespace MotionLink

inductive Address where
  | v4 (octets : Vector UInt8 4)
  | v6 (groups : Vector UInt16 8)
  deriving DecidableEq, Repr

namespace Address

/-! ## Writing -/

/-- Octets in decimal with dots between. -/
def octetsText (octets : List UInt8) : String :=
  ".".intercalate (octets.map fun octet => toString octet.toNat)

/-- Groups in hexadecimal with colons between. -/
def groupsText (groups : List UInt16) : String :=
  ":".intercalate (groups.map fun group => String.ofList (Nat.toDigits 16 group.toNat))

/-- Start and length of the longest run of zeros, the first of several. -/
def longestZeros (groups : List UInt16) : Nat × Nat :=
  (List.range groups.length).foldl
    (fun best start =>
      let length := ((groups.drop start).takeWhile (· == 0)).length
      if best.2 < length then (start, length) else best)
    (0, 0)

/-- The octets an address of groups maps, if it maps any. -/
def mapped? : List UInt16 → Option (List UInt8)
  | [0, 0, 0, 0, 0, 0xFFFF, high, low] =>
    some [(high >>> 8).toUInt8, high.toUInt8, (low >>> 8).toUInt8, low.toUInt8]
  | _ => none

def text : Address → String
  | v4 octets => octetsText octets.toList
  | v6 value =>
    let groups := value.toList
    match mapped? groups with
    | some octets => "::ffff:" ++ octetsText octets
    | none =>
      let (start, length) := longestZeros groups
      if length < 2 then groupsText groups
      else groupsText (groups.take start) ++ "::" ++ groupsText (groups.drop (start + length))

/-! ## Reading -/

/-- Reads a numeral of at most `places` digits off the front of a text. -/
def numeral? (radix places : Nat) (text : List Char) : Option (Nat × List Char) := do
  let isDigit (c : Char) : Bool := (Numeral.digit? radix c).isSome
  let digits := text.takeWhile isDigit
  let value ← Numeral.value? radix digits
  if digits.length ≤ places then some (value, text.dropWhile isDigit) else none

/-- Reads an octet, which has no leading zero. -/
def octet? (text : List Char) : Option (UInt8 × List Char) := do
  let (value, rest) ← numeral? 10 3 text
  let zeroLed := text.head? == some '0' && text.length - rest.length != 1
  if value < 256 && !zeroLed then some (UInt8.ofNat value, rest) else none

/-- Takes a separator off the front of a text, which the first of several items does not have. -/
def separator? (mark : Char) (first : Bool) (text : List Char) : Option (List Char) :=
  if first then some text
  else
    match text with
    | c :: rest => if c = mark then some rest else none
    | [] => none

/-- Reads `count` octets. -/
def readOctets : (count : Nat) → (first : Bool) → List Char → Option (List UInt8 × List Char)
  | 0, _, text => some ([], text)
  | count + 1, first, text => do
    let (octet, rest) ← octet? (← separator? '.' first text)
    let (octets, rest) ← readOctets count false rest
    some (octet :: octets, rest)

/-- The two groups that hold four octets. -/
def pairOctets : List UInt8 → List UInt16
  | high :: low :: rest => ((high.toUInt16 <<< 8) ||| low.toUInt16) :: pairOctets rest
  | _ => []

/-- Groups read off the front of a text. -/
structure GroupRun where
  groups : List UInt16
  /-- Whether the last two were written as octets. -/
  endsInOctets : Bool
  rest : List Char

/-- Reads as many groups as there are, up to `room`. -/
def readGroups : (room : Nat) → (first : Bool) → List Char → GroupRun
  | 0, _, text => ⟨[], false, text⟩
  | room + 1, first, text =>
    match separator? ':' first text with
    | none => ⟨[], false, text⟩
    | some body =>
      match if room = 0 then none else readOctets 4 true body with
      | some (octets, rest) => ⟨pairOctets octets, true, rest⟩
      | none =>
        match numeral? 16 4 body with
        | none => ⟨[], false, text⟩
        | some (group, rest) =>
          let more := readGroups room false rest
          { more with groups := UInt16.ofNat group :: more.groups }

/-- Reads eight groups, of which one run may be left out. -/
def readAllGroups (text : List Char) : Option (List UInt16 × List Char) :=
  let head := readGroups 8 true text
  if head.groups.length = 8 then some (head.groups, head.rest)
  else if head.endsInOctets then none
  else
    match head.rest with
    | ':' :: ':' :: rest =>
      let tail := readGroups (7 - head.groups.length) true rest
      let missing := 8 - head.groups.length - tail.groups.length
      some (head.groups ++ List.replicate missing 0 ++ tail.groups, tail.rest)
    | _ => none

/-- A list of `n` values as a vector. -/
def sized? {α : Type} (n : Nat) (values : List α) : Option (Vector α n) :=
  if h : values.length = n then some ⟨values.toArray, h⟩ else none

/-- Reads an address of octets off the front of a text. -/
def readOctetAddress (text : List Char) : Option (Address × List Char) := do
  let (octets, rest) ← readOctets 4 true text
  return (.v4 (← sized? 4 octets), rest)

/-- Reads an address of groups off the front of a text. -/
def readGroupAddress (text : List Char) : Option (Address × List Char) := do
  let (groups, rest) ← readAllGroups text
  return (.v6 (← sized? 8 groups), rest)

/-- The address a text stands for. -/
def ofText? (text : String) : Option Address :=
  match (readOctetAddress text.toList).orElse fun _ => readGroupAddress text.toList with
  | some (address, []) => some address
  | _ => none

end Address

/-- A numbered entry of a host. An address of groups may be meant in one zone of
the host only, which is zero otherwise. -/
inductive Endpoint where
  | v4 (octets : Vector UInt8 4) (number : UInt16)
  | v6 (groups : Vector UInt16 8) (zone : UInt32) (number : UInt16)
  deriving DecidableEq, Repr

namespace Endpoint

/-- The entry with a number at an address. -/
def ofAddress : Address → UInt16 → Endpoint
  | .v4 octets, number => .v4 octets number
  | .v6 groups, number => .v6 groups 0 number

/-- The mark of a zone, unless it is zero. -/
def zoneText (zone : UInt32) : String := if zone = 0 then "" else "%" ++ toString zone.toNat

/-- The endpoint in words; groups stand in brackets, apart from the number. -/
def text : Endpoint → String
  | v4 octets number => (Address.v4 octets).text ++ ":" ++ toString number.toNat
  | v6 groups zone number =>
    "[" ++ (Address.v6 groups).text ++ zoneText zone ++ "]:" ++ toString number.toNat

/-- Reads a zone off the front of a text, if there is one. -/
def readZone (text : List Char) : UInt32 × List Char :=
  match text with
  | '%' :: rest =>
    match Numeral.unsigned? 10 (UInt32.size - 1) (rest.takeWhile Char.isDigit) with
    | some zone => (UInt32.ofNat zone, rest.dropWhile Char.isDigit)
    | none => (0, text)
  | _ => (0, text)

/-- Reads the number at the end of a text. -/
def number? : List Char → Option UInt16
  | ':' :: digits =>
    if digits.all Char.isDigit then
      (Numeral.unsigned? 10 (UInt16.size - 1) digits).map UInt16.ofNat
    else none
  | _ => none

/-- The endpoint a text stands for. -/
def ofText? (text : String) : Option Endpoint :=
  match text.toList with
  | '[' :: body => do
    let (groups, rest) ← Address.readAllGroups body
    match readZone rest with
    | (zone, ']' :: rest) => return .v6 (← Address.sized? 8 groups) zone (← number? rest)
    | _ => none
  | body => do
    let (octets, rest) ← Address.readOctets 4 true body
    return .v4 (← Address.sized? 4 octets) (← number? rest)

end Endpoint

end MotionLink
