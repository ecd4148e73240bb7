import ShareAgent.Text.Basic

/-! # Addresses to serve on

An address of the network with the number of a service there, in the fourth or the sixth version of
addressing. Readers take the beginning of a text and answer what they left. -/
namespace ShareAgent.Daemon

/-- An address with its service; an address of the sixth version may name a scope. -/
inductive Address
  | four (octets : List Nat) (service : Nat)
  | six (groups : List Nat) (scope service : Nat)
  deriving DecidableEq, Repr

namespace Address

/-- The value of a digit below a base. -/
def digit? (base : Nat) (c : Char) : Option Nat :=
  let value :=
    if c.isDigit then c.toNat - 48
    else if 'a' ≤ c && c ≤ 'f' then c.toNat - 87
    else if 'A' ≤ c && c ≤ 'F' then c.toNat - 55
    else base
  if value < base then some value else none

/-- A numeral with a bounded value and, if `most` is given, a bounded number of digits. -/
def readNumber (base limit : Nat) (most : Option Nat) (zeros : Bool) (t : Text) :
    Option (Nat × Text) :=
  let digits := t.takeWhile fun c => (digit? base c).isSome
  let value := digits.foldl (fun n c => base * n + (digit? base c).getD 0) 0
  if digits = [] || limit < value then none
  else if (most.map (decide <| · < digits.length)).getD false then none
  else if ! zeros && digits.length > 1 && digits.head? == some '0' then none
  else some (value, t.drop digits.length)

/-- Expects a character. -/
def readChar (c : Char) : Text → Option Text
  | first :: rest => if first = c then some rest else none
  | [] => none

/-- The mark that stands before every element but the first. -/
def readMark (c : Char) (index : Nat) (t : Text) : Option Text :=
  if index = 0 then some t else readChar c t

/-- The four octets of an address of the fourth version. -/
def readOctets (index : Nat) : Nat → Text → Option (List Nat × Text)
  | 0, t => some ([], t)
  | n + 1, t => do
    let t ← readMark '.' index t
    let (octet, t) ← readNumber 10 255 (some 3) false t
    let (octets, t) ← readOctets (index + 1) n t
    return (octet :: octets, t)

/-- Up to `n` groups of an address of the sixth version, the last two of which may be written as
octets; answers also whether they were. -/
def readGroups (index : Nat) : Nat → Text → List Nat × Bool × Text
  | 0, t => ([], false, t)
  | n + 1, t =>
    match if n = 0 then none else (readMark ':' index t).bind (readOctets 0 4) with
    | some (octets, t) =>
      match octets with
      | [a, b, c, d] => ([256 * a + b, 256 * c + d], true, t)
      | _ => ([], false, t)
    | none =>
      match (readMark ':' index t).bind (readNumber 16 0xFFFF (some 4) true) with
      | none => ([], false, t)
      | some (group, t) =>
        let (groups, octets, t) := readGroups (index + 1) n t
        (group :: groups, octets, t)

/-- The eight groups of an address of the sixth version. Two colons stand for groups of zero. -/
def readSix (t : Text) : Option (List Nat × Text) :=
  match readGroups 0 8 t with
  | (front, octets, t) =>
    if front.length = 8 then some (front, t)
    else if octets then none
    else do
      let t ← readChar ':' t
      let t ← readChar ':' t
      let (back, _, t) := readGroups 0 (7 - front.length) t
      return (front ++ List.replicate (8 - front.length - back.length) 0 ++ back, t)

/-- The number of a service after a colon. -/
def readService (t : Text) : Option (Nat × Text) :=
  (readChar ':' t).bind (readNumber 10 65535 none true)

/-- The scope of an address, zero if none is named. -/
def readScope (t : Text) : Option (Nat × Text) :=
  match t with
  | '%' :: rest => readNumber 10 0xFFFFFFFF none true rest
  | _ => some (0, t)

/-- Reads an address of the fourth version with its service. -/
def readFour? (t : Text) : Option Address := do
  let (octets, t) ← readOctets 0 4 t
  let (service, t) ← readService t
  if t = [] then some (.four octets service) else none

/-- Reads an address of the sixth version, in brackets, with its service. -/
def readBracketed? (t : Text) : Option Address := do
  let t ← readChar '[' t
  let (groups, t) ← readSix t
  let (scope, t) ← readScope t
  let t ← readChar ']' t
  let (service, t) ← readService t
  if t = [] then some (.six groups scope service) else none

/-- Reads an address with its service. -/
def read? (t : Text) : Option Address := (readFour? t).orElse fun _ => readBracketed? t

/-- Where the longest run of zeros begins, and its length. The first of several is taken. -/
def zeroRun (index : Nat) (current best : Nat × Nat) : List Nat → Nat × Nat
  | [] => best
  | group :: rest =>
    if group = 0 then
      let current := if current.2 = 0 then (index, 1) else (current.1, current.2 + 1)
      zeroRun (index + 1) current (if best.2 < current.2 then current else best) rest
    else zeroRun (index + 1) (0, 0) best rest

/-- Octets as text. -/
def octetsText (octets : List Nat) : Text := Text.join "." (octets.map Text.ofNat)

/-- Groups as text. -/
def groupsText (groups : List Nat) : Text := Text.join ":" (groups.map (Nat.toDigits 16))

/-- An address of the sixth version. One that stands for an address of the fourth is written like
it. -/
def sixText (groups : List Nat) : Text :=
  match groups with
  | [0, 0, 0, 0, 0, 0xFFFF, a, b] =>
    "::ffff:" ++ octetsText [a / 256, a % 256, b / 256, b % 256]
  | groups =>
    let (start, length) := zeroRun 0 (0, 0) (0, 0) groups
    if length > 1 then
      groupsText (groups.take start) ++ "::" ++ groupsText (groups.drop (start + length))
    else groupsText groups

/-- The written form of an address. -/
def text : Address → Text
  | four octets service => octetsText octets ++ ":" ++ Text.ofNat service
  | six groups scope service =>
    "[" ++ sixText groups ++ (if scope = 0 then [] else '%' :: Text.ofNat scope) ++ "]:" ++
      Text.ofNat service

example : (read? "203.0.113.1:0001").map text = some (Text.ofString "203.0.113.1:1") := by decide
example : (read? "[2001:DB8:0:0::0:1]:80").map text = some (Text.ofString "[2001:db8::1]:80") := by
  decide
example : read? "0203.0.113.1:1" = none := by decide

end Address
end ShareAgent.Daemon
