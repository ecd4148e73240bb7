import ShareAgent.Text.Numeral
import ShareAgent.Text.Utf8

/-! # What `echo` and `printf` write -/
namespace ShareAgent.Machine.Shell

/-- The octet of a letter after a backslash. -/
def letterOctet? : Char → Option UInt8
  | 'a' => some 7
  | 'b' => some 8
  | 'f' => some 12
  | 'n' => some 10
  | 'r' => some 13
  | 't' => some 9
  | 'v' => some 11
  | '\\' => some 92
  | _ => none

/-- An octal digit. -/
def isOctalDigit (c : Char) : Bool := '0' ≤ c && c ≤ '7'

/-- The value of octal digits. -/
def octalValue (digits : Text) : Nat := digits.foldl (fun n c => 8 * n + (c.toNat - 48)) 0

/-- The octal digits after a backslash, and how many characters they take. Arguments may have a zero
more in front than formats. -/
def octalDigits (argument : Bool) (t : Text) : Text × Nat :=
  match argument, t with
  | true, '0' :: rest =>
    let digits := (rest.take 3).takeWhile isOctalDigit
    (digits, digits.length + 1)
  | _, t =>
    let digits := (t.take 3).takeWhile isOctalDigit
    (digits, digits.length)

/-- Octets of a text in which backslashes escape. In an argument `\c` ends all output, which is
reported. -/
def escaped (argument : Bool) : Nat → Text → Bytes × Bool
  | 0, _ => ([], false)
  | _, [] => ([], false)
  | n + 1, '\\' :: c :: rest =>
    match letterOctet? c with
    | some octet => let (more, ended) := escaped argument n rest; (octet :: more, ended)
    | none =>
      if argument && c == 'c' then ([], true)
      else if isOctalDigit c then
        let (digits, width) := octalDigits argument (c :: rest)
        let (more, ended) := escaped argument n ((c :: rest).drop width)
        (.ofNat (octalValue digits) :: more, ended)
      else
        let (more, ended) := escaped argument n (c :: rest)
        (92 :: more, ended)
  | n + 1, c :: rest =>
    let (more, ended) := escaped argument n rest
    (Utf8.encodeChar c ++ more, ended)

/-- What the shell's own `echo` writes. -/
def shellEcho (arguments : List Text) : Bytes :=
  let (quiet, words) := match arguments with
    | ['-', 'n'] :: rest => (true, rest)
    | words => (false, words)
  let text := Text.join " " words
  let (octets, ended) := escaped true (text.length + 1) text
  if quiet || ended then octets else octets ++ [10]

/-- The options that `echo` takes. -/
def isEchoOption (word : Text) : Bool :=
  match word with
  | '-' :: c :: rest => (c :: rest).all fun c => c == 'n' || c == 'e' || c == 'E'
  | _ => false

/-- What the program `echo` writes. -/
def programEcho (arguments : List Text) : Bytes :=
  let options := (arguments.takeWhile isEchoOption).flatMap (·.drop 1)
  let text := Text.join " " (arguments.dropWhile isEchoOption)
  let escapes := (options.filter (· != 'n')).getLast? == some 'e'
  let (octets, ended) :=
    if escapes then escaped true (text.length + 1) text else (Utf8.encode text, false)
  if options.contains 'n' || ended then octets else octets ++ [10]

/-- The number that an argument denotes; what is none counts as zero. -/
def numberOf (t : Text) : Int :=
  match Numeral.readInt 64 (t.dropWhile (· == ' ')) with
  | .ok n => n
  | .error _ => 0

/-- Fills a field up to its width. -/
def pad (flags : Text) (width : Nat) (octets : Bytes) : Bytes :=
  let missing := width - octets.length
  if flags.contains '-' then octets ++ List.replicate missing 32
  else if flags.contains '0' then
    match octets with
    | 45 :: digits => 45 :: List.replicate missing 48 ++ digits
    | digits => List.replicate missing 48 ++ digits
  else List.replicate missing 32 ++ octets

/-- The octets of one conversion, and whether it ends all output. -/
def convert (letter : Char) (argument : Text) : Bytes × Bool :=
  match letter with
  | 'd' | 'i' | 'u' => (Utf8.encode (Text.ofInt (numberOf argument)), false)
  | 'x' => (Utf8.encode (Nat.toDigits 16 (numberOf argument).toNat), false)
  | 'o' => (Utf8.encode (Nat.toDigits 8 (numberOf argument).toNat), false)
  | 'c' => ((Utf8.encode argument).take 1, false)
  | 'b' => escaped true (argument.length + 1) argument
  | _ => (Utf8.encode argument, false)

/-- One pass over a format: what it writes, the arguments that are left, and whether all output has
ended. -/
def formatOnce : Nat → Text → List Text → Bytes × List Text × Bool
  | 0, _, arguments => ([], arguments, true)
  | _, [], arguments => ([], arguments, false)
  | n + 1, '%' :: '%' :: rest, arguments =>
    let (more, left, ended) := formatOnce n rest arguments
    (37 :: more, left, ended)
  | n + 1, '%' :: rest, arguments =>
    let flags := rest.takeWhile fun c => c == '-' || c == '0'
    let rest := rest.drop flags.length
    let width := rest.takeWhile Char.isDigit
    match rest.drop width.length with
    | [] => ([], arguments, true)
    | letter :: rest =>
      let (octets, ended) := convert letter (arguments.headD [])
      let octets := pad flags (numberOf width).toNat octets
      if ended then (octets, [], true)
      else
        let (more, left, ended) := formatOnce n rest (arguments.drop 1)
        (octets ++ more, left, ended)
  | n + 1, '\\' :: c :: rest, arguments =>
    let width := if isOctalDigit c then (((c :: rest).take 3).takeWhile isOctalDigit).length else 1
    let front := '\\' :: (c :: rest).take width
    let (octets, _) := escaped false (front.length + 1) front
    let (more, left, ended) := formatOnce n ((c :: rest).drop width) arguments
    (octets ++ more, left, ended)
  | n + 1, c :: rest, arguments =>
    let (more, left, ended) := formatOnce n rest arguments
    (Utf8.encodeChar c ++ more, left, ended)

/-- What `printf` writes: the format again and again while it takes arguments. -/
def printf (format : Text) (arguments : List Text) : Nat → Bytes
  | 0 => []
  | n + 1 =>
    let (octets, left, ended) := formatOnce (format.length + 1) format arguments
    if ended || left.isEmpty || left.length = arguments.length then octets
    else octets ++ printf format left n

end ShareAgent.Machine.Shell
