import ShareAgent.Daemon.Pattern
import ShareAgent.Text.Numeral
import ShareAgent.Text.Split
import ShareAgent.Text.Utf8

/-! # Log filters

A filter is a list of directives that set the level of the log for parts of the program. The most
specific directive for a part decides. -/
namespace ShareAgent.Daemon

/-- The severity of a log record. -/
inductive Level
  | error
  | warn
  | info
  | debug
  | trace
  deriving DecidableEq, Repr

namespace Level

/-- The name of a level. -/
def text : Level → Text
  | error => "ERROR"
  | warn => "WARN"
  | info => "INFO"
  | debug => "DEBUG"
  | trace => "TRACE"

/-- How much a level lets through. -/
def rank : Level → Nat
  | error => 1
  | warn => 2
  | info => 3
  | debug => 4
  | trace => 5

end Level

/-- A field that a record must have, and perhaps the value that it is compared with. -/
structure FieldTest where
  name : Text
  value : Option Text
  deriving DecidableEq, Repr

/-- A directive: the beginning of the names of the parts that it is for, the span and the field that
it asks for, and the highest rank that it lets through. -/
structure Directive where
  part : Option Text
  span : Option Text
  field : Option FieldTest
  limit : Nat
  deriving DecidableEq, Repr

/-- Why a text is no filter: it has another form, or it would have to be cut inside of a
character. -/
inductive FilterFault
  | malformed
  | torn
  deriving DecidableEq, Repr

/-- The rank that the name or the number of a level limits records to. -/
def rank? (t : Text) : Option Nat :=
  match Numeral.readWord 64 t with
  | .ok n => if n ≤ 5 then some n else none
  | .error _ =>
    let name := Text.lowerAscii t
    if name = "" || name = "error" then some 1
    else if name = "warn" then some 2
    else if name = "info" then some 3
    else if name = "debug" then some 4
    else if name = "trace" then some 5
    else if name = "off" then some 0
    else none

/-- The digits of a number with an exponent, perhaps, at its end. -/
def isExponent (t : Text) : Bool :=
  match t with
  | [] => true
  | c :: rest =>
    let digits := match rest with
      | '+' :: digits => digits
      | '-' :: digits => digits
      | digits => digits
    (c == 'e' || c == 'E') && digits != [] && digits.all Char.isDigit

/-- A number without a sign: decimals, or the name of a value that has none. -/
def isNumber (t : Text) : Bool :=
  let name := Text.lowerAscii t
  let whole := t.takeWhile Char.isDigit
  let rest := t.drop whole.length
  let (decimals, rest) := match rest with
    | '.' :: rest => (rest.takeWhile Char.isDigit, rest.dropWhile Char.isDigit)
    | rest => ([], rest)
  name = "inf" || name = "infinity" || name = "nan" ||
    (! (whole.isEmpty && decimals.isEmpty) && isExponent rest)

/-- The values that fields can be compared with: patterns, and numbers with a plus sign, which are
the only ones that are no patterns. -/
def isComparable (t : Text) : Bool :=
  match t with
  | '+' :: number => isNumber number
  | t => isPattern t

namespace FieldTest

/-- Reads a test of a field. A second equals sign and what follows it are passed over. -/
def read (t : Text) : Except FilterFault FieldTest :=
  match Text.pieces (· == '=') t with
  | name :: value :: _ => if isComparable value then .ok ⟨name, some value⟩ else .error .malformed
  | _ => .ok ⟨t, none⟩

end FieldTest

namespace Directive

/-- A character that a directive can begin with. -/
def canBegin (c : Char) : Bool := c == '-' || c == ':' || c == '_' || isLetterOrNumeral c

/-- The octet at this position begins a character, or the text ends there. -/
def isBoundary (written : Bytes) (position : Nat) : Bool :=
  (Utf8.decode? (written.take position)).isSome

/-- The text between two positions. -/
def slice (written : Bytes) (start stop : Nat) : Except FilterFault Text :=
  if isBoundary written start && isBoundary written stop then
    .ok (Utf8.decodeLossy ((written.take stop).drop start))
  else .error .torn

/-- The level that goes up to the end; everything if it is missing. -/
def readLevel (written : Bytes) (start : Nat) : Except FilterFault Nat := do
  let level ← slice written start written.length
  if level = [] then return 5
  else match rank? level with
    | some limit => return limit
    | none => throw .malformed

/-- What may follow a bracket: a level, or nothing. -/
def afterBracket (written : Bytes) (position : Nat) : Text → Except FilterFault Nat
  | [] => .ok 5
  | '=' :: _ => readLevel written (position + 1)
  | _ => .error .malformed

/-- Reads the test of a field up to its brace and the bracket after it. -/
def readField (part span : Option Text) (written : Bytes) (start : Nat) (t : Text) :
    Except FilterFault Directive :=
  let field := t.takeWhile (· != '\x7d')
  let stop := start + Utf8.size field
  match t.drop field.length with
  | [] => .error .malformed
  | _ :: rest => do
    let field ← slice written start stop
    if field = [] then throw .malformed
    let test ← FieldTest.read field
    match rest with
    | ']' :: rest => return ⟨part, span, some test, ← afterBracket written (stop + 2) rest⟩
    | _ => throw .malformed

/-- Reads a span and a field between brackets, each of which may be missing. -/
def readSpan (part : Option Text) (written : Bytes) (start : Nat) (t : Text) :
    Except FilterFault Directive :=
  let span := t.takeWhile fun c => c != ']' && c != '\x7b'
  let stop := start + Utf8.size span
  match t.drop span.length with
  | ']' :: rest => do
    let span ← slice written start stop
    return ⟨part, some span, none, ← afterBracket written (stop + 1) rest⟩
  | '\x7b' :: rest => do
    let span ← slice written start stop
    readField part (if span = [] then none else some span) written (stop + 1) rest
  | _ => .error .malformed

/-- Reads a directive: a level, or a part with a span, a field, a level or none of them. Positions
do not count the blanks in front, but what stands between two positions is taken from the directive
as it is written, so such blanks shift what is read. -/
def read (directive : Text) : Except FilterFault Directive :=
  let written := Utf8.encode directive
  match Text.trim directive with
  | [] => .error .malformed
  | '[' :: rest => readSpan none written 1 rest
  | c :: rest =>
    if ! canBegin c then .error .malformed
    else
      let lead := (c :: rest).takeWhile fun c => c != '=' && c != '['
      let stop := Utf8.size lead
      match (c :: rest).drop lead.length with
      | '=' :: _ => do
        let part ← slice written 0 stop
        return ⟨some part, none, none, ← readLevel written (stop + 1)⟩
      | _ :: rest => do
        let part ← slice written 0 stop
        readSpan (some part) written (stop + 1) rest
      | [] =>
        match rank? directive with
        | some limit => .ok ⟨none, none, none, limit⟩
        | none => .ok ⟨some directive, none, none, 5⟩

/-- The directive decides about records outside of spans. One that asks for a span or compares a
value does not. -/
def isPlain (d : Directive) : Bool :=
  d.span.isNone && (d.field.bind (·.value)).isNone

/-- The directive is for records of a part of the program that have these fields. -/
def isFor (d : Directive) (part : Text) (fields : List Text) : Bool :=
  d.isPlain && d.part.all (·.isPrefixOf part) && d.field.all (fields.contains ·.name)

/-- How specific the part of a directive is. -/
def weight (d : Directive) : Nat :=
  match d.part with
  | none => 0
  | some lead => lead.length + 1

/-- A directive is more specific than another one: for a longer part, or for the same with a field,
where a later name comes first. -/
def outranks (d other : Directive) : Bool :=
  if d.weight ≠ other.weight then other.weight < d.weight
  else match d.field, other.field with
    | none, _ => false
    | some _, none => true
    | some field, some otherField => Text.before otherField.name field.name

end Directive

/-- A filter. -/
structure LogFilter where
  directives : List Directive
  deriving DecidableEq, Repr

namespace LogFilter

/-- The filter that lets this rank through. -/
def upTo (limit : Nat) : LogFilter := ⟨[⟨none, none, none, limit⟩]⟩

/-- The filter of an agent that nothing is said to: informative records and what is worse. -/
def standard : LogFilter := upTo Level.info.rank

/-- Reads a filter: directives between commas. Without any, only errors are let through. -/
def read (t : Text) : Except FilterFault LogFilter :=
  match (Text.pieces (· == ',') t).filter (! ·.isEmpty) with
  | [] => .ok (upTo Level.error.rank)
  | directives => (directives.mapM Directive.read).map LogFilter.mk

/-- The more specific of two directives; the later one if they are equally so. -/
def moreSpecific (best : Option Directive) (d : Directive) : Option Directive :=
  match best with
  | none => some d
  | some other => if other.outranks d then some other else some d

/-- The filter lets records of a level with these fields from a part of the program through. -/
def lets (f : LogFilter) (part : Text) (fields : List Text) (level : Level) : Bool :=
  match (f.directives.filter (·.isFor part fields)).foldl moreSpecific none with
  | none => false
  | some d => level.rank ≤ d.limit

end LogFilter
end ShareAgent.Daemon
