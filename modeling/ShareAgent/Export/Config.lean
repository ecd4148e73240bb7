import ShareAgent.Export.Block

/-! # The export configuration

A configuration file is cut into export blocks and the text around them. A block begins at a line
that consists of the word `EXPORT`, or has a brace after it, and ends with the line that closes its
braces. Nothing is lost: the sections put together are the file again. -/
namespace ShareAgent.Export

/-- A piece of a configuration file. -/
inductive Section
  | text (content : Text)
  | block (entry : Entry) (content : Text)
  deriving DecidableEq, Repr

namespace Section

/-- What a section looks like in the file. -/
def content : Section → Text
  | text content => content
  | block _ content => content

/-- The entry of a section, if it has one. -/
def exported? : Section → Option Entry
  | text _ => none
  | block entry _ => some entry

end Section

/-- The word that begins a block. -/
def blockWord : Text := "export"

/-- The line begins an export block. -/
def beginsBlock (line : Text) : Bool :=
  let line := Text.trimStart line
  Text.lowerAscii (line.take blockWord.length) == blockWord &&
    match Text.trimStart (line.drop blockWord.length) with
    | [] => true
    | c :: _ => c == '\x7b'

/-- A block under way: its lines, whether a brace was opened, and how many are open. -/
structure Block where
  content : Text
  opened : Bool
  depth : Nat
  deriving DecidableEq, Repr

namespace Block

/-- The block before its first line. -/
def empty : Block := ⟨[], false, 0⟩

/-- Adds a line. Braces count wherever they stand in it. -/
def add (b : Block) (line : Text) : Block where
  content := b.content ++ line
  opened := b.opened || line.contains '\x7b'
  depth := b.depth + line.count '\x7b' - line.count '\x7d'

/-- The braces that were opened are closed. -/
def isClosed (b : Block) : Bool := b.opened && b.depth == 0

/-- The section of a closed block. A block without an entry is text. -/
def toSection (b : Block) : Section :=
  match readBlock b.content with
  | some entry => .block entry b.content
  | none => .text b.content

end Block

/-- Where the reader is: between blocks, after some text, or in a block. -/
inductive Mode
  | between (text : Text)
  | inside (block : Block)
  deriving DecidableEq, Repr

/-- The section of some text. Empty text makes none. -/
def textSection (text : Text) : List Section := if text = [] then [] else [.text text]

/-- Goes on after a line of a block. -/
def afterLine (b : Block) (rest : Mode → List Section) : List Section :=
  if b.isClosed then b.toSection :: rest (.between []) else rest (.inside b)

/-- The sections of the remaining lines. A block that is never closed is text. -/
def readLines : Mode → List Text → List Section
  | .between text, [] => textSection text
  | .inside b, [] => textSection b.content
  | .between text, line :: rest =>
    if beginsBlock line then
      textSection text ++ afterLine (Block.empty.add line) (readLines · rest)
    else readLines (.between (text ++ line)) rest
  | .inside b, line :: rest => afterLine (b.add line) (readLines · rest)

/-- The sections of a configuration. -/
def readSections (config : Text) : List Section :=
  readLines (.between []) (Text.wholeLines config)

/-- The configuration that sections make up. -/
def writeSections (sections : List Section) : Text := sections.flatMap Section.content

/-- The entries of a configuration. -/
def readEntries (config : Text) : List Entry := (readSections config).filterMap Section.exported?

end ShareAgent.Export
