import ShareAgent.Text.Basic

/-! # Shell scripts

The commands that a shell script consists of. -/
namespace ShareAgent.Machine.Shell

/-- A part of a word. `quoted` parts are never cut into several words. -/
inductive Part
  | literal (text : Text) (quoted : Bool)
  | parameter (name : Text) (quoted : Bool)
  | sum (expression : Text) (quoted : Bool)
  | output (script : Text) (quoted : Bool)
  deriving DecidableEq, Repr

/-- A word as written. -/
abbrev Word := List Part

/-- Where a channel is led. -/
inductive RedirectKind
  | read
  | write
  | append
  | duplicate
  deriving DecidableEq, Repr

/-- Leads a channel somewhere else. -/
structure Redirect where
  channel : Nat
  kind : RedirectKind
  target : Word
  deriving DecidableEq, Repr

/-- A script. -/
inductive Script
  | skip
  | simple (line : Nat) (words : List Word) (redirects : List Redirect)
  | sequence (first second : Script)
  | background (body : Script)
  | both (first second : Script)
  | either (first second : Script)
  | negated (body : Script)
  | pipe (first second : Script)
  | loop (wanted : Bool) (condition body : Script)
  | branch (condition yes no : Script)
  | each (name : Text) (words : List Word) (body : Script)
  /-- Runs a body if the subject fits one of the patterns. -/
  | choice (subject : Word) (patterns : List Word) (body otherwise : Script)
  | define (name : Text) (body : Script)
  | group (body : Script) (redirects : List Redirect)
  | inner (body : Script) (redirects : List Redirect)
  deriving Repr

end ShareAgent.Machine.Shell
