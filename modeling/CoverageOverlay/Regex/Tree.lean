-- SUMMARY: Patterns as they are written: trees of literals, classes, repetitions, groups and branches.
import CoverageOverlay.Regex.Fault

/-!
# Trees

A tree is a pattern as it was written, with the place of every part whose
meaning can be refused or whose depth counts.
-/

namespace CoverageOverlay.Regex

/-! ## Leaves -/

/-- A character that stands for itself. -/
structure Literal where
  span : Span
  char : Char
  /-- Whether it was written as a byte, in two hexadecimal digits. -/
  isByte : Bool
deriving DecidableEq, Repr, Inhabited

/-- A condition on a place in a text. -/
inductive Assertion
  | lineStart
  | lineEnd
  | textStart
  | textEnd
  | boundary
  | notBoundary
  | wordStart
  | wordEnd
  | wordStartHalf
  | wordEndHalf
deriving DecidableEq, Repr, Inhabited

/-- The classes with names between colons. They hold ASCII characters. -/
inductive AsciiClass
  | alnum
  | alpha
  | ascii
  | blank
  | cntrl
  | digit
  | graph
  | lower
  | print
  | punct
  | space
  | upper
  | word
  | xdigit
deriving DecidableEq, Repr, Inhabited

namespace AsciiClass

/-- Every class with its name. -/
def names : List (String × AsciiClass) :=
  [("alnum", alnum), ("alpha", alpha), ("ascii", ascii), ("blank", blank), ("cntrl", cntrl),
   ("digit", digit), ("graph", graph), ("lower", lower), ("print", print), ("punct", punct),
   ("space", space), ("upper", upper), ("word", word), ("xdigit", xdigit)]

/-- The class with a name. -/
def ofName? (name : Text) : Option AsciiClass :=
  (names.find? fun (n, _) => n.toList = name).map Prod.snd

/-- The ranges of a class. -/
def ranges : AsciiClass → List (Nat × Nat)
  | alnum => [(0x30, 0x39), (0x41, 0x5A), (0x61, 0x7A)]
  | alpha => [(0x41, 0x5A), (0x61, 0x7A)]
  | ascii => [(0x00, 0x7F)]
  | blank => [(0x09, 0x09), (0x20, 0x20)]
  | cntrl => [(0x00, 0x1F), (0x7F, 0x7F)]
  | digit => [(0x30, 0x39)]
  | graph => [(0x21, 0x7E)]
  | lower => [(0x61, 0x7A)]
  | print => [(0x20, 0x7E)]
  | punct => [(0x21, 0x2F), (0x3A, 0x40), (0x5B, 0x60), (0x7B, 0x7E)]
  | space => [(0x09, 0x0D), (0x20, 0x20)]
  | upper => [(0x41, 0x5A)]
  | word => [(0x30, 0x39), (0x41, 0x5A), (0x5F, 0x5F), (0x61, 0x7A)]
  | xdigit => [(0x30, 0x39), (0x41, 0x46), (0x61, 0x66)]

end AsciiClass

/-- The classes with one letter. -/
inductive LetterClass
  | digit
  | space
  | word
deriving DecidableEq, Repr, Inhabited

/-- How a property of characters is asked for. -/
inductive Query
  | name (name : Text)
  | value (name value : Text)
deriving DecidableEq, Repr, Inhabited

/-! ## Sets in brackets -/

/-- How two sets are combined. -/
inductive SetOperator
  | intersection
  | difference
  | symmetricDifference
deriving DecidableEq, Repr, Inhabited

/-- A set as it is written between brackets. -/
inductive SetTree
  | empty (span : Span)
  | literal (l : Literal)
  | range (span : Span) (first last : Literal)
  | ascii (span : Span) (kind : AsciiClass) (negated : Bool)
  | letter (span : Span) (kind : LetterClass) (negated : Bool)
  | property (span : Span) (query : Query) (negated : Bool)
  | bracket (span : Span) (negated : Bool) (inner : SetTree)
  | union (span : Span) (parts : List SetTree)
  | combined (span : Span) (operator : SetOperator) (left right : SetTree)
deriving Repr, Inhabited

/-- Where a set is written. -/
def SetTree.span : SetTree → Span
  | empty s | range s .. | ascii s .. | letter s .. | property s .. | bracket s .. | union s _
  | combined s .. => s
  | literal l => l.span

/-! ## Trees -/

/-- What a flag changes. -/
inductive Flag
  | ignoreCase
  | multiLine
  | dotAll
  | lazy
  | unicode
  | crlf
  | spaced
deriving DecidableEq, Repr, Inhabited

/-- The flag with a letter. -/
def Flag.ofChar? (c : Char) : Option Flag :=
  if c = 'i' then some ignoreCase
  else if c = 'm' then some multiLine
  else if c = 's' then some dotAll
  else if c = 'U' then some lazy
  else if c = 'u' then some unicode
  else if c = 'R' then some crlf
  else if c = 'x' then some spaced
  else none

/-- Flags, each set or cleared. -/
abbrev Flags := List (Flag × Bool)

/-- The state that some flags give one flag, if they give it one. -/
def Flags.state? (flags : Flags) (flag : Flag) : Option Bool :=
  (flags.find? fun (f, _) => f = flag).map Prod.snd

/-- A pattern as it is written. -/
inductive Tree
  | empty
  | flags (flags : Flags)
  | literal (l : Literal)
  | dot (span : Span)
  | assertion (span : Span) (kind : Assertion)
  | letter (span : Span) (kind : LetterClass) (negated : Bool)
  | property (span : Span) (query : Query) (negated : Bool)
  | bracket (span : Span) (negated : Bool) (inner : SetTree)
  | repetition (span : Span) (least : Nat) (most : Option Nat) (sub : Tree)
  | group (span : Span) (captures : Bool) (flags : Flags) (sub : Tree)
  | branches (span : Span) (parts : List Tree)
  | sequence (span : Span) (parts : List Tree)
deriving Repr, Inhabited

/-- Where the part of a pattern is written; for the parts without a place of their own, the start. -/
def Tree.span : Tree → Span
  | empty | flags _ => .point .start
  | literal l => l.span
  | dot s | assertion s _ | letter s .. | property s .. | bracket s .. | repetition s ..
  | group s .. | branches s _ | sequence s _ => s

end CoverageOverlay.Regex
