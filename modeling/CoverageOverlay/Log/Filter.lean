-- SUMMARY: Which events are shown, by a specification of sources and levels, and how they are shown.
import CoverageOverlay.Log.Logged
import CoverageOverlay.Regex.Basic
import CoverageOverlay.Text.Controls

/-!
# Log filters

A filter is written as directives with commas between them, each a level, the
beginning of a source's name, or both with an equals sign between them. Of the
directives whose name begins the name of a source, the one with the longest
name decides; a directive without a name decides for all sources. After a slash
stands a pattern that must match a part of a message.
-/

namespace CoverageOverlay.Log

/-! ## Filters -/

/-- A level for the sources whose names begin with a name. -/
structure Directive where
  name : Text
  /-- Whether a name was given; the empty name can be given too. -/
  named : Bool
  /-- The greatest rank that passes. -/
  rank : Nat
deriving DecidableEq, Repr, Inhabited

/-- Which events are shown. -/
structure Filter where
  /-- The directives, the one that decides last. -/
  directives : List Directive
  /-- What must match a part of a message. -/
  pattern : Option Regex.Pattern
deriving DecidableEq, Repr, Inhabited

namespace Filter

/-- Whether an event is shown. -/
def allows (f : Filter) (e : Event) : Bool :=
  let decides (d : Directive) := d.name.isPrefixOf e.source.target.toList
  match f.directives.reverse.find? decides with
  | some d => e.level.rank ≤ d.rank && f.pattern.all (·.occursIn e.message.toList)
  | none => false

/-! ## Reading specifications -/

/-- A text without the white space around it. -/
def trim (t : Text) : Text :=
  ((t.dropWhile Text.isBlankChar).reverse.dropWhile Text.isBlankChar).reverse

/-- The rank of the level with a name, in letters of either case; `off` has rank zero. -/
def rankOf? (name : Text) : Option Nat :=
  let upper := String.ofList (name.map Char.toUpper)
  if upper = "OFF" then some 0
  else (Level.all.find? (·.name = upper)).map Level.rank

/-- The greatest rank. -/
def maxRank : Nat := Level.trace.rank

/-- One directive, or the part of it that means nothing. -/
def directive (t : Text) : Except Text Directive :=
  match t.splitOn '=' with
  | [part] =>
    match rankOf? part with
    | some rank => .ok ⟨[], false, rank⟩
    | none => .ok ⟨part, true, maxRank⟩
  | [name, level] =>
    let level := trim level
    if level = [] then .ok ⟨name, true, maxRank⟩
    else
      match rankOf? level with
      | some rank => .ok ⟨name, true, rank⟩
      | none => .error level
  | _ => .error t

/-- Add a directive; one of the same name is replaced. -/
def insert (d : Directive) : List Directive → List Directive
  | [] => [d]
  | e :: rest => if e.named = d.named ∧ e.name = d.name then d :: rest else e :: insert d rest

/-- The filter for some directives. Without any, only errors are shown. -/
def ofDirectives (directives : List Directive) (pattern : Option Regex.Pattern) : Filter :=
  let directives := directives.foldl (fun ds d => insert d ds) []
  if directives = [] then ⟨[⟨[], false, Level.error.rank⟩], pattern⟩
  else
    ⟨directives.mergeSort fun a b => Text.byteLength a.name ≤ Text.byteLength b.name, pattern⟩

/-- The warning about a part of a specification that is not heeded. -/
def ignored (reason : Text) : Text :=
  "warning: ".toList ++ reason ++ ", ignoring it\n".toList

/-- The pattern that a text stands for, if any is given, and the warning if it cannot be read. -/
def readPattern : Option Text → Option Regex.Pattern × Text
  | none => (none, [])
  | some t =>
    match Regex.Pattern.ofText t with
    | .ok p => (some p, [])
    | .error why => (none, ignored ("invalid regex filter - ".toList ++ why))

/-- The filter for a specification, and the warnings about what is not heeded in it. -/
def parse (spec : Text) : Filter × Text :=
  let invalid (part : Text) : Text := "invalid logging spec '".toList ++ part ++ ['\'']
  match spec.splitOn '/' with
  | [] => (ofDirectives [] none, [])
  | modules :: rest =>
    if rest.length > 1 then
      (ofDirectives [] none, ignored (invalid spec ++ " (too many '/'s)".toList))
    else
      let parts := ((modules.splitOn ',').map trim).filter (· ≠ [])
      let read := parts.map directive
      let directives := read.filterMap Except.toOption
      let warnings := read.flatMap fun
        | .ok _ => []
        | .error part => ignored (invalid part)
      let (pattern, warning) := readPattern rest.head?
      (ofDirectives directives pattern, warnings ++ warning)

end Filter

/-! ## Showing events -/

/-- An event as a line for people, without control sequences; further lines of a message are
indented. -/
def Event.shown (e : Event) : Text :=
  let level := e.level.name.toList
  let message :=
    e.message.toList.flatMap fun c => if c = '\n' then '\n' :: List.replicate 4 ' ' else [c]
  Text.withoutControls
    (['['] ++ level ++ List.replicate (6 - level.length) ' ' ++ e.source.target.toList
      ++ [']', ' '] ++ message ++ ['\n'])

/-- The lines for the events that a filter allows. -/
def Filter.shown (f : Filter) (events : List Event) : Text :=
  (events.filter f.allows).flatMap Event.shown

end CoverageOverlay.Log
