-- SUMMARY: Readers of values, with arrays and inline tables, and of keys with dots.
import CoverageOverlay.Toml.Node
import CoverageOverlay.Toml.Scalar

/-!
# Values

Arrays may run over lines, with comments and a comma after the last item;
inline tables may not. Values nest less than eighty deep, and a key has fewer
than eighty parts.
-/

namespace CoverageOverlay.Toml

/-- The depth that values must not reach, and the number of parts that a key must not have. -/
def nestingLimit : Nat := 80

/-- The part of `t` before `rest`, which is an end of `t`. -/
def spanTo (t rest : Text) : Span := ⟨t.length, rest.length⟩

/-- A key of at most `parts` parts with dots between them, and the text after the blanks that follow. -/
def keyPath? : (parts : Nat) → Text → Option (List Key × Text)
  | 0, _ => none
  | parts + 1, t =>
    let t := skipBlanks t
    match simpleKey? t with
    | none => none
    | some (name, rest) =>
      let key : Key := ⟨name, spanTo t rest⟩
      match skipBlanks rest with
      | '.' :: rest => (keyPath? parts rest).map fun (path, rest) => (key :: path, rest)
      | rest => some ([key], rest)

/-- A key and the text after its equals sign and the blanks there. -/
def assignment? (t : Text) : Option (List Key × Text) :=
  match keyPath? (nestingLimit - 1) t with
  | some (path, '=' :: rest) => some (path, skipBlanks rest)
  | _ => none

/-- True or false. -/
def boolean? : Text → Option (Bool × Text)
  | 't' :: 'r' :: 'u' :: 'e' :: rest => some (true, rest)
  | 'f' :: 'a' :: 'l' :: 's' :: 'e' :: rest => some (false, rest)
  | _ => none

/-- A value that holds no other values. -/
def scalar? (t : Text) : Option (Node × Text) :=
  match string? t, boolean? t, datetime? t, float? t, integer? t with
  | some (s, rest), _, _, _, _ => some (.string s (spanTo t rest), rest)
  | _, some (b, rest), _, _, _ => some (.boolean b (spanTo t rest), rest)
  | _, _, some rest, _, _ => some (.datetime (spanTo t rest), rest)
  | _, _, _, some (x, rest), _ => some (.float x (spanTo t rest), rest)
  | _, _, _, _, some (n, rest) => some (.integer n (spanTo t rest), rest)
  | _, _, _, _, _ => none

mutual

/-- A value inside `depth` others. -/
def valueAt? : (fuel depth : Nat) → Text → Option (Node × Text)
  | 0, _, _ => none
  | fuel + 1, depth, t =>
    match t with
    | '[' :: rest =>
      if depth + 1 ≥ nestingLimit then none
      else
        (items? fuel (depth + 1) [] rest).map fun (items, rest) =>
          (.array items (spanTo t rest), rest)
    | '{' :: rest =>
      if depth + 1 ≥ nestingLimit then none
      else
        let rest := skipBlanks rest
        match rest with
        | '}' :: rest => some (.inline [] (spanTo t rest), rest)
        | _ =>
          (pairs? fuel (depth + 1) [] rest).map fun (entries, rest) =>
            (.inline entries (spanTo t rest), rest)
    | _ => scalar? t

/-- The items of an array after the items `found`, last first, up to the closing bracket. -/
def items? : (fuel depth : Nat) → List Node → Text → Option (List Node × Text)
  | 0, _, _, _ => none
  | fuel + 1, depth, found, t =>
    match skipFiller false t with
    | ']' :: rest => some (found.reverse, rest)
    | t =>
      match valueAt? fuel depth t with
      | none => none
      | some (item, rest) =>
        match skipFiller false rest with
        | ',' :: rest => items? fuel depth (item :: found) rest
        | ']' :: rest => some ((item :: found).reverse, rest)
        | _ => none

/-- The entries of an inline table after those found, up to the closing brace. -/
def pairs? : (fuel depth : Nat) → Entries → Text → Option (Entries × Text)
  | 0, _, _, _ => none
  | fuel + 1, depth, entries, t =>
    match assignment? t with
    | none => none
    | some (path, rest) =>
      match valueAt? fuel depth rest, path.getLast? with
      | some (node, rest), some key =>
        match entries.addDotted? key node path.dropLast with
        | none => none
        | some entries =>
          match skipBlanks rest with
          | ',' :: rest => pairs? fuel depth entries rest
          | '}' :: rest => some (entries, rest)
          | _ => none
      | _, _ => none

end

/-- A value. Two steps are enough for every character of the text. -/
def value? (t : Text) : Option (Node × Text) :=
  valueAt? (2 * t.length + 2) 0 t

end CoverageOverlay.Toml
