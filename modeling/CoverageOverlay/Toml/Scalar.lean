-- SUMMARY: Readers of keys, strings, numbers, dates and times.
import CoverageOverlay.Numeral
import CoverageOverlay.Decimal.Double
import CoverageOverlay.Text.Basic

/-!
# Scalars

A reader takes a text and gives what it read at the beginning of the text
together with the text after it, or nothing if the text does not begin with
what is asked for.
-/

namespace CoverageOverlay.Toml

/-! ## Blanks and line ends -/

/-- Whether a character is a blank inside a line. -/
def isBlank (c : Char) : Bool := c = ' ' || c = '\t'

/-- Whether a character may stand in a comment. -/
def isCommentChar (c : Char) : Bool :=
  c = '\t' || (0x20 ≤ c.toNat && c.toNat ≠ 0x7F)

/-- The text after its leading blanks. -/
def skipBlanks (t : Text) : Text := t.dropWhile isBlank

/-- The text after a line end. -/
def newline? : Text → Option Text
  | '\n' :: rest => some rest
  | '\r' :: '\n' :: rest => some rest
  | _ => none

/-- The text after the rest of a line, which holds at most a comment. -/
def lineRest? (t : Text) : Option Text :=
  let t := skipBlanks t
  let t := if t.head? = some '#' then t.dropWhile isCommentChar else t
  if t = [] then some [] else newline? t

/-- The text after blanks, line ends and comments. -/
def skipFiller (inComment : Bool) : Text → Text
  | [] => []
  | '\n' :: rest => skipFiller false rest
  | '\r' :: '\n' :: rest => skipFiller false rest
  | c :: rest =>
    if inComment then if isCommentChar c then skipFiller true rest else c :: rest
    else if isBlank c then skipFiller false rest
    else if c = '#' then skipFiller true rest
    else c :: rest

/-! ## Strings -/

/-- The value of a hexadecimal digit. -/
def hexDigit? (c : Char) : Option Nat :=
  if '0' ≤ c ∧ c ≤ '9' then some (c.toNat - '0'.toNat)
  else if 'a' ≤ c ∧ c ≤ 'f' then some (c.toNat - 'a'.toNat + 10)
  else if 'A' ≤ c ∧ c ≤ 'F' then some (c.toNat - 'A'.toNat + 10)
  else none

/-- The character whose code point is given by hexadecimal digits. -/
def hexChar? (digits : Text) : Option Char := do
  let n := (← digits.mapM hexDigit?).foldl (fun n d => 16 * n + d) 0
  if h : n.isValidChar then return Char.ofNatAux n h else none

/-- The character that an escape stands for, read after its backslash. -/
def escape? : Text → Option (Char × Text)
  | 'b' :: rest => some ('\x08', rest)
  | 't' :: rest => some ('\t', rest)
  | 'n' :: rest => some ('\n', rest)
  | 'f' :: rest => some ('\x0C', rest)
  | 'r' :: rest => some ('\r', rest)
  | '"' :: rest => some ('"', rest)
  | '\\' :: rest => some ('\\', rest)
  | 'u' :: a :: b :: c :: d :: rest => (hexChar? [a, b, c, d]).map (·, rest)
  | 'U' :: a :: b :: c :: d :: e :: f :: g :: h :: rest =>
    (hexChar? [a, b, c, d, e, f, g, h]).map (·, rest)
  | _ => none

theorem length_lt_of_escape? {t rest : Text} {c : Char} (h : escape? t = some (c, rest)) :
    rest.length < t.length := by
  unfold escape? at h
  split at h <;> simp only [Option.some.injEq, Prod.mk.injEq, Option.map_eq_some_iff, reduceCtorEq] at h
  all_goals first
    | (obtain ⟨-, rfl⟩ := h; simp only [List.length_cons]; omega)
    | (obtain ⟨_, -, -, rfl⟩ := h; simp only [List.length_cons]; omega)

/-- The rest of a string after its opening quote; `read` holds what was read so far, last first. -/
def basicBody? (read : Text) : Text → Option (Text × Text)
  | [] => none
  | c :: rest =>
    if c = '"' then some (read.reverse, rest)
    else if c = '\\' then
      match _h : escape? rest with
      | some (e, rest) => basicBody? (e :: read) rest
      | none => none
    else if isCommentChar c then basicBody? (c :: read) rest
    else none
termination_by t => t.length
decreasing_by
  · have := length_lt_of_escape? _h; simp only [List.length_cons]; omega
  · simp

/-- The end of a string over several lines, read after three quotes: up to two more quotes belong to the
string. -/
def closing (quote : Char) (read : Text) (t : Text) : Text × Text :=
  match t with
  | a :: b :: rest =>
    if a = quote ∧ b = quote then ((quote :: quote :: read).reverse, rest)
    else if a = quote then ((quote :: read).reverse, b :: rest)
    else (read.reverse, t)
  | [a] => if a = quote then ((quote :: read).reverse, []) else (read.reverse, t)
  | [] => (read.reverse, [])

/-- The text after blanks and line ends. -/
def skipLines : Text → Text
  | '\n' :: rest => skipLines rest
  | '\r' :: '\n' :: rest => skipLines rest
  | c :: rest => if isBlank c then skipLines rest else c :: rest
  | [] => []

theorem length_skipLines_le (t : Text) : (skipLines t).length ≤ t.length := by
  induction t using skipLines.induct with
  | case1 rest ih => simp only [skipLines, List.length_cons]; omega
  | case2 rest ih => simp only [skipLines, List.length_cons]; omega
  | case3 c rest _ _ hb ih => rw [skipLines] <;> simp_all; omega
  | case4 c rest _ _ hb => rw [skipLines] <;> simp_all
  | case5 => simp [skipLines]

theorem length_lt_of_newline? {t rest : Text} (h : newline? t = some rest) :
    rest.length < t.length := by
  unfold newline? at h
  split at h <;> simp only [Option.some.injEq, reduceCtorEq] at h
  all_goals subst h; simp only [List.length_cons]; omega

theorem length_skipBlanks_le (t : Text) : (skipBlanks t).length ≤ t.length :=
  (List.dropWhile_sublist _).length_le

/-- The rest of a string over several lines after its opening quotes. A backslash at the end of a line
leaves out the line end and the blanks and lines after it. -/
def multilineBody? (read : Text) : Text → Option (Text × Text)
  | [] => none
  | '"' :: '"' :: '"' :: rest => some (closing '"' read rest)
  | '\r' :: '\n' :: rest => multilineBody? ('\n' :: read) rest
  | c :: rest =>
    if c = '\\' then
      match _hn : newline? (skipBlanks rest) with
      | some rest' => multilineBody? read (skipLines rest')
      | none =>
        match _he : escape? rest with
        | some (e, rest) => multilineBody? (e :: read) rest
        | none => none
    else if c = '\n' ∨ isCommentChar c then multilineBody? (c :: read) rest
    else none
termination_by t => t.length
decreasing_by
  · simp only [List.length_cons]; omega
  · have h₁ := length_lt_of_newline? _hn
    have h₂ := length_skipBlanks_le rest
    have h₃ := length_skipLines_le rest'
    simp only [List.length_cons]; omega
  · have := length_lt_of_escape? _he
    simp only [List.length_cons]; omega
  · simp

/-- The rest of a literal string over several lines after its opening quotes. -/
def literalBody? (read : Text) : Text → Option (Text × Text)
  | [] => none
  | '\'' :: '\'' :: '\'' :: rest => some (closing '\'' read rest)
  | '\r' :: '\n' :: rest => literalBody? ('\n' :: read) rest
  | c :: rest => if c = '\n' ∨ isCommentChar c then literalBody? (c :: read) rest else none

/-- A literal string on one line, read after its opening quote. -/
def literal? (t : Text) : Option (Text × Text) :=
  match t.dropWhile fun c => isCommentChar c && c ≠ '\'' with
  | '\'' :: rest => some (t.takeWhile fun c => isCommentChar c && c ≠ '\'', rest)
  | _ => none

/-- The text after a line end at its beginning, if there is one. -/
def dropNewline (t : Text) : Text := (newline? t).getD t

/-- A string of any of the four forms. -/
def string? : Text → Option (Text × Text)
  | '"' :: '"' :: '"' :: rest => multilineBody? [] (dropNewline rest)
  | '"' :: rest => basicBody? [] rest
  | '\'' :: '\'' :: '\'' :: rest => literalBody? [] (dropNewline rest)
  | '\'' :: rest => literal? rest
  | _ => none

/-! ## Keys -/

/-- Whether a character may stand in a key without quotes. -/
def isKeyChar (c : Char) : Bool :=
  c.isAlphanum || c = '_' || c = '-'

/-- One key, with or without quotes. -/
def simpleKey? : Text → Option (Text × Text)
  | '"' :: rest => basicBody? [] rest
  | '\'' :: rest => literal? rest
  | t =>
    let name := t.takeWhile isKeyChar
    if name = [] then none else some (name, t.dropWhile isKeyChar)

/-! ## Numbers -/

/-- A run of characters of a class in which single underscores may stand between two of them. -/
def run? (inClass : Char → Bool) (t : Text) : Option (Text × Text) :=
  match t with
  | [] => none
  | c :: rest => if inClass c then some (go [c] rest) else none
where
  /-- Go on after the characters `read`, last first. -/
  go (read : Text) : Text → Text × Text
    | '_' :: c :: rest => if inClass c then go (c :: read) rest else (read.reverse, '_' :: c :: rest)
    | c :: rest => if inClass c then go (c :: read) rest else (read.reverse, c :: rest)
    | [] => (read.reverse, [])

/-- A sign: whether it is a minus. -/
def sign : Text → Bool × Text
  | '-' :: rest => (true, rest)
  | '+' :: rest => (false, rest)
  | t => (false, t)

/-- Digits without a leading zero, or a single zero. -/
def wholeDigits? : Text → Option (Text × Text)
  | '0' :: rest => some (['0'], rest)
  | t => run? Numeral.isDigit t

/-- The decimal exponent of a number, if one follows. -/
def exponent? : Text → Option (Int × Text)
  | c :: rest =>
    if c = 'e' ∨ c = 'E' then
      let (negative, rest) := sign rest
      (run? Numeral.isDigit rest).map fun (digits, rest) =>
        (if negative then -(Numeral.value digits : Int) else Numeral.value digits, rest)
    else none
  | [] => none

/-- The digits before and after the point as one run, the power of ten that they count, and the text
after the number. A number without a point needs an exponent. -/
def decimalParts? (t : Text) : Option (Text × Int × Text) :=
  (wholeDigits? t).bind fun (whole, rest) =>
    match rest with
    | '.' :: rest =>
      (run? Numeral.isDigit rest).map fun (fraction, rest) =>
        let (e, rest) := (exponent? rest).getD (0, rest)
        (whole ++ fraction, e - fraction.length, rest)
    | _ => (exponent? rest).map fun (e, rest) => (whole, e, rest)

/-- A number with a fraction or an exponent. A positive one must not be too large. -/
def decimal? (t : Text) : Option (Double × Text) :=
  let (negative, rest) := sign t
  ((decimalParts? rest).map fun (digits, e, rest) =>
    (Double.ofDecimal negative (Numeral.value digits) e, rest)).filter fun (x, _) =>
      x ≠ .infinite false

/-- An infinity, or no number. -/
def special? (t : Text) : Option (Double × Text) :=
  let (negative, rest) := sign t
  match rest with
  | 'i' :: 'n' :: 'f' :: rest => some (.infinite negative, rest)
  | 'n' :: 'a' :: 'n' :: rest => some (.nan, rest)
  | _ => none

/-- A number with a fraction or an exponent, or a special one. -/
def float? (t : Text) : Option (Double × Text) :=
  (decimal? t).orElse fun _ => special? t

/-- The value of digits in a base. -/
def valueIn (base : Nat) (digits : Text) : Nat :=
  digits.foldl (fun n c => base * n + (hexDigit? c).getD 0) 0

/-- Whether a character is a digit in a base. -/
def isDigitIn (base : Nat) (c : Char) : Bool :=
  (hexDigit? c).any (· < base)

/-- Digits in a base. -/
def based? (base : Nat) (t : Text) : Option (Int × Text) :=
  (run? (isDigitIn base) t).map fun (digits, rest) => ((valueIn base digits : Int), rest)

/-- A whole number of any size. -/
def whole? : Text → Option (Int × Text)
  | '0' :: 'x' :: rest => based? 16 rest
  | '0' :: 'o' :: rest => based? 8 rest
  | '0' :: 'b' :: rest => based? 2 rest
  | t =>
    let (negative, rest) := sign t
    (wholeDigits? rest).map fun (digits, rest) =>
      (if negative then -(Numeral.value digits : Int) else Numeral.value digits, rest)

/-- A whole number of 64 bits. -/
def integer? (t : Text) : Option (Int × Text) :=
  (whole? t).filter fun (n, _) => Int64.minValue.toInt ≤ n && n ≤ Int64.maxValue.toInt

/-! ## Dates and times -/

/-- A number of exactly `count` digits between two bounds. -/
def field? (count low high : Nat) (t : Text) : Option (Nat × Text) :=
  let digits := t.take count
  if digits.length = count ∧ digits.all Numeral.isDigit ∧ low ≤ Numeral.value digits ∧
      Numeral.value digits ≤ high then
    some (Numeral.value digits, t.drop count)
  else none

/-- The text after a character. -/
def after? (c : Char) : Text → Option Text
  | d :: rest => if c = d then some rest else none
  | [] => none

/-- The number of days of a month. -/
def daysIn (year month : Nat) : Nat :=
  if month = 2 then
    if year % 4 = 0 ∧ (year % 100 ≠ 0 ∨ year % 400 = 0) then 29 else 28
  else if month = 4 ∨ month = 6 ∨ month = 9 ∨ month = 11 then 30
  else 31

/-- The text after a date. -/
def date? (t : Text) : Option Text := do
  let (year, t) ← field? 4 0 9999 t
  let (month, t) ← field? 2 1 12 (← after? '-' t)
  let (_, t) ← field? 2 1 (daysIn year month) (← after? '-' t)
  return t

/-- The text after the fraction of a second, if there is one. -/
def secondFraction (t : Text) : Text :=
  match t with
  | '.' :: rest =>
    if (rest.takeWhile Numeral.isDigit) = [] then t else rest.dropWhile Numeral.isDigit
  | _ => t

/-- The text after a time of day. -/
def time? (t : Text) : Option Text := do
  let (_, t) ← field? 2 0 23 t
  let (_, t) ← field? 2 0 59 (← after? ':' t)
  let (_, t) ← field? 2 0 60 (← after? ':' t)
  return secondFraction t

/-- The text after the distance from universal time. -/
def offset? : Text → Option Text
  | [] => none
  | c :: rest =>
    if c = 'Z' ∨ c = 'z' then some rest
    else if c = '+' ∨ c = '-' then do
      let (_, t) ← field? 2 0 23 rest
      let (_, t) ← field? 2 0 59 (← after? ':' t)
      return t
    else none

/-- The text after a date, a time, or a date with a time. -/
def datetime? (t : Text) : Option Text :=
  match date? t with
  | none => time? t
  | some rest =>
    match rest with
    | [] => some []
    | c :: later =>
      if c = 'T' ∨ c = 't' ∨ c = ' ' then
        match time? later with
        | some rest => some ((offset? rest).getD rest)
        | none => some rest
      else some rest

end CoverageOverlay.Toml
