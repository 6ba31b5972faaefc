import Morphing.Budget
import Morphing.Json.Basic

/-!
# Reading JSON

`Json.parse?` reads a text that holds one value and nothing else but blanks. Every second step of
the recursion uses up a character, so twice the length of the text bounds its depth.
-/

namespace Morphing.Json

/-- Leave out leading blanks. -/
def skipBlanks (t : Text) : Text :=
  t.dropWhile fun c => c == ' ' || c == '\t' || c == '\n' || c == '\r'

/-- The value of a digit to base sixteen. -/
def hexDigit? (c : Char) : Option Nat :=
  if '0' ≤ c ∧ c ≤ '9' then some (c.toNat - 0x30)
  else if 'a' ≤ c ∧ c ≤ 'f' then some (c.toNat - 0x61 + 10)
  else if 'A' ≤ c ∧ c ≤ 'F' then some (c.toNat - 0x41 + 10)
  else none

/-- The number that four digits to base sixteen stand for. -/
def codeUnit? (a b c d : Char) : Option Nat := do
  return ((← hexDigit? a) * 16 + (← hexDigit? b)) * 256 + (← hexDigit? c) * 16 + (← hexDigit? d)

/-- The character that an escape of one letter stands for. -/
def escaped? (c : Char) : Option Char :=
  match c with
  | '"' | '\\' | '/' => some c
  | 'b' => some '\x08'
  | 'f' => some '\x0c'
  | 'n' => some '\n'
  | 'r' => some '\r'
  | 't' => some '\t'
  | _ => none

/-- Read a string after its opening quote. Characters above `U+FFFF` may be written as two escapes,
one for each half of a surrogate pair. -/
def string? : Text → Option (Text × Text)
  | '"' :: rest => some ([], rest)
  | '\\' :: 'u' :: a :: b :: c :: d :: rest =>
    match codeUnit? a b c d with
    | none => none
    | some unit =>
      if 0xD800 ≤ unit ∧ unit < 0xDC00 then
        match rest with
        | '\\' :: 'u' :: a :: b :: c :: d :: rest =>
          match codeUnit? a b c d with
          | none => none
          | some low =>
            if 0xDC00 ≤ low ∧ low < 0xE000 then
              let code := 0x10000 + (unit - 0xD800) * 0x400 + (low - 0xDC00)
              (string? rest).map fun (s, rest) => (Char.ofNat code :: s, rest)
            else none
        | _ => none
      else if 0xDC00 ≤ unit ∧ unit < 0xE000 then none
      else (string? rest).map fun (s, rest) => (Char.ofNat unit :: s, rest)
  | '\\' :: c :: rest =>
    match escaped? c with
    | none => none
    | some c => (string? rest).map fun (s, rest) => (c :: s, rest)
  | c :: rest =>
    if c.toNat < 0x20 ∨ c = '\\' then none
    else (string? rest).map fun (s, rest) => (c :: s, rest)
  | [] => none

/-- The number that decimal digits stand for. -/
def ofDigits (digits : Text) : Nat := digits.foldl (fun n c => n * 10 + (c.toNat - 0x30)) 0

/-- Read the digits at the beginning of a text. -/
def digits (t : Text) : Text × Text := t.span Char.isDigit

/-- Read the fraction of a number, if it has one. -/
def fraction? : Text → Option (Text × Text)
  | '.' :: t =>
    match digits t with
    | ([], _) => none
    | r => some r
  | t => some ([], t)

/-- Read the exponent of a number, if it has one. -/
def exponent? (t : Text) : Option (Option Int × Text) :=
  let unsigned (t : Text) : Option (Nat × Text) :=
    match digits t with
    | ([], _) => none
    | (ds, rest) => some (ofDigits ds, rest)
  match t with
  | 'e' :: '-' :: t | 'E' :: '-' :: t => (unsigned t).map fun (n, t) => (some (-(n : Int)), t)
  | 'e' :: '+' :: t | 'E' :: '+' :: t => (unsigned t).map fun (n, t) => (some (n : Int), t)
  | 'e' :: t | 'E' :: t => (unsigned t).map fun (n, t) => (some (n : Int), t)
  | t => some (none, t)

/-- Append digits to a number as long as it fits 64 bits. The result has the digits that are
left. -/
def appendDigits (n : Nat) : Text → Nat × Text
  | [] => (n, [])
  | c :: rest =>
    let next := n * 10 + (c.toNat - 0x30)
    if next ≤ maxWord then appendDigits next rest else (n, c :: rest)

/-- The number with the given parts. Of a decimal only the digits that fit 64 bits count. -/
def ofParts? (negative : Bool) (whole fraction : Text) (exponent : Option Int) : Option Json :=
  let n := ofDigits whole
  let integral := fraction.isEmpty && exponent.isNone
  if integral && !negative && n ≤ maxWord then some (.integer n)
  else if integral && negative && 0 < n && n ≤ Nat.pow 2 63 then some (.integer (-(n : Int)))
  else
    let (significand, tail) := appendDigits 0 whole
    let (significand, rest) := appendDigits significand fraction
    let scale := (tail.length : Int) - (fraction.length - rest.length : Nat) + exponent.getD 0
    (Double.ofScientific? significand scale).map fun d => .decimal (.ofDouble negative d)

/-- Read a number. -/
def number? (t : Text) : Option (Json × Text) := do
  let (negative, t) := match t with
    | '-' :: t => (true, t)
    | t => (false, t)
  let (whole, t) := digits t
  if whole.isEmpty || (whole.head? == some '0' && 1 < whole.length) then none
  else
    let (fraction, t) ← fraction? t
    let (exponent, t) ← exponent? t
    let value ← ofParts? negative whole fraction exponent
    return (value, t)

/-- Read a word that stands for a value. -/
def keyword? (word : String) (value : Json) (t : Text) : Option (Json × Text) :=
  if word.toList.isPrefixOf t then some (value, t.drop word.length) else none

mutual

/-- Read a value in at most `depth` nested steps. -/
def value? : (depth : Nat) → Text → Option (Json × Text)
  | 0, _ => none
  | depth + 1, t =>
    match skipBlanks t with
    | '"' :: t => (string? t).map fun (s, t) => (.string s, t)
    | '[' :: t =>
      match skipBlanks t with
      | ']' :: t => some (.array [], t)
      | t => (items? depth t).map fun (items, t) => (.array items, t)
    | '\x7b' :: t =>
      match skipBlanks t with
      | '\x7d' :: t => some (.object [], t)
      | t => (fields? depth t).map fun (fields, t) => (.object (members fields), t)
    | 'n' :: t => keyword? "null" .null ('n' :: t)
    | 't' :: t => keyword? "true" (.bool true) ('t' :: t)
    | 'f' :: t => keyword? "false" (.bool false) ('f' :: t)
    | t => number? t

/-- Read the items of an array, and its end. -/
def items? : (depth : Nat) → Text → Option (List Json × Text)
  | 0, _ => none
  | depth + 1, t =>
    match value? depth t with
    | none => none
    | some (item, t) =>
      match skipBlanks t with
      | ',' :: t => (items? depth t).map fun (items, t) => (item :: items, t)
      | ']' :: t => some ([item], t)
      | _ => none

/-- Read the members of an object, and its end. -/
def fields? : (depth : Nat) → Text → Option (List (Text × Json) × Text)
  | 0, _ => none
  | depth + 1, t =>
    match skipBlanks t with
    | '"' :: t =>
      match string? t with
      | none => none
      | some (key, t) =>
        match skipBlanks t with
        | ':' :: t =>
          match value? depth t with
          | none => none
          | some (value, t) =>
            match skipBlanks t with
            | ',' :: t => (fields? depth t).map fun (fields, t) => ((key, value) :: fields, t)
            | '\x7d' :: t => some ([(key, value)], t)
            | _ => none
        | _ => none
    | _ => none

end

/-- Read a text that holds one value. -/
def parse? (t : Text) : Option Json :=
  match value? (2 * t.length + 2) t with
  | some (value, rest) => if (skipBlanks rest).isEmpty then some value else none
  | none => none

end Morphing.Json
