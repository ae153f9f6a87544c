import BloodStakes.Json.Value

/-! Reading JSON text strictly: no comments, no trailing commas, no leading zeros, no raw
control characters in strings, nothing but blanks after the value. -/
namespace BloodStakes.Json.Reader

def isBlank (c : Char) : Bool :=
  c = ' ' ∨ c = '\n' ∨ c = '\t' ∨ c = '\r'

def skipBlank (cs : List Char) : List Char :=
  cs.dropWhile isBlank

def hexDigit? (c : Char) : Option Nat :=
  if '0' ≤ c ∧ c ≤ '9' then some (c.toNat - '0'.toNat)
  else if 'a' ≤ c ∧ c ≤ 'f' then some (c.toNat - 'a'.toNat + 10)
  else if 'A' ≤ c ∧ c ≤ 'F' then some (c.toNat - 'A'.toNat + 10)
  else none

def hexUnit? (a b c d : Char) : Option Nat := do
  return (((← hexDigit? a) * 16 + (← hexDigit? b)) * 16 + (← hexDigit? c)) * 16 + (← hexDigit? d)

/-- What stands in a string: a character, or half of a surrogate pair. -/
inductive Piece where
  | char (c : Char)
  | high (offset : Nat)
  | low (offset : Nat)

def Piece.ofUnit (unit : Nat) : Piece :=
  if 0xd800 ≤ unit ∧ unit < 0xdc00 then .high (unit - 0xd800)
  else if 0xdc00 ≤ unit ∧ unit < 0xe000 then .low (unit - 0xdc00)
  else .char (Char.ofNat unit)

/-- Joins the halves that stand side by side; `none` if one stands alone. -/
def Piece.text? : List Piece → Option (List Char)
  | [] => some []
  | .char c :: rest => (Piece.text? rest).map (c :: ·)
  | .high h :: .low l :: rest =>
    (Piece.text? rest).map (Char.ofNat (0x10000 + h * 0x400 + l) :: ·)
  | _ => none

def escaped? : Char → Option Char
  | '"' => some '"'
  | '\\' => some '\\'
  | '/' => some '/'
  | 'b' => some '\x08'
  | 'f' => some '\x0c'
  | 'n' => some '\n'
  | 'r' => some '\r'
  | 't' => some '\t'
  | _ => none

/-- The rest of a string whose opening quote has been read; `acc` holds its pieces so far,
the latest first. -/
def string (acc : List Piece) : List Char → Option (Option String × List Char)
  | [] => none
  | '"' :: rest => some ((Piece.text? acc.reverse).map String.ofList, rest)
  | '\\' :: 'u' :: a :: b :: c :: d :: rest =>
    match hexUnit? a b c d with
    | some unit => string (.ofUnit unit :: acc) rest
    | none => none
  | '\\' :: c :: rest =>
    match escaped? c with
    | some c => string (.char c :: acc) rest
    | none => none
  | c :: rest => if c.toNat < 0x20 then none else string (.char c :: acc) rest

def digits (cs : List Char) : List Nat × List Char :=
  ((cs.takeWhile Char.isDigit).map fun c => c.toNat - '0'.toNat, cs.dropWhile Char.isDigit)

def someDigits (cs : List Char) : Option (List Nat × List Char) :=
  match digits cs with
  | ([], _) => none
  | found => some found

def exponent : List Char → Option (Option (Bool × List Nat) × List Char)
  | c :: rest =>
    if c = 'e' ∨ c = 'E' then do
      let (negative, rest) := match rest with
        | '-' :: rest => (true, rest)
        | '+' :: rest => (false, rest)
        | rest => (false, rest)
      let (ds, rest) ← someDigits rest
      return (some (negative, ds), rest)
    else some (none, c :: rest)
  | [] => some (none, [])

def number (cs : List Char) : Option (Numeral × List Char) := do
  let (negative, cs) := match cs with
    | '-' :: rest => (true, rest)
    | rest => (false, rest)
  let (whole, cs) ← someDigits cs
  if whole.head? = some 0 ∧ whole.length ≠ 1 then none
  else
    let (fraction?, cs) ← match cs with
      | '.' :: rest => (someDigits rest).map fun (ds, rest) => (some ds, rest)
      | rest => some (none, rest)
    let (exponent?, cs) ← exponent cs
    return (⟨negative, whole, fraction?, exponent?⟩, cs)

def literal (word : List Char) (cs : List Char) : Option (List Char) :=
  if word.isPrefixOf cs then some (cs.drop word.length) else none

mutual

/-- A value with the blanks before it. -/
def value : (fuel : Nat) → List Char → Option (Json × List Char)
  | 0, _ => none
  | fuel + 1, cs =>
    match skipBlank cs with
    | 'n' :: rest => (literal "ull".toList rest).map (Json.null, ·)
    | 't' :: rest => (literal "rue".toList rest).map (Json.bool true, ·)
    | 'f' :: rest => (literal "alse".toList rest).map (Json.bool false, ·)
    | '"' :: rest => (string [] rest).map fun (text?, rest) => (Json.string text?, rest)
    | '[' :: rest =>
      match skipBlank rest with
      | ']' :: rest => some (Json.array [], rest)
      | rest => items fuel [] rest
    | '\x7b' :: rest =>
      match skipBlank rest with
      | '\x7d' :: rest => some (Json.object [], rest)
      | rest => members fuel [] rest
    | rest => (number rest).map fun (n, rest) => (Json.number n, rest)

/-- The items of an array from the next one on; `acc` holds those before it, the latest first. -/
def items : (fuel : Nat) → List Json → List Char → Option (Json × List Char)
  | 0, _, _ => none
  | fuel + 1, acc, cs =>
    match value fuel cs with
    | none => none
    | some (item, rest) =>
      match skipBlank rest with
      | ',' :: rest => items fuel (item :: acc) rest
      | ']' :: rest => some (Json.array (item :: acc).reverse, rest)
      | _ => none

/-- The members of an object from the next one on; `acc` holds those before it, the latest
first. -/
def members : (fuel : Nat) → List (Option String × Json) → List Char →
    Option (Json × List Char)
  | 0, _, _ => none
  | fuel + 1, acc, cs =>
    match skipBlank cs with
    | '"' :: rest =>
      match string [] rest with
      | none => none
      | some (name?, rest) =>
        match skipBlank rest with
        | ':' :: rest =>
          match value fuel rest with
          | none => none
          | some (item, rest) =>
            match skipBlank rest with
            | ',' :: rest => members fuel ((name?, item) :: acc) rest
            | '\x7d' :: rest => some (Json.object ((name?, item) :: acc).reverse, rest)
            | _ => none
        | _ => none
    | _ => none

end

end BloodStakes.Json.Reader

namespace BloodStakes

/-- The document a text holds. Every call of the reader takes off at least one character, so
the length of the text bounds their number. -/
def Json.ofText? (text : String) : Option Json :=
  let cs := text.toList
  match Json.Reader.value (cs.length + 1) cs with
  | some (json, rest) => if (Json.Reader.skipBlank rest).isEmpty then some json else none
  | none => none

end BloodStakes
