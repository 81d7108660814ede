/-
**JSON tokens.**

A text is cut into punctuation, literals, numbers and strings. Of a number only natural numbers keep
their value: no field holds anything else. A string in which half of a surrogate pair stands alone
is a token like any other, but it has no text.
-/

namespace JpegTranscoder.Json

inductive Token where
  | openObject
  | closeObject
  | openArray
  | closeArray
  | comma
  | colon
  | null
  | boolean (value : Bool)
  /-- A number; `none` for one that is negative, or written with a point or an exponent. -/
  | number (value : Option Nat)
  /-- A string; `none` for one that has no text. -/
  | string (text : Option String)
  deriving DecidableEq, Repr

/-! ### Strings -/

def hexValue (digit : Char) : Option Nat :=
  if '0' ≤ digit ∧ digit ≤ '9' then some (digit.toNat - 48)
  else if 'a' ≤ digit ∧ digit ≤ 'f' then some (digit.toNat - 87)
  else if 'A' ≤ digit ∧ digit ≤ 'F' then some (digit.toNat - 55)
  else none

/-- The code unit that four hexadecimal digits stand for. -/
def hexUnit (a b c d : Char) : Option Nat := do
  return (((← hexValue a) * 16 + (← hexValue b)) * 16 + (← hexValue c)) * 16 + (← hexValue d)

/-- The character that a letter after a backslash stands for. -/
def escape (letter : Char) : Option Nat :=
  match letter with
  | '"' => some 34
  | '\\' => some 92
  | '/' => some 47
  | 'b' => some 8
  | 'f' => some 12
  | 'n' => some 10
  | 'r' => some 13
  | 't' => some 9
  | _ => none

/-- The code points of a string after its opening quote, and what follows its closing quote. An
escape may give half of a surrogate pair. -/
def readString : List Char → Option (List Nat × List Char)
  | [] => none
  | '"' :: rest => some ([], rest)
  | '\\' :: 'u' :: a :: b :: c :: d :: rest => do
    let unit ← hexUnit a b c d
    let (points, after) ← readString rest
    return (unit :: points, after)
  | '\\' :: letter :: rest => do
    let point ← escape letter
    let (points, after) ← readString rest
    return (point :: points, after)
  | char :: rest =>
    if char.toNat < 32 then none
    else do
      let (points, after) ← readString rest
      return (char.toNat :: points, after)

/-- Whether a code point is the first half of a surrogate pair. -/
def isHigh (point : Nat) : Bool := 0xD800 ≤ point && point < 0xDC00

/-- Whether a code point is the second half of a surrogate pair. -/
def isLow (point : Nat) : Bool := 0xDC00 ≤ point && point < 0xE000

/-- The characters of code points, with surrogate pairs put together. -/
def charsOf : List Nat → Option (List Char)
  | [] => some []
  | [point] => if isHigh point || isLow point then none else some [Char.ofNat point]
  | first :: second :: rest =>
    if isHigh first && isLow second then
      (charsOf rest).map (Char.ofNat ((first - 0xD800) * 1024 + (second - 0xDC00) + 0x10000) :: ·)
    else if isHigh first || isLow first then none
    else (charsOf (second :: rest)).map (Char.ofNat first :: ·)

/-! ### Numbers -/

/-- The number that decimal digits stand for. -/
def digitsValue (digits : List Char) : Nat :=
  digits.foldl (fun value digit => value * 10 + (digit.toNat - 48)) 0

def beginsWithDigit (text : List Char) : Bool := (text.head?.map Char.isDigit).getD false

/-- What follows a fraction, if there is one; `none` if it has no digits. The flag tells whether
there is one. -/
def skipFraction (text : List Char) : Option (Bool × List Char) :=
  match text with
  | '.' :: rest =>
    if beginsWithDigit rest then some (true, rest.dropWhile Char.isDigit) else none
  | _ => some (false, text)

/-- What follows an exponent, if there is one; `none` if it has no digits. The flag tells whether
there is one. -/
def skipExponent (text : List Char) : Option (Bool × List Char) :=
  let digits (rest : List Char) : Option (Bool × List Char) :=
    if beginsWithDigit rest then some (true, rest.dropWhile Char.isDigit) else none
  match text with
  | mark :: sign :: rest =>
    if mark = 'e' ∨ mark = 'E' then
      if sign = '+' ∨ sign = '-' then digits rest else digits (sign :: rest)
    else some (false, text)
  | [mark] => if mark = 'e' ∨ mark = 'E' then none else some (false, text)
  | [] => some (false, text)

/-- Reads a number without a sign. A leading zero stands alone. -/
def readNumber (text : List Char) : Option (Option Nat × List Char) := do
  let digits := text.takeWhile Char.isDigit
  if digits.isEmpty ∨ (1 < digits.length ∧ digits.head? = some '0') then none
  else
    let (fraction, rest) ← skipFraction (text.dropWhile Char.isDigit)
    let (exponent, rest) ← skipExponent rest
    return (if fraction || exponent then none else some (digitsValue digits), rest)

/-! ### Tokens -/

/-- Drops a word that a text begins with. -/
def dropWord (word : String) (text : List Char) : Option (List Char) :=
  if word.toList.isPrefixOf text then some (text.drop word.length) else none

/-- Whether a character may stand between tokens. -/
def isBlank (char : Char) : Bool := char == ' ' || char == '\n' || char == '\t' || char == '\r'

/-- The token that a text begins with. -/
def readToken (text : List Char) : Option (Token × List Char) :=
  match text with
  | [] => none
  | '\x7b' :: rest => some (.openObject, rest)
  | '\x7d' :: rest => some (.closeObject, rest)
  | '[' :: rest => some (.openArray, rest)
  | ']' :: rest => some (.closeArray, rest)
  | ',' :: rest => some (.comma, rest)
  | ':' :: rest => some (.colon, rest)
  | '"' :: rest =>
    (readString rest).map fun (points, after) =>
      (.string ((charsOf points).map String.ofList), after)
  | '-' :: rest => (readNumber rest).map fun (_, after) => (.number none, after)
  | 'n' :: rest => (dropWord "ull" rest).map fun after => (.null, after)
  | 't' :: rest => (dropWord "rue" rest).map fun after => (.boolean true, after)
  | 'f' :: rest => (dropWord "alse" rest).map fun after => (.boolean false, after)
  | _ => (readNumber text).map fun (value, after) => (.number value, after)

/-- The tokens of a text, at most `count` of them. -/
def readTokens : (count : Nat) → List Char → Option (List Token)
  | 0, text => if (text.dropWhile isBlank).isEmpty then some [] else none
  | count + 1, text =>
    match text.dropWhile isBlank with
    | [] => some []
    | char :: rest => do
      let (token, after) ← readToken (char :: rest)
      let tokens ← readTokens count after
      return token :: tokens

/-- The tokens of a text. A token takes a character at least, so there are no more tokens than
characters. -/
def tokens (text : String) : Option (List Token) := readTokens text.length text.toList

end JpegTranscoder.Json
