import ComputeHive.Value

/-! `Response.json()`: the body text decoded by `json.loads`, following
CPython's C scanner, with Python's message and `char` index on failure. Its
fuel never runs out; CPython's limits (4300 digits in an int literal, the
interpreter's recursion depth) are not modelled, and a lone surrogate escape
decodes to U+FFFD.
-/

set_option autoImplicit false

namespace ComputeHive

namespace Json

/-- A `JSONDecodeError`: its message, and the document from its position on. -/
structure Failure where
  msg : String
  rest : List Char

abbrev Scan (α : Type) := Except Failure (α × List Char)

def isWhitespace (c : Char) : Bool := c == ' ' || c == '\t' || c == '\n' || c == '\r'

def skipWhitespace (input : List Char) : List Char := input.dropWhile isWhitespace

def hexValue (c : Char) : Option Nat :=
  if '0' ≤ c ∧ c ≤ '9' then some (c.toNat - '0'.toNat)
  else if 'a' ≤ c ∧ c ≤ 'f' then some (c.toNat - 'a'.toNat + 10)
  else if 'A' ≤ c ∧ c ≤ 'F' then some (c.toNat - 'A'.toNat + 10)
  else none

def hex4 : List Char → Option (Nat × List Char)
  | a :: b :: c :: d :: rest => do
    let a ← hexValue a
    let b ← hexValue b
    let c ← hexValue c
    let d ← hexValue d
    pure (((a * 16 + b) * 16 + c) * 16 + d, rest)
  | _ => none

def isHighSurrogate (n : Nat) : Bool := 0xD800 ≤ n && n ≤ 0xDBFF

def isLowSurrogate (n : Nat) : Bool := 0xDC00 ≤ n && n ≤ 0xDFFF

def codePoint (n : Nat) : Char := if n.isValidChar then Char.ofNat n else '\uFFFD'

def simpleEscape : Char → Option Char
  | '"' => some '"'
  | '\\' => some '\\'
  | '/' => some '/'
  | 'b' => some '\x08'
  | 'f' => some '\x0c'
  | 'n' => some '\n'
  | 'r' => some '\r'
  | 't' => some '\t'
  | _ => none

/-- The body of a string after its opening quote; `begin` is the input at the
quote, and `fuel` at least the length of the input, each step reading a
character. A `\uXXXX` escape needs a character after its four digits, and a
high surrogate is joined with a following `\uXXXX` low surrogate only when a
character follows that one too, as in the C scanner. -/
def scanString (begin : List Char) : Nat → List Char → List Char → Scan String
  | 0, _, _ => .error ⟨"Unterminated string starting at", begin⟩
  | fuel + 1, acc, input =>
    match input with
    | [] => .error ⟨"Unterminated string starting at", begin⟩
    | '"' :: rest => .ok (String.mk acc.reverse, rest)
    | ['\\'] => .error ⟨"Unterminated string starting at", begin⟩
    | '\\' :: 'u' :: a :: b :: c :: d :: rest =>
      match rest, hex4 [a, b, c, d] with
      | [], _ | _, none => .error ⟨"Invalid \\uXXXX escape", 'u' :: a :: b :: c :: d :: rest⟩
      | _, some (high, _) =>
        match rest with
        | '\\' :: 'u' :: w :: x :: y :: z :: more@(_ :: _) =>
          if isHighSurrogate high then
            match hex4 [w, x, y, z] with
            | none => .error ⟨"Invalid \\uXXXX escape", 'u' :: w :: x :: y :: z :: more⟩
            | some (low, _) =>
              if isLowSurrogate low then
                scanString begin fuel
                  (codePoint (0x10000 + (high - 0xD800) * 0x400 + (low - 0xDC00)) :: acc) more
              else scanString begin fuel (codePoint high :: acc) rest
          else scanString begin fuel (codePoint high :: acc) rest
        | _ => scanString begin fuel (codePoint high :: acc) rest
    | '\\' :: 'u' :: rest => .error ⟨"Invalid \\uXXXX escape", 'u' :: rest⟩
    | '\\' :: c :: rest =>
      match simpleEscape c with
      | some d => scanString begin fuel (d :: acc) rest
      | none => .error ⟨"Invalid \\escape", '\\' :: c :: rest⟩
    | c :: rest =>
      if c.toNat ≤ 0x1f then .error ⟨"Invalid control character at", c :: rest⟩
      else scanString begin fuel (c :: acc) rest

def isDigit (c : Char) : Bool := '0' ≤ c && c ≤ '9'

def digitsValue (digits : List Char) : Nat :=
  digits.foldl (fun n c => 10 * n + (c.toNat - '0'.toNat)) 0

/-- Python's `NUMBER_RE`: `-?(0|[1-9]\d*)(\.\d+)?([eE][-+]?\d+)?`, an `int`
unless a fraction or an exponent is present. -/
def scanNumber (input : List Char) : Option (Value × List Char) :=
  let (negative, afterSign) := match input with
    | '-' :: rest => (true, rest)
    | rest => (false, rest)
  let integer : Option (List Char × List Char) := match afterSign with
    | '0' :: rest => some (['0'], rest)
    | c :: rest => if '1' ≤ c ∧ c ≤ '9' then some (c :: rest.takeWhile isDigit, rest.dropWhile isDigit)
      else none
    | [] => none
  integer.map fun (whole, rest) =>
    let (fraction, rest) := match rest with
      | '.' :: d :: more => if isDigit d then (some (d :: more.takeWhile isDigit), more.dropWhile isDigit)
        else (none, rest)
      | _ => (none, rest)
    let (exponent, rest) : Option Int × List Char := match rest with
      | e :: more =>
        if e == 'e' || e == 'E' then
          let (sign, digits) := match more with
            | '-' :: ds => (-1, ds)
            | '+' :: ds => (1, ds)
            | ds => (1, ds)
          if (digits.takeWhile isDigit).isEmpty then (none, rest)
          else (some (sign * digitsValue (digits.takeWhile isDigit)), digits.dropWhile isDigit)
        else (none, rest)
      | [] => (none, rest)
    let mantissa : Int := if negative then -(digitsValue whole : Int) else digitsValue whole
    match fraction, exponent with
    | none, none => (.int mantissa, rest)
    | fraction, exponent =>
      let digits := fraction.getD []
      let magnitude : ℚ := (digitsValue (whole ++ digits) : ℚ) / 10 ^ digits.length
      let e := exponent.getD 0
      let scaled : ℚ := if 0 ≤ e then magnitude * 10 ^ e.toNat else magnitude / 10 ^ (-e).toNat
      (.float (.finite (if negative then -scaled else scaled)), rest)

mutual
def scanOnce : Nat → List Char → Scan Value
  | 0, input => .error ⟨"Expecting value", input⟩
  | fuel + 1, input =>
    match input with
    | '"' :: rest =>
      match scanString input rest.length [] rest with
      | .ok (s, rest') => .ok (.str s, rest')
      | .error failure => .error failure
    | '{' :: rest => scanObject fuel [] (skipWhitespace rest) true
    | '[' :: rest => scanArray fuel [] (skipWhitespace rest) true
    | 'n' :: 'u' :: 'l' :: 'l' :: rest => .ok (.none, rest)
    | 't' :: 'r' :: 'u' :: 'e' :: rest => .ok (.bool true, rest)
    | 'f' :: 'a' :: 'l' :: 's' :: 'e' :: rest => .ok (.bool false, rest)
    | 'N' :: 'a' :: 'N' :: rest => .ok (.float .nan, rest)
    | 'I' :: 'n' :: 'f' :: 'i' :: 'n' :: 'i' :: 't' :: 'y' :: rest => .ok (.float (.infinity false), rest)
    | '-' :: 'I' :: 'n' :: 'f' :: 'i' :: 'n' :: 'i' :: 't' :: 'y' :: rest =>
      .ok (.float (.infinity true), rest)
    | _ =>
      match scanNumber input with
      | some result => .ok result
      | none => .error ⟨"Expecting value", input⟩

/-- The elements of an array from the input after `[` (`first`) or after a
`,`, whitespace skipped. -/
def scanArray : Nat → List Value → List Char → Bool → Scan Value
  | 0, _, input, _ => .error ⟨"Expecting value", input⟩
  | fuel + 1, items, input, first =>
    match first, input with
    | true, ']' :: rest => .ok (.list items.reverse, rest)
    | _, _ =>
      match scanOnce fuel input with
      | .error failure => .error failure
      | .ok (item, rest) =>
        match skipWhitespace rest with
        | ']' :: rest' => .ok (.list (item :: items).reverse, rest')
        | ',' :: rest' => scanArray fuel (item :: items) (skipWhitespace rest') false
        | rest' => .error ⟨"Expecting ',' delimiter", rest'⟩

def scanObject : Nat → List (String × Value) → List Char → Bool → Scan Value
  | 0, _, input, _ => .error ⟨"Expecting value", input⟩
  | fuel + 1, entries, input, first =>
    match first, input with
    | true, '}' :: rest => .ok (.dict entries, rest)
    | _, '"' :: rest =>
      match scanString input rest.length [] rest with
      | .error failure => .error failure
      | .ok (key, rest) =>
        match skipWhitespace rest with
        | ':' :: rest =>
          match scanOnce fuel (skipWhitespace rest) with
          | .error failure => .error failure
          | .ok (item, rest) =>
            let entries := insert key item entries
            match skipWhitespace rest with
            | '}' :: rest' => .ok (.dict entries, rest')
            | ',' :: rest' => scanObject fuel entries (skipWhitespace rest') false
            | rest' => .error ⟨"Expecting ',' delimiter", rest'⟩
        | rest => .error ⟨"Expecting ':' delimiter", rest⟩
    | _, input => .error ⟨"Expecting property name enclosed in double quotes", input⟩

def insert (key : String) (item : Value) : List (String × Value) → List (String × Value)
  | [] => [(key, item)]
  | (k, v) :: rest => if k == key then (k, item) :: rest else (k, v) :: insert key item rest
end

/-- `json.loads(text)`: a value filling the whole text up to whitespace. -/
def loads (text : String) : Except Failure Value :=
  match text.toList with
  | '\uFEFF' :: _ => .error ⟨"Unexpected UTF-8 BOM (decode using utf-8-sig)", text.toList⟩
  | doc =>
    match scanOnce (2 * doc.length + 2) (skipWhitespace doc) with
    | .error failure => .error failure
    | .ok (value, rest) =>
      match skipWhitespace rest with
      | [] => .ok value
      | rest' => .error ⟨"Extra data", rest'⟩

/-- `str(JSONDecodeError)`: `msg: line L column C (char P)`. -/
def Failure.render (doc : String) (failure : Failure) : String :=
  let pos := doc.length - failure.rest.length
  let before := doc.toList.take pos
  let line := before.count '\n' + 1
  let column := match before.reverse.indexOf? '\n' with
    | some back => back + 1
    | none => pos + 1
  failure.msg ++ ": line " ++ toString line ++ " column " ++ toString column ++
    " (char " ++ toString pos ++ ")"

end Json

end ComputeHive
