import NanoCore.Foundation.JsonText

/-!
`json.loads`.  How deep a text may be nested is not limited here.
-/

namespace NanoCore.Foundation.JsonLoads

open NanoCore.Foundation.JsonText
open NanoCore.Foundation.PythonText

inductive LoadsError where
  | decode
  | tooManyDigits
  deriving DecidableEq, Repr

def isJsonSpace (c : Char) : Bool := c == ' ' || c == '\t' || c == '\n' || c == '\r'

def skipSpaces (s : Text) : Text := s.dropWhile isJsonSpace

/-- A string behind its opening quote, and what follows it. -/
def readString : Nat → Text → Except LoadsError (Text × Text)
  | 0, _ => .error .decode
  | _ + 1, '"' :: rest => .ok ([], rest)
  | fuel + 1, s =>
      match readChar s with
      | none => .error .decode
      | some (c, rest) => do
          let (k, rest) ← readString fuel rest
          return (c :: k, rest)

/-- `(\.\d+)?`. -/
def readFraction (s : Text) : Text × Text :=
  match s with
  | '.' :: rest =>
      match rest.span Char.isDigit with
      | ([], _) => ([], s)
      | (digits, rest) => ('.' :: digits, rest)
  | _ => ([], s)

def readExponent (s : Text) : Text × Text :=
  match s with
  | e :: rest =>
      if e = 'e' ∨ e = 'E' then
        let (sign, rest) :=
          match rest with
          | '-' :: rest => (['-'], rest)
          | '+' :: rest => (['+'], rest)
          | _ => ([], rest)
        match rest.span Char.isDigit with
        | ([], _) => ([], s)
        | (digits, rest) => (e :: sign ++ digits, rest)
      else ([], s)
  | [] => ([], s)

/-- Sets the value of a key: a key that is there keeps its place. -/
def setEntry (entries : JsonObject) (key : Text) (value : Json) : JsonObject :=
  if entries.any fun entry => entry.1 == key then
    entries.map fun entry => if entry.1 = key then (key, value) else entry
  else entries ++ [(key, value)]

def constants : List (Text × Json) :=
  [("null".toList, .null), ("true".toList, .bool true), ("false".toList, .bool false),
   ("NaN".toList, .float ⟨"NaN".toList, by decide⟩),
   ("Infinity".toList, .float ⟨"Infinity".toList, by decide⟩),
   ("-Infinity".toList, .float ⟨"-Infinity".toList, by decide⟩)]

/-- `float` of the text of a number. -/
abbrev ReadFloat := Text → FloatText

variable (readFloat : ReadFloat)

def readNumber (s : Text) : Except LoadsError (Json × Text) :=
  let (minus, unsigned) :=
    match s with
    | '-' :: rest => (['-'], rest)
    | _ => ([], s)
  let (digits, rest) :=
    match unsigned with
    | '0' :: rest => (['0'], rest)
    | _ => unsigned.span Char.isDigit
  if digits.isEmpty then .error .decode
  else
    let (fraction, rest) := readFraction rest
    let (exponent, rest) := readExponent rest
    if fraction.isEmpty && exponent.isEmpty then
      if maxIntDigits < digits.length then .error .tooManyDigits
      else
        let n : Int := Nat.ofDigitChars 10 digits 0
        .ok (.int (if minus.isEmpty then n else -n), rest)
    else .ok (.float (readFloat (minus ++ digits ++ fraction ++ exponent)), rest)

def readWord (s : Text) : Except LoadsError (Json × Text) :=
  match constants.find? fun constant => constant.1.isPrefixOf s with
  | some constant => .ok (constant.2, s.drop constant.1.length)
  | none => readNumber readFloat s

mutual

def readValue : Nat → Text → Except LoadsError (Json × Text)
  | 0, _ => .error .decode
  | fuel + 1, '"' :: rest => do
      let (s, rest) ← readString fuel rest
      return (.str s, rest)
  | fuel + 1, '[' :: rest =>
      match skipSpaces rest with
      | ']' :: rest => .ok (.arr [], rest)
      | rest => do
          let (elements, rest) ← readElements fuel rest
          return (.arr elements, rest)
  | fuel + 1, '\x7b' :: rest =>
      match skipSpaces rest with
      | '\x7d' :: rest => .ok (.obj [], rest)
      | rest => do
          let (entries, rest) ← readEntries fuel [] rest
          return (.obj entries, rest)
  | _ + 1, s => readWord readFloat s

def readElements : Nat → Text → Except LoadsError (List Json × Text)
  | 0, _ => .error .decode
  | fuel + 1, s => do
      let (a, rest) ← readValue fuel s
      match skipSpaces rest with
      | ']' :: rest => return ([a], rest)
      | ',' :: rest => do
          let (elements, rest) ← readElements fuel (skipSpaces rest)
          return (a :: elements, rest)
      | _ => .error .decode

/-- The entries of an object that follow `entries`, and what follows its closing
brace. -/
def readEntries : Nat → JsonObject → Text → Except LoadsError (JsonObject × Text)
  | fuel + 1, entries, '"' :: s => do
      let (key, rest) ← readString fuel s
      match skipSpaces rest with
      | ':' :: rest => do
          let (value, rest) ← readValue fuel (skipSpaces rest)
          match skipSpaces rest with
          | '\x7d' :: rest => return (setEntry entries key value, rest)
          | ',' :: rest => readEntries fuel (setEntry entries key value) (skipSpaces rest)
          | _ => .error .decode
      | _ => .error .decode
  | _, _, _ => .error .decode

end

def loads (s : Text) : Except LoadsError Json :=
  if s.head? = some '\ufeff' then .error .decode
  else do
    let (value, rest) ← readValue readFloat (s.length + 1) (skipSpaces s)
    if (skipSpaces rest).isEmpty then return value else .error .decode

example : (loads (fun _ => ⟨"0.5".toList, by decide⟩)
    " \x7b\"a\": [1, 0.5e0, \"\\u00e4\"], \"a\": true\x7d".toList).map dumps =
    .ok "\x7b\"a\": true\x7d".toList := by decide +kernel

end NanoCore.Foundation.JsonLoads
