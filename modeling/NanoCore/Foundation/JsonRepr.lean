import NanoCore.Foundation.JsonText

namespace NanoCore.Foundation.JsonRepr

open NanoCore.Foundation.JsonText
open NanoCore.Foundation.PythonText

def isFalsyFloat (x : FloatText) : Bool := x.text == "0.0".toList || x.text == "-0.0".toList

/-- `bool(value)`. -/
def truthy : Json → Bool
  | .null => false
  | .bool b => b
  | .int n => n != 0
  | .float x => !isFalsyFloat x
  | .str s => !s.isEmpty
  | .arr elements => !elements.isEmpty
  | .obj entries => !entries.isEmpty

/-- What a loop over a value goes through. -/
def iterate : Json → Except PyError (List Json)
  | .arr elements => .ok elements
  | .obj entries => .ok (entries.map fun entry => .str entry.1)
  | .str s => .ok (s.map fun c => .str [c])
  | _ => .error .typeError

/-- `value.get(key, default)`, for dictionaries only. -/
def getOr (key : String) (default : Json) : Json → Except PyError Json
  | .obj entries => .ok ((JsonObject.get entries key).getD default)
  | _ => .error .attributeError

/-- A float; `json.dumps` and `repr` differ on the values that are no numbers. -/
def reprFloat (x : FloatText) : Text :=
  if x.text = "NaN".toList then "nan".toList
  else if x.text = "Infinity".toList then "inf".toList
  else if x.text = "-Infinity".toList then "-inf".toList
  else x.text

def hexText (width n : Nat) : Text :=
  let digits := Nat.toDigits 16 n
  List.replicate (width - digits.length) '0' ++ digits

variable (isPrintable : Char → Bool)

/-- `str.isprintable`; `isPrintable` answers for the code points beyond ASCII. -/
def printable (c : Char) : Bool :=
  if c.toNat < 128 then 32 ≤ c.toNat && c.toNat < 127 else isPrintable c

def reprChar (quote c : Char) : Text :=
  if c = quote ∨ c = '\\' then ['\\', c]
  else if c = '\n' then ['\\', 'n']
  else if c = '\r' then ['\\', 'r']
  else if c = '\t' then ['\\', 't']
  else if printable isPrintable c then [c]
  else if c.toNat < 0x100 then '\\' :: 'x' :: hexText 2 c.toNat
  else if c.toNat < 0x10000 then '\\' :: 'u' :: hexText 4 c.toNat
  else '\\' :: 'U' :: hexText 8 c.toNat

def reprText (s : Text) : Text :=
  let quote := if s.contains '\'' && !s.contains '"' then '"' else '\''
  quote :: s.flatMap (reprChar isPrintable quote) ++ [quote]

mutual

def repr : Json → Text
  | .null => "None".toList
  | .bool true => "True".toList
  | .bool false => "False".toList
  | .int n => intText n
  | .float x => reprFloat x
  | .str s => reprText isPrintable s
  | .arr [] => "[]".toList
  | .arr (a :: rest) => '[' :: repr a ++ reprElements rest
  | .obj [] => "\x7b\x7d".toList
  | .obj ((k, a) :: rest) =>
      '\x7b' :: reprText isPrintable k ++ ':' :: ' ' :: repr a ++ reprEntries rest

def reprElements : List Json → Text
  | [] => [']']
  | a :: rest => ',' :: ' ' :: repr a ++ reprElements rest

def reprEntries : JsonObject → Text
  | [] => ['\x7d']
  | (k, a) :: rest => ',' :: ' ' :: reprText isPrintable k ++ ':' :: ' ' :: repr a ++
      reprEntries rest

end

/-- `str(value)`. -/
def str : Json → Text
  | .str s => s
  | value => repr isPrintable value

example : str (fun _ => true) (.arr [.str "it's".toList, .null, .bool true, .obj []]) =
    "[\"it's\", None, True, \x7b\x7d]".toList := by decide +kernel

end NanoCore.Foundation.JsonRepr
