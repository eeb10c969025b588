import NanoCore.Foundation.JsonLoads

namespace NanoCore.Common.JsonParsing

open NanoCore.Foundation.JsonLoads
open NanoCore.Foundation.JsonText
open NanoCore.Foundation.PythonText

/-- The text up to the brace that closes the object, `depth` braces being open. -/
def balancedFrom : (depth : Nat) → (inString escape : Bool) → Text → Option Text
  | _, _, _, [] => none
  | depth, true, true, c :: rest => (balancedFrom depth true false rest).map (c :: ·)
  | depth, true, false, c :: rest =>
      (balancedFrom depth (c != '"') (c == '\\') rest).map (c :: ·)
  | depth, false, _, c :: rest =>
      if c = '"' then (balancedFrom depth true false rest).map (c :: ·)
      else if c = '\x7b' then (balancedFrom (depth + 1) false false rest).map (c :: ·)
      else if c = '\x7d' then
        if depth = 1 then some [c] else (balancedFrom (depth - 1) false false rest).map (c :: ·)
      else (balancedFrom depth false false rest).map (c :: ·)

def fromBrace (text : Text) : Text := text.dropWhile (· != '\x7b')

def findBalancedJsonObject (text : Text) : Option Text :=
  balancedFrom 0 false false (fromBrace text)

def stripMarkdownFence (text : Text) : Text :=
  if "```".toList.isPrefixOf text then
    let text := stripChars ['\x60'] text
    match text.dropWhile (· != '\n') with
    | _ :: rest => rest
    | [] => text
  else text

def betweenBraces (text : Text) : Option Text :=
  match (fromBrace text).reverse.dropWhile (· != '\x7d') with
  | [] => none
  | reversed => some reversed.reverse

/-- The text begins a JSON object that it does not close. -/
def looksLikeTruncatedJson (raw : Text) : Bool :=
  let text := stripMarkdownFence (strip raw)
  if '\x7b' ∉ text then false else (findBalancedJsonObject text).isNone

variable (readFloat : ReadFloat)

/-- `extract_json`: nothing where the text cannot be decoded. -/
def extractJson (raw : Text) : Except PyError (Option Json) :=
  let text := stripMarkdownFence (strip raw)
  let text := (findBalancedJsonObject text).getD ((betweenBraces text).getD text)
  match loads readFloat text with
  | .ok value => .ok (some value)
  | .error .decode => .ok none
  | .error .tooManyDigits => .error .valueError

end NanoCore.Common.JsonParsing
