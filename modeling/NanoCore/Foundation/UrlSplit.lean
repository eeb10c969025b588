import NanoCore.Foundation.Exceptions
import NanoCore.Foundation.PythonText

namespace NanoCore.Foundation.UrlSplit

open NanoCore.Foundation.Exceptions
open NanoCore.Foundation.PythonText

structure SplitResult where
  scheme : Text
  netloc : Text
  path : Text
  query : Text
  fragment : Text
  deriving DecidableEq, Repr

/-- Text before and after the first `sep`, when there is one. -/
def splitAtFirst (sep : Char) (s : Text) : Option (Text × Text) :=
  match s.span (· != sep) with
  | (_, []) => none
  | (before, _ :: after) => some (before, after)

def cutAt (sep : Char) (s : Text) : Text × Text := (splitAtFirst sep s).getD (s, [])

def isSchemeChar (c : Char) : Bool := c.isAlphanum || c == '+' || c == '-' || c == '.'

/-- The scheme, lower-cased, and the rest, when the text starts with one. -/
def splitScheme (url : Text) : Option (Text × Text) :=
  match splitAtFirst ':' url with
  | some (c :: rest, after) =>
      if c.isAlpha && (c :: rest).all isSchemeChar then
        some ((c :: rest).map Char.toLower, after)
      else none
  | _ => none

/-- Control characters and the space, which `urlsplit` strips on the left. -/
def isC0OrSpace (c : Char) : Bool := c.toNat ≤ 32

/-- Characters that `urlsplit` removes everywhere. -/
def isRemoved (c : Char) : Bool := c == '\t' || c == '\r' || c == '\n'

/-- Delimiters that end a network location. -/
def isNetlocEnd (c : Char) : Bool := c == '/' || c == '?' || c == '#'

def splitNetloc (afterSlashes : Text) : Text × Text :=
  afterSlashes.span fun c => !isNetlocEnd c

variable (u : PyData)

/-- Whether `urlsplit` raises on a network location. -/
def badNetloc (netloc : Text) : Bool :=
  (netloc.contains '[' != netloc.contains ']') || u.rejectsNetloc netloc

/-- Fragment and query are cut off what follows the network location. -/
def splitPath (scheme netloc rest : Text) : SplitResult :=
  let withFragment := cutAt '#' rest
  let withQuery := cutAt '?' withFragment.1
  { scheme, netloc, path := withQuery.1, query := withQuery.2, fragment := withFragment.2 }

def urlsplit (url : Text) : Except PyError SplitResult :=
  let url := (url.dropWhile isC0OrSpace).filter fun c => !isRemoved c
  let (scheme, rest) := (splitScheme url).getD ([], url)
  match rest with
  | '/' :: '/' :: afterSlashes =>
      let (netloc, rest) := splitNetloc afterSlashes
      if badNetloc u netloc then .error .valueError else .ok (splitPath scheme netloc rest)
  | _ => .ok (splitPath scheme [] rest)

def netlocOf (url : Text) : Option Text :=
  let url := (url.dropWhile isC0OrSpace).filter fun c => !isRemoved c
  match ((splitScheme url).getD ([], url)).2 with
  | '/' :: '/' :: afterSlashes => some (splitNetloc afterSlashes).1
  | _ => none

theorem raises_urlsplit_iff (url : Text) :
    Raises (urlsplit u url) ↔ (netlocOf url).any (badNetloc u) = true := by
  simp only [urlsplit, netlocOf]
  split
  · rw [raises_ite, Option.any_some]
    simp
  · simp

section AbsoluteUrls

def inPath (c : Char) : Bool := c != '?' && c != '#'

/-- The text as `urlsplit` reads it. -/
def withoutRemoved (s : Text) : Text := s.filter fun c => !isRemoved c

theorem takeWhile_append_of_neg {s t : Text} {p : Char → Bool} (h : t.takeWhile p = []) :
    (s ++ t).takeWhile p = s.takeWhile p := by
  rw [List.takeWhile_append, h, List.append_nil]
  split
  · rename_i hlength
    exact ((List.takeWhile_prefix p).eq_of_length hlength).symm
  · rfl

theorem takeWhile_append_takeWhile (s t : Text) (p : Char → Bool) :
    (s ++ t.takeWhile p).takeWhile p = (s ++ t).takeWhile p := by
  rw [List.takeWhile_append, List.takeWhile_append, List.takeWhile_idem]

theorem splitNetloc_append {s t : Text} {c : Char} (hc : isNetlocEnd c = true) :
    splitNetloc (s ++ c :: t) = ((splitNetloc s).1, (splitNetloc s).2 ++ c :: t) := by
  have hstop : (c :: t).takeWhile (fun c => !isNetlocEnd c) = [] := by
    rw [List.takeWhile_cons, hc]
    rfl
  have hkeep : (c :: t).dropWhile (fun c => !isNetlocEnd c) = c :: t := by
    rw [List.dropWhile_cons, hc]
    rfl
  simp only [splitNetloc, List.span_eq_takeWhile_dropWhile, takeWhile_append_of_neg hstop,
    List.dropWhile_append, hkeep]
  split
  · rename_i hempty
    rw [List.isEmpty_iff.mp hempty, List.nil_append]
  · rfl

theorem splitAtFirst_append {sep : Char} {before : Text} (h : sep ∉ before) (after : Text) :
    splitAtFirst sep (before ++ sep :: after) = some (before, after) := by
  have hbefore : ∀ c ∈ before, (c != sep) = true := fun c hc =>
    bne_iff_ne.mpr (ne_of_mem_of_not_mem hc h)
  rw [splitAtFirst, List.span_eq_takeWhile_dropWhile, List.takeWhile_append_of_pos hbefore,
    List.dropWhile_append_of_pos hbefore]
  simp

theorem cutAt_fst (sep : Char) (s : Text) : (cutAt sep s).1 = s.takeWhile (· != sep) := by
  rw [cutAt, splitAtFirst, List.span_eq_takeWhile_dropWhile]
  cases hrest : s.dropWhile (· != sep) with
  | nil =>
      have hall := List.dropWhile_eq_nil_iff.mp hrest
      exact (List.takeWhile_eq_self_iff.mpr hall).symm
  | cons c rest => rfl

theorem splitPath_path (scheme netloc rest : Text) :
    (splitPath scheme netloc rest).path = rest.takeWhile inPath := by
  have hinPath : (fun c : Char => decide ((c != '?') = true ∧ (c != '#') = true)) = inPath := by
    funext c
    rw [inPath, Bool.decide_and, Bool.decide_eq_true, Bool.decide_eq_true]
  change (cutAt '?' (cutAt '#' rest).1).1 = rest.takeWhile inPath
  rw [cutAt_fst, cutAt_fst, List.takeWhile_takeWhile, hinPath]

theorem urlsplit_web {scheme : Text} (hscheme : scheme = "http".toList ∨ scheme = "https".toList)
    (rest : Text) :
    urlsplit u (scheme ++ "://".toList ++ rest) =
      if badNetloc u (splitNetloc (withoutRemoved rest)).1 then .error .valueError
      else .ok (splitPath scheme (splitNetloc (withoutRemoved rest)).1
        (splitNetloc (withoutRemoved rest)).2) := by
  have hclean : ((scheme ++ "://".toList ++ rest).dropWhile isC0OrSpace).filter
      (fun c => !isRemoved c) = scheme ++ ':' :: '/' :: '/' :: withoutRemoved rest := by
    rcases hscheme with rfl | rfl <;> rfl
  have hsplit : splitScheme (scheme ++ ':' :: '/' :: '/' :: withoutRemoved rest) =
      some (scheme, '/' :: '/' :: withoutRemoved rest) := by
    have hcolon : ':' ∉ scheme := by rcases hscheme with rfl | rfl <;> decide
    rw [splitScheme, splitAtFirst_append hcolon]
    rcases hscheme with rfl | rfl <;> rfl
  simp only [urlsplit, hclean, hsplit, Option.getD_some]

end AbsoluteUrls

def usesParams : List String :=
  ["", "ftp", "hdl", "prospero", "http", "https", "shttp", "rtsp", "rtspu", "sip", "sips", "mms",
   "sftp", "tel"]

/-- `_splitparams(url)[0]`: parameters are cut off the last segment only. -/
def dropParams (path : Text) : Text :=
  let lastSegment := (path.reverse.takeWhile (· != '/')).reverse
  let front := path.take (path.length - lastSegment.length)
  front ++ (cutAt ';' lastSegment).1

/-- `urlparse(url)`, with the parameters dropped from the path. -/
def urlparse (url : Text) : Except PyError SplitResult := do
  let parsed ← urlsplit u url
  if usesParams.any fun scheme => scheme.toList == parsed.scheme then
    return { parsed with path := dropParams parsed.path }
  else return parsed

def hexValue (c : Char) : Option Nat :=
  if '0' ≤ c ∧ c ≤ '9' then some (c.toNat - 48)
  else if 'a' ≤ c ∧ c ≤ 'f' then some (c.toNat - 87)
  else if 'A' ≤ c ∧ c ≤ 'F' then some (c.toNat - 55)
  else none

def percentTokens : Text → List (Nat ⊕ Char)
  | '%' :: a :: b :: rest =>
      match hexValue a, hexValue b with
      | some hi, some lo => .inl (16 * hi + lo) :: percentTokens rest
      | _, _ => .inr '%' :: percentTokens (a :: b :: rest)
  | c :: rest => .inr c :: percentTokens rest
  | [] => []
termination_by s => s.length

/-- The continuation bytes that a UTF-8 lead byte expects: how many, and the
range of the first. -/
def utf8Lead (b : Nat) : Option (Nat × Nat × Nat) :=
  if 0xc2 ≤ b ∧ b ≤ 0xdf then some (1, 0x80, 0xbf)
  else if b = 0xe0 then some (2, 0xa0, 0xbf)
  else if b = 0xed then some (2, 0x80, 0x9f)
  else if 0xe1 ≤ b ∧ b ≤ 0xef then some (2, 0x80, 0xbf)
  else if b = 0xf0 then some (3, 0x90, 0xbf)
  else if 0xf1 ≤ b ∧ b ≤ 0xf3 then some (3, 0x80, 0xbf)
  else if b = 0xf4 then some (3, 0x80, 0x8f)
  else none

/-- The bits of the code point that a lead byte carries. -/
def utf8LeadBits (b : Nat) : Nat :=
  if b < 0xe0 then b % 32 else if b < 0xf0 then b % 16 else b % 8

/-- Decode bytes as UTF-8 with replacement.  `need` continuation bytes are
still expected, the next one between `lo` and `hi`, on top of the bits `acc`. -/
def decodeTokens : (need lo hi acc : Nat) → List (Nat ⊕ Char) → Text
  | 0, _, _, _, [] => []
  | _ + 1, _, _, _, [] => ['\ufffd']
  | 0, _, _, _, .inr c :: rest => c :: decodeTokens 0 0 0 0 rest
  | _ + 1, _, _, _, .inr c :: rest => '\ufffd' :: c :: decodeTokens 0 0 0 0 rest
  | 0, _, _, _, .inl b :: rest =>
      if b < 0x80 then Char.ofNat b :: decodeTokens 0 0 0 0 rest
      else match utf8Lead b with
        | some (need, lo, hi) => decodeTokens need lo hi (utf8LeadBits b) rest
        | none => '\ufffd' :: decodeTokens 0 0 0 0 rest
  | need + 1, lo, hi, acc, .inl b :: rest =>
      if lo ≤ b ∧ b ≤ hi then
        if need = 0 then Char.ofNat (64 * acc + b % 64) :: decodeTokens 0 0 0 0 rest
        else decodeTokens need 0x80 0xbf (64 * acc + b % 64) rest
      else if b < 0x80 then '\ufffd' :: Char.ofNat b :: decodeTokens 0 0 0 0 rest
      else match utf8Lead b with
        | some (need, lo, hi) => '\ufffd' :: decodeTokens need lo hi (utf8LeadBits b) rest
        | none => '\ufffd' :: '\ufffd' :: decodeTokens 0 0 0 0 rest

def unquotePlus (s : Text) : Text :=
  decodeTokens 0 0 0 0 (percentTokens (replaceChar '+' ' ' s))

/-- `parse_qsl(qs)`: the fields with a value. -/
def parseQsl (qs : Text) : List (Text × Text) :=
  (qs.splitOnP (· == '&')).filterMap fun field =>
    match cutAt '=' field with
    | (_, []) => none
    | (name, value) => some (unquotePlus name, unquotePlus value)

/-- `parse_qsl(qs, keep_blank_values=True)`. -/
def parseQslKeepingBlank (qs : Text) : List (Text × Text) :=
  ((qs.splitOnP (· == '&')).filter fun field => !field.isEmpty).map fun field =>
    let (name, value) := cutAt '=' field
    (unquotePlus name, unquotePlus value)

/-- `dict(parse_qsl(qs, keep_blank_values=True)).get(name)`. -/
def lastQueryValue (qs : Text) (name : String) : Option Text :=
  ((parseQslKeepingBlank qs).reverse.find? fun field => field.1 == name.toList).map Prod.snd

/-- `parse_qs(qs).get(name)[0]`. -/
def firstQueryValue (qs : Text) (name : String) : Option Text :=
  ((parseQsl qs).find? fun field => field.1 == name.toList).map Prod.snd

example : firstQueryValue "usp=a&%69d=1%C2%A02+3".toList "id" =
    some "1\u00a02 3".toList := by decide +kernel

end NanoCore.Foundation.UrlSplit
