import Mathlib.Data.List.TakeWhile
import Mathlib.Data.List.Infix
import Mathlib.Data.List.Forall2

/-!
Python's `str` as a list of code points.  Operations that consult the Unicode
character database take the interpreter's data as an argument, since the
database changes with the interpreter; white space, which has been stable, is
listed.  A code point is a Unicode scalar value: lone surrogates are left out.
-/

namespace NanoCore.Foundation.PythonText

abbrev Text := List Char

/-- The exceptions that the modelled functions raise. -/
inductive PyError where
  | valueError
  | typeError
  | attributeError
  | overflowError
  | toolError (message : Text)
  /-- Of `sqlalchemy.exc`. -/
  | integrityError
  deriving DecidableEq, Repr

/-- Code points for which `str.isspace` holds; the regular expression class
`\s`, `strip` and `split` use the same set. -/
def isSpaceCode (n : Nat) : Bool :=
  (9 ≤ n && n ≤ 13) || (28 ≤ n && n ≤ 32) || n == 0x85 || n == 0xa0 || n == 0x1680 ||
    (0x2000 ≤ n && n ≤ 0x200a) || n == 0x2028 || n == 0x2029 || n == 0x202f ||
    n == 0x205f || n == 0x3000

def isSpace (c : Char) : Bool := isSpaceCode c.toNat

def lstrip (s : Text) : Text := s.dropWhile isSpace

def rstrip (s : Text) : Text := (lstrip s.reverse).reverse

def strip (s : Text) : Text := rstrip (lstrip s)

/-- `str.strip(chars)`. -/
def stripChars (chars : Text) (s : Text) : Text :=
  ((s.dropWhile chars.contains).reverse.dropWhile chars.contains).reverse

def rstripChars (chars : Text) (s : Text) : Text :=
  (s.reverse.dropWhile chars.contains).reverse

/-- `str.split()`. -/
def splitWords (s : Text) : List Text :=
  (s.splitOnP isSpace).filter fun w => !w.isEmpty

/-- `" ".join(words)`. -/
def joinWords (words : List Text) : Text := [' '].intercalate words

/-- `" ".join(s.split())`. -/
def collapseSpaces (s : Text) : Text := joinWords (splitWords s)

/-- The line boundaries of `str.splitlines`. -/
def isLineBreak (c : Char) : Bool :=
  (10 ≤ c.toNat && c.toNat ≤ 13) || (28 ≤ c.toNat && c.toNat ≤ 30) || c.toNat == 0x85 ||
    c.toNat == 0x2028 || c.toNat == 0x2029

/-- The lines of a text; `line` is read already, in reverse. -/
def splitLinesFrom (line : Text) : Text → List Text
  | [] => if line = [] then [] else [line.reverse]
  | '\r' :: '\n' :: rest => line.reverse :: splitLinesFrom [] rest
  | c :: rest =>
      if isLineBreak c then line.reverse :: splitLinesFrom [] rest
      else splitLinesFrom (c :: line) rest

def splitLines : Text → List Text := splitLinesFrom []

/-- `str.replace` of one code point by another. -/
def replaceChar (old new : Char) (s : Text) : Text :=
  s.map fun c => if c = old then new else c

/-- `needle in s`. -/
def hasSubstring (needle s : Text) : Bool := decide (needle <:+: s)

/-- `any(keyword in s for keyword in keywords)`. -/
def hasAnySubstring (keywords : List String) (s : Text) : Bool :=
  keywords.any fun keyword => hasSubstring keyword.toList s

/-- What `str`, `re` and `urllib.parse` read from the Unicode character
database, with the facts about it that the program relies on. -/
structure PyData where
  /-- `str.isalnum` of one code point. -/
  isAlnum : Char → Bool
  /-- The value of a decimal digit, for the class `\d` and for `int`. -/
  decimal : Char → Option Nat
  /-- Full lower-case mapping, apart from the final sigma. -/
  lowerOf : Char → Text
  isCased : Char → Bool
  isCaseIgnorable : Char → Bool
  /-- Whether `urllib.parse` refuses a network location with balanced brackets:
  a malformed bracketed host, or a code point that NFKC turns into a delimiter. -/
  rejectsNetloc : Text → Bool
  isAlnum_ascii : ∀ c : Char, c.toNat < 128 → isAlnum c = c.isAlphanum
  isAlnum_space : ∀ c : Char, isSpace c = true → isAlnum c = false
  isAlnum_quote : ∀ c : Char, c ∈ ['\u2018', '\u2019', '\u201c', '\u201d'] → isAlnum c = false
  isAlnum_sigma : ∀ c : Char, c ∈ ['\u03c2', '\u03c3'] → isAlnum c = true
  isAlnum_long_s : isAlnum '\u017f' = true
  decimal_ascii : ∀ c : Char, c.toNat < 128 →
    decimal c = if c.isDigit then some (c.toNat - 48) else none
  decimal_lt : ∀ (c : Char) (d : Nat), decimal c = some d → d < 10
  isAlnum_decimal : ∀ c : Char, (decimal c).isSome = true → isAlnum c = true
  lowerOf_ascii : ∀ c : Char, c.toNat < 128 → lowerOf c = [c.toLower]
  lowerOf_space : ∀ c : Char, isSpace c = true → lowerOf c = [c]
  lowerOf_quote : ∀ c : Char, c ∈ ['\u2018', '\u2019', '\u201c', '\u201d'] → lowerOf c = [c]
  lowerOf_decimal : ∀ c : Char, (decimal c).isSome = true → lowerOf c = [c]
  lowerOf_dotted_I : lowerOf '\u0130' = ['i', '\u0307']
  lowerOf_kelvin : lowerOf '\u212a' = ['k']
  /-- Apart from ASCII only the dotted capital I and the Kelvin sign have an
  ASCII code point in their lower-case mapping. -/
  ascii_of_mem_lowerOf : ∀ c x : Char, x ∈ lowerOf c → x.toNat < 128 →
    c.toNat < 128 ∨ c = '\u0130' ∨ c = '\u212a'

variable (u : PyData)

def PyData.isWord (c : Char) : Bool := u.isAlnum c || c == '_'

def PyData.isDecimal (c : Char) : Bool := (u.decimal c).isSome

/-- Whether a capital sigma between the two contexts (the first reversed) is
lowered to the final form. -/
def PyData.finalSigma (before after : Text) : Bool :=
  (before.dropWhile u.isCaseIgnorable).head?.any u.isCased &&
    !(after.dropWhile u.isCaseIgnorable).head?.any u.isCased

/-- Lower case of one code point between its contexts. -/
def PyData.lowerChar (before : Text) (c : Char) (after : Text) : Text :=
  if c = '\u03a3' then [if u.finalSigma before after then '\u03c2' else '\u03c3']
  else u.lowerOf c

def PyData.lowerIn : Text → Text → Text → Text
  | _, [], _ => []
  | before, c :: s, after =>
      u.lowerChar before c (s ++ after) ++ lowerIn (c :: before) s after

def PyData.lower (s : Text) : Text := u.lowerIn [] s []

/-- The longest digit string that `int` accepts. -/
def maxIntDigits : Nat := 4300

/-- `int` of a text of decimal digits. -/
def PyData.intOfDigits (digits : Text) : Except PyError Nat :=
  if digits.length ≤ maxIntDigits then
    .ok (digits.foldl (fun n c => 10 * n + (u.decimal c).getD 0) 0)
  else .error .valueError

/-- Digits, with single underscores between them, as `int` reads them. -/
def PyData.digitsOfLiteral : Bool → Text → Option Text
  | afterDigit, [] => if afterDigit then some [] else none
  | afterDigit, c :: rest =>
      if u.isDecimal c then (digitsOfLiteral true rest).map (c :: ·)
      else if c = '_' && afterDigit then digitsOfLiteral false rest
      else none

def PyData.intOfText (s : Text) : Except PyError Int :=
  let body := strip s
  let signed := match body with
    | '-' :: rest => (true, rest)
    | '+' :: rest => (false, rest)
    | _ => (false, body)
  match u.digitsOfLiteral false signed.2 with
  | none => .error .valueError
  | some digits => do
      let n ← u.intOfDigits digits
      return if signed.1 then -(n : Int) else n

/-- The values that occur in a tool's argument dictionary. -/
inductive PyScalar where
  | int (n : Int)
  | text (s : Text)
  deriving DecidableEq, Repr

/-- A dictionary with string keys; the first entry of a key counts. -/
abbrev PyDict := List (String × PyScalar)

/-- `int(value)`. -/
def PyData.intOfScalar : PyScalar → Except PyError Int
  | .int n => .ok n
  | .text s => u.intOfText s

def PyScalar.toText : PyScalar → Text
  | .int n => (toString n).toList
  | .text s => s

theorem forall_mem_of_all {s : Text} {P : Char → Prop} [DecidablePred P]
    (h : (s.all fun c => decide (P c)) = true) : ∀ c ∈ s, P c := by
  intro c hc
  exact of_decide_eq_true (List.all_eq_true.mp h c hc)

theorem hasSubstring_iff {needle s : Text} : hasSubstring needle s = true ↔ needle <:+: s := by
  simp [hasSubstring]

theorem hasAnySubstring_iff {keywords : List String} {s : Text} :
    hasAnySubstring keywords s = true ↔ ∃ keyword ∈ keywords, keyword.toList <:+: s := by
  simp [hasAnySubstring, hasSubstring_iff]

theorem not_isWord_of_isSpace {c : Char} (h : isSpace c = true) : u.isWord c = false := by
  have hne : c ≠ '_' := by
    rintro rfl
    exact absurd h (by decide)
  simp [PyData.isWord, u.isAlnum_space c h, hne]

theorem isWord_ascii {c : Char} (h : c.toNat < 128) :
    u.isWord c = (c.isAlphanum || c == '_') := by
  rw [PyData.isWord, u.isAlnum_ascii c h]

theorem exists_lstrip (s : Text) :
    ∃ pre, s = pre ++ lstrip s ∧ ∀ c ∈ pre, isSpace c = true :=
  ⟨s.takeWhile isSpace, List.takeWhile_append_dropWhile.symm,
    fun _ hc => List.mem_takeWhile_imp hc⟩

theorem exists_rstrip (s : Text) :
    ∃ post, s = rstrip s ++ post ∧ ∀ c ∈ post, isSpace c = true := by
  obtain ⟨pre, hs, hpre⟩ := exists_lstrip s.reverse
  refine ⟨pre.reverse, ?_, fun c hc => hpre c (by simpa using hc)⟩
  have hrev := congrArg List.reverse hs
  simpa [rstrip] using hrev

theorem exists_strip (s : Text) :
    ∃ pre post, s = pre ++ strip s ++ post ∧ (∀ c ∈ pre, isSpace c = true) ∧
      ∀ c ∈ post, isSpace c = true := by
  obtain ⟨pre, hpre, hpreSpace⟩ := exists_lstrip s
  obtain ⟨post, hpost, hpostSpace⟩ := exists_rstrip (lstrip s)
  refine ⟨pre, post, ?_, hpreSpace, hpostSpace⟩
  rw [strip, List.append_assoc, ← hpost, ← hpre]

theorem dropWhile_append_cons {drops : Char → Bool} {c : Char} (hc : drops c = false)
    (s t : Text) :
    (s ++ c :: t).dropWhile drops = s.dropWhile drops ++ c :: t := by
  induction s with
  | nil => rw [List.nil_append, List.dropWhile_cons, hc]; rfl
  | cons d s ih =>
      rw [List.cons_append, List.dropWhile_cons, List.dropWhile_cons]
      split
      · exact ih
      · rfl

theorem strip_append_cons {e : Char} (he : isSpace e = false) (s tail : Text) :
    strip (s ++ e :: tail) = lstrip s ++ e :: rstrip tail := by
  have hfront : lstrip (s ++ e :: tail) = lstrip s ++ e :: tail := dropWhile_append_cons he s tail
  have hback : lstrip (tail.reverse ++ e :: (lstrip s).reverse) =
      lstrip tail.reverse ++ e :: (lstrip s).reverse := dropWhile_append_cons he _ _
  have hreverse : (lstrip s ++ e :: tail).reverse = tail.reverse ++ e :: (lstrip s).reverse := by
    simp
  rw [strip, hfront, rstrip, hreverse, hback, rstrip]
  simp

theorem mem_flatten_splitOnP {p : Char → Bool} {s : Text} {c : Char} (hc : c ∈ s)
    (hp : p c = false) : c ∈ (s.splitOnP p).flatten := by
  induction s with
  | nil => exact absurd hc List.not_mem_nil
  | cons x s ih =>
      rw [List.mem_cons] at hc
      rw [List.splitOnP_cons_eq_if_modifyHead]
      split
      · rename_i hx
        rcases hc with rfl | hc
        · rw [hp] at hx
          exact absurd hx Bool.false_ne_true
        · exact ih hc
      · obtain ⟨w, words, hwords⟩ := List.exists_cons_of_ne_nil (List.splitOnP_ne_nil p s)
        rw [hwords] at ih ⊢
        rcases hc with rfl | hc
        · simp
        · simpa using Or.inr (List.mem_append.mp (ih hc))

theorem splitWords_append_cons {c : Char} (hc : isSpace c = true) (s t : Text) :
    splitWords (s ++ c :: t) = splitWords s ++ splitWords t := by
  rw [splitWords, List.splitOnP_append_cons s t hc, List.filter_append]
  rfl

theorem splitWords_word {w : Text} (hne : w ≠ []) (hw : ∀ c ∈ w, isSpace c = false) :
    splitWords w = [w] := by
  rw [splitWords, List.splitOnP_eq_singleton hw]
  simp [hne]

theorem splitWords_append_spaces {sp : Text} (hsp : ∀ c ∈ sp, isSpace c = true) (s : Text) :
    splitWords (s ++ sp) = splitWords s := by
  induction sp generalizing s with
  | nil => rw [List.append_nil]
  | cons c sp ih =>
      have hspaces := ih (fun d hd => hsp d (List.mem_cons_of_mem c hd)) []
      rw [List.nil_append] at hspaces
      rw [splitWords_append_cons (hsp c List.mem_cons_self), hspaces]
      exact List.append_nil _

theorem mem_joinWords {words : List Text} {w : Text} (hw : w ∈ words) {c : Char} (hc : c ∈ w) :
    c ∈ joinWords words := by
  induction words with
  | nil => exact absurd hw List.not_mem_nil
  | cons first rest ih =>
      rw [List.mem_cons] at hw
      unfold joinWords
      cases rest with
      | nil =>
          obtain rfl : w = first := by simpa using hw
          rwa [List.intercalate_singleton]
      | cons second rest =>
          rw [List.intercalate_cons_cons]
          rcases hw with rfl | hw
          · simp [hc]
          · exact List.mem_append_right _ (ih hw)

theorem mem_collapseSpaces {s : Text} {c : Char} (hc : c ∈ s) (hspace : isSpace c = false) :
    c ∈ collapseSpaces s := by
  obtain ⟨w, hw, hmem⟩ := List.mem_flatten.mp (mem_flatten_splitOnP hc hspace)
  refine mem_joinWords (List.mem_filter.mpr ⟨hw, ?_⟩) hmem
  rw [List.isEmpty_eq_false_iff.mpr (List.ne_nil_of_mem hmem)]
  rfl

theorem mem_strip {s : Text} {c : Char} (hc : c ∈ s) (hspace : isSpace c = false) :
    c ∈ strip s := by
  obtain ⟨pre, post, hs, hpre, hpost⟩ := exists_strip s
  rw [hs, List.mem_append, List.mem_append] at hc
  rcases hc with (hc | hc) | hc
  · rw [hpre c hc] at hspace
    exact absurd hspace (by decide)
  · exact hc
  · rw [hpost c hc] at hspace
    exact absurd hspace (by decide)

/-- The text is not blank. -/
def HasInk (s : Text) : Prop := ∃ c ∈ s, isSpace c = false

theorem HasInk.strip {s : Text} (h : HasInk s) : HasInk (strip s) := by
  obtain ⟨c, hc, hspace⟩ := h
  exact ⟨c, mem_strip hc hspace, hspace⟩

theorem HasInk.append_right {s : Text} (h : HasInk s) (front : Text) : HasInk (front ++ s) := by
  obtain ⟨c, hc, hspace⟩ := h
  exact ⟨c, List.mem_append_right front hc, hspace⟩

theorem HasInk.append_left {s : Text} (h : HasInk s) (back : Text) : HasInk (s ++ back) := by
  obtain ⟨c, hc, hspace⟩ := h
  exact ⟨c, List.mem_append_left back hc, hspace⟩

theorem hasInk_iff {s : Text} : HasInk s ↔ PythonText.strip s ≠ [] := by
  constructor
  · rintro ⟨c, hc, hspace⟩ hempty
    exact List.not_mem_nil (hempty ▸ mem_strip hc hspace)
  · intro hne
    by_contra hblank
    have hspaces : ∀ c ∈ s, isSpace c = true := fun c hc => by
      by_contra hc'
      exact hblank ⟨c, hc, Bool.eq_false_iff.mpr hc'⟩
    refine hne ?_
    rw [PythonText.strip, lstrip, List.dropWhile_eq_nil_iff.mpr hspaces]
    rfl

theorem mem_dropWhile_of_not {p : Char → Bool} {s : Text} {c : Char} (hc : c ∈ s)
    (hp : p c = false) : c ∈ s.dropWhile p := by
  rw [← List.takeWhile_append_dropWhile (p := p) (l := s), List.mem_append] at hc
  refine hc.resolve_left fun htake => ?_
  rw [List.mem_takeWhile_imp htake] at hp
  exact absurd hp (by decide)

theorem mem_stripChars {chars s : Text} {c : Char} (hc : c ∈ s) (hchars : c ∉ chars) :
    c ∈ stripChars chars s := by
  have hp : chars.contains c = false := by
    rwa [Bool.eq_false_iff, ne_eq, List.contains_iff_mem]
  rw [stripChars, List.mem_reverse]
  exact mem_dropWhile_of_not (List.mem_reverse.mpr (mem_dropWhile_of_not hc hp)) hp

theorem lowerIn_append (before s t after : Text) :
    u.lowerIn before (s ++ t) after =
      u.lowerIn before s (t ++ after) ++ u.lowerIn (s.reverse ++ before) t after := by
  induction s generalizing before with
  | nil => simp [PyData.lowerIn]
  | cons c s ih => simp [PyData.lowerIn, ih]

theorem lowerChar_eq {c : Char} (hc : c ≠ '\u03a3') (before after : Text) :
    u.lowerChar before c after = u.lowerOf c := by
  simp [PyData.lowerChar, hc]

theorem mem_lower {s : Text} {c x : Char} (hc : c ∈ s) (hsigma : c ≠ '\u03a3')
    (hx : x ∈ u.lowerOf c) : x ∈ u.lower s := by
  obtain ⟨pre, post, rfl⟩ := List.append_of_mem hc
  rw [PyData.lower, lowerIn_append, PyData.lowerIn, lowerChar_eq u hsigma]
  simp [hx]

/-- The code points of a lower-cased text come from the mappings of its own,
except for the two forms of sigma. -/
theorem mem_lowerIn {before s after : Text} {x : Char} (h : x ∈ u.lowerIn before s after) :
    x ∈ ['\u03c2', '\u03c3'] ∨ ∃ c ∈ s, x ∈ u.lowerOf c := by
  induction s generalizing before with
  | nil => simp [PyData.lowerIn] at h
  | cons c s ih =>
      simp only [PyData.lowerIn, List.mem_append] at h
      rcases h with h | h
      · by_cases hc : c = '\u03a3'
        · left
          simp only [PyData.lowerChar, hc, if_true, List.mem_singleton] at h
          split at h <;> simp [h]
        · right
          rw [lowerChar_eq u hc] at h
          exact ⟨c, by simp, h⟩
      · rcases ih h with h | ⟨d, hd, hx⟩
        · exact Or.inl h
        · exact Or.inr ⟨d, List.mem_cons_of_mem c hd, hx⟩

/-- Code points whose lower case is one code point are lowered one by one. -/
theorem lowerIn_eq_map {f : Char → Char} {before s after : Text}
    (h : ∀ c ∈ s, u.lowerOf c = [f c] ∧ c ≠ '\u03a3') : u.lowerIn before s after = s.map f := by
  induction s generalizing before with
  | nil => rfl
  | cons c s ih =>
      have hc := h c (by simp)
      rw [PyData.lowerIn, lowerChar_eq u hc.2, hc.1,
        ih fun d hd => h d (List.mem_cons_of_mem c hd)]
      rfl

theorem lowerIn_eq_self {before s after : Text} (h : ∀ c ∈ s, u.lowerOf c = [c] ∧ c ≠ '\u03a3') :
    u.lowerIn before s after = s :=
  (lowerIn_eq_map u h).trans (List.map_id' s)

theorem ne_sigma_of_isSpace {c : Char} (h : isSpace c = true) : c ≠ '\u03a3' := by
  rintro rfl
  exact absurd h (by decide)

theorem lowerIn_spaces {before s after : Text} (h : ∀ c ∈ s, isSpace c = true) :
    u.lowerIn before s after = s :=
  lowerIn_eq_self u fun c hc => ⟨u.lowerOf_space c (h c hc), ne_sigma_of_isSpace (h c hc)⟩

/-- Two code points that differ at most as the two forms of sigma do. -/
def SigmaEq (x y : Char) : Prop :=
  x = y ∨ (x ∈ ['\u03c2', '\u03c3'] ∧ y ∈ ['\u03c2', '\u03c3'])

theorem lowerIn_sigmaEq (before before' s after after' : Text) :
    List.Forall₂ SigmaEq (u.lowerIn before s after) (u.lowerIn before' s after') := by
  induction s generalizing before before' with
  | nil => exact .nil
  | cons c s ih =>
      refine List.rel_append ?_ (ih _ _)
      by_cases hc : c = '\u03a3'
      · simp only [PyData.lowerChar, hc, if_true]
        refine List.Forall₂.cons (Or.inr ⟨?_, ?_⟩) .nil <;> split <;> simp
      · rw [lowerChar_eq u hc, lowerChar_eq u hc]
        exact List.forall₂_same.mpr fun x _ => Or.inl rfl

theorem ascii_forall {P : Char → Prop} (h : ∀ n < 128, P (Char.ofNat n)) (c : Char)
    (hc : c.toNat < 128) : P c := by
  have hn := h c.toNat hc
  rwa [Char.ofNat_toNat] at hn

theorem toLower_eq_self {c : Char} (hc : ¬ c.toNat < 128) : c.toLower = c := by
  refine dif_neg ?_
  rintro ⟨-, hle⟩
  have hle' : c.toNat ≤ 90 := UInt32.le_iff_toNat_le.mp hle
  omega

private def asciiLowerOf (c : Char) : Text :=
  if c = '\u0130' then ['i', '\u0307'] else if c = '\u212a' then ['k'] else [c.toLower]

private theorem asciiLowerOf_eq {c : Char} (h : c ≠ '\u0130') (h' : c ≠ '\u212a') :
    asciiLowerOf c = [c.toLower] := by
  simp [asciiLowerOf, h, h']

private theorem asciiLowerOf_ascii {c : Char} (hc : c.toNat < 128) :
    asciiLowerOf c = [c.toLower] := by
  refine asciiLowerOf_eq ?_ ?_ <;> rintro rfl <;> exact absurd hc (by decide)

theorem ascii_of_isDigit {c : Char} (h : c.isDigit = true) : c.toNat < 128 := by
  simp only [Char.isDigit, Bool.and_eq_true, decide_eq_true_eq] at h
  have hle : c.toNat ≤ 57 := UInt32.le_iff_toNat_le.mp h.2
  omega

theorem intOfDigits_eq {u : PyData} {ds : Text} (hds : ∀ c ∈ ds, c.isDigit = true)
    (hlength : ds.length ≤ maxIntDigits) :
    u.intOfDigits ds = .ok (Nat.ofDigitChars 10 ds 0) := by
  have hfold : ∀ n, ds.foldl (fun n c => 10 * n + (u.decimal c).getD 0) n =
      Nat.ofDigitChars 10 ds n := by
    clear hlength
    induction ds with
    | nil => exact fun n => rfl
    | cons c ds ih =>
        intro n
        have hc := hds c List.mem_cons_self
        rw [List.foldl_cons, Nat.ofDigitChars_cons,
          ih fun d hd => hds d (List.mem_cons_of_mem c hd),
          u.decimal_ascii c (ascii_of_isDigit hc), if_pos hc]
        rfl
  rw [PyData.intOfDigits, if_pos hlength, hfold]

private theorem asciiLowerOf_space {c : Char} (h : isSpace c = true) : asciiLowerOf c = [c] := by
  rw [asciiLowerOf_eq (by rintro rfl; exact absurd h (by decide))
    (by rintro rfl; exact absurd h (by decide))]
  by_cases hc : c.toNat < 128
  · revert h
    refine ascii_forall (P := fun c => isSpace c = true → [c.toLower] = [c]) ?_ c hc
    decide
  · rw [toLower_eq_self hc]

private theorem isAlphanum_not_space {c : Char} (h : isSpace c = true) :
    c.isAlphanum = false := by
  by_cases hc : c.toNat < 128
  · revert h
    refine ascii_forall (P := fun c => isSpace c = true → c.isAlphanum = false) ?_ c hc
    decide
  · rw [Bool.eq_false_iff]
    intro hal
    change (decide (c.val ≥ 'A'.val ∧ c.val ≤ 'Z'.val) || (c.val ≥ 'a'.val && c.val ≤ 'z'.val) ||
      (c.val ≥ '0'.val && c.val ≤ '9'.val)) = true at hal
    simp only [Bool.or_eq_true, Bool.and_eq_true, decide_eq_true_eq] at hal
    rcases hal with (⟨-, hle⟩ | ⟨-, hle⟩) | ⟨-, hle⟩ <;>
      · have hle' := UInt32.le_iff_toNat_le.mp hle
        change c.toNat ≤ _ at hle'
        simp at hle'
        omega

private theorem isDigit_of_decimal {c : Char}
    (h : (if c.isDigit then some (c.toNat - 48) else none).isSome = true) :
    c.isDigit = true := by
  by_contra hne
  rw [if_neg hne] at h
  simp at h

/-- The database in which only ASCII letters and digits, the two forms of sigma
and the long s are alphanumeric. -/
def PyData.ascii : PyData where
  isAlnum c := c.isAlphanum || c ∈ ['\u03c2', '\u03c3', '\u017f']
  decimal c := if c.isDigit then some (c.toNat - 48) else none
  lowerOf := asciiLowerOf
  isCased c := c.isAlpha
  isCaseIgnorable c := c == '.' || c == ':' || c == '^' || c == '\u0027' || c == '\u0060'
  rejectsNetloc _ := false
  isAlnum_ascii c hc := by
    have h : c ∉ ['\u03c2', '\u03c3', '\u017f'] := by
      intro hmem
      simp only [List.mem_cons, List.not_mem_nil, or_false] at hmem
      rcases hmem with rfl | rfl | rfl <;> exact absurd hc (by decide)
    simp only [decide_eq_false h, Bool.or_false]
  isAlnum_space c hc := by
    have h : c ∉ ['\u03c2', '\u03c3', '\u017f'] := by
      intro hmem
      simp only [List.mem_cons, List.not_mem_nil, or_false] at hmem
      rcases hmem with rfl | rfl | rfl <;> exact absurd hc (by decide)
    simp only [decide_eq_false h, Bool.or_false, isAlphanum_not_space hc]
  isAlnum_quote := forall_mem_of_all (by decide)
  isAlnum_sigma := forall_mem_of_all (by decide)
  isAlnum_long_s := by decide
  decimal_ascii _ _ := rfl
  decimal_lt c d h := by
    split at h
    · rename_i hdigit
      obtain rfl : c.toNat - 48 = d := by simpa using h
      simp only [Char.isDigit, Bool.and_eq_true, decide_eq_true_eq] at hdigit
      have hle : c.toNat ≤ 57 := UInt32.le_iff_toNat_le.mp hdigit.2
      omega
    · simp at h
  isAlnum_decimal c h := by
    have hdigit : c.isDigit = true := isDigit_of_decimal h
    simp [Char.isAlphanum, hdigit]
  lowerOf_ascii _ hc := asciiLowerOf_ascii hc
  lowerOf_space _ hc := asciiLowerOf_space hc
  lowerOf_quote := forall_mem_of_all (by decide)
  lowerOf_decimal c h := by
    have hdigit : c.isDigit = true := isDigit_of_decimal h
    have hc := ascii_of_isDigit hdigit
    rw [asciiLowerOf_ascii hc]
    revert hdigit
    refine ascii_forall (P := fun c => c.isDigit = true → [c.toLower] = [c]) ?_ c hc
    decide
  lowerOf_dotted_I := rfl
  lowerOf_kelvin := rfl
  ascii_of_mem_lowerOf c x hx hlt := by
    by_cases h : c = '\u0130'
    · exact Or.inr (Or.inl h)
    · by_cases h' : c = '\u212a'
      · exact Or.inr (Or.inr h')
      · rw [asciiLowerOf_eq h h', List.mem_singleton] at hx
        subst x
        by_contra hne
        rw [not_or] at hne
        rw [toLower_eq_self hne.1] at hlt
        exact hne.1 hlt

end NanoCore.Foundation.PythonText
