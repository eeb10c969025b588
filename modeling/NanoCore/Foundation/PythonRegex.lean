import NanoCore.Foundation.PythonText
import NanoCore.Foundation.RegexSearch

namespace NanoCore.Foundation.PythonRegex

open NanoCore.Foundation.PythonText
open NanoCore.Foundation.Regex
open NanoCore.Foundation.RegexSearch

abbrev Regex := Pattern Char

/-- The class `\s`. -/
def space : Regex := .sat isSpace

/-- `\s+`. -/
def spaces : Regex := plus true space

/-- `\s*`. -/
def optSpaces : Regex := .star true space

/-- `.`, any code point but a line feed. -/
def dot : Regex := .sat fun c => c != '\n'

/-- `.*`. -/
def anything : Regex := .star true dot

/-- `[chars]`. -/
def oneOf (chars : Text) : Regex := .sat chars.contains

/-- `^`. -/
def atStart : Regex := .look fun before _ => before.isEmpty

/-- `$`, the end of the text or the place before its last line feed. -/
def atEnd : Regex := .look fun _ after => after.isEmpty || after == ['\n']

/-- A literal. -/
def lit (s : String) : Regex := word (fun x c => c == x) s.toList

/-- Whether a code point matches a lower-case ASCII pattern letter when case is
ignored: the letter's two cases and the four other code points that fold to an
ASCII letter. -/
def foldsTo (x c : Char) : Bool :=
  c.toLower == x || (x == 'i' && (c == '\u0130' || c == '\u0131')) ||
    (x == 's' && c == '\u017f') || (x == 'k' && c == '\u212a')

/-- A literal under `re.IGNORECASE`, written in lower case. -/
def litCI (s : String) : Regex := word foldsTo s.toList

def litAlts (words : List String) : Regex := alts (words.map lit)

variable (u : PyData)

def digit : Regex := .sat u.isDecimal

def digits : Regex := plus true (digit u)

/-- Whether a context (reversed when it is the one before) begins with a word
code point. -/
def wordEdge (context : Text) : Bool := context.head?.any u.isWord

/-- `\b`. -/
def wordBoundary : Regex := .look fun before after => wordEdge u before != wordEdge u after

/-- `\bkeyword\b`. -/
def wholeWord (keyword : String) : Regex :=
  seqs [wordBoundary u, lit keyword, wordBoundary u]

/-- `any(re.search(rf"\b{keyword}\b", s) for keyword in keywords)`. -/
def hasAnyWord (keywords : List String) (s : Text) : Bool :=
  keywords.any fun keyword => occurs (wholeWord u keyword) s

@[simp] theorem matches_space {before w after : Text} :
    Matches space before w after ↔ ∃ c, isSpace c = true ∧ w = [c] :=
  Iff.rfl

theorem matches_spaces {before w after : Text} :
    Matches spaces before w after ↔ w ≠ [] ∧ ∀ c ∈ w, isSpace c = true :=
  matches_plus_sat

theorem matches_optSpaces {before w after : Text} :
    Matches optSpaces before w after ↔ ∀ c ∈ w, isSpace c = true :=
  matches_star_sat

theorem matches_digits {before w after : Text} :
    Matches (digits u) before w after ↔ w ≠ [] ∧ ∀ c ∈ w, u.isDecimal c = true :=
  matches_plus_sat

theorem matches_atStart {before w after : Text} :
    Matches atStart before w after ↔ w = [] ∧ before = [] := by
  change w = [] ∧ before.isEmpty = true ↔ _
  rw [List.isEmpty_iff]

theorem matches_atEnd {before w after : Text} :
    Matches atEnd before w after ↔ w = [] ∧ (after = [] ∨ after = ['\n']) := by
  change w = [] ∧ (after.isEmpty || after == ['\n']) = true ↔ _
  simp

theorem matches_wordBoundary {before w after : Text} :
    Matches (wordBoundary u) before w after ↔ w = [] ∧ wordEdge u before ≠ wordEdge u after := by
  change w = [] ∧ (wordEdge u before != wordEdge u after) = true ↔ _
  simp

theorem matches_lit {s : String} {before w after : Text} :
    Matches (lit s) before w after ↔ w = s.toList := by
  rw [lit, matches_word]
  have hrel : (fun x y : Char => (y == x) = true) = fun x y => x = y := by
    funext x y
    exact propext (beq_iff_eq.trans eq_comm)
  rw [hrel, List.forall₂_eq_eq_eq]
  exact eq_comm

theorem matches_litAlts {words : List String} {before w after : Text} :
    Matches (litAlts words) before w after ↔ ∃ word ∈ words, w = word.toList := by
  simp [litAlts, matches_alts, matches_lit]

theorem matches_litCI {s : String} {before w after : Text} :
    Matches (litCI s) before w after ↔
      List.Forall₂ (fun x c => foldsTo x c = true) s.toList w :=
  matches_word

def IsWordText (s : Text) : Prop := s ≠ [] ∧ ∀ c ∈ s, u.isWord c = true

theorem isWordText_of_ascii {s : Text} (hne : s ≠ [])
    (hs : ∀ c ∈ s, c.toNat < 128 ∧ c.isAlphanum = true) : IsWordText u s := by
  refine ⟨hne, fun c hc => ?_⟩
  rw [isWord_ascii u (hs c hc).1, (hs c hc).2, Bool.true_or]

theorem isWordText_of_isDecimal {s : Text} (hne : s ≠ [])
    (hs : ∀ c ∈ s, u.isDecimal c = true) : IsWordText u s := by
  refine ⟨hne, fun c hc => ?_⟩
  rw [PyData.isWord, u.isAlnum_decimal c (hs c hc), Bool.true_or]

theorem wordEdge_append_of_isWordText {s : Text} (hs : IsWordText u s) (context : Text) :
    wordEdge u (s ++ context) = true := by
  rcases s with _ | ⟨c, s⟩
  · exact absurd rfl hs.1
  · simpa [wordEdge] using hs.2 c (by simp)

theorem IsWordText.reverse {s : Text} (hs : IsWordText u s) : IsWordText u s.reverse :=
  ⟨by simpa using hs.1, fun c hc => hs.2 c (by simpa using hc)⟩

theorem matches_wholeWord {keyword : String} (hk : IsWordText u keyword.toList)
    {before w after : Text} :
    Matches (wholeWord u keyword) before w after ↔
      w = keyword.toList ∧ wordEdge u before = false ∧ wordEdge u after = false := by
  simp only [wholeWord, matches_seqs_cons, matches_wordBoundary, matches_lit, matches_seqs_nil]
  generalize keyword.toList = k at hk
  have hedge := wordEdge_append_of_isWordText u hk
  have hedge' := wordEdge_append_of_isWordText u hk.reverse
  constructor
  · rintro ⟨_, v, rfl, ⟨rfl, hleft⟩, _, v', rfl, rfl, _, _, rfl, ⟨rfl, hright⟩, rfl⟩
    simp only [List.nil_append, List.append_nil, List.reverse_nil] at hleft hright
    rw [hedge] at hleft
    rw [hedge'] at hright
    exact ⟨by simp, by simpa using hleft, by simpa using hright.symm⟩
  · rintro ⟨rfl, hleft, hright⟩
    refine ⟨[], w, rfl, ⟨rfl, ?_⟩, w, [], by simp, rfl, [], [], rfl, ⟨rfl, ?_⟩, rfl⟩
    · simp [hleft, hedge]
    · simp [hright, hedge']

/-- A whole word occurs where it stands between code points that are not word
code points. -/
theorem occurs_wholeWord_iff {keyword : String} (hk : IsWordText u keyword.toList) {s : Text} :
    occurs (wholeWord u keyword) s = true ↔
      ∃ pre post, s = pre ++ keyword.toList ++ post ∧ wordEdge u pre.reverse = false ∧
        wordEdge u post = false := by
  rw [occurs_iff]
  constructor
  · rintro ⟨pre, w, post, rfl, hm⟩
    obtain ⟨rfl, hleft, hright⟩ := (matches_wholeWord u hk).mp hm
    exact ⟨pre, post, by simp, by simpa using hleft, hright⟩
  · rintro ⟨pre, post, rfl, hleft, hright⟩
    exact ⟨pre, keyword.toList, post, by simp,
      (matches_wholeWord u hk).mpr ⟨rfl, by simpa using hleft, hright⟩⟩

theorem hasAnyWord_iff {keywords : List String} {s : Text} :
    hasAnyWord u keywords s = true ↔
      ∃ keyword ∈ keywords, occurs (wholeWord u keyword) s = true := by
  simp [hasAnyWord]

theorem foldsTo_cases {x c : Char} (h : foldsTo x c = true) :
    c.toLower = x ∨ (x = 'i' ∧ (c = '\u0130' ∨ c = '\u0131')) ∨ (x = 's' ∧ c = '\u017f') ∨
      (x = 'k' ∧ c = '\u212a') := by
  simpa [foldsTo, or_assoc] using h

end NanoCore.Foundation.PythonRegex
