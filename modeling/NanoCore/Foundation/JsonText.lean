import Mathlib.Data.Char
import Mathlib.Data.List.Lex
import Mathlib.Data.List.Sort
import Mathlib.Tactic.IntervalCases
import NanoCore.Foundation.PythonJson
import NanoCore.Foundation.UrlSplit

namespace NanoCore.Foundation.JsonText

open NanoCore.Foundation.PythonJson
open NanoCore.Foundation.PythonText
open NanoCore.Foundation.UrlSplit (hexValue)

def isAtomChar (c : Char) : Bool := c.isAlphanum || c == '+' || c == '-' || c == '.'

def isFloatText (text : Text) : Bool :=
  text.all isAtomChar &&
    text.any (fun c => c == '.' || c == 'e' || c == 'N' || c == 'I') &&
    text.head?.any fun c => c.isDigit || c == '-' || c == 'N' || c == 'I'

structure FloatText where
  text : Text
  isFloat : isFloatText text = true
  deriving DecidableEq, Repr

def FloatText.zero : FloatText := ⟨"0.0".toList, by decide⟩

inductive Json where
  | null
  | bool (b : Bool)
  | int (n : Int)
  | float (x : FloatText)
  | str (s : Text)
  | arr (elements : List Json)
  | obj (entries : List (Text × Json))

abbrev JsonObject := List (Text × Json)

def JsonObject.get (entries : JsonObject) (key : String) : Option Json :=
  (entries.find? fun entry => entry.1 == key.toList).map Prod.snd

def intText (n : Int) : Text :=
  if n < 0 then '-' :: Nat.toDigits 10 n.natAbs else Nat.toDigits 10 n.natAbs

def escapeInString (c : Char) : Text :=
  if c = '"' then ['\\', '"']
  else if c = '\\' then ['\\', '\\']
  else if c = '\n' then ['\\', 'n']
  else if c = '\r' then ['\\', 'r']
  else if c = '\t' then ['\\', 't']
  else if c.toNat = 8 then ['\\', 'b']
  else if c.toNat = 12 then ['\\', 'f']
  else if c.toNat < 32 then unicodeEscape c.toNat
  else [c]

def writeString (s : Text) : Text := '"' :: s.flatMap escapeInString ++ ['"']

def readHex4 : Text → Option (Nat × Text)
  | a :: b :: c :: d :: rest => do
      return (4096 * (← hexValue a) + 256 * (← hexValue b) + 16 * (← hexValue c) + (← hexValue d),
        rest)
  | _ => none

/-- The character after `\\u`.  A lone surrogate, for which there is no `Char`, is
read as U+FFFD. -/
def readUnicode (s : Text) : Option (Char × Text) := do
  let (n, rest) ← readHex4 s
  if 0xd800 ≤ n ∧ n ≤ 0xdbff then
    match rest with
    | '\\' :: 'u' :: afterU => do
        let (m, rest') ← readHex4 afterU
        if 0xdc00 ≤ m ∧ m ≤ 0xdfff then
          return (Char.ofNat (0x10000 + 1024 * (n - 0xd800) + (m - 0xdc00)), rest')
        else return ('\ufffd', rest)
    | _ => return ('\ufffd', rest)
  else if 0xdc00 ≤ n ∧ n ≤ 0xdfff then return ('\ufffd', rest)
  else return (Char.ofNat n, rest)

def shortEscape (c : Char) : Option Char :=
  [('"', '"'), ('\\', '\\'), ('/', '/'), ('b', '\x08'), ('f', '\x0c'), ('n', '\n'), ('r', '\r'),
    ('t', '\t')].lookup c

def readChar : Text → Option (Char × Text)
  | '\\' :: 'u' :: rest => readUnicode rest
  | '\\' :: c :: rest => (shortEscape c).map fun e => (e, rest)
  | '"' :: _ => none
  | c :: rest => if c.toNat < 32 ∨ c = '\\' then none else some (c, rest)
  | [] => none

mutual

def write : Json → Text
  | .null => "null".toList
  | .bool true => "true".toList
  | .bool false => "false".toList
  | .int n => intText n
  | .float x => x.text
  | .str s => writeString s
  | .arr [] => "[]".toList
  | .arr (a :: rest) => '[' :: write a ++ writeElements rest
  | .obj [] => "\x7b\x7d".toList
  | .obj ((k, a) :: rest) => '\x7b' :: writeString k ++ ':' :: ' ' :: write a ++ writeEntries rest

def writeElements : List Json → Text
  | [] => [']']
  | a :: rest => ',' :: ' ' :: write a ++ writeElements rest

def writeEntries : JsonObject → Text
  | [] => ['\x7d']
  | (k, a) :: rest => ',' :: ' ' :: writeString k ++ ':' :: ' ' :: write a ++ writeEntries rest

end

def KeyOrder (a b : Text × Json) : Prop := a.1 ≤ b.1

instance : DecidableRel KeyOrder := fun a b => inferInstanceAs (Decidable (a.1 ≤ b.1))

instance : Std.Total KeyOrder := ⟨fun a b => le_total a.1 b.1⟩

instance : IsTrans (Text × Json) KeyOrder := ⟨fun _ b _ => le_trans (b := b.1)⟩

mutual

/-- A value with the entries of every object in the order of their keys. -/
def sorted : Json → Json
  | .arr elements => .arr (sortedElements elements)
  | .obj entries => .obj ((sortedEntries entries).insertionSort KeyOrder)
  | .null => .null
  | .bool b => .bool b
  | .int n => .int n
  | .float x => .float x
  | .str s => .str s

def sortedElements : List Json → List Json
  | [] => []
  | a :: rest => sorted a :: sortedElements rest

def sortedEntries : JsonObject → JsonObject
  | [] => []
  | (k, a) :: rest => (k, sorted a) :: sortedEntries rest

end

/-- `json.dumps(value, sort_keys=True, ensure_ascii=False)`. -/
def dumps (value : Json) : Text := write (sorted value)

def Json.Same (a b : Json) : Prop := sorted a = sorted b

example : dumps (.obj [("b".toList, .int (-1)), ("a".toList, .arr [.null, .str ['"']])]) =
    "\x7b\"a\": [null, \"\\\"\"], \"b\": -1\x7d".toList := by decide +kernel

def Stops (s : Text) : Prop := ∀ c rest, s = c :: rest → isAtomChar c = false

theorem stops_cons {c : Char} (hc : isAtomChar c = false) (rest : Text) : Stops (c :: rest) := by
  rintro _ _ h
  cases h
  exact hc

theorem stops_nil : Stops [] := nofun

theorem takeWhile_append_of_stops {w s : Text} (hw : ∀ c ∈ w, isAtomChar c = true)
    (hs : Stops s) : (w ++ s).takeWhile isAtomChar = w := by
  rw [List.takeWhile_append_of_pos hw]
  cases s with
  | nil => exact List.append_nil w
  | cons c rest =>
      rw [List.takeWhile_cons, hs c rest rfl, if_neg Bool.false_ne_true, List.append_nil]

theorem atoms_inj {w v s t : Text} (hw : ∀ c ∈ w, isAtomChar c = true)
    (hv : ∀ c ∈ v, isAtomChar c = true) (hs : Stops s) (ht : Stops t) (h : w ++ s = v ++ t) :
    w = v ∧ s = t := by
  have hwords := congrArg (List.takeWhile isAtomChar) h
  rw [takeWhile_append_of_stops hw hs, takeWhile_append_of_stops hv ht] at hwords
  subst hwords
  exact ⟨rfl, List.append_cancel_left h⟩

def Json.isAtom : Json → Bool
  | .null | .bool _ | .int _ | .float _ => true
  | .str _ | .arr _ | .obj _ => false

theorem isDigit_of_mem_intText {n : Int} {c : Char} (hc : c ∈ intText n) :
    c.isDigit = true ∨ c = '-' := by
  have hdigit (hmem : c ∈ Nat.toDigits 10 n.natAbs) : c.isDigit = true :=
    Nat.isDigit_of_mem_toDigits (by decide) (by decide) hmem
  rw [intText] at hc
  split at hc
  · rcases List.mem_cons.mp hc with rfl | hmem
    · exact .inr rfl
    · exact .inl (hdigit hmem)
  · exact .inl (hdigit hc)

theorem natAbs_eq_of_toDigits {m n : Int}
    (h : Nat.toDigits 10 m.natAbs = Nat.toDigits 10 n.natAbs) : m.natAbs = n.natAbs := by
  rw [← Nat.ofDigitChars_ten_toDigits (n := m.natAbs), h, Nat.ofDigitChars_ten_toDigits]

theorem intText_inj {m n : Int} (h : intText m = intText n) : m = n := by
  have hminus (k : Int) : '-' ∉ Nat.toDigits 10 k.natAbs := fun hmem =>
    absurd (Nat.isDigit_of_mem_toDigits (by decide) (by decide) hmem) (by decide)
  rw [intText, intText] at h
  split at h <;> split at h
  · have habs := natAbs_eq_of_toDigits (List.cons.inj h).2
    omega
  · exact absurd (h ▸ List.mem_cons_self) (hminus n)
  · exact absurd (h ▸ List.mem_cons_self) (hminus m)
  · have habs := natAbs_eq_of_toDigits h
    omega

theorem isAtomChar_of_isDigit {c : Char} (h : c.isDigit = true) : isAtomChar c = true := by
  simp [isAtomChar, Char.isAlphanum, h]

theorem isAtomChar_of_mem_write {a : Json} (ha : a.isAtom = true) :
    ∀ c ∈ write a, isAtomChar c = true := by
  cases a with
  | null => exact List.all_eq_true.mp (by decide)
  | bool b => cases b <;> exact List.all_eq_true.mp (by decide)
  | int n =>
      intro c hc
      rcases isDigit_of_mem_intText hc with hdigit | rfl
      · exact isAtomChar_of_isDigit hdigit
      · rfl
  | float x =>
      have hfloat := x.isFloat
      rw [isFloatText, Bool.and_eq_true, Bool.and_eq_true, List.all_eq_true] at hfloat
      exact hfloat.1.1
  | str s => cases ha
  | arr elements => cases ha
  | obj entries => cases ha

theorem float_ne_intText (x : FloatText) (n : Int) : x.text ≠ intText n := by
  intro h
  have hfloat := x.isFloat
  simp only [isFloatText, Bool.and_eq_true, List.any_eq_true, Bool.or_eq_true, beq_iff_eq] at hfloat
  obtain ⟨⟨-, c, hmem, hmark⟩, -⟩ := hfloat
  rw [h] at hmem
  rcases isDigit_of_mem_intText hmem with hdigit | rfl
  · rcases hmark with ((rfl | rfl) | rfl) | rfl <;> cases hdigit
  · simp at hmark

theorem float_head {x : FloatText} {c : Char} {rest : Text} (h : x.text = c :: rest) :
    c.isDigit = true ∨ c = '-' ∨ c = 'N' ∨ c = 'I' := by
  have hfloat := x.isFloat
  simp only [isFloatText, h, List.head?_cons, Option.any_some, Bool.and_eq_true, Bool.or_eq_true,
    beq_iff_eq] at hfloat
  tauto

theorem constant_ne_number {a : Json} (ha : a = .null ∨ a = .bool true ∨ a = .bool false) :
    (∀ n, write a ≠ intText n) ∧ ∀ x : FloatText, write a ≠ x.text := by
  constructor
  · intro n h
    have hhead (c : Char) (hc : c ∈ write a) := isDigit_of_mem_intText (h ▸ hc)
    rcases ha with rfl | rfl | rfl
    · exact absurd (hhead 'n' (by decide)) (by decide)
    · exact absurd (hhead 't' (by decide)) (by decide)
    · exact absurd (hhead 'f' (by decide)) (by decide)
  · intro x h
    rcases ha with rfl | rfl | rfl <;> exact absurd (float_head h.symm) (by decide)

theorem write_inj_of_isAtom {a b : Json} (ha : a.isAtom = true) (hb : b.isAtom = true)
    (h : write a = write b) : a = b := by
  have hconstants (a b : Json) (ha : a = .null ∨ a = .bool true ∨ a = .bool false)
      (hb : b = .null ∨ b = .bool true ∨ b = .bool false) (h : write a = write b) : a = b := by
    rcases ha with rfl | rfl | rfl <;> rcases hb with rfl | rfl | rfl <;>
      first | rfl | exact absurd h (by decide)
  have hconstant (a : Json) (ha : a.isAtom = true) :
      (a = .null ∨ a = .bool true ∨ a = .bool false) ∨ (∃ n, a = .int n) ∨ ∃ x, a = .float x := by
    cases a with
    | null => exact .inl (.inl rfl)
    | bool b => cases b <;> simp
    | int n => exact .inr (.inl ⟨n, rfl⟩)
    | float x => exact .inr (.inr ⟨x, rfl⟩)
    | _ => cases ha
  rcases hconstant a ha with hfirst | ⟨m, rfl⟩ | ⟨x, rfl⟩ <;>
    rcases hconstant b hb with hsecond | ⟨n, rfl⟩ | ⟨y, rfl⟩
  · exact hconstants a b hfirst hsecond h
  · exact absurd h ((constant_ne_number hfirst).1 n)
  · exact absurd h ((constant_ne_number hfirst).2 y)
  · exact absurd h.symm ((constant_ne_number hsecond).1 m)
  · exact congrArg Json.int (intText_inj h)
  · exact absurd h.symm (float_ne_intText y m)
  · exact absurd h.symm ((constant_ne_number hsecond).2 x)
  · exact absurd h (float_ne_intText x n)
  · cases x
    cases y
    cases h
    rfl

theorem write_head_of_not_isAtom {a : Json} (ha : a.isAtom = false) :
    ∃ c rest, write a = c :: rest ∧ isAtomChar c = false := by
  cases a with
  | str s => exact ⟨'"', _, rfl, rfl⟩
  | arr elements => cases elements <;> exact ⟨'[', _, rfl, rfl⟩
  | obj entries => cases entries <;> exact ⟨'\x7b', _, rfl, rfl⟩
  | _ => cases ha

theorem readUnicode_hex4 {n : Nat} (hn : n < 32) (rest : Text) :
    readUnicode (hex4 n ++ rest) = some (Char.ofNat n, rest) := by
  interval_cases n <;> rfl

theorem readChar_escapeInString (c : Char) (rest : Text) :
    readChar (escapeInString c ++ rest) = some (c, rest) := by
  rw [escapeInString]
  split_ifs with hquote hbackslash hnewline hreturn htab hbackspace hformfeed hcontrol
  · rw [hquote]
    rfl
  · rw [hbackslash]
    rfl
  · rw [hnewline]
    rfl
  · rw [hreturn]
    rfl
  · rw [htab]
    rfl
  · have hc : c = '\x08' := Char.toNat_inj.mp hbackspace
    rw [hc]
    rfl
  · have hc : c = '\x0c' := Char.toNat_inj.mp hformfeed
    rw [hc]
    rfl
  · refine (readUnicode_hex4 hcontrol rest).trans ?_
    rw [Char.ofNat_toNat]
  · rw [List.singleton_append, readChar.eq_def]
    split
    · rename_i heq
      exact absurd (List.cons.inj heq).1 hbackslash
    · rename_i heq
      exact absurd (List.cons.inj heq).1 hbackslash
    · rename_i heq
      exact absurd (List.cons.inj heq).1 hquote
    · rename_i heq
      obtain ⟨rfl, rfl⟩ := List.cons.inj heq
      rw [if_neg (not_or.mpr ⟨hcontrol, hbackslash⟩)]
    · rename_i heq
      cases heq

theorem flatMap_escape_inj {k l s t : Text}
    (h : k.flatMap escapeInString ++ '"' :: s = l.flatMap escapeInString ++ '"' :: t) :
    k = l ∧ s = t := by
  have hquote (rest : Text) : readChar ('"' :: rest) = none := rfl
  induction k generalizing l with
  | nil =>
      cases l with
      | nil => exact ⟨rfl, (List.cons.inj h).2⟩
      | cons d l =>
          have hread := congrArg readChar h
          rw [List.flatMap_cons, List.append_assoc, readChar_escapeInString] at hread
          cases hread
  | cons c k ih =>
      have hread := congrArg readChar h
      rw [List.flatMap_cons, List.append_assoc, readChar_escapeInString] at hread
      cases l with
      | nil => cases hread
      | cons d l =>
          rw [List.flatMap_cons, List.append_assoc, readChar_escapeInString] at hread
          obtain ⟨hchar, hrest⟩ := Prod.mk.inj (Option.some.inj hread)
          obtain ⟨rfl, hsame⟩ := ih hrest
          exact ⟨by rw [hchar], hsame⟩

theorem writeString_inj {k l s t : Text} (h : writeString k ++ s = writeString l ++ t) :
    k = l ∧ s = t := by
  simp only [writeString, List.cons_append, List.append_assoc, List.nil_append] at h
  exact flatMap_escape_inj (List.cons.inj h).2

theorem stops_writeElements (elements : List Json) (s : Text) :
    Stops (writeElements elements ++ s) := by
  cases elements <;> exact stops_cons rfl _

theorem stops_writeEntries (entries : JsonObject) (s : Text) :
    Stops (writeEntries entries ++ s) := by
  cases entries with
  | nil => exact stops_cons rfl _
  | cons entry rest => exact stops_cons rfl _

theorem write_ne_nil (a : Json) : write a ≠ [] := by
  cases a with
  | bool b => cases b <;> decide
  | int n =>
      change intText n ≠ []
      rw [intText]
      split
      · exact List.cons_ne_nil _ _
      · exact Nat.toDigits_ne_nil
  | float x =>
      intro h
      have hfloat := x.isFloat
      rw [show x.text = [] from h] at hfloat
      cases hfloat
  | arr elements => cases elements <;> exact List.cons_ne_nil _ _
  | obj entries => rcases entries with _ | ⟨⟨k, a⟩, rest⟩ <;> exact List.cons_ne_nil _ _
  | _ => exact List.cons_ne_nil _ _

theorem write_atom_ne {a : Json} (ha : a.isAtom = true) {c : Char} (hc : isAtomChar c = false)
    (s rest : Text) : write a ++ s ≠ c :: rest := by
  intro h
  rcases hwrite : write a with _ | ⟨d, w⟩
  · exact write_ne_nil a hwrite
  · rw [hwrite] at h
    have hd := isAtomChar_of_mem_write ha d (hwrite ▸ List.mem_cons_self)
    rw [(List.cons.inj h).1, hc] at hd
    cases hd

theorem write_ne_bracket (a : Json) {s t : Text} : write a ++ s ≠ ']' :: t := by
  intro h
  cases ha : a.isAtom with
  | true => exact write_atom_ne ha rfl s t h
  | false =>
      cases a with
      | str k => exact absurd (List.cons.inj h).1 (by decide)
      | arr as => cases as <;> exact absurd (List.cons.inj h).1 (by decide)
      | obj as => rcases as with _ | ⟨⟨k, a⟩, as⟩ <;> exact absurd (List.cons.inj h).1 (by decide)
      | _ => cases ha

theorem write_inj_of_atom {a b : Json} (ha : a.isAtom = true) {s t : Text} (hs : Stops s)
    (ht : Stops t) (h : write a ++ s = write b ++ t) : a = b ∧ s = t := by
  cases hb : b.isAtom with
  | true =>
      obtain ⟨hwords, hsame⟩ := atoms_inj (isAtomChar_of_mem_write ha)
        (isAtomChar_of_mem_write hb) hs ht h
      exact ⟨write_inj_of_isAtom ha hb hwords, hsame⟩
  | false =>
      obtain ⟨c, rest, hwrite, hc⟩ := write_head_of_not_isAtom hb
      rw [hwrite] at h
      exact absurd h (write_atom_ne ha hc s _)

theorem exists_str_of_write {b : Json} {t rest : Text} (h : write b ++ t = '"' :: rest) :
    ∃ l, b = .str l := by
  cases b with
  | str l => exact ⟨l, rfl⟩
  | arr bs => cases bs <;> exact absurd (List.cons.inj h).1 (by decide)
  | obj bs => rcases bs with _ | ⟨⟨l, b⟩, bs⟩ <;> exact absurd (List.cons.inj h).1 (by decide)
  | _ => exact absurd h (write_atom_ne rfl rfl t rest)

theorem exists_arr_of_write {b : Json} {t rest : Text} (h : write b ++ t = '[' :: rest) :
    ∃ bs, b = .arr bs := by
  cases b with
  | str l => exact absurd (List.cons.inj h).1 (by decide)
  | arr bs => exact ⟨bs, rfl⟩
  | obj bs => rcases bs with _ | ⟨⟨l, b⟩, bs⟩ <;> exact absurd (List.cons.inj h).1 (by decide)
  | _ => exact absurd h (write_atom_ne rfl rfl t rest)

theorem exists_obj_of_write {b : Json} {t rest : Text} (h : write b ++ t = '\x7b' :: rest) :
    ∃ bs, b = .obj bs := by
  cases b with
  | str l => exact absurd (List.cons.inj h).1 (by decide)
  | arr bs => cases bs <;> exact absurd (List.cons.inj h).1 (by decide)
  | obj bs => exact ⟨bs, rfl⟩
  | _ => exact absurd h (write_atom_ne rfl rfl t rest)

mutual

/-- Texts of values that are continued alike, and not inside a word, are of the
same value. -/
theorem write_inj : ∀ (a b : Json) {s t : Text}, Stops s → Stops t →
    write a ++ s = write b ++ t → a = b ∧ s = t
  | .null, _, _, _, hs, ht, h => write_inj_of_atom rfl hs ht h
  | .bool _, _, _, _, hs, ht, h => write_inj_of_atom rfl hs ht h
  | .int _, _, _, _, hs, ht, h => write_inj_of_atom rfl hs ht h
  | .float _, _, _, _, hs, ht, h => write_inj_of_atom rfl hs ht h
  | .str k, b, s, t, _, _, h => by
      obtain ⟨l, rfl⟩ := exists_str_of_write h.symm
      obtain ⟨rfl, hsame⟩ := writeString_inj h
      exact ⟨rfl, hsame⟩
  | .arr [], b, s, t, _, _, h => by
      obtain ⟨bs, rfl⟩ := exists_arr_of_write h.symm
      cases bs with
      | nil => exact ⟨rfl, (List.cons.inj (List.cons.inj h).2).2⟩
      | cons b bs =>
          have hrest : (write b ++ writeElements bs) ++ t = ']' :: s := (List.cons.inj h).2.symm
          rw [List.append_assoc] at hrest
          exact absurd hrest (write_ne_bracket b)
  | .arr (a :: as), b, s, t, _, _, h => by
      obtain ⟨bs, rfl⟩ := exists_arr_of_write h.symm
      cases bs with
      | nil =>
          have hrest : (write a ++ writeElements as) ++ s = ']' :: t := (List.cons.inj h).2
          rw [List.append_assoc] at hrest
          exact absurd hrest (write_ne_bracket a)
      | cons b bs =>
          simp only [write, List.cons_append, List.append_assoc, List.cons.injEq, true_and] at h
          obtain ⟨rfl, hrest⟩ :=
            write_inj a b (stops_writeElements as s) (stops_writeElements bs t) h
          obtain ⟨rfl, hsame⟩ := writeElements_inj as bs hrest
          exact ⟨rfl, hsame⟩
  | .obj [], b, s, t, _, _, h => by
      obtain ⟨bs, rfl⟩ := exists_obj_of_write h.symm
      rcases bs with _ | ⟨⟨l, b⟩, bs⟩
      · exact ⟨rfl, (List.cons.inj (List.cons.inj h).2).2⟩
      · exact absurd (List.cons.inj (List.cons.inj h).2).1 (by decide)
  | .obj ((k, a) :: as), b, s, t, _, _, h => by
      obtain ⟨bs, rfl⟩ := exists_obj_of_write h.symm
      rcases bs with _ | ⟨⟨l, b⟩, bs⟩
      · exact absurd (List.cons.inj (List.cons.inj h).2).1 (by decide)
      · simp only [write, List.cons_append, List.append_assoc, List.cons.injEq, true_and] at h
        obtain ⟨rfl, hvalue⟩ := writeString_inj h
        simp only [List.cons.injEq, true_and] at hvalue
        obtain ⟨rfl, hrest⟩ :=
          write_inj a b (stops_writeEntries as s) (stops_writeEntries bs t) hvalue
        obtain ⟨rfl, hsame⟩ := writeEntries_inj as bs hrest
        exact ⟨rfl, hsame⟩

theorem writeElements_inj : ∀ (as bs : List Json) {s t : Text},
    writeElements as ++ s = writeElements bs ++ t → as = bs ∧ s = t
  | [], [], s, t, h => ⟨rfl, (List.cons.inj h).2⟩
  | [], b :: bs, s, t, h => absurd (List.cons.inj h).1 (by decide)
  | a :: as, [], s, t, h => absurd (List.cons.inj h).1 (by decide)
  | a :: as, b :: bs, s, t, h => by
      simp only [writeElements, List.cons_append, List.append_assoc, List.cons.injEq,
        true_and] at h
      obtain ⟨rfl, hrest⟩ :=
        write_inj a b (stops_writeElements as s) (stops_writeElements bs t) h
      obtain ⟨rfl, hsame⟩ := writeElements_inj as bs hrest
      exact ⟨rfl, hsame⟩

theorem writeEntries_inj : ∀ (as bs : JsonObject) {s t : Text},
    writeEntries as ++ s = writeEntries bs ++ t → as = bs ∧ s = t
  | [], [], s, t, h => ⟨rfl, (List.cons.inj h).2⟩
  | [], b :: bs, s, t, h => absurd (List.cons.inj h).1 (by decide)
  | a :: as, [], s, t, h => absurd (List.cons.inj h).1 (by decide)
  | (k, a) :: as, (l, b) :: bs, s, t, h => by
      simp only [writeEntries, List.cons_append, List.append_assoc, List.cons.injEq,
        true_and] at h
      obtain ⟨rfl, hvalue⟩ := writeString_inj h
      simp only [List.cons.injEq, true_and] at hvalue
      obtain ⟨rfl, hrest⟩ :=
        write_inj a b (stops_writeEntries as s) (stops_writeEntries bs t) hvalue
      obtain ⟨rfl, hsame⟩ := writeEntries_inj as bs hrest
      exact ⟨rfl, hsame⟩

end

theorem write_injective {a b : Json} (h : write a = write b) : a = b := by
  have hboth : write a ++ [] = write b ++ [] := by rw [h]
  exact (write_inj a b stops_nil stops_nil hboth).1

/-- Two values have the same text exactly when they are equal up to the order of
entries. -/
theorem dumps_eq_iff {a b : Json} : dumps a = dumps b ↔ Json.Same a b :=
  ⟨write_injective, congrArg write⟩

end NanoCore.Foundation.JsonText
