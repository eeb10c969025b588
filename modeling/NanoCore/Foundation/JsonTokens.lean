import Mathlib.Data.List.Find
import Mathlib.Data.List.TakeDrop
import NanoCore.Foundation.JsonLoads

namespace NanoCore.Foundation.JsonTokens

open NanoCore.Foundation.JsonLoads
open NanoCore.Foundation.JsonText
open NanoCore.Foundation.PythonText
open NanoCore.Foundation.UrlSplit (hexValue)

variable {w rest : Text}

theorem stops_ne {c : Char} (hrest : Stops (c :: rest)) {d : Char} (hd : isAtomChar d = true) :
    c ≠ d := by
  rintro rfl
  exact Bool.noConfusion ((hrest c rest rfl).symm.trans hd)

/-- Takes a part off the front of a text, without looking behind the atom characters. -/
structure Splits (f : Text → Text × Text) : Prop where
  parts : ∀ s, (f s).1 ++ (f s).2 = s
  append : ∀ w rest, Stops rest → f (w ++ rest) = ((f w).1, (f w).2 ++ rest)

theorem span_of_stops {p : Char → Bool} (hp : ∀ c, p c = true → isAtomChar c = true)
    (hrest : Stops rest) : rest.span p = ([], rest) := by
  cases rest with
  | nil => rfl
  | cons c tail =>
      have hc : p c = false := by
        by_contra htrue
        exact stops_ne hrest (hp c (by simpa using htrue)) rfl
      simp [hc]

theorem splits_span {p : Char → Bool} (hp : ∀ c, p c = true → isAtomChar c = true) :
    Splits fun s => s.span p where
  parts s := by
    rw [List.span_eq_takeWhile_dropWhile]
    exact List.takeWhile_append_dropWhile
  append w rest hrest := by
    induction w with
    | nil => exact span_of_stops hp hrest
    | cons c w ih =>
        simp only [List.span_eq_takeWhile_dropWhile, List.cons_append, List.takeWhile_cons,
          List.dropWhile_cons, Prod.mk.injEq] at ih ⊢
        cases hc : p c with
        | true => simp [ih.1, ih.2]
        | false => simp

theorem splits_digits : Splits fun s => s.span Char.isDigit :=
  splits_span fun _ => isAtomChar_of_isDigit

/-- The digits behind a point or an exponent, which there must be. -/
def readDigitsAfter (mark whole s : Text) : Text × Text :=
  if (s.span Char.isDigit).1 = [] then ([], whole)
  else (mark ++ (s.span Char.isDigit).1, (s.span Char.isDigit).2)

theorem readDigitsAfter_parts {mark whole s : Text} (hwhole : whole = mark ++ s) :
    (readDigitsAfter mark whole s).1 ++ (readDigitsAfter mark whole s).2 = whole := by
  rw [readDigitsAfter]
  split
  · rfl
  · rw [hwhole, List.append_assoc, splits_digits.parts s]

theorem readDigitsAfter_append {mark whole s : Text} (hrest : Stops rest) :
    readDigitsAfter mark (whole ++ rest) (s ++ rest) =
      ((readDigitsAfter mark whole s).1, (readDigitsAfter mark whole s).2 ++ rest) := by
  have happend := splits_digits.append s rest hrest
  simp only [readDigitsAfter, happend]
  split <;> rfl

theorem readFraction_cons (c : Char) (s : Text) :
    readFraction (c :: s) = if c = '.' then readDigitsAfter ['.'] (c :: s) s else ([], c :: s) := by
  split
  · rename_i hc
    subst hc
    simp only [readFraction, readDigitsAfter]
    split <;> simp_all
  · simp only [readFraction]
    split
    · rename_i h
      cases h
      contradiction
    · rfl

theorem readFraction_of_stops (hrest : Stops rest) : readFraction rest = ([], rest) := by
  cases rest with
  | nil => rfl
  | cons c tail => rw [readFraction_cons, if_neg (stops_ne hrest rfl)]

theorem splits_readFraction : Splits readFraction where
  parts s := by
    cases s with
    | nil => rfl
    | cons c s =>
        rw [readFraction_cons]
        split
        · rename_i hc
          rw [hc]
          exact readDigitsAfter_parts rfl
        · rfl
  append w rest hrest := by
    cases w with
    | nil => exact readFraction_of_stops hrest
    | cons c w =>
        rw [List.cons_append, readFraction_cons, readFraction_cons]
        split
        · rw [← List.cons_append]
          exact readDigitsAfter_append hrest
        · rfl

/-- The sign of an exponent. -/
def readSign (s : Text) : Text × Text :=
  match s with
  | '-' :: rest => (['-'], rest)
  | '+' :: rest => (['+'], rest)
  | _ => ([], s)

theorem splits_readSign : Splits readSign where
  parts s := by
    unfold readSign
    split <;> rfl
  append w rest hrest := by
    match w with
    | [] =>
        show readSign rest = ([], rest)
        unfold readSign
        split
        · exact absurd rfl (stops_ne hrest rfl)
        · exact absurd rfl (stops_ne hrest rfl)
        · rfl
    | c :: w =>
        simp only [List.cons_append, readSign]
        split <;> simp_all

theorem readExponent_cons (e : Char) (s : Text) :
    readExponent (e :: s) = if e = 'e' ∨ e = 'E' then
      readDigitsAfter (e :: (readSign s).1) (e :: s) (readSign s).2 else ([], e :: s) := by
  simp only [readExponent]
  split
  · unfold readDigitsAfter readSign
    split <;> split <;> simp_all
  · rfl

theorem splits_readExponent : Splits readExponent where
  parts s := by
    cases s with
    | nil => rfl
    | cons e s =>
        rw [readExponent_cons]
        split
        · apply readDigitsAfter_parts
          rw [List.cons_append, splits_readSign.parts]
        · rfl
  append w rest hrest := by
    cases w with
    | nil =>
        cases rest with
        | nil => rfl
        | cons e tail =>
            have hnot : ¬ (e = 'e' ∨ e = 'E') := by
              rintro (h | h)
              · exact stops_ne hrest rfl h
              · exact stops_ne hrest rfl h
            show readExponent (e :: tail) = ([], e :: tail)
            rw [readExponent_cons, if_neg hnot]
    | cons e w =>
        rw [List.cons_append, readExponent_cons, readExponent_cons,
          splits_readSign.append w rest hrest]
        split
        · rw [← List.cons_append]
          exact readDigitsAfter_append hrest
        · rfl

/-- The minus of a number. -/
def readMinus (s : Text) : Text × Text :=
  match s with
  | '-' :: rest => (['-'], rest)
  | _ => ([], s)

theorem splits_readMinus : Splits readMinus where
  parts s := by
    unfold readMinus
    split <;> rfl
  append w rest hrest := by
    match w with
    | [] =>
        show readMinus rest = ([], rest)
        unfold readMinus
        split
        · exact absurd rfl (stops_ne hrest rfl)
        · rfl
    | c :: w =>
        simp only [List.cons_append, readMinus]
        split <;> simp_all

/-- The digits of a number before the point: a leading zero stands alone. -/
def readInteger (s : Text) : Text × Text :=
  match s with
  | '0' :: rest => (['0'], rest)
  | _ => s.span Char.isDigit

theorem splits_readInteger : Splits readInteger where
  parts s := by
    unfold readInteger
    split
    · rfl
    · exact splits_digits.parts s
  append w rest hrest := by
    match w with
    | [] =>
        show readInteger rest = ([], rest)
        unfold readInteger
        split
        · exact absurd rfl (stops_ne hrest rfl)
        · exact span_of_stops (fun _ => isAtomChar_of_isDigit) hrest
    | c :: w =>
        by_cases hc : c = '0'
        · rw [hc]
          rfl
        · have hinteger (t : Text) : readInteger (c :: t) = (c :: t).span Char.isDigit := by
            unfold readInteger
            split
            · rename_i h
              cases h
              exact absurd rfl hc
            · rfl
          rw [List.cons_append, hinteger, hinteger]
          exact splits_digits.append (c :: w) rest hrest

variable (readFloat : ReadFloat)

/-- The value of a number with these parts. -/
def numberOf (minus digits fraction exponent : Text) : Except LoadsError Json :=
  if digits.isEmpty then .error .decode
  else if fraction.isEmpty && exponent.isEmpty then
    if maxIntDigits < digits.length then .error .tooManyDigits
    else
      .ok (.int (if minus.isEmpty then (Nat.ofDigitChars 10 digits 0 : Int)
        else -(Nat.ofDigitChars 10 digits 0 : Int)))
  else .ok (.float (readFloat (minus ++ digits ++ fraction ++ exponent)))

def afterExponent (s : Text) : Text × Text :=
  readExponent (readFraction (readInteger (readMinus s).2).2).2

theorem readNumber_eq (s : Text) :
    readNumber readFloat s =
      (numberOf readFloat (readMinus s).1 (readInteger (readMinus s).2).1
        (readFraction (readInteger (readMinus s).2).2).1 (afterExponent s).1).map
          fun a => (a, (afterExponent s).2) := by
  show (if (readInteger (readMinus s).2).1.isEmpty then _
    else if (readFraction (readInteger (readMinus s).2).2).1.isEmpty &&
      (readExponent (readFraction (readInteger (readMinus s).2).2).2).1.isEmpty then _ else _) = _
  rw [numberOf, afterExponent]
  split
  · rfl
  · split
    · show (if maxIntDigits < (readInteger (readMinus s).2).1.length then _ else _) = _
      split <;> rfl
    · rfl

/-- What is left of a number, or of another word, is left in front of any text that
stops it. -/
def leave {α : Type} (rest : Text) (read : α × Text) : α × Text := (read.1, read.2 ++ rest)

theorem afterExponent_append (w : Text) (hrest : Stops rest) :
    afterExponent (w ++ rest) = leave rest (afterExponent w) := by
  rw [afterExponent, splits_readMinus.append w rest hrest, splits_readInteger.append _ rest hrest,
    splits_readFraction.append _ rest hrest, splits_readExponent.append _ rest hrest]
  rfl

theorem readNumber_append (w : Text) (hrest : Stops rest) :
    readNumber readFloat (w ++ rest) = (readNumber readFloat w).map (leave rest) := by
  rw [readNumber_eq, readNumber_eq, afterExponent_append w hrest,
    splits_readMinus.append w rest hrest, splits_readInteger.append _ rest hrest,
    splits_readFraction.append _ rest hrest]
  simp only [leave]
  cases numberOf readFloat (readMinus w).1 (readInteger (readMinus w).2).1
    (readFraction (readInteger (readMinus w).2).2).1 (afterExponent w).1 with
  | error e => rfl
  | ok a => rfl

theorem exists_of_afterExponent (s : Text) : ∃ v, s = v ++ (afterExponent s).2 := by
  refine ⟨(readMinus s).1 ++ (readInteger (readMinus s).2).1 ++
    (readFraction (readInteger (readMinus s).2).2).1 ++ (afterExponent s).1, ?_⟩
  rw [List.append_assoc, afterExponent, splits_readExponent.parts, List.append_assoc,
    splits_readFraction.parts, List.append_assoc, splits_readInteger.parts,
    splits_readMinus.parts]

theorem isAtomChar_of_mem_constants {constant : Text × Json} (h : constant ∈ constants) :
    ∀ c ∈ constant.1, isAtomChar c = true := by
  have hall : (constants.all fun constant => constant.1.all isAtomChar) = true := by decide
  exact List.all_eq_true.mp (List.all_eq_true.mp hall constant h)

/-- A word of atom characters is in front of a text when it is in front of its run of
atom characters. -/
theorem isPrefixOf_append {v : Text} (hv : ∀ c ∈ v, isAtomChar c = true) (w : Text)
    (hrest : Stops rest) : v.isPrefixOf (w ++ rest) = v.isPrefixOf w := by
  induction v generalizing w with
  | nil => rw [List.isPrefixOf_nil_left, List.isPrefixOf_nil_left]
  | cons c v ih =>
      rw [List.forall_mem_cons] at hv
      cases w with
      | nil =>
          cases rest with
          | nil => rfl
          | cons d tail =>
              show (c == d && v.isPrefixOf tail) = false
              rw [beq_eq_false_iff_ne.mpr (stops_ne hrest hv.1).symm, Bool.false_and]
      | cons d w =>
          show (c == d && v.isPrefixOf (w ++ rest)) = (c == d && v.isPrefixOf w)
          rw [ih hv.2]

theorem readWord_append (w : Text) (hrest : Stops rest) :
    readWord readFloat (w ++ rest) = (readWord readFloat w).map (leave rest) := by
  have hfind : (constants.find? fun constant => constant.1.isPrefixOf (w ++ rest)) =
      constants.find? fun constant => constant.1.isPrefixOf w := by
    apply List.find?_congr
    intro constant hmem
    exact isPrefixOf_append (isAtomChar_of_mem_constants hmem) w hrest
  rw [readWord, readWord, hfind]
  cases hconstant : constants.find? fun constant => constant.1.isPrefixOf w with
  | none => exact readNumber_append readFloat w hrest
  | some constant =>
      have hprefix := List.find?_some (p := fun constant : Text × Json =>
        constant.1.isPrefixOf w) hconstant
      obtain ⟨v, rfl⟩ := List.isPrefixOf_iff_prefix.mp hprefix
      simp only [List.append_assoc, List.drop_left]
      rfl

theorem exists_of_readWord {s r : Text} {a : Json} (h : readWord readFloat s = .ok (a, r)) :
    ∃ v, s = v ++ r := by
  unfold readWord at h
  split at h
  · rename_i constant hconstant
    have hprefix := List.find?_some (p := fun constant : Text × Json =>
      constant.1.isPrefixOf s) hconstant
    obtain ⟨v, rfl⟩ := List.isPrefixOf_iff_prefix.mp hprefix
    cases h
    exact ⟨constant.1, by rw [List.drop_left]⟩
  · rw [readNumber_eq] at h
    cases hvalue : numberOf readFloat (readMinus s).1 (readInteger (readMinus s).2).1
        (readFraction (readInteger (readMinus s).2).2).1 (afterExponent s).1 with
    | error e =>
        rw [hvalue] at h
        cases h
    | ok b =>
        rw [hvalue] at h
        cases h
        exact exists_of_afterExponent s

/-- A constant or a number that is read to its end. -/
structure IsWord (w : Text) (a : Json) : Prop where
  atoms : ∀ c ∈ w, isAtomChar c = true
  reads : readWord readFloat w = .ok (a, [])

variable {readFloat}

theorem IsWord.readWord_append {a : Json} (h : IsWord readFloat w a) (hrest : Stops rest) :
    readWord readFloat (w ++ rest) = .ok (a, rest) := by
  rw [JsonTokens.readWord_append readFloat w hrest, h.reads]
  rfl

theorem IsWord.ne_nil {a : Json} (h : IsWord readFloat w a) : w ≠ [] := by
  rintro rfl
  have hreads := h.reads
  cases hreads

theorem isAtom_of_numberOf {minus digits fraction exponent : Text} {a : Json}
    (h : numberOf readFloat minus digits fraction exponent = .ok a) : a.isAtom = true := by
  unfold numberOf at h
  split at h
  · cases h
  · split at h
    · split at h
      · cases h
      · cases h
        rfl
    · cases h
      rfl

theorem isAtom_of_mem_constants {constant : Text × Json} (h : constant ∈ constants) :
    constant.2.isAtom = true := by
  revert constant
  decide

theorem IsWord.isAtom {a : Json} (h : IsWord readFloat w a) : a.isAtom = true := by
  have hreads := h.reads
  unfold readWord at hreads
  split at hreads
  · rename_i constant hconstant
    obtain ⟨rfl, -⟩ := Prod.mk.inj (Except.ok.inj hreads)
    exact isAtom_of_mem_constants (List.mem_of_find?_eq_some hconstant)
  · rw [readNumber_eq] at hreads
    cases hvalue : numberOf readFloat (readMinus w).1 (readInteger (readMinus w).2).1
        (readFraction (readInteger (readMinus w).2).2).1 (afterExponent w).1 with
    | error e =>
        rw [hvalue] at hreads
        cases hreads
    | ok b =>
        rw [hvalue] at hreads
        obtain ⟨rfl, -⟩ := Prod.mk.inj (Except.ok.inj hreads)
        exact isAtom_of_numberOf hvalue

theorem eq_false_of_dropWhile {p : Char → Bool} {s tail : Text} {c : Char}
    (h : s.dropWhile p = c :: tail) : p c = false := by
  have hhead := List.head?_dropWhile_not p s
  rw [h] at hhead
  exact hhead

/-- What is read as a word in front of a text that stops it is a word. -/
theorem exists_isWord {s : Text} {a : Json} (h : readWord readFloat s = .ok (a, rest))
    (hrest : Stops rest) : ∃ w, s = w ++ rest ∧ IsWord readFloat w a := by
  have hatoms : ∀ c ∈ s.takeWhile isAtomChar, isAtomChar c = true := fun _ hc =>
    List.mem_takeWhile_imp hc
  have hstops : Stops (s.dropWhile isAtomChar) := by
    intro c tail heq
    exact eq_false_of_dropWhile heq
  have hs : s.takeWhile isAtomChar ++ s.dropWhile isAtomChar = s := List.takeWhile_append_dropWhile
  rw [← hs, JsonTokens.readWord_append readFloat _ hstops] at h
  cases hword : readWord readFloat (s.takeWhile isAtomChar) with
  | error e =>
      rw [hword] at h
      cases h
  | ok read =>
      obtain ⟨b, r⟩ := read
      rw [hword] at h
      obtain ⟨v, hv⟩ := exists_of_readWord readFloat hword
      cases h
      have hnil : r = [] := by
        cases r with
        | nil => rfl
        | cons c r =>
            have hc := hatoms c (by rw [hv]; exact List.mem_append_right v List.mem_cons_self)
            exact absurd rfl (stops_ne hrest hc)
      subst hnil
      exact ⟨s.takeWhile isAtomChar, hs.symm, hatoms, hword⟩

/-- A part of a string: every quote and every backslash in it is behind a backslash. -/
inductive Quoted : Text → Prop
  | nil : Quoted []
  | plain {c : Char} {w : Text} (hquote : c ≠ '"') (hescape : c ≠ '\\') (h : Quoted w) :
      Quoted (c :: w)
  | escaped {c : Char} {w : Text} (h : Quoted w) : Quoted ('\\' :: c :: w)

theorem Quoted.append {v w : Text} (hv : Quoted v) (hw : Quoted w) : Quoted (v ++ w) := by
  induction hv with
  | nil => exact hw
  | plain hquote hescape _ ih => exact .plain hquote hescape ih
  | escaped _ ih => exact .escaped ih

theorem quoted_of_forall {w : Text} (h : ∀ c ∈ w, c ≠ '"' ∧ c ≠ '\\') : Quoted w := by
  induction w with
  | nil => exact .nil
  | cons c w ih =>
      rw [List.forall_mem_cons] at h
      exact .plain h.1.1 h.1.2 (ih h.2)

/-- The reader takes the piece off the front of any text that agrees with this one up
to a quote. -/
structure Takes {α : Type} (read : Text → Option (α × Text)) (piece : Text) (a : α)
    (rest : Text) : Prop where
  quoted : Quoted piece
  stable : ∀ w x y, rest = w ++ '"' :: x →
    read (piece ++ (w ++ '"' :: y)) = some (a, w ++ '"' :: y)

theorem hexValue_ne {c : Char} {n : Nat} (h : hexValue c = some n) : c ≠ '"' ∧ c ≠ '\\' := by
  constructor
  · rintro rfl
    have hnone : hexValue '"' = none := by decide
    cases h.symm.trans hnone
  · rintro rfl
    have hnone : hexValue '\\' = none := by decide
    cases h.symm.trans hnone

theorem readHex4_eq_some {s r : Text} {n : Nat} (h : readHex4 s = some (n, r)) :
    ∃ hex, s = hex ++ r ∧ (∀ c ∈ hex, c ≠ '"' ∧ c ≠ '\\') ∧
      ∀ x, readHex4 (hex ++ x) = some (n, x) := by
  match s with
  | a :: b :: c :: d :: rest =>
      simp only [readHex4, Option.bind_eq_bind, Option.bind_eq_some_iff, Option.pure_def,
        Option.some.injEq, Prod.mk.injEq] at h
      obtain ⟨a', ha, b', hb, c', hc, d', hd, rfl, rfl⟩ := h
      refine ⟨[a, b, c, d], rfl, ?_, fun x => ?_⟩
      · simp only [List.forall_mem_cons, List.not_mem_nil, false_implies, implies_true, and_true]
        exact ⟨hexValue_ne ha, hexValue_ne hb, hexValue_ne hc, hexValue_ne hd⟩
      · simp [readHex4, ha, hb, hc, hd]
  | [] | [_] | [_, _] | [_, _, _] => cases h

/-- The character of a code unit, for which a low surrogate may follow a high one. -/
def unicodeOf (n : Nat) (rest : Text) : Option (Char × Text) := do
  if 0xd800 ≤ n ∧ n ≤ 0xdbff then
    match rest with
    | '\\' :: 'u' :: afterU => do
        let (m, rest') ← readHex4 afterU
        if 0xdc00 ≤ m ∧ m ≤ 0xdfff then
          return (Char.ofNat (0x10000 + 1024 * (n - 0xd800) + (m - 0xdc00)), rest')
        else return ('\ufffd', rest)
    | _ => return ('\ufffd', rest)
  else if 0xdc00 ≤ n ∧ n ≤ 0xdfff then return ('\ufffd', rest)
  else return (Char.ofNat n, rest)

theorem readUnicode_eq (s : Text) :
    readUnicode s = (readHex4 s).bind fun read => unicodeOf read.1 read.2 :=
  rfl

/-- A piece without quotes ends before the first quote. -/
theorem exists_of_append_eq {piece r w x : Text} (hpiece : ∀ c ∈ piece, c ≠ '"' ∧ c ≠ '\\')
    (h : piece ++ r = w ++ '"' :: x) : ∃ v, w = piece ++ v := by
  rcases List.append_eq_append_iff.mp h with ⟨v, hw, -⟩ | ⟨v, hv, hquote⟩
  · exact ⟨v, hw⟩
  · cases v with
    | nil =>
        rw [List.append_nil] at hv
        exact ⟨[], by rw [hv, List.append_nil]⟩
    | cons c v =>
        cases hquote
        rw [hv] at hpiece
        exact absurd rfl (hpiece '"' (List.mem_append_right w List.mem_cons_self)).1

/-- A lone high surrogate. -/
theorem unicodeOf_of_alone {n : Nat} {s : Text} (hhigh : 0xd800 ≤ n ∧ n ≤ 0xdbff)
    (h : ∀ t, s ≠ '\\' :: 'u' :: t) : unicodeOf n s = some ('\ufffd', s) := by
  unfold unicodeOf
  rw [if_pos hhigh]
  split
  · exact absurd rfl (h _)
  · rfl

theorem unicodeOf_of_escape {n m : Nat} {s r : Text} (hhigh : 0xd800 ≤ n ∧ n ≤ 0xdbff)
    (hhex : readHex4 s = some (m, r)) :
    unicodeOf n ('\\' :: 'u' :: s) =
      if 0xdc00 ≤ m ∧ m ≤ 0xdfff then
        some (Char.ofNat (0x10000 + 1024 * (n - 0xd800) + (m - 0xdc00)), r)
      else some ('\ufffd', '\\' :: 'u' :: s) := by
  rw [unicodeOf, if_pos hhigh]
  simp only [hhex]
  rfl

/-- Whether an escape follows is decided before the next quote. -/
theorem ne_escape_of_quote {w x : Text} (h : ∀ t, w ++ '"' :: x ≠ '\\' :: 'u' :: t) (y : Text) :
    ∀ t, w ++ '"' :: y ≠ '\\' :: 'u' :: t := by
  intro t heq
  match w with
  | [] => cases heq
  | [a] => cases heq
  | a :: b :: w =>
      cases heq
      exact h _ rfl

theorem exists_takes_unicodeOf {n : Nat} {s r : Text} {c : Char}
    (h : unicodeOf n s = some (c, r)) :
    ∃ piece, s = piece ++ r ∧ Takes (unicodeOf n) piece c r := by
  unfold unicodeOf at h
  split at h
  · rename_i hhigh
    split at h
    · rename_i afterU
      obtain ⟨⟨m, rest'⟩, hhex, hread⟩ := Option.bind_eq_some_iff.mp h
      obtain ⟨hex, hafterU, hchars, hstable⟩ := readHex4_eq_some hhex
      dsimp only at hread
      by_cases hlow : 0xdc00 ≤ m ∧ m ≤ 0xdfff
      · rw [if_pos hlow] at hread
        obtain ⟨hchar, rfl⟩ := Prod.mk.inj (Option.some.inj hread)
        subst hafterU
        refine ⟨'\\' :: 'u' :: hex, rfl, .escaped (quoted_of_forall hchars), fun w x y _ => ?_⟩
        rw [List.cons_append, List.cons_append, unicodeOf_of_escape hhigh (hstable _),
          if_pos hlow, hchar]
      · rw [if_neg hlow] at hread
        cases hread
        refine ⟨[], rfl, .nil, fun w x y hw => ?_⟩
        match w with
        | [] => cases hw
        | [a] => cases hw
        | a :: b :: w =>
            cases hw
            obtain ⟨v, rfl⟩ := exists_of_append_eq hchars hafterU.symm
            rw [List.nil_append, List.cons_append, List.cons_append, List.append_assoc,
              unicodeOf_of_escape hhigh (hstable _), if_neg hlow]
    · rename_i hnot
      cases h
      refine ⟨[], rfl, .nil, fun w x y hw => ?_⟩
      apply unicodeOf_of_alone hhigh
      rw [hw] at hnot
      exact ne_escape_of_quote hnot y
  · rename_i hhigh
    split at h
    · rename_i hlow
      cases h
      refine ⟨[], rfl, .nil, fun w x y _ => ?_⟩
      simp [unicodeOf, hhigh, hlow]
    · rename_i hlow
      cases h
      refine ⟨[], rfl, .nil, fun w x y _ => ?_⟩
      simp [unicodeOf, hhigh, hlow]

theorem exists_takes_readUnicode {s r : Text} {c : Char} (h : readUnicode s = some (c, r)) :
    ∃ piece, s = piece ++ r ∧ Takes readUnicode piece c r := by
  rw [readUnicode_eq] at h
  obtain ⟨⟨n, rest⟩, hhex, hunit⟩ := Option.bind_eq_some_iff.mp h
  obtain ⟨hex, rfl, hchars, hstable⟩ := readHex4_eq_some hhex
  obtain ⟨piece, rfl, htakes⟩ := exists_takes_unicodeOf hunit
  refine ⟨hex ++ piece, (List.append_assoc _ _ _).symm,
    (quoted_of_forall hchars).append htakes.quoted, fun w x y hw => ?_⟩
  rw [readUnicode_eq, List.append_assoc, hstable]
  exact htakes.stable w x y hw

theorem readChar_escape (e : Char) (s : Text) :
    readChar ('\\' :: e :: s) =
      if e = 'u' then readUnicode s else (shortEscape e).map fun c => (c, s) := by
  by_cases he : e = 'u'
  · rw [if_pos he, he]
    rfl
  · rw [if_neg he]
    simp [readChar]

theorem readChar_plain {c : Char} (hquote : c ≠ '"') (hescape : c ≠ '\\') (s : Text) :
    readChar (c :: s) = if c.toNat < 32 then none else some (c, s) := by
  simp [readChar, hescape]

theorem exists_takes_readChar {s r : Text} {c : Char} (h : readChar s = some (c, r)) :
    ∃ piece, s = piece ++ r ∧ piece ≠ [] ∧ Takes readChar piece c r := by
  cases s with
  | nil => cases h
  | cons d s =>
      by_cases hescape : d = '\\'
      · subst hescape
        cases s with
        | nil => cases h
        | cons e s =>
            rw [readChar_escape] at h
            by_cases he : e = 'u'
            · rw [if_pos he] at h
              obtain ⟨piece, rfl, htakes⟩ := exists_takes_readUnicode h
              refine ⟨'\\' :: e :: piece, rfl, List.cons_ne_nil _ _, .escaped htakes.quoted,
                fun w x y hw => ?_⟩
              rw [List.cons_append, List.cons_append, readChar_escape, if_pos he]
              exact htakes.stable w x y hw
            · rw [if_neg he] at h
              obtain ⟨d, hd, heq⟩ := Option.map_eq_some_iff.mp h
              cases heq
              refine ⟨['\\', e], rfl, List.cons_ne_nil _ _, .escaped .nil, fun w x y _ => ?_⟩
              rw [List.cons_append, List.cons_append, readChar_escape, if_neg he, hd]
              rfl
      · by_cases hquote : d = '"'
        · subst hquote
          cases h
        · rw [readChar_plain hquote hescape] at h
          split at h
          · cases h
          · rename_i hcontrol
            cases h
            refine ⟨[c], rfl, List.cons_ne_nil _ _, .plain hquote hescape .nil, fun w x y _ => ?_⟩
            rw [List.cons_append, readChar_plain hquote hescape, if_neg hcontrol]
            rfl

/-- The text of a string behind its opening quote, with the characters it stands for. -/
inductive StringBody : Text → Text → Prop
  | close : StringBody ['"'] []
  | char {piece w k : Text} {c : Char} (hne : piece ≠ []) (hquoted : Quoted piece)
      (hread : ∀ rest, readChar (piece ++ (w ++ rest)) = some (c, w ++ rest))
      (h : StringBody w k) : StringBody (piece ++ w) (c :: k)

variable {k : Text}

theorem StringBody.exists_quoted (h : StringBody w k) : ∃ v, Quoted v ∧ w = v ++ ['"'] := by
  induction h with
  | close => exact ⟨[], .nil, rfl⟩
  | char hne hquoted hread _ ih =>
      obtain ⟨v, hv, rfl⟩ := ih
      exact ⟨_, hquoted.append hv, (List.append_assoc _ _ _).symm⟩

theorem readString_of_readChar {fuel : Nat} {s r : Text} {c : Char}
    (h : readChar s = some (c, r)) :
    readString (fuel + 1) s = (readString fuel r).map fun read => (c :: read.1, read.2) := by
  rw [JsonLoads.readString.eq_def]
  split
  · rename_i heq
    cases heq
  · cases h
  · rename_i heq _
    cases heq
    rw [h]
    dsimp only
    cases readString fuel r with
    | error e => rfl
    | ok read => rfl

theorem readString_of_none {fuel : Nat} {s : Text} (hquote : ∀ t, s ≠ '"' :: t)
    (h : readChar s = none) : readString (fuel + 1) s = .error .decode := by
  rw [JsonLoads.readString.eq_def]
  split
  · rename_i heq
    cases heq
  · exact absurd rfl (hquote _)
  · rw [h]

theorem exists_stringBody {fuel : Nat} {s : Text} (h : readString fuel s = .ok (k, rest)) :
    ∃ w, s = w ++ rest ∧ StringBody w k := by
  induction fuel generalizing s k with
  | zero => cases h
  | succ fuel ih =>
      by_cases hquote : ∃ t, s = '"' :: t
      · obtain ⟨t, rfl⟩ := hquote
        cases h
        exact ⟨['"'], rfl, .close⟩
      · cases hread : readChar s with
        | none =>
            rw [readString_of_none (fun t ht => hquote ⟨t, ht⟩) hread] at h
            cases h
        | some read =>
            obtain ⟨c, r⟩ := read
            rw [readString_of_readChar hread] at h
            cases hstring : readString fuel r with
            | error e =>
                rw [hstring] at h
                cases h
            | ok tail =>
                obtain ⟨k, after⟩ := tail
                rw [hstring] at h
                cases h
                obtain ⟨w, rfl, hbody⟩ := ih hstring
                obtain ⟨piece, rfl, hne, htakes⟩ := exists_takes_readChar hread
                refine ⟨piece ++ w, (List.append_assoc _ _ _).symm,
                  .char hne htakes.quoted (fun y => ?_) hbody⟩
                obtain ⟨v, -, rfl⟩ := hbody.exists_quoted
                rw [List.append_assoc]
                exact htakes.stable v after y (List.append_assoc _ _ _)

theorem StringBody.readString_append (h : StringBody w k) {fuel : Nat}
    (hfuel : w.length < fuel) (rest : Text) : readString fuel (w ++ rest) = .ok (k, rest) := by
  induction h generalizing fuel with
  | close =>
      cases fuel with
      | zero => cases hfuel
      | succ fuel => rfl
  | @char piece w k c hne hquoted hread _ ih =>
      have hpiece : 0 < piece.length := List.length_pos_iff.mpr hne
      rw [List.length_append] at hfuel
      cases fuel with
      | zero => cases hfuel
      | succ fuel =>
          rw [List.append_assoc, readString_of_readChar (hread rest), ih (by omega)]
          rfl

end NanoCore.Foundation.JsonTokens
