import NanoCore.Foundation.PythonText

/-!
`bytes.decode("utf-8", errors="replace")`: every part that no character begins with or
goes on with gives one replacement character, and so does a character that the end of
the bytes cuts.
-/

namespace NanoCore.Foundation.Utf8Decoding

open NanoCore.Foundation.PythonText

/-- Between characters, or inside of one: the next byte has to lie within the bounds,
and `need` more bytes follow it. -/
inductive DecoderState where
  | start
  | pending (need low high value : Nat)
  deriving DecidableEq, Repr

def replacement : Char := '\ufffd'

def firstByte (b : Nat) : Text × DecoderState :=
  if b < 0x80 then ([Char.ofNat b], .start)
  else if b < 0xc2 then ([replacement], .start)
  else if b < 0xe0 then ([], .pending 0 0x80 0xbf (b % 32))
  else if b < 0xf0 then
    ([], .pending 1 (if b = 0xe0 then 0xa0 else 0x80) (if b = 0xed then 0x9f else 0xbf) (b % 16))
  else if b < 0xf5 then
    ([], .pending 2 (if b = 0xf0 then 0x90 else 0x80) (if b = 0xf4 then 0x8f else 0xbf) (b % 8))
  else ([replacement], .start)

/-- The characters that a byte completes, and the state behind it. -/
def nextByte : DecoderState → Nat → Text × DecoderState
  | .start, b => firstByte b
  | .pending need low high value, b =>
      if low ≤ b ∧ b ≤ high then
        match need with
        | 0 => ([Char.ofNat (64 * value + b % 64)], .start)
        | need + 1 => ([], .pending need 0x80 0xbf (64 * value + b % 64))
      else (replacement :: (firstByte b).1, (firstByte b).2)

/-- What the end of the bytes gives. -/
def DecoderState.atEnd : DecoderState → Text
  | .start => []
  | .pending .. => [replacement]

def decodeFrom (state : DecoderState) : List UInt8 → Text
  | [] => state.atEnd
  | b :: rest =>
      (nextByte state b.toNat).1 ++ decodeFrom (nextByte state b.toNat).2 rest

def decodeReplace (bytes : List UInt8) : Text := decodeFrom .start bytes

/-- `str.encode("utf-8")`. -/
def utf8Encode (text : Text) : List UInt8 := text.flatMap String.utf8EncodeChar

example : decodeReplace [0x61, 0xe2, 0x82, 0x41, 0xff, 0xc3] =
    ['a', replacement, 'A', replacement, replacement] := by decide

/-- The bytes complete the character, and none before the last does. -/
inductive Completes (c : Char) : DecoderState → List UInt8 → Prop
  | last {state : DecoderState} {b : UInt8} (h : nextByte state b.toNat = ([c], .start)) :
      Completes c state [b]
  | more {state : DecoderState} {b : UInt8} {bytes : List UInt8} {need low high value : Nat}
      (h : nextByte state b.toNat = ([], .pending need low high value))
      (h' : Completes c (.pending need low high value) bytes) : Completes c state (b :: bytes)

variable {c : Char} {state : DecoderState} {bytes : List UInt8} {k need low high value b : Nat}

theorem decodeFrom_append (h : Completes c state bytes) (rest : List UInt8) :
    decodeFrom state (bytes ++ rest) = c :: decodeFrom .start rest := by
  induction h with
  | last h => rw [List.singleton_append, decodeFrom, h, List.singleton_append]
  | more h _ ih => rw [List.cons_append, decodeFrom, h, ih, List.nil_append]

/-- Cut anywhere behind its first byte, a character gives one replacement. -/
theorem decodeFrom_take_of_pending (h : Completes c (.pending need low high value) bytes)
    (hk : k < bytes.length) :
    decodeFrom (.pending need low high value) (bytes.take k) = [replacement] := by
  generalize hstate : DecoderState.pending need low high value = state at h
  induction h generalizing k need low high value with
  | last h =>
      obtain rfl : k = 0 := by
        rw [List.length_singleton] at hk
        omega
      rw [← hstate]
      rfl
  | more h _ ih =>
      cases k with
      | zero =>
          rw [← hstate]
          rfl
      | succ k =>
          rw [List.length_cons] at hk
          rw [List.take_succ_cons, decodeFrom, h, List.nil_append]
          exact ih (by omega) rfl

theorem decodeFrom_take (h : Completes c state bytes) (hpos : 0 < k) (hk : k < bytes.length) :
    decodeFrom state (bytes.take k) = [replacement] := by
  obtain ⟨k, rfl⟩ := Nat.exists_eq_succ_of_ne_zero (Nat.pos_iff_ne_zero.mp hpos)
  cases h with
  | last h =>
      rw [List.length_singleton] at hk
      omega
  | more h h' =>
      rw [List.length_cons] at hk
      rw [List.take_succ_cons, decodeFrom, h, List.nil_append]
      exact decodeFrom_take_of_pending h' (by omega)

theorem firstByte_two (hlow : 0xc2 ≤ b) (hhigh : b < 0xe0) :
    firstByte b = ([], .pending 0 0x80 0xbf (b % 32)) := by
  rw [firstByte, if_neg (by omega), if_neg (by omega), if_pos hhigh]

theorem firstByte_three (hlow : 0xe0 ≤ b) (hhigh : b < 0xf0) :
    firstByte b = ([], .pending 1 (if b = 0xe0 then 0xa0 else 0x80)
      (if b = 0xed then 0x9f else 0xbf) (b % 16)) := by
  rw [firstByte, if_neg (by omega), if_neg (by omega), if_neg (by omega), if_pos hhigh]

theorem firstByte_four (hlow : 0xf0 ≤ b) (hhigh : b < 0xf5) :
    firstByte b = ([], .pending 2 (if b = 0xf0 then 0x90 else 0x80)
      (if b = 0xf4 then 0x8f else 0xbf) (b % 8)) := by
  rw [firstByte, if_neg (by omega), if_neg (by omega), if_neg (by omega), if_neg (by omega),
    if_pos hhigh]

theorem toNat_ofNat_of_lt (h : b < 256) : (UInt8.ofNat b).toNat = b := by
  rw [UInt8.toNat_ofNat']
  exact Nat.mod_eq_of_lt h

theorem completes_first (hb : b < 256) (h : firstByte b = ([], .pending need low high value))
    (h' : Completes c (.pending need low high value) bytes) :
    Completes c .start (UInt8.ofNat b :: bytes) := by
  refine .more ?_ h'
  rw [toNat_ofNat_of_lt hb]
  exact h

theorem completes_next (hlow : low ≤ b) (hhigh : b ≤ high) (hb : b < 256)
    (h : Completes c (.pending need 0x80 0xbf (64 * value + b % 64)) bytes) :
    Completes c (.pending (need + 1) low high value) (UInt8.ofNat b :: bytes) := by
  refine .more ?_ h
  rw [toNat_ofNat_of_lt hb, nextByte, if_pos ⟨hlow, hhigh⟩]

theorem completes_last (hlow : low ≤ b) (hhigh : b ≤ high) (hb : b < 256)
    (hvalue : Char.ofNat (64 * value + b % 64) = c) :
    Completes c (.pending 0 low high value) [UInt8.ofNat b] := by
  refine .last ?_
  rw [toNat_ofNat_of_lt hb, nextByte, if_pos ⟨hlow, hhigh⟩, hvalue]

/-- The bounds of the second byte leave out overlong forms, surrogates and what is
beyond the last code point. -/
theorem completes_utf8EncodeChar (c : Char) : Completes c .start (String.utf8EncodeChar c) := by
  have hvalid : c.val.toNat < 0xd800 ∨ 0xdfff < c.val.toNat ∧ c.val.toNat < 0x110000 := c.valid
  have hchar : Char.ofNat c.val.toNat = c := Char.ofNat_toNat c
  rw [String.utf8EncodeChar]
  generalize c.val.toNat = v at hvalid hchar
  split_ifs with hone htwo hthree
  · refine .last ?_
    rw [toNat_ofNat_of_lt (by omega)]
    show firstByte v = _
    rw [firstByte, if_pos (by omega), hchar]
  · apply completes_first (by omega) (firstByte_two (by omega) (by omega))
    apply completes_last (by omega) (by omega) (by omega)
    rw [← hchar]
    congr 1
    omega
  · apply completes_first (by omega) (firstByte_three (by omega) (by omega))
    apply completes_next (by split_ifs <;> omega) (by split_ifs <;> omega) (by omega)
    apply completes_last (by omega) (by omega) (by omega)
    rw [← hchar]
    congr 1
    omega
  · apply completes_first (by omega) (firstByte_four (by omega) (by omega))
    apply completes_next (by split_ifs <;> omega) (by split_ifs <;> omega) (by omega)
    apply completes_next (by omega) (by omega) (by omega)
    apply completes_last (by omega) (by omega) (by omega)
    rw [← hchar]
    congr 1
    omega

@[simp] theorem utf8Encode_nil : utf8Encode [] = [] := rfl

@[simp] theorem utf8Encode_cons (c : Char) (text : Text) :
    utf8Encode (c :: text) = String.utf8EncodeChar c ++ utf8Encode text := List.flatMap_cons

theorem decodeReplace_utf8Encode (text : Text) : decodeReplace (utf8Encode text) = text := by
  rw [decodeReplace]
  induction text with
  | nil => rfl
  | cons c text ih => rw [utf8Encode_cons, decodeFrom_append (completes_utf8EncodeChar c), ih]

/-- What a text shows of itself in its first bytes. -/
inductive Shows (limit : Nat) (text : Text) : Text → Prop
  /-- The bytes end between characters. -/
  | whole (shown post : Text) (h : text = shown ++ post)
      (hlength : (utf8Encode shown).length = min limit (utf8Encode text).length) :
      Shows limit text shown
  /-- They end inside of a character. -/
  | cut (pre post : Text) (c : Char) (h : text = pre ++ c :: post)
      (hlow : (utf8Encode pre).length < limit)
      (hhigh : limit < (utf8Encode (pre ++ [c])).length) :
      Shows limit text (pre ++ [replacement])

theorem Shows.cons {limit : Nat} {text shown : Text} (h : Shows limit text shown) (c : Char) :
    Shows (limit + (String.utf8EncodeChar c).length) (c :: text) (c :: shown) := by
  cases h with
  | whole shown post h hlength =>
      refine .whole (c :: shown) post (by rw [h]; rfl) ?_
      rw [utf8Encode_cons, utf8Encode_cons, List.length_append, List.length_append, hlength]
      omega
  | cut pre post d h hlow hhigh =>
      refine .cut (c :: pre) post d (by rw [h]; rfl) ?_ ?_
      · rw [utf8Encode_cons, List.length_append]
        omega
      · rw [List.cons_append, utf8Encode_cons, List.length_append]
        omega

/-- The first bytes of a text decode to its first characters, and one replacement
where they end inside of a character. -/
theorem shows_decodeReplace (limit : Nat) (text : Text) :
    Shows limit text (decodeReplace ((utf8Encode text).take limit)) := by
  rw [decodeReplace]
  induction text generalizing limit with
  | nil =>
      rw [utf8Encode_nil, List.take_nil]
      exact .whole [] [] rfl (Nat.min_zero limit).symm
  | cons c text ih =>
      have hcompletes := completes_utf8EncodeChar c
      rw [utf8Encode_cons]
      rcases le_or_gt (String.utf8EncodeChar c).length limit with hle | hlt
      · obtain ⟨k, rfl⟩ := Nat.exists_eq_add_of_le' hle
        rw [List.take_append, List.take_of_length_le hle, Nat.add_sub_cancel,
          decodeFrom_append hcompletes]
        exact (ih k).cons c
      · rw [List.take_append_of_le_length hlt.le]
        rcases Nat.eq_zero_or_pos limit with rfl | hpos
        · exact .whole [] (c :: text) rfl (Nat.zero_min _).symm
        · rw [decodeFrom_take hcompletes hpos hlt]
          refine .cut [] text c rfl hpos ?_
          rwa [List.nil_append, utf8Encode_cons, utf8Encode_nil, List.append_nil]

end NanoCore.Foundation.Utf8Decoding
