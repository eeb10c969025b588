import NanoCore.Foundation.JsonGrammar

namespace NanoCore.Foundation.JsonWriters

open NanoCore.Foundation.JsonGrammar
open NanoCore.Foundation.JsonLoads
open NanoCore.Foundation.JsonText
open NanoCore.Foundation.JsonTokens
open NanoCore.Foundation.PythonJson
open NanoCore.Foundation.PythonText
open NanoCore.Foundation.UrlSplit (hexValue)

structure Style where
  escape : Char → Text
  /-- What stands inside of the brackets of a value at a level of nesting. -/
  margin : Nat → Text
  /-- What stands behind a comma. -/
  gap : Nat → Text

/-- `ensure_ascii=False`. -/
def Style.unicode : Style := ⟨escapeInString, fun _ => [], fun _ => [' ']⟩

def Style.ascii : Style := ⟨escapeChar, fun _ => [], fun _ => [' ']⟩

def indentation (width level : Nat) : Text := '\n' :: List.replicate (width * level) ' '

/-- `indent=width`. -/
def Style.indented (width : Nat) : Style :=
  ⟨escapeChar, indentation width, indentation width⟩

def writeStringWith (style : Style) (s : Text) : Text :=
  '"' :: (s.flatMap style.escape ++ ['"'])

mutual

def writeWith (style : Style) (level : Nat) : Json → Text
  | .null => "null".toList
  | .bool true => "true".toList
  | .bool false => "false".toList
  | .int n => intText n
  | .float x => x.text
  | .str s => writeStringWith style s
  | .arr [] => "[]".toList
  | .arr (a :: rest) =>
      '[' :: (style.margin (level + 1) ++
        (writeWith style (level + 1) a ++ writeElementsWith style level rest))
  | .obj [] => "\x7b\x7d".toList
  | .obj ((k, a) :: rest) =>
      '\x7b' :: (style.margin (level + 1) ++ (writeStringWith style k ++
        ':' :: ' ' :: (writeWith style (level + 1) a ++ writeEntriesWith style level rest)))

def writeElementsWith (style : Style) (level : Nat) : List Json → Text
  | [] => style.margin level ++ [']']
  | a :: rest =>
      ',' :: (style.gap (level + 1) ++
        (writeWith style (level + 1) a ++ writeElementsWith style level rest))

def writeEntriesWith (style : Style) (level : Nat) : JsonObject → Text
  | [] => style.margin level ++ ['\x7d']
  | (k, a) :: rest =>
      ',' :: (style.gap (level + 1) ++ (writeStringWith style k ++
        ':' :: ' ' :: (writeWith style (level + 1) a ++ writeEntriesWith style level rest)))

end

example : writeWith (.indented 2) 0
    (.obj [("a".toList, .arr [.int 1, .null]), ("b".toList, .str ['ä', '\n'])]) =
    "\x7b\n  \"a\": [\n    1,\n    null\n  ],\n  \"b\": \"\\u00e4\\n\"\n\x7d".toList := by
  decide +kernel

theorem hexValue_digitChar {d : Nat} (hd : d < 16) : hexValue (Nat.digitChar d) = some d := by
  interval_cases d <;> rfl

theorem readHex4_hex4 {n : Nat} (hn : n < 65536) (rest : Text) :
    readHex4 (hex4 n ++ rest) = some (n, rest) := by
  have hvalue (m : Nat) : hexValue (Nat.digitChar (m % 16)) = some (m % 16) :=
    hexValue_digitChar (Nat.mod_lt m (by decide))
  have hsum : 4096 * (n / 4096 % 16) + 256 * (n / 256 % 16) + 16 * (n / 16 % 16) + n % 16 = n := by
    omega
  simp only [hex4, List.cons_append, List.nil_append, readHex4, hvalue, Option.bind_eq_bind,
    Option.bind_some, Option.pure_def, hsum]

theorem quoted_unicodeEscape (n : Nat) : Quoted (unicodeEscape n) := by
  have hdigit (m : Nat) : Nat.digitChar (m % 16) ≠ '"' ∧ Nat.digitChar (m % 16) ≠ '\\' :=
    hexValue_ne (hexValue_digitChar (Nat.mod_lt m (by decide)))
  refine .escaped (quoted_of_forall ?_)
  simp only [hex4, List.forall_mem_cons, List.not_mem_nil, false_implies, implies_true, and_true]
  exact ⟨hdigit _, hdigit _, hdigit _, hdigit _⟩

theorem not_surrogate (c : Char) : ¬ (0xd800 ≤ c.toNat ∧ c.toNat ≤ 0xdfff) := by
  have hvalid : c.toNat < 0xd800 ∨ (0xdfff < c.toNat ∧ c.toNat < 0x110000) := c.valid
  omega

/-- A character of the basic plane is read from its code unit. -/
theorem readUnicode_basic {c : Char} (hc : c.toNat < 65536) (rest : Text) :
    readUnicode (hex4 c.toNat ++ rest) = some (c, rest) := by
  have hvalid := not_surrogate c
  rw [readUnicode_eq, readHex4_hex4 hc, Option.bind_some]
  unfold unicodeOf
  rw [if_neg (by omega), if_neg (by omega), Char.ofNat_toNat]
  rfl

/-- Another character is read from its two surrogates. -/
theorem readUnicode_pair {c : Char} (hc : 65536 ≤ c.toNat) (rest : Text) :
    readUnicode (hex4 (0xd800 + (c.toNat - 65536) / 1024) ++
      (unicodeEscape (0xdc00 + (c.toNat - 65536) % 1024) ++ rest)) = some (c, rest) := by
  have hvalid : c.toNat < 0xd800 ∨ (0xdfff < c.toNat ∧ c.toNat < 0x110000) := c.valid
  have hcode : 0x10000 + 1024 * (0xd800 + (c.toNat - 65536) / 1024 - 0xd800) +
      (0xdc00 + (c.toNat - 65536) % 1024 - 0xdc00) = c.toNat := by omega
  rw [readUnicode_eq, readHex4_hex4 (by omega), Option.bind_some]
  refine (unicodeOf_of_escape (by omega) (readHex4_hex4 (by omega) rest)).trans ?_
  rw [if_pos (by omega), hcode, Char.ofNat_toNat]

theorem readChar_plain_of {c : Char} (hquote : c ≠ '"') (hescape : c ≠ '\\')
    (hcontrol : 32 ≤ c.toNat) (rest : Text) : readChar (c :: rest) = some (c, rest) := by
  rw [readChar_plain hquote hescape, if_neg (by omega)]

theorem readChar_escapeChar (c : Char) (rest : Text) :
    readChar (escapeChar c ++ rest) = some (c, rest) := by
  rw [escapeChar]
  split_ifs with hquote hbackslash hnewline hreturn htab hbackspace hformfeed hprintable hbasic
  · rw [hquote]
    rfl
  · rw [hbackslash]
    rfl
  · rw [hnewline]
    rfl
  · rw [hreturn]
    rfl
  · rw [htab]
    rfl
  · have hc : c = '\x08' := Char.toNat_inj.mp hbackspace
    rw [hc]
    rfl
  · have hc : c = '\x0c' := Char.toNat_inj.mp hformfeed
    rw [hc]
    rfl
  · exact readChar_plain_of hquote hbackslash hprintable.1 rest
  · exact readUnicode_basic hbasic rest
  · rw [List.append_assoc]
    exact readUnicode_pair (by omega) rest

theorem quoted_escapeChar (c : Char) : Quoted (escapeChar c) := by
  rw [escapeChar]
  split_ifs with hquote hbackslash hnewline hreturn htab hbackspace hformfeed hprintable hbasic
  · exact .escaped .nil
  · exact .escaped .nil
  · exact .escaped .nil
  · exact .escaped .nil
  · exact .escaped .nil
  · exact .escaped .nil
  · exact .escaped .nil
  · exact .plain hquote hbackslash .nil
  · exact quoted_unicodeEscape _
  · exact (quoted_unicodeEscape _).append (quoted_unicodeEscape _)

theorem quoted_escapeInString (c : Char) : Quoted (escapeInString c) := by
  rw [escapeInString]
  split_ifs with hquote hbackslash hnewline hreturn htab hbackspace hformfeed hcontrol
  · exact .escaped .nil
  · exact .escaped .nil
  · exact .escaped .nil
  · exact .escaped .nil
  · exact .escaped .nil
  · exact .escaped .nil
  · exact .escaped .nil
  · exact quoted_unicodeEscape _
  · exact .plain hquote hbackslash .nil

/-- The layout keeps the grammar: what it writes of a character reads as the character,
and elsewhere it adds spaces only. -/
structure Style.Lawful (style : Style) : Prop where
  readChar_escape : ∀ c rest, readChar (style.escape c ++ rest) = some (c, rest)
  quoted_escape : ∀ c, Quoted (style.escape c)
  isSpaces_margin : ∀ level, IsSpaces (style.margin level)
  isSpaces_gap : ∀ level, IsSpaces (style.gap level)

theorem isSpaces_blank : IsSpaces [' '] := by
  intro c hc
  rw [List.mem_singleton.mp hc]
  rfl

theorem isSpaces_indentation (width level : Nat) : IsSpaces (indentation width level) := by
  intro c hc
  rcases List.mem_cons.mp hc with rfl | hc
  · rfl
  · rw [List.eq_of_mem_replicate hc]
    rfl

theorem Style.unicode_lawful : Style.unicode.Lawful :=
  ⟨readChar_escapeInString, quoted_escapeInString, fun _ => isSpaces_nil, fun _ => isSpaces_blank⟩

theorem Style.ascii_lawful : Style.ascii.Lawful :=
  ⟨readChar_escapeChar, quoted_escapeChar, fun _ => isSpaces_nil, fun _ => isSpaces_blank⟩

theorem Style.indented_lawful (width : Nat) : (Style.indented width).Lawful :=
  ⟨readChar_escapeChar, quoted_escapeChar, isSpaces_indentation width,
    isSpaces_indentation width⟩

/-- A value that survives: a dict has each key once, `int` reads no longer digits than
these, and `float` gives back what `repr` wrote. -/
inductive Readable (readFloat : ReadFloat) : Json → Prop
  | null : Readable readFloat .null
  | bool (b : Bool) : Readable readFloat (.bool b)
  | int {n : Int} (h : (Nat.toDigits 10 n.natAbs).length ≤ maxIntDigits) :
      Readable readFloat (.int n)
  | float {x : FloatText} (h : IsWord readFloat x.text (.float x)) : Readable readFloat (.float x)
  | str (s : Text) : Readable readFloat (.str s)
  | arr {elements : List Json} (h : ∀ a ∈ elements, Readable readFloat a) :
      Readable readFloat (.arr elements)
  | obj {entries : JsonObject} (hkeys : (entries.map Prod.fst).Nodup)
      (h : ∀ entry ∈ entries, Readable readFloat entry.2) : Readable readFloat (.obj entries)

variable {readFloat : ReadFloat} {style : Style}

theorem isWord_of_decide {w : Text} {a : Json} (hatoms : (w.all isAtomChar) = true)
    (hreads : readWord readFloat w = .ok (a, [])) : IsWord readFloat w a :=
  ⟨List.all_eq_true.mp hatoms, hreads⟩

theorem isWord_null : IsWord readFloat "null".toList .null := isWord_of_decide (by decide) rfl

theorem isWord_true : IsWord readFloat "true".toList (.bool true) :=
  isWord_of_decide (by decide) rfl

theorem isWord_false : IsWord readFloat "false".toList (.bool false) :=
  isWord_of_decide (by decide) rfl

theorem toDigits_head_ne {n : Nat} (hn : 0 < n) : (Nat.toDigits 10 n).head? ≠ some '0' := by
  induction n using Nat.strongRecOn with
  | ind n ih =>
      by_cases hlt : n < 10
      · rw [Nat.toDigits_of_lt_base hlt]
        interval_cases n <;> decide
      · rw [Nat.toDigits_of_base_le (by decide) (by omega), List.head?_append_of_ne_nil]
        · exact ih (n / 10) (by omega) (by omega)
        · exact Nat.toDigits_ne_nil

theorem readInteger_toDigits (n : Nat) :
    readInteger (Nat.toDigits 10 n) = (Nat.toDigits 10 n, []) := by
  have hdigits : ∀ c ∈ Nat.toDigits 10 n, c.isDigit = true := fun c hc =>
    Nat.isDigit_of_mem_toDigits (by decide) (by decide) hc
  unfold readInteger
  split
  · rename_i rest heq
    rcases Nat.eq_zero_or_pos n with rfl | hn
    · rw [Nat.toDigits_zero] at heq ⊢
      cases heq
      rfl
    · exact absurd (by rw [heq]; rfl) (toDigits_head_ne hn)
  · rw [List.span_eq_takeWhile_dropWhile, List.takeWhile_eq_self_iff.mpr hdigits,
      List.dropWhile_eq_nil_iff.mpr hdigits]

theorem readMinus_toDigits (n : Nat) :
    readMinus (Nat.toDigits 10 n) = ([], Nat.toDigits 10 n) := by
  unfold readMinus
  split
  · rename_i rest heq
    have hminus : '-' ∈ Nat.toDigits 10 n := by
      rw [heq]
      exact List.mem_cons_self
    exact absurd (Nat.isDigit_of_mem_toDigits (by decide) (by decide) hminus) (by decide)
  · rfl

theorem numberOf_toDigits {m : Nat} (h : (Nat.toDigits 10 m).length ≤ maxIntDigits) (minus : Text) :
    numberOf readFloat minus (Nat.toDigits 10 m) [] [] =
      .ok (.int (if minus.isEmpty then (m : Int) else -(m : Int))) := by
  have hne : (Nat.toDigits 10 m).isEmpty = false :=
    List.isEmpty_eq_false_iff.mpr Nat.toDigits_ne_nil
  have hempty : (([] : Text).isEmpty && ([] : Text).isEmpty) = true := rfl
  rw [numberOf, hne, if_neg Bool.false_ne_true, if_pos hempty, if_neg (not_lt.mpr h),
    Nat.ofDigitChars_ten_toDigits]

theorem readNumber_intText {n : Int} (h : (Nat.toDigits 10 n.natAbs).length ≤ maxIntDigits) :
    readNumber readFloat (intText n) = .ok (.int n, []) := by
  rw [readNumber_eq, afterExponent, intText]
  split_ifs with hneg
  · have hminus : readMinus ('-' :: Nat.toDigits 10 n.natAbs) =
        (['-'], Nat.toDigits 10 n.natAbs) := rfl
    have hvalue : -(n.natAbs : Int) = n := by omega
    rw [hminus, readInteger_toDigits, readFraction_of_stops stops_nil]
    refine (congrArg (Except.map _) (numberOf_toDigits h ['-'])).trans ?_
    rw [if_neg (by decide), hvalue]
    rfl
  · have hvalue : (n.natAbs : Int) = n := by omega
    rw [readMinus_toDigits, readInteger_toDigits, readFraction_of_stops stops_nil]
    refine (congrArg (Except.map _) (numberOf_toDigits h [])).trans ?_
    rw [if_pos List.isEmpty_nil, hvalue]
    rfl

theorem isWord_intText {n : Int} (h : (Nat.toDigits 10 n.natAbs).length ≤ maxIntDigits) :
    IsWord readFloat (intText n) (.int n) where
  atoms := isAtomChar_of_mem_write (a := .int n) rfl
  reads := by
    -- Every constant has a letter in it.
    have hletter : ∀ constant ∈ constants, ∃ c ∈ constant.1, c.isDigit = false ∧ c ≠ '-' := by
      intro constant h
      simp only [constants, List.mem_cons, List.not_mem_nil, or_false] at h
      rcases h with rfl | rfl | rfl | rfl | rfl | rfl
      · exact ⟨'n', by decide, by decide, by decide⟩
      · exact ⟨'t', by decide, by decide, by decide⟩
      · exact ⟨'f', by decide, by decide, by decide⟩
      · exact ⟨'N', by decide, by decide, by decide⟩
      · exact ⟨'I', by decide, by decide, by decide⟩
      · exact ⟨'I', by decide, by decide, by decide⟩
    have hnone : constants.find? (fun constant => constant.1.isPrefixOf (intText n)) = none := by
      rw [List.find?_eq_none]
      intro constant hconstant hpre
      obtain ⟨rest, hrest⟩ := List.isPrefixOf_iff_prefix.mp hpre
      obtain ⟨c, hc, hdigit, hminus⟩ := hletter constant hconstant
      have hmem : c ∈ intText n := by
        rw [← hrest]
        exact List.mem_append_left rest hc
      rcases isDigit_of_mem_intText hmem with hisDigit | hisMinus
      · exact Bool.noConfusion (hdigit.symm.trans hisDigit)
      · exact hminus hisMinus
    rw [readWord, hnone]
    exact readNumber_intText h

theorem stringBody_writeStringWith (hstyle : style.Lawful) (s : Text) :
    StringBody (s.flatMap style.escape ++ ['"']) s := by
  induction s with
  | nil => exact .close
  | cons c s ih =>
      rw [List.flatMap_cons, List.append_assoc]
      refine .char ?_ (hstyle.quoted_escape c) (fun rest => hstyle.readChar_escape c _) ih
      intro hnil
      have hread := hstyle.readChar_escape c []
      rw [hnil] at hread
      cases hread

theorem denotes_writeElementsWith (hstyle : style.Lawful) {level : Nat} {a : Json}
    {rest : List Json}
    (h : ∀ b ∈ a :: rest, Denotes readFloat .value (writeWith style (level + 1) b) b) :
    Denotes readFloat .elements
      (writeWith style (level + 1) a ++ writeElementsWith style level rest) (.arr (a :: rest)) := by
  induction rest generalizing a with
  | nil => exact .lastElement (h a List.mem_cons_self) (hstyle.isSpaces_margin level)
  | cons b rest ih =>
      have hrest := ih fun c hc => h c (List.mem_cons_of_mem a hc)
      have hmore := Denotes.element (h a List.mem_cons_self) isSpaces_nil
        (hstyle.isSpaces_gap (level + 1)) hrest
      exact hmore

theorem setEntry_of_not_mem {before : JsonObject} {key : Text} (h : key ∉ before.map Prod.fst)
    (a : Json) : setEntry before key a = before ++ [(key, a)] := by
  rw [setEntry, if_neg]
  simp only [List.any_eq_true, beq_iff_eq, not_exists, not_and]
  rintro entry hentry rfl
  exact h (List.mem_map_of_mem hentry)

theorem denotes_writeEntriesWith (hstyle : style.Lawful) {level : Nat} {key : Text} {a : Json}
    {before rest : JsonObject} (hkeys : ((before ++ (key, a) :: rest).map Prod.fst).Nodup)
    (h : ∀ entry ∈ (key, a) :: rest,
      Denotes readFloat .value (writeWith style (level + 1) entry.2) entry.2) :
    Denotes readFloat (.entries before)
      (writeStringWith style key ++ ':' :: ' ' :: (writeWith style (level + 1) a ++
        writeEntriesWith style level rest))
      (.obj (before ++ (key, a) :: rest)) := by
  have hnew : key ∉ before.map Prod.fst := by
    intro hmem
    rw [List.map_append, List.nodup_append] at hkeys
    exact hkeys.2.2 key hmem key List.mem_cons_self rfl
  have hset := setEntry_of_not_mem hnew a
  have hbody := stringBody_writeStringWith hstyle key
  have hvalue := h (key, a) List.mem_cons_self
  induction rest generalizing before key a with
  | nil =>
      rw [← hset]
      have hlast : Denotes readFloat (.entries before) _ (.obj (setEntry before key a)) :=
        .lastEntry hbody isSpaces_nil isSpaces_blank hvalue (hstyle.isSpaces_margin level)
      exact hlast
  | cons entry rest ih =>
      obtain ⟨key', b⟩ := entry
      have hsplit : before ++ (key, a) :: (key', b) :: rest =
          setEntry before key a ++ (key', b) :: rest := by
        rw [hset, List.append_assoc]
        rfl
      rw [hsplit] at hkeys ⊢
      have hnext : key' ∉ (setEntry before key a).map Prod.fst := by
        intro hmem
        rw [List.map_append, List.nodup_append] at hkeys
        exact hkeys.2.2 key' hmem key' List.mem_cons_self rfl
      have hrest := ih hkeys (fun c hc => h c (List.mem_cons_of_mem _ hc)) hnext
        (setEntry_of_not_mem hnext b) (stringBody_writeStringWith hstyle key')
        (h (key', b) (List.mem_cons_of_mem _ List.mem_cons_self))
      have hmore := Denotes.entry hbody isSpaces_nil isSpaces_blank hvalue isSpaces_nil
        (hstyle.isSpaces_gap (level + 1)) hrest
      exact hmore

theorem denotes_writeWith (hstyle : style.Lawful) {a : Json} (h : Readable readFloat a)
    (level : Nat) : Denotes readFloat .value (writeWith style level a) a := by
  induction h generalizing level with
  | null => exact .word isWord_null
  | bool b =>
      cases b with
      | false => exact .word isWord_false
      | true => exact .word isWord_true
  | int h => exact .word (isWord_intText h)
  | float h => exact .word h
  | str s => exact .string (stringBody_writeStringWith hstyle s)
  | @arr elements _ ih =>
      cases elements with
      | nil =>
          have hempty : Denotes readFloat .value _ (.arr []) := .emptyArray isSpaces_nil
          exact hempty
      | cons a rest =>
          exact .array (hstyle.isSpaces_margin (level + 1))
            (denotes_writeElementsWith hstyle fun b hb => ih b hb (level + 1))
  | @obj entries hkeys _ ih =>
      cases entries with
      | nil =>
          have hempty : Denotes readFloat .value _ (.obj []) := .emptyObject isSpaces_nil
          exact hempty
      | cons entry rest =>
          obtain ⟨key, a⟩ := entry
          have hkeys' : (([] ++ (key, a) :: rest : JsonObject).map Prod.fst).Nodup := hkeys
          exact .object (hstyle.isSpaces_margin (level + 1))
            (denotes_writeEntriesWith hstyle hkeys'
              fun entry hentry => ih entry hentry (level + 1))

/-- What a layout writes of a value is read back as the value. -/
theorem loads_writeWith (hstyle : style.Lawful) {a : Json} (h : Readable readFloat a)
    (level : Nat) : loads readFloat (writeWith style level a) = .ok a :=
  loads_eq_ok_iff.mpr ⟨[], writeWith style level a, [], by rw [List.append_nil]; rfl, isSpaces_nil,
    isSpaces_nil, denotes_writeWith hstyle h level⟩

mutual

theorem writeWith_unicode (level : Nat) : ∀ a : Json, writeWith .unicode level a = write a
  | .null => rfl
  | .bool true => rfl
  | .bool false => rfl
  | .int _ => rfl
  | .float _ => rfl
  | .str _ => rfl
  | .arr [] => rfl
  | .arr (a :: rest) => by
      rw [writeWith, write, writeWith_unicode (level + 1) a, writeElementsWith_unicode level rest]
      rfl
  | .obj [] => rfl
  | .obj ((k, a) :: rest) => by
      rw [writeWith, write, writeWith_unicode (level + 1) a, writeEntriesWith_unicode level rest]
      simp only [writeStringWith, writeString, Style.unicode, List.append_assoc, List.cons_append,
        List.nil_append]

theorem writeElementsWith_unicode (level : Nat) :
    ∀ elements : List Json, writeElementsWith .unicode level elements = writeElements elements
  | [] => rfl
  | a :: rest => by
      rw [writeElementsWith, writeElements, writeWith_unicode (level + 1) a,
        writeElementsWith_unicode level rest]
      rfl

theorem writeEntriesWith_unicode (level : Nat) :
    ∀ entries : JsonObject, writeEntriesWith .unicode level entries = writeEntries entries
  | [] => rfl
  | (k, a) :: rest => by
      rw [writeEntriesWith, writeEntries, writeWith_unicode (level + 1) a,
        writeEntriesWith_unicode level rest]
      simp only [writeStringWith, writeString, Style.unicode, List.append_assoc, List.cons_append,
        List.nil_append]

end

/-- What `json.dumps(value, ensure_ascii=False)` writes, `json.loads` reads back. -/
theorem loads_write {a : Json} (h : Readable readFloat a) : loads readFloat (write a) = .ok a := by
  rw [← writeWith_unicode 0 a]
  exact loads_writeWith Style.unicode_lawful h 0

theorem ofDigitChars_lt {digits : Text} (h : ∀ c ∈ digits, c.isDigit = true) (n : Nat) :
    Nat.ofDigitChars 10 digits n < 10 ^ digits.length * (n + 1) := by
  induction digits generalizing n with
  | nil => simp
  | cons c digits ih =>
      have hc := h c List.mem_cons_self
      simp only [Char.isDigit, Bool.and_eq_true, decide_eq_true_eq] at hc
      have hle : c.toNat ≤ 57 := UInt32.le_iff_toNat_le.mp hc.2
      have hnext := ih (fun d hd => h d (List.mem_cons_of_mem c hd)) (10 * n + (c.toNat - 48))
      rw [Nat.ofDigitChars_cons, List.length_cons, pow_succ, mul_assoc]
      refine hnext.trans_le (Nat.mul_le_mul_left _ ?_)
      omega

theorem isDigit_of_mem_readInteger {s : Text} {c : Char} (hc : c ∈ (readInteger s).1) :
    c.isDigit = true := by
  unfold readInteger at hc
  split at hc
  · rw [List.mem_singleton.mp hc]
    rfl
  · rw [List.span_eq_takeWhile_dropWhile] at hc
    exact List.mem_takeWhile_imp hc

/-- `float` gives a number whose `repr` it reads as that number. -/
def ReadsFloats (readFloat : ReadFloat) : Prop :=
  ∀ text, IsWord readFloat (readFloat text).text (.float (readFloat text))

theorem readable_of_numberOf (hfloat : ReadsFloats readFloat) {minus s fraction exponent : Text}
    {a : Json} (h : numberOf readFloat minus (readInteger s).1 fraction exponent = .ok a) :
    Readable readFloat a := by
  have hlt := ofDigitChars_lt (fun c => isDigit_of_mem_readInteger (s := s) (c := c)) 0
  rw [numberOf] at h
  split at h
  · cases h
  · rename_i hdigits
    split at h
    · split at h
      · cases h
      · rename_i hmax
        have hlength : 10 ^ (readInteger s).1.length ≤ 10 ^ maxIntDigits :=
          Nat.pow_le_pow_right (by decide) (not_lt.mp hmax)
        cases h
        refine .int ((Nat.length_toDigits_le_iff (by decide) (by decide)).mpr ?_)
        split <;> omega
    · cases h
      exact .float (hfloat _)

theorem isWord_of_mem_constants {constant : Text × Json} (h : constant ∈ constants) :
    IsWord readFloat constant.1 constant.2 := by
  simp only [constants, List.mem_cons, List.not_mem_nil, or_false] at h
  rcases h with rfl | rfl | rfl | rfl | rfl | rfl <;> exact isWord_of_decide (by decide) rfl

theorem readable_of_mem_constants {constant : Text × Json} (h : constant ∈ constants) :
    Readable readFloat constant.2 := by
  have hword : IsWord readFloat constant.1 constant.2 := isWord_of_mem_constants h
  simp only [constants, List.mem_cons, List.not_mem_nil, or_false] at h
  rcases h with rfl | rfl | rfl | rfl | rfl | rfl
  · exact .null
  · exact .bool true
  · exact .bool false
  · exact .float hword
  · exact .float hword
  · exact .float hword

theorem readable_of_isWord (hfloat : ReadsFloats readFloat) {w : Text} {a : Json}
    (h : IsWord readFloat w a) : Readable readFloat a := by
  have hreads := h.reads
  unfold readWord at hreads
  split at hreads
  · rename_i constant hconstant
    obtain ⟨rfl, -⟩ := Prod.mk.inj (Except.ok.inj hreads)
    exact readable_of_mem_constants (List.mem_of_find?_eq_some hconstant)
  · rw [readNumber_eq] at hreads
    cases hvalue : numberOf readFloat (readMinus w).1 (readInteger (readMinus w).2).1
        (readFraction (readInteger (readMinus w).2).2).1 (afterExponent w).1 with
    | error e =>
        rw [hvalue] at hreads
        cases hreads
    | ok b =>
        rw [hvalue] at hreads
        obtain ⟨rfl, -⟩ := Prod.mk.inj (Except.ok.inj hreads)
        exact readable_of_numberOf hfloat hvalue

theorem setEntry_cases (before : JsonObject) (key : Text) (a : Json) :
    (key ∉ before.map Prod.fst ∧ setEntry before key a = before ++ [(key, a)]) ∨
      setEntry before key a =
        before.map fun entry => if entry.1 = key then (key, a) else entry := by
  by_cases h : key ∈ before.map Prod.fst
  · right
    rw [setEntry, if_pos]
    obtain ⟨entry, hentry, rfl⟩ := List.mem_map.mp h
    exact List.any_eq_true.mpr ⟨entry, hentry, beq_self_eq_true _⟩
  · exact .inl ⟨h, setEntry_of_not_mem h a⟩

theorem readable_setEntry {before : JsonObject} {key : Text} {a : Json}
    (hbefore : Readable readFloat (.obj before)) (ha : Readable readFloat a) :
    Readable readFloat (.obj (setEntry before key a)) := by
  cases hbefore with
  | obj hkeys hvalues =>
      rcases setEntry_cases before key a with ⟨hnew, hset⟩ | hset
      · rw [hset]
        refine .obj ?_ ?_
        · rw [List.map_append, List.nodup_append]
          refine ⟨hkeys, List.nodup_singleton key, ?_⟩
          rintro k hk _ hkey rfl
          rw [List.map_singleton, List.mem_singleton] at hkey
          obtain rfl : k = key := hkey
          exact hnew hk
        · intro entry hentry
          rcases List.mem_append.mp hentry with hold | hlast
          · exact hvalues entry hold
          · rw [List.mem_singleton.mp hlast]
            exact ha
      · have hsame : (before.map fun entry => if entry.1 = key then (key, a) else entry).map
            Prod.fst = before.map Prod.fst := by
          rw [List.map_map]
          refine List.map_congr_left fun entry _ => ?_
          rw [Function.comp_apply]
          split
          · rename_i h
            exact h.symm
          · rfl
        rw [hset]
        refine .obj ?_ ?_
        · rwa [hsame]
        · intro entry hentry
          obtain ⟨old, hold, rfl⟩ := List.mem_map.mp hentry
          split
          · exact ha
          · exact hvalues old hold

/-- What a part of a text stands for can be written, with the entries before it. -/
theorem readable_of_denotes (hfloat : ReadsFloats readFloat) {part : Part} {w : Text} {a : Json}
    (h : Denotes readFloat part w a)
    (hbefore : ∀ before, part = .entries before → Readable readFloat (.obj before)) :
    Readable readFloat a := by
  induction h with
  | string h => exact .str _
  | word h => exact readable_of_isWord hfloat h
  | emptyArray hsp => exact .arr nofun
  | array hsp _ ih => exact ih nofun
  | emptyObject hsp => exact .obj List.nodup_nil nofun
  | object hsp _ ih =>
      refine ih fun before hpart => ?_
      cases hpart
      exact .obj List.nodup_nil nofun
  | lastElement _ hsp ih => exact .arr (List.forall_mem_singleton.mpr (ih nofun))
  | element _ hsp hsp' _ ih ih' =>
      have hrest := ih' nofun
      cases hrest with
      | arr hrest => exact .arr (List.forall_mem_cons.mpr ⟨ih nofun, hrest⟩)
  | lastEntry hkey hsp hsp' _ hsp'' ih => exact readable_setEntry (hbefore _ rfl) (ih nofun)
  | entry hkey hsp hsp' _ hsp'' hsp3 _ ih ih' =>
      refine ih' fun before hpart => ?_
      cases hpart
      exact readable_setEntry (hbefore _ rfl) (ih nofun)

theorem readable_of_loads (hfloat : ReadsFloats readFloat) {s : Text} {a : Json}
    (h : loads readFloat s = .ok a) : Readable readFloat a := by
  obtain ⟨sp, w, sp', -, -, -, hdenotes⟩ := loads_eq_ok_iff.mp h
  exact readable_of_denotes hfloat hdenotes nofun

/-- The text is on one line of printable ASCII. -/
def IsPrintable (s : Text) : Prop := ∀ c ∈ s, 32 ≤ c.toNat ∧ c.toNat ≤ 126

theorem isPrintable_append {s t : Text} (hs : IsPrintable s) (ht : IsPrintable t) :
    IsPrintable (s ++ t) := fun c hc => (List.mem_append.mp hc).elim (hs c) (ht c)

theorem isPrintable_cons {c : Char} {s : Text} (hc : 32 ≤ c.toNat ∧ c.toNat ≤ 126)
    (hs : IsPrintable s) : IsPrintable (c :: s) := List.forall_mem_cons.mpr ⟨hc, hs⟩

theorem isPrintable_nil : IsPrintable [] := nofun

theorem isPrintable_of_le {c low high : Char} (hlow : c.val ≥ low.val) (hhigh : c.val ≤ high.val)
    (hlow' : 32 ≤ low.toNat) (hhigh' : high.toNat ≤ 126) : 32 ≤ c.toNat ∧ c.toNat ≤ 126 :=
  ⟨hlow'.trans (UInt32.le_iff_toNat_le.mp hlow), (UInt32.le_iff_toNat_le.mp hhigh).trans hhigh'⟩

theorem isPrintable_of_isAlphanum {c : Char} (h : c.isAlphanum = true) :
    32 ≤ c.toNat ∧ c.toNat ≤ 126 := by
  rcases Bool.or_eq_true_iff.mp h with halpha | hdigit
  · rcases Bool.or_eq_true_iff.mp halpha with hupper | hlower
    · obtain ⟨hlow, hhigh⟩ := of_decide_eq_true hupper
      exact isPrintable_of_le hlow hhigh (by decide) (by decide)
    · obtain ⟨hlow, hhigh⟩ := Bool.and_eq_true_iff.mp hlower
      exact isPrintable_of_le (of_decide_eq_true hlow) (of_decide_eq_true hhigh) (by decide)
        (by decide)
  · obtain ⟨hlow, hhigh⟩ := Bool.and_eq_true_iff.mp hdigit
    exact isPrintable_of_le (of_decide_eq_true hlow) (of_decide_eq_true hhigh) (by decide)
      (by decide)

theorem isPrintable_of_isAtomChar {c : Char} (h : isAtomChar c = true) :
    32 ≤ c.toNat ∧ c.toNat ≤ 126 := by
  simp only [isAtomChar, Bool.or_eq_true, beq_iff_eq] at h
  rcases h with ((halnum | rfl) | rfl) | rfl
  · exact isPrintable_of_isAlphanum halnum
  · decide
  · decide
  · decide

theorem isPrintable_write {a : Json} (ha : a.isAtom = true) : IsPrintable (write a) :=
  fun c hc => isPrintable_of_isAtomChar (isAtomChar_of_mem_write ha c hc)

theorem isPrintable_unicodeEscape (n : Nat) : IsPrintable (unicodeEscape n) := by
  have hdigit : ∀ d < 16, 32 ≤ (Nat.digitChar d).toNat ∧ (Nat.digitChar d).toNat ≤ 126 := by
    decide
  have hmod (m : Nat) := hdigit (m % 16) (Nat.mod_lt m (by decide))
  exact isPrintable_cons (by decide) (isPrintable_cons (by decide)
    (isPrintable_cons (hmod _) (isPrintable_cons (hmod _) (isPrintable_cons (hmod _)
      (isPrintable_cons (hmod _) isPrintable_nil)))))

theorem isPrintable_escapeChar (c : Char) : IsPrintable (escapeChar c) := by
  have hshort {d : Char} (hd : 32 ≤ d.toNat ∧ d.toNat ≤ 126) : IsPrintable ['\\', d] :=
    isPrintable_cons (by decide) (isPrintable_cons hd isPrintable_nil)
  rw [escapeChar]
  split_ifs with hquote hbackslash hnewline hreturn htab hbackspace hformfeed hprintable hbasic
  · exact hshort (by decide)
  · exact hshort (by decide)
  · exact hshort (by decide)
  · exact hshort (by decide)
  · exact hshort (by decide)
  · exact hshort (by decide)
  · exact hshort (by decide)
  · exact isPrintable_cons hprintable isPrintable_nil
  · exact isPrintable_unicodeEscape _
  · exact isPrintable_append (isPrintable_unicodeEscape _) (isPrintable_unicodeEscape _)

theorem isPrintable_writeStringWith (s : Text) : IsPrintable (writeStringWith .ascii s) := by
  refine isPrintable_cons (by decide) (isPrintable_append ?_ (isPrintable_cons (by decide)
    isPrintable_nil))
  intro c hc
  obtain ⟨d, -, hescape⟩ := List.mem_flatMap.mp hc
  exact isPrintable_escapeChar d c hescape

theorem isPrintable_blank : IsPrintable [' '] := isPrintable_cons (by decide) isPrintable_nil

mutual

theorem isPrintable_writeWith (level : Nat) : ∀ a : Json, IsPrintable (writeWith .ascii level a)
  | .null => isPrintable_write (a := .null) rfl
  | .bool true => isPrintable_write (a := .bool true) rfl
  | .bool false => isPrintable_write (a := .bool false) rfl
  | .int n => isPrintable_write (a := .int n) rfl
  | .float x => isPrintable_write (a := .float x) rfl
  | .str s => isPrintable_writeStringWith s
  | .arr [] => isPrintable_cons (by decide) (isPrintable_cons (by decide) isPrintable_nil)
  | .arr (a :: rest) =>
      isPrintable_cons (by decide) (isPrintable_append isPrintable_nil
        (isPrintable_append (isPrintable_writeWith (level + 1) a)
          (isPrintable_writeElementsWith level rest)))
  | .obj [] => isPrintable_cons (by decide) (isPrintable_cons (by decide) isPrintable_nil)
  | .obj ((k, a) :: rest) =>
      isPrintable_cons (by decide) (isPrintable_append isPrintable_nil
        (isPrintable_append (isPrintable_writeStringWith k) (isPrintable_cons (by decide)
          (isPrintable_cons (by decide) (isPrintable_append (isPrintable_writeWith (level + 1) a)
            (isPrintable_writeEntriesWith level rest))))))

theorem isPrintable_writeElementsWith (level : Nat) :
    ∀ elements : List Json, IsPrintable (writeElementsWith .ascii level elements)
  | [] => isPrintable_cons (by decide) isPrintable_nil
  | a :: rest =>
      isPrintable_cons (by decide) (isPrintable_append isPrintable_blank
        (isPrintable_append (isPrintable_writeWith (level + 1) a)
          (isPrintable_writeElementsWith level rest)))

theorem isPrintable_writeEntriesWith (level : Nat) :
    ∀ entries : JsonObject, IsPrintable (writeEntriesWith .ascii level entries)
  | [] => isPrintable_cons (by decide) isPrintable_nil
  | (k, a) :: rest =>
      isPrintable_cons (by decide) (isPrintable_append isPrintable_blank
        (isPrintable_append (isPrintable_writeStringWith k) (isPrintable_cons (by decide)
          (isPrintable_cons (by decide) (isPrintable_append (isPrintable_writeWith (level + 1) a)
            (isPrintable_writeEntriesWith level rest))))))

end

end NanoCore.Foundation.JsonWriters
