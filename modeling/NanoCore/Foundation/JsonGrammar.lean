import NanoCore.Foundation.Exceptions
import NanoCore.Foundation.JsonTokens

namespace NanoCore.Foundation.JsonGrammar

open NanoCore.Foundation.Exceptions
open NanoCore.Foundation.JsonLoads
open NanoCore.Foundation.JsonText
open NanoCore.Foundation.JsonTokens
open NanoCore.Foundation.PythonText

def IsSpaces (sp : Text) : Prop := ∀ c ∈ sp, isJsonSpace c = true

/-- A value; the elements of a list up to its bracket; the entries of an object that
follow some others, up to its brace. -/
inductive Part where
  | value
  | elements
  | entries (before : JsonObject)

/-- The text stands for the value. -/
inductive Denotes (readFloat : ReadFloat) : Part → Text → Json → Prop
  | string {w k : Text} (h : StringBody w k) : Denotes readFloat .value ('"' :: w) (.str k)
  | word {w : Text} {a : Json} (h : IsWord readFloat w a) : Denotes readFloat .value w a
  | emptyArray {sp : Text} (hsp : IsSpaces sp) :
      Denotes readFloat .value ('[' :: (sp ++ [']'])) (.arr [])
  | array {sp w : Text} {elements : List Json} (hsp : IsSpaces sp)
      (h : Denotes readFloat .elements w (.arr elements)) :
      Denotes readFloat .value ('[' :: (sp ++ w)) (.arr elements)
  | emptyObject {sp : Text} (hsp : IsSpaces sp) :
      Denotes readFloat .value ('\x7b' :: (sp ++ ['\x7d'])) (.obj [])
  | object {sp w : Text} {entries : JsonObject} (hsp : IsSpaces sp)
      (h : Denotes readFloat (.entries []) w (.obj entries)) :
      Denotes readFloat .value ('\x7b' :: (sp ++ w)) (.obj entries)
  | lastElement {w sp : Text} {a : Json} (h : Denotes readFloat .value w a) (hsp : IsSpaces sp) :
      Denotes readFloat .elements (w ++ (sp ++ [']'])) (.arr [a])
  | element {w sp sp' w' : Text} {a : Json} {elements : List Json}
      (h : Denotes readFloat .value w a) (hsp : IsSpaces sp) (hsp' : IsSpaces sp')
      (h' : Denotes readFloat .elements w' (.arr elements)) :
      Denotes readFloat .elements (w ++ (sp ++ ',' :: (sp' ++ w'))) (.arr (a :: elements))
  | lastEntry {before : JsonObject} {k key sp sp' w sp'' : Text} {a : Json}
      (hkey : StringBody k key) (hsp : IsSpaces sp) (hsp' : IsSpaces sp')
      (h : Denotes readFloat .value w a) (hsp'' : IsSpaces sp'') :
      Denotes readFloat (.entries before)
        ('"' :: (k ++ (sp ++ ':' :: (sp' ++ (w ++ (sp'' ++ ['\x7d']))))))
        (.obj (setEntry before key a))
  | entry {before entries : JsonObject} {k key sp sp' w sp'' sp3 w' : Text} {a : Json}
      (hkey : StringBody k key) (hsp : IsSpaces sp) (hsp' : IsSpaces sp')
      (h : Denotes readFloat .value w a) (hsp'' : IsSpaces sp'') (hsp3 : IsSpaces sp3)
      (h' : Denotes readFloat (.entries (setEntry before key a)) w' (.obj entries)) :
      Denotes readFloat (.entries before)
        ('"' :: (k ++ (sp ++ ':' :: (sp' ++ (w ++ (sp'' ++ ',' :: (sp3 ++ w')))))))
        (.obj entries)

/-- The text has the form of a JSON text, whatever its words and escapes stand for. -/
inductive Shaped : Part → Text → Prop
  | string {w : Text} (h : Quoted w) : Shaped .value ('"' :: (w ++ ['"']))
  | word {w : Text} (hne : w ≠ []) (h : ∀ c ∈ w, isAtomChar c = true) : Shaped .value w
  | emptyArray {sp : Text} (hsp : IsSpaces sp) : Shaped .value ('[' :: (sp ++ [']']))
  | array {sp w : Text} (hsp : IsSpaces sp) (h : Shaped .elements w) :
      Shaped .value ('[' :: (sp ++ w))
  | emptyObject {sp : Text} (hsp : IsSpaces sp) : Shaped .value ('\x7b' :: (sp ++ ['\x7d']))
  | object {sp w : Text} (hsp : IsSpaces sp) (h : Shaped (.entries []) w) :
      Shaped .value ('\x7b' :: (sp ++ w))
  | lastElement {w sp : Text} (h : Shaped .value w) (hsp : IsSpaces sp) :
      Shaped .elements (w ++ (sp ++ [']']))
  | element {w sp sp' w' : Text} (h : Shaped .value w) (hsp : IsSpaces sp) (hsp' : IsSpaces sp')
      (h' : Shaped .elements w') : Shaped .elements (w ++ (sp ++ ',' :: (sp' ++ w')))
  | lastEntry {before : JsonObject} {k sp sp' w sp'' : Text} (hkey : Quoted k)
      (hsp : IsSpaces sp) (hsp' : IsSpaces sp') (h : Shaped .value w) (hsp'' : IsSpaces sp'') :
      Shaped (.entries before)
        ('"' :: ((k ++ ['"']) ++ (sp ++ ':' :: (sp' ++ (w ++ (sp'' ++ ['\x7d']))))))
  | entry {before before' : JsonObject} {k sp sp' w sp'' sp3 w' : Text} (hkey : Quoted k)
      (hsp : IsSpaces sp) (hsp' : IsSpaces sp') (h : Shaped .value w) (hsp'' : IsSpaces sp'')
      (hsp3 : IsSpaces sp3) (h' : Shaped (.entries before') w') :
      Shaped (.entries before)
        ('"' :: ((k ++ ['"']) ++ (sp ++ ':' :: (sp' ++ (w ++ (sp'' ++ ',' :: (sp3 ++ w')))))))

variable {readFloat : ReadFloat} {part : Part} {w sp rest : Text} {a : Json}

/-- What the reader takes for a value has the form of one. -/
theorem Denotes.shaped (h : Denotes readFloat part w a) : Shaped part w := by
  induction h with
  | string h =>
      obtain ⟨v, hv, rfl⟩ := h.exists_quoted
      exact .string hv
  | word h => exact .word h.ne_nil h.atoms
  | emptyArray hsp => exact .emptyArray hsp
  | array hsp _ ih => exact .array hsp ih
  | emptyObject hsp => exact .emptyObject hsp
  | object hsp _ ih => exact .object hsp ih
  | lastElement _ hsp ih => exact .lastElement ih hsp
  | element _ hsp hsp' _ ih ih' => exact .element ih hsp hsp' ih'
  | lastEntry hkey hsp hsp' _ hsp'' ih =>
      obtain ⟨v, hv, rfl⟩ := hkey.exists_quoted
      exact .lastEntry hv hsp hsp' ih hsp''
  | entry hkey hsp hsp' _ hsp'' hsp3 _ ih ih' =>
      obtain ⟨v, hv, rfl⟩ := hkey.exists_quoted
      exact .entry hv hsp hsp' ih hsp'' hsp3 ih'

theorem isSpaces_nil : IsSpaces [] := fun _ hc => absurd hc List.not_mem_nil

theorem isSpaces_takeWhile (s : Text) : IsSpaces (s.takeWhile isJsonSpace) :=
  fun _ hc => List.mem_takeWhile_imp hc

theorem eq_append_skipSpaces (s : Text) : ∃ sp, IsSpaces sp ∧ s = sp ++ skipSpaces s :=
  ⟨_, isSpaces_takeWhile s, List.takeWhile_append_dropWhile.symm⟩

theorem skipSpaces_append (hsp : IsSpaces sp) {c : Char} (hc : isJsonSpace c = false)
    (s : Text) : skipSpaces (sp ++ c :: s) = c :: s := by
  rw [skipSpaces, List.dropWhile_append_of_pos hsp, List.dropWhile_cons, hc]
  rfl

theorem isSpace_of_isJsonSpace {c : Char} (h : isJsonSpace c = true) : isSpace c = true := by
  simp only [isJsonSpace, Bool.or_eq_true, beq_iff_eq] at h
  rcases h with ((rfl | rfl) | rfl) | rfl <;> decide

theorem isAtomChar_of_isJsonSpace {c : Char} (h : isJsonSpace c = true) :
    isAtomChar c = false := by
  simp only [isJsonSpace, Bool.or_eq_true, beq_iff_eq] at h
  rcases h with ((rfl | rfl) | rfl) | rfl <;> decide

/-- Spaces and a separator stop a word. -/
theorem stops_append (hsp : IsSpaces sp) {c : Char} (hc : isAtomChar c = false) (s : Text) :
    Stops (sp ++ c :: s) := by
  cases sp with
  | nil => exact stops_cons hc s
  | cons d sp => exact stops_cons (isAtomChar_of_isJsonSpace (hsp d List.mem_cons_self)) _

theorem stops_of_isSpaces (hsp : IsSpaces sp) : Stops sp := by
  cases sp with
  | nil => exact stops_nil
  | cons d sp => exact stops_cons (isAtomChar_of_isJsonSpace (hsp d List.mem_cons_self)) _

/-- The first character of a value or of a list of entries. -/
theorem Denotes.exists_head (h : Denotes readFloat part w a) :
    ∃ c t, w = c :: t ∧ isJsonSpace c = false ∧ c ≠ ']' ∧ c ≠ '\x7d' ∧ c ≠ '\ufeff' := by
  induction h with
  | string | emptyArray | array | emptyObject | object | lastEntry | entry =>
      exact ⟨_, _, rfl, by decide, by decide, by decide, by decide⟩
  | word h =>
      obtain ⟨c, t, rfl⟩ := List.exists_cons_of_ne_nil h.ne_nil
      have hc := h.atoms c List.mem_cons_self
      refine ⟨c, t, rfl, ?_, ?_, ?_, ?_⟩
      · by_contra hspace
        rw [Bool.not_eq_false] at hspace
        exact Bool.noConfusion (hc.symm.trans (isAtomChar_of_isJsonSpace hspace))
      · rintro rfl
        exact absurd hc (by decide)
      · rintro rfl
        exact absurd hc (by decide)
      · rintro rfl
        exact absurd hc (by decide)
  | lastElement _ _ ih | element _ _ _ _ ih _ =>
      obtain ⟨c, t, rfl, hc⟩ := ih
      exact ⟨c, _, rfl, hc⟩

/-- What is read with some fuel is in the grammar. -/
structure Sound (readFloat : ReadFloat) (fuel : Nat) : Prop where
  value : ∀ {s rest : Text} {a : Json}, readValue readFloat fuel s = .ok (a, rest) → Stops rest →
    ∃ w, s = w ++ rest ∧ Denotes readFloat .value w a
  elements : ∀ {s rest : Text} {elements : List Json},
    readElements readFloat fuel s = .ok (elements, rest) →
      ∃ w, s = w ++ rest ∧ Denotes readFloat .elements w (.arr elements)
  entries : ∀ {before entries : JsonObject} {s rest : Text},
    readEntries readFloat fuel before s = .ok (entries, rest) →
      ∃ w, s = w ++ rest ∧ Denotes readFloat (.entries before) w (.obj entries)

theorem stops_of_skipSpaces {c : Char} {t : Text} (h : skipSpaces rest = c :: t)
    (hc : isAtomChar c = false) : Stops rest := by
  obtain ⟨sp, hsp, hrest⟩ := eq_append_skipSpaces rest
  rw [hrest, h]
  exact stops_append hsp hc t

variable {fuel : Nat} {s : Text}

theorem Sound.readValue_succ (ih : Sound readFloat fuel)
    (h : readValue readFloat (fuel + 1) s = .ok (a, rest)) (hrest : Stops rest) :
    ∃ w, s = w ++ rest ∧ Denotes readFloat .value w a := by
  rw [readValue.eq_def] at h
  split at h
  · rename_i heq
    cases heq
  · rename_i s' heq
    cases heq
    obtain ⟨⟨k, r⟩, hstring, hread⟩ := bind_eq_ok_iff.mp h
    cases hread
    obtain ⟨w, rfl, hbody⟩ := exists_stringBody hstring
    exact ⟨'"' :: w, rfl, .string hbody⟩
  · rename_i s' heq
    cases heq
    obtain ⟨sp, hsp, hs⟩ := eq_append_skipSpaces s'
    split at h
    · rename_i after hskip
      cases h
      rw [hs, hskip]
      exact ⟨'[' :: (sp ++ [']']), by simp, .emptyArray hsp⟩
    · obtain ⟨⟨elements, r⟩, helements, hread⟩ := bind_eq_ok_iff.mp h
      cases hread
      obtain ⟨w, hw, hdenotes⟩ := ih.elements helements
      rw [hs, hw]
      exact ⟨'[' :: (sp ++ w), by simp, .array hsp hdenotes⟩
  · rename_i s' heq
    cases heq
    obtain ⟨sp, hsp, hs⟩ := eq_append_skipSpaces s'
    split at h
    · rename_i after hskip
      cases h
      rw [hs, hskip]
      exact ⟨'\x7b' :: (sp ++ ['\x7d']), by simp, .emptyObject hsp⟩
    · obtain ⟨⟨entries, r⟩, hentries, hread⟩ := bind_eq_ok_iff.mp h
      cases hread
      obtain ⟨w, hw, hdenotes⟩ := ih.entries hentries
      rw [hs, hw]
      exact ⟨'\x7b' :: (sp ++ w), by simp, .object hsp hdenotes⟩
  · obtain ⟨w, rfl, hword⟩ := exists_isWord h hrest
    exact ⟨w, rfl, .word hword⟩

theorem Sound.readElements_succ (ih : Sound readFloat fuel) {elements : List Json}
    (h : readElements readFloat (fuel + 1) s = .ok (elements, rest)) :
    ∃ w, s = w ++ rest ∧ Denotes readFloat .elements w (.arr elements) := by
  rw [readElements] at h
  obtain ⟨⟨a, r⟩, hvalue, hread⟩ := bind_eq_ok_iff.mp h
  obtain ⟨sp, hsp, hr⟩ := eq_append_skipSpaces r
  dsimp only at hread
  split at hread
  · rename_i after hskip
    cases hread
    obtain ⟨w, rfl, hdenotes⟩ := ih.value hvalue (stops_of_skipSpaces hskip (by decide))
    rw [hr, hskip]
    exact ⟨w ++ (sp ++ [']']), by simp, .lastElement hdenotes hsp⟩
  · rename_i after hskip
    obtain ⟨⟨as, r'⟩, helements, hread⟩ := bind_eq_ok_iff.mp hread
    cases hread
    obtain ⟨w, rfl, hdenotes⟩ := ih.value hvalue (stops_of_skipSpaces hskip (by decide))
    obtain ⟨sp', hsp', hafter⟩ := eq_append_skipSpaces after
    obtain ⟨w', hw', hdenotes'⟩ := ih.elements helements
    rw [hr, hskip, hafter, hw']
    exact ⟨w ++ (sp ++ ',' :: (sp' ++ w')), by simp, .element hdenotes hsp hsp' hdenotes'⟩
  · cases hread

theorem Sound.readEntries_succ (ih : Sound readFloat fuel) {before entries : JsonObject}
    (h : readEntries readFloat (fuel + 1) before s = .ok (entries, rest)) :
    ∃ w, s = w ++ rest ∧ Denotes readFloat (.entries before) w (.obj entries) := by
  rw [readEntries.eq_def] at h
  split at h
  · rename_i fuel' before' s' hfuel
    cases hfuel
    obtain ⟨⟨key, r⟩, hstring, hread⟩ := bind_eq_ok_iff.mp h
    obtain ⟨k, rfl, hkey⟩ := exists_stringBody hstring
    obtain ⟨sp, hsp, hr⟩ := eq_append_skipSpaces r
    dsimp only at hread
    split at hread
    · rename_i afterColon hcolon
      obtain ⟨sp', hsp', hafterColon⟩ := eq_append_skipSpaces afterColon
      obtain ⟨⟨a, r'⟩, hvalue, hread⟩ := bind_eq_ok_iff.mp hread
      obtain ⟨sp'', hsp'', hr'⟩ := eq_append_skipSpaces r'
      dsimp only at hread
      split at hread
      · rename_i after hskip
        cases hread
        obtain ⟨w, hw, hdenotes⟩ := ih.value hvalue (stops_of_skipSpaces hskip (by decide))
        rw [hr, hcolon, hafterColon, hw, hr', hskip]
        exact ⟨'"' :: (k ++ (sp ++ ':' :: (sp' ++ (w ++ (sp'' ++ ['\x7d']))))), by simp,
          .lastEntry hkey hsp hsp' hdenotes hsp''⟩
      · rename_i after hskip
        obtain ⟨w, hw, hdenotes⟩ := ih.value hvalue (stops_of_skipSpaces hskip (by decide))
        obtain ⟨sp3, hsp3, hafter⟩ := eq_append_skipSpaces after
        obtain ⟨w', hw', hdenotes'⟩ := ih.entries hread
        rw [hr, hcolon, hafterColon, hw, hr', hskip, hafter, hw']
        exact ⟨'"' :: (k ++ (sp ++ ':' :: (sp' ++ (w ++ (sp'' ++ ',' :: (sp3 ++ w')))))), by simp,
          .entry hkey hsp hsp' hdenotes hsp'' hsp3 hdenotes'⟩
      · cases hread
    · cases hread
  · cases h

theorem sound (readFloat : ReadFloat) (fuel : Nat) : Sound readFloat fuel := by
  induction fuel with
  | zero =>
      refine ⟨fun h => ?_, fun h => ?_, fun h => ?_⟩
      · cases h
      · cases h
      · cases h
  | succ fuel ih => exact ⟨ih.readValue_succ, ih.readElements_succ, ih.readEntries_succ⟩

theorem readValue_array {c : Char} {t : Text} (hs : skipSpaces s = c :: t) (hc : c ≠ ']')
    {elements : List Json} (h : readElements readFloat fuel (c :: t) = .ok (elements, rest)) :
    readValue readFloat (fuel + 1) ('[' :: s) = .ok (.arr elements, rest) := by
  rw [readValue, hs]
  split
  · rename_i heq
    cases heq
    exact absurd rfl hc
  · rw [h]
    rfl

theorem readValue_emptyArray (hs : skipSpaces s = ']' :: rest) :
    readValue readFloat (fuel + 1) ('[' :: s) = .ok (.arr [], rest) := by
  rw [readValue, hs]
  rfl

theorem readValue_object {c : Char} {t : Text} (hs : skipSpaces s = c :: t) (hc : c ≠ '\x7d')
    {entries : JsonObject} (h : readEntries readFloat fuel [] (c :: t) = .ok (entries, rest)) :
    readValue readFloat (fuel + 1) ('\x7b' :: s) = .ok (.obj entries, rest) := by
  rw [readValue, hs]
  split
  · rename_i heq
    cases heq
    exact absurd rfl hc
  · rw [h]
    rfl

theorem readValue_emptyObject (hs : skipSpaces s = '\x7d' :: rest) :
    readValue readFloat (fuel + 1) ('\x7b' :: s) = .ok (.obj [], rest) := by
  rw [readValue, hs]
  rfl

theorem readValue_word {c : Char} {t : Text} (hc : isAtomChar c = true) :
    readValue readFloat (fuel + 1) (c :: t) = readWord readFloat (c :: t) := by
  rw [readValue.eq_def]
  split
  · rename_i heq
    cases heq
  · rename_i heq
    cases heq
    exact absurd hc Bool.false_ne_true
  · rename_i heq
    cases heq
    exact absurd hc Bool.false_ne_true
  · rename_i heq
    cases heq
    exact absurd hc Bool.false_ne_true
  · rfl

theorem readElements_last {r : Text} (h : readValue readFloat fuel s = .ok (a, r))
    (hr : skipSpaces r = ']' :: rest) :
    readElements readFloat (fuel + 1) s = .ok ([a], rest) := by
  rw [readElements, bind_eq_ok_iff]
  refine ⟨(a, r), h, ?_⟩
  simp only [hr]
  rfl

theorem readElements_more {r after : Text} {elements : List Json}
    (h : readValue readFloat fuel s = .ok (a, r)) (hr : skipSpaces r = ',' :: after)
    (h' : readElements readFloat fuel (skipSpaces after) = .ok (elements, rest)) :
    readElements readFloat (fuel + 1) s = .ok (a :: elements, rest) := by
  rw [readElements, bind_eq_ok_iff]
  refine ⟨(a, r), h, ?_⟩
  simp only [hr, h']
  rfl

section Entries

variable {before entries : JsonObject} {key r afterColon r' : Text}

theorem readEntries_last (hkey : readString fuel s = .ok (key, r))
    (hcolon : skipSpaces r = ':' :: afterColon)
    (h : readValue readFloat fuel (skipSpaces afterColon) = .ok (a, r'))
    (hr' : skipSpaces r' = '\x7d' :: rest) :
    readEntries readFloat (fuel + 1) before ('"' :: s) = .ok (setEntry before key a, rest) := by
  rw [readEntries, bind_eq_ok_iff]
  refine ⟨(key, r), hkey, ?_⟩
  simp only [hcolon]
  rw [bind_eq_ok_iff]
  refine ⟨(a, r'), h, ?_⟩
  simp only [hr']
  rfl

theorem readEntries_more {after : Text} (hkey : readString fuel s = .ok (key, r))
    (hcolon : skipSpaces r = ':' :: afterColon)
    (h : readValue readFloat fuel (skipSpaces afterColon) = .ok (a, r'))
    (hr' : skipSpaces r' = ',' :: after)
    (h' : readEntries readFloat fuel (setEntry before key a) (skipSpaces after) =
      .ok (entries, rest)) :
    readEntries readFloat (fuel + 1) before ('"' :: s) = .ok (entries, rest) := by
  rw [readEntries, bind_eq_ok_iff]
  refine ⟨(key, r), hkey, ?_⟩
  simp only [hcolon]
  rw [bind_eq_ok_iff]
  refine ⟨(a, r'), h, ?_⟩
  simp only [hr']
  exact h'

end Entries

/-- The reader of a part, its value as a JSON value. -/
def readPart (readFloat : ReadFloat) (fuel : Nat) : Part → Text → Except LoadsError (Json × Text)
  | .value, s => readValue readFloat fuel s
  | .elements, s => (readElements readFloat fuel s).map fun read => (.arr read.1, read.2)
  | .entries before, s =>
      (readEntries readFloat fuel before s).map fun read => (.obj read.1, read.2)

theorem readElements_of_readPart {elements : List Json}
    (h : readPart readFloat fuel .elements s = .ok (.arr elements, rest)) :
    readElements readFloat fuel s = .ok (elements, rest) := by
  obtain ⟨⟨elements, r⟩, hread, heq⟩ := map_eq_ok_iff.mp h
  cases heq
  exact hread

theorem readEntries_of_readPart {before entries : JsonObject}
    (h : readPart readFloat fuel (.entries before) s = .ok (.obj entries, rest)) :
    readEntries readFloat fuel before s = .ok (entries, rest) := by
  obtain ⟨⟨entries, r⟩, hread, heq⟩ := map_eq_ok_iff.mp h
  cases heq
  exact hread

theorem skipSpaces_append_of_denotes (hsp : IsSpaces sp) (h : Denotes readFloat part w a)
    (s : Text) : skipSpaces (sp ++ (w ++ s)) = w ++ s := by
  obtain ⟨c, t, rfl, hc, -⟩ := h.exists_head
  exact skipSpaces_append hsp hc _

/-- The key of an entry, its colon and its value. -/
theorem readEntry_append {k key tail : Text} (hkey : StringBody k key) (hsp : IsSpaces sp)
    (hsp' : IsSpaces sp') (h : Denotes readFloat .value w a) (hfuel : k.length < fuel)
    (hread : readValue readFloat fuel (w ++ tail) = .ok (a, tail)) :
    readString fuel (k ++ (sp ++ ':' :: (sp' ++ (w ++ tail)))) =
        .ok (key, sp ++ ':' :: (sp' ++ (w ++ tail))) ∧
      skipSpaces (sp ++ ':' :: (sp' ++ (w ++ tail))) = ':' :: (sp' ++ (w ++ tail)) ∧
      readValue readFloat fuel (skipSpaces (sp' ++ (w ++ tail))) = .ok (a, tail) := by
  refine ⟨hkey.readString_append hfuel _, skipSpaces_append hsp (by decide) _, ?_⟩
  rw [skipSpaces_append_of_denotes hsp' h, hread]

/-- A text of the grammar is read, in front of any text that stops it. -/
theorem Denotes.readPart_append (h : Denotes readFloat part w a) {fuel : Nat}
    (hfuel : w.length < fuel) (hrest : Stops rest) :
    readPart readFloat fuel part (w ++ rest) = .ok (a, rest) := by
  induction h generalizing fuel rest with
  | string hbody =>
      obtain ⟨fuel, rfl⟩ := Nat.exists_eq_add_one_of_ne_zero (Nat.ne_zero_of_lt hfuel)
      show readValue readFloat (fuel + 1) ('"' :: (_ ++ rest)) = _
      rw [readValue, hbody.readString_append (Nat.lt_of_succ_lt_succ hfuel) rest]
      rfl
  | word hword =>
      obtain ⟨fuel, rfl⟩ := Nat.exists_eq_add_one_of_ne_zero (Nat.ne_zero_of_lt hfuel)
      obtain ⟨c, t, rfl⟩ := List.exists_cons_of_ne_nil hword.ne_nil
      show readValue readFloat (fuel + 1) (c :: (t ++ rest)) = _
      rw [readValue_word (hword.atoms c List.mem_cons_self)]
      exact hword.readWord_append hrest
  | @emptyArray sp hsp =>
      obtain ⟨fuel, rfl⟩ := Nat.exists_eq_add_one_of_ne_zero (Nat.ne_zero_of_lt hfuel)
      rw [List.cons_append, List.append_assoc]
      exact readValue_emptyArray (skipSpaces_append hsp (by decide) rest)
  | @array sp w elements hsp h ih =>
      obtain ⟨fuel, rfl⟩ := Nat.exists_eq_add_one_of_ne_zero (Nat.ne_zero_of_lt hfuel)
      simp only [List.length_cons, List.length_append] at hfuel
      have hread : readElements readFloat fuel (w ++ rest) = .ok (elements, rest) :=
        readElements_of_readPart (ih (by omega) hrest)
      have hskip := skipSpaces_append_of_denotes hsp h rest
      obtain ⟨c, t, rfl, -, hc, -⟩ := h.exists_head
      rw [List.cons_append, List.append_assoc]
      exact readValue_array hskip hc hread
  | @emptyObject sp hsp =>
      obtain ⟨fuel, rfl⟩ := Nat.exists_eq_add_one_of_ne_zero (Nat.ne_zero_of_lt hfuel)
      rw [List.cons_append, List.append_assoc]
      exact readValue_emptyObject (skipSpaces_append hsp (by decide) rest)
  | @object sp w entries hsp h ih =>
      obtain ⟨fuel, rfl⟩ := Nat.exists_eq_add_one_of_ne_zero (Nat.ne_zero_of_lt hfuel)
      simp only [List.length_cons, List.length_append] at hfuel
      have hread : readEntries readFloat fuel [] (w ++ rest) = .ok (entries, rest) :=
        readEntries_of_readPart (ih (by omega) hrest)
      have hskip := skipSpaces_append_of_denotes hsp h rest
      obtain ⟨c, t, rfl, -, -, hc, -⟩ := h.exists_head
      rw [List.cons_append, List.append_assoc]
      exact readValue_object hskip hc hread
  | @lastElement w sp a h hsp ih =>
      obtain ⟨fuel, rfl⟩ := Nat.exists_eq_add_one_of_ne_zero (Nat.ne_zero_of_lt hfuel)
      simp only [List.length_cons, List.length_append] at hfuel
      have hread : readValue readFloat fuel (w ++ (sp ++ ']' :: rest)) =
          .ok (a, sp ++ ']' :: rest) :=
        ih (by omega) (stops_append hsp (by decide) rest)
      have hskip := skipSpaces_append hsp (c := ']') (by decide) rest
      rw [readPart, List.append_assoc, List.append_assoc, List.singleton_append,
        readElements_last hread hskip]
      rfl
  | @element w sp sp' w' a elements h hsp hsp' h' ih ih' =>
      obtain ⟨fuel, rfl⟩ := Nat.exists_eq_add_one_of_ne_zero (Nat.ne_zero_of_lt hfuel)
      simp only [List.length_cons, List.length_append] at hfuel
      have hread : readValue readFloat fuel (w ++ (sp ++ ',' :: (sp' ++ (w' ++ rest)))) =
          .ok (a, sp ++ ',' :: (sp' ++ (w' ++ rest))) :=
        ih (by omega) (stops_append hsp (by decide) _)
      have hskip := skipSpaces_append hsp (c := ',') (by decide) (sp' ++ (w' ++ rest))
      have hread' : readElements readFloat fuel (w' ++ rest) = .ok (elements, rest) :=
        readElements_of_readPart (ih' (by omega) hrest)
      rw [← skipSpaces_append_of_denotes hsp' h' rest] at hread'
      simp only [readPart, List.append_assoc, List.cons_append]
      rw [readElements_more hread hskip hread']
      rfl
  | @lastEntry before k key sp sp' w sp'' a hkey hsp hsp' h hsp'' ih =>
      obtain ⟨fuel, rfl⟩ := Nat.exists_eq_add_one_of_ne_zero (Nat.ne_zero_of_lt hfuel)
      simp only [List.length_cons, List.length_append] at hfuel
      have hread : readValue readFloat fuel (w ++ (sp'' ++ '\x7d' :: rest)) =
          .ok (a, sp'' ++ '\x7d' :: rest) :=
        ih (by omega) (stops_append hsp'' (by decide) rest)
      obtain ⟨hstring, hcolon, hvalue⟩ := readEntry_append hkey hsp hsp' h (by omega) hread
      have hskip := skipSpaces_append hsp'' (c := '\x7d') (by decide) rest
      simp only [readPart, List.append_assoc, List.cons_append, List.nil_append]
      rw [readEntries_last hstring hcolon hvalue hskip]
      rfl
  | @entry before entries k key sp sp' w sp'' sp3 w' a hkey hsp hsp' h hsp'' hsp3 h' ih ih' =>
      obtain ⟨fuel, rfl⟩ := Nat.exists_eq_add_one_of_ne_zero (Nat.ne_zero_of_lt hfuel)
      simp only [List.length_cons, List.length_append] at hfuel
      have hread : readValue readFloat fuel (w ++ (sp'' ++ ',' :: (sp3 ++ (w' ++ rest)))) =
          .ok (a, sp'' ++ ',' :: (sp3 ++ (w' ++ rest))) :=
        ih (by omega) (stops_append hsp'' (by decide) _)
      obtain ⟨hstring, hcolon, hvalue⟩ := readEntry_append hkey hsp hsp' h (by omega) hread
      have hskip := skipSpaces_append hsp'' (c := ',') (by decide) (sp3 ++ (w' ++ rest))
      have hread' : readEntries readFloat fuel (setEntry before key a) (w' ++ rest) =
          .ok (entries, rest) :=
        readEntries_of_readPart (ih' (by omega) hrest)
      rw [← skipSpaces_append_of_denotes hsp3 h' rest] at hread'
      simp only [readPart, List.append_assoc, List.cons_append]
      rw [readEntries_more hstring hcolon hvalue hskip hread']
      rfl

theorem Denotes.readValue_append (h : Denotes readFloat .value w a) {fuel : Nat}
    (hfuel : w.length < fuel) (hrest : Stops rest) :
    readValue readFloat fuel (w ++ rest) = .ok (a, rest) :=
  h.readPart_append hfuel hrest

theorem isSpaces_of_isEmpty (h : (skipSpaces s).isEmpty = true) : IsSpaces s := by
  intro c hc
  rw [List.isEmpty_iff, skipSpaces, List.dropWhile_eq_nil_iff] at h
  exact h c hc

theorem isEmpty_of_isSpaces (h : IsSpaces s) : (skipSpaces s).isEmpty = true := by
  rw [List.isEmpty_iff, skipSpaces, List.dropWhile_eq_nil_iff]
  exact h

theorem exists_denotes_of_loads (h : loads readFloat s = .ok a) :
    ∃ sp w sp', s = sp ++ (w ++ sp') ∧ IsSpaces sp ∧ IsSpaces sp' ∧
      Denotes readFloat .value w a := by
  rw [loads] at h
  split at h
  · cases h
  · obtain ⟨⟨b, rest⟩, hvalue, hread⟩ := bind_eq_ok_iff.mp h
    dsimp only at hread
    split at hread
    · rename_i hempty
      cases hread
      have hspaces := isSpaces_of_isEmpty hempty
      obtain ⟨sp, hsp, hs⟩ := eq_append_skipSpaces s
      obtain ⟨w, hw, hdenotes⟩ := (sound readFloat _).value hvalue (stops_of_isSpaces hspaces)
      exact ⟨sp, w, rest, by rw [← hw, ← hs], hsp, hspaces, hdenotes⟩
    · cases hread

/-- No text of the grammar begins with a byte order mark. -/
theorem Denotes.head?_ne (h : Denotes readFloat part w a) (hsp : IsSpaces sp) (s : Text) :
    (sp ++ (w ++ s)).head? ≠ some '\ufeff' := by
  obtain ⟨c, t, rfl, -, -, -, hc⟩ := h.exists_head
  cases sp with
  | nil => exact fun heq => hc (Option.some.inj heq)
  | cons d sp =>
      intro heq
      have hd := hsp d List.mem_cons_self
      rw [Option.some.inj heq] at hd
      exact absurd hd (by decide)

/-- What `json.loads` accepts: a text of the grammar between white space. -/
theorem loads_eq_ok_iff :
    loads readFloat s = .ok a ↔ ∃ sp w sp', s = sp ++ (w ++ sp') ∧ IsSpaces sp ∧ IsSpaces sp' ∧
      Denotes readFloat .value w a := by
  constructor
  · exact exists_denotes_of_loads
  · rintro ⟨sp, w, sp', rfl, hsp, hsp', h⟩
    have hread : readValue readFloat ((sp ++ (w ++ sp')).length + 1) (w ++ sp') = .ok (a, sp') := by
      apply h.readValue_append
      · simp only [List.length_append]
        omega
      · exact stops_of_isSpaces hsp'
    rw [loads, if_neg (h.head?_ne hsp sp'), skipSpaces_append_of_denotes hsp h, bind_eq_ok_iff]
    refine ⟨(a, sp'), hread, ?_⟩
    simp only [isEmpty_of_isSpaces hsp', if_true]
    rfl

end NanoCore.Foundation.JsonGrammar
