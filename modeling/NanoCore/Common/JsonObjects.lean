import NanoCore.Common.JsonParsing
import NanoCore.Foundation.JsonGrammar

namespace NanoCore.Common.JsonObjects

open NanoCore.Common.JsonParsing
open NanoCore.Foundation.JsonGrammar
open NanoCore.Foundation.JsonLoads
open NanoCore.Foundation.JsonText
open NanoCore.Foundation.JsonTokens
open NanoCore.Foundation.PythonText

/-- The scanner goes over `w`, between characters that are not escaped. -/
def Moves (depth : Nat) (inString : Bool) (w : Text) (depth' : Nat) (inString' : Bool) : Prop :=
  ∀ rest, balancedFrom depth inString false (w ++ rest) =
    (balancedFrom depth' inString' false rest).map (w ++ ·)

variable {v w : Text} {d d' d'' : Nat} {b b' b'' : Bool}

theorem Moves.nil : Moves d b [] d b := by
  intro rest
  exact Option.map_id'.symm

theorem Moves.append (h : Moves d b v d' b') (h' : Moves d' b' w d'' b'') :
    Moves d b (v ++ w) d'' b'' := by
  intro rest
  rw [List.append_assoc, h, h', Option.map_map]
  congr 1
  funext tail
  exact (List.append_assoc v w tail).symm

theorem moves_plain {c : Char} (hquote : c ≠ '"') (hopen : c ≠ '\x7b') (hclose : c ≠ '\x7d') :
    Moves d false [c] d false := by
  intro rest
  rw [List.cons_append, balancedFrom, if_neg hquote, if_neg hopen, if_neg hclose]
  rfl

theorem moves_open : Moves d false ['\x7b'] (d + 1) false := by
  intro rest
  rw [List.cons_append, balancedFrom, if_neg (by decide), if_pos rfl]
  rfl

theorem moves_close (hd : 0 < d) : Moves (d + 1) false ['\x7d'] d false := by
  intro rest
  rw [List.cons_append, balancedFrom, if_neg (by decide), if_neg (by decide), if_pos rfl,
    if_neg (by omega), Nat.add_sub_cancel]
  rfl

theorem moves_quote : Moves d false ['"'] d true := by
  intro rest
  rw [List.cons_append, balancedFrom, if_pos rfl]
  rfl

theorem moves_unquote : Moves d true ['"'] d false := by
  intro rest
  rw [List.cons_append, balancedFrom]
  rfl

theorem moves_of_quoted (h : Quoted w) : Moves d true w d true := by
  induction h with
  | nil => exact .nil
  | @plain c w hquote hescape _ ih =>
      refine Moves.append (v := [c]) ?_ ih
      intro rest
      rw [List.cons_append, balancedFrom, bne_iff_ne.mpr hquote, beq_eq_false_iff_ne.mpr hescape]
      rfl
  | @escaped c w _ ih =>
      refine Moves.append (v := ['\\', c]) ?_ ih
      intro rest
      rw [List.cons_append, List.cons_append, balancedFrom]
      show (balancedFrom d true true (c :: rest)).map _ = _
      rw [balancedFrom, Option.map_map]
      rfl

/-- A string with its quotes. -/
theorem moves_string (h : Quoted w) : Moves d false ('"' :: (w ++ ['"'])) d false :=
  moves_quote.append ((moves_of_quoted h).append moves_unquote)

/-- A text without quotes and braces. -/
theorem moves_of_forall (h : ∀ c ∈ w, c ≠ '"' ∧ c ≠ '\x7b' ∧ c ≠ '\x7d') :
    Moves d false w d false := by
  induction w with
  | nil => exact .nil
  | cons c w ih =>
      rw [List.forall_mem_cons] at h
      exact (moves_plain h.1.1 h.1.2.1 h.1.2.2).append (ih h.2)

theorem moves_spaces {sp : Text} (hsp : IsSpaces sp) : Moves d false sp d false := by
  apply moves_of_forall
  intro c hc
  have hspace := hsp c hc
  refine ⟨?_, ?_, ?_⟩
  · rintro rfl
    cases hspace
  · rintro rfl
    cases hspace
  · rintro rfl
    cases hspace

theorem moves_word (h : ∀ c ∈ w, isAtomChar c = true) : Moves d false w d false := by
  apply moves_of_forall
  intro c hc
  have hatom := h c hc
  refine ⟨?_, ?_, ?_⟩
  · rintro rfl
    cases hatom
  · rintro rfl
    cases hatom
  · rintro rfl
    cases hatom

/-- Inside an object the scanner goes over a value or the elements of a list; the
entries end with the brace of their object. -/
def Passes : Part → Text → Prop
  | .value, w | .elements, w => ∀ d, 0 < d → Moves d false w d false
  | .entries _, w => ∃ inner, w = inner ++ ['\x7d'] ∧ ∀ d, 0 < d → Moves d false inner d false

variable {readFloat : ReadFloat} {part : Part}

/-- A member of an object up to its value. -/
theorem moves_member {k sp sp' : Text} (hkey : Quoted k) (hsp : IsSpaces sp)
    (hsp' : IsSpaces sp') :
    Moves d false ('"' :: ((k ++ ['"']) ++ (sp ++ ':' :: sp'))) d false := by
  have hcolon : Moves d false [':'] d false := moves_plain (by decide) (by decide) (by decide)
  exact (moves_string hkey).append ((moves_spaces hsp).append (hcolon.append (moves_spaces hsp')))

theorem moves_comma {sp sp' : Text} (hsp : IsSpaces sp) (hsp' : IsSpaces sp') :
    Moves d false (sp ++ ',' :: sp') d false := by
  have hcomma : Moves d false [','] d false := moves_plain (by decide) (by decide) (by decide)
  exact (moves_spaces hsp).append (hcomma.append (moves_spaces hsp'))

theorem moves_bracket : Moves d false ['['] d false :=
  moves_plain (by decide) (by decide) (by decide)

theorem moves_closingBracket : Moves d false [']'] d false :=
  moves_plain (by decide) (by decide) (by decide)

theorem passes_of_shaped (h : Shaped part w) : Passes part w := by
  induction h with
  | string hquoted => exact fun d _ => moves_string hquoted
  | word _ hword => exact fun d _ => moves_word hword
  | emptyArray hsp =>
      exact fun d _ => moves_bracket.append ((moves_spaces hsp).append moves_closingBracket)
  | array hsp _ ih => exact fun d hd => moves_bracket.append ((moves_spaces hsp).append (ih d hd))
  | emptyObject hsp =>
      exact fun d hd => moves_open.append ((moves_spaces hsp).append (moves_close hd))
  | object hsp _ ih =>
      obtain ⟨inner, rfl, hinner⟩ := ih
      intro d hd
      exact moves_open.append ((moves_spaces hsp).append
        ((hinner (d + 1) (Nat.succ_pos d)).append (moves_close hd)))
  | lastElement _ hsp ih =>
      exact fun d hd => (ih d hd).append ((moves_spaces hsp).append moves_closingBracket)
  | @element w sp sp' w' _ hsp hsp' _ ih ih' =>
      intro d hd
      have hmoves := (ih d hd).append ((moves_comma hsp hsp').append (ih' d hd))
      rwa [List.append_assoc] at hmoves
  | @lastEntry before k sp sp' w sp'' hkey hsp hsp' _ hsp'' ih =>
      refine ⟨'"' :: ((k ++ ['"']) ++ (sp ++ ':' :: sp')) ++ (w ++ sp''), by simp, fun d hd => ?_⟩
      exact (moves_member hkey hsp hsp').append ((ih d hd).append (moves_spaces hsp''))
  | @entry before before' k sp sp' w sp'' sp3 w' hkey hsp hsp' _ hsp'' hsp3 _ ih ih' =>
      obtain ⟨inner, rfl, hinner⟩ := ih'
      refine ⟨'"' :: ((k ++ ['"']) ++ (sp ++ ':' :: sp')) ++
        (w ++ ((sp'' ++ ',' :: sp3) ++ inner)), by simp, fun d hd => ?_⟩
      exact (moves_member hkey hsp hsp').append
        ((ih d hd).append ((moves_comma hsp'' hsp3).append (hinner d hd)))

/-- An object from its first brace to its last. -/
def braced (inner : Text) : Text := '\x7b' :: (inner ++ ['\x7d'])

/-- The scanner finds an object, whatever follows it. -/
theorem balancedFrom_of_moves {inner : Text} (h : Moves 1 false inner 1 false) (rest : Text) :
    balancedFrom 0 false false (braced inner ++ rest) = some (braced inner) := by
  have hmoves : Moves 0 false ('\x7b' :: inner) 1 false := moves_open.append h
  have hclose : balancedFrom 1 false false ('\x7d' :: rest) = some ['\x7d'] := by
    rw [balancedFrom, if_neg (by decide), if_neg (by decide), if_pos rfl, if_pos rfl]
  have hsplit : braced inner ++ rest = '\x7b' :: inner ++ '\x7d' :: rest := by
    simp [braced]
  rw [hsplit, hmoves, hclose]
  rfl

/-- The text of an object, without white space around it. -/
def IsObjectText (t : Text) : Prop := Shaped .value t ∧ t.head? = some '\x7b'

/-- An object begins and ends with its braces. -/
theorem IsObjectText.exists_inner (h : IsObjectText w) :
    ∃ inner, w = braced inner ∧ Moves 1 false inner 1 false := by
  obtain ⟨hshaped, hhead⟩ := h
  cases hshaped with
  | string | emptyArray | array => cases hhead
  | word _ hatoms =>
      have hbrace := hatoms _ (List.mem_of_mem_head? hhead)
      cases hbrace
  | @emptyObject sp hsp => exact ⟨sp, rfl, moves_spaces hsp⟩
  | @object sp w hsp h =>
      obtain ⟨inner, rfl, hinner⟩ := passes_of_shaped h
      refine ⟨sp ++ inner, by simp [braced], (moves_spaces hsp).append (hinner 1 Nat.one_pos)⟩

theorem isObjectText_of_denotes {entries : JsonObject}
    (h : Denotes readFloat .value w (.obj entries)) : IsObjectText w := by
  refine ⟨h.shaped, ?_⟩
  cases h with
  | word hword =>
      have hatom := hword.isAtom
      cases hatom
  | emptyObject => rfl
  | object => rfl

theorem exists_inner {entries : JsonObject} (h : Denotes readFloat .value w (.obj entries)) :
    ∃ inner, w = braced inner ∧ Moves 1 false inner 1 false :=
  (isObjectText_of_denotes h).exists_inner

end NanoCore.Common.JsonObjects
