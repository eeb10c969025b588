import NanoCore.Foundation.JsonText

namespace NanoCore.Foundation.JsonColons

open NanoCore.Foundation.JsonText
open NanoCore.Foundation.PythonJson
open NanoCore.Foundation.PythonText

/-- Where a reader of the text is; `lost` where no written value brings it. -/
inductive Place where
  | outside
  | afterColon
  | inside
  | escaped
  | lost
  deriving DecidableEq, Repr

def Place.next : Place → Char → Place
  | .outside, c =>
      if c = '"' then .inside else if c = '\\' then .lost else if c = ':' then .afterColon
      else .outside
  | .afterColon, c => if c = ' ' then .outside else .lost
  | .inside, c => if c = '"' then .outside else if c = '\\' then .escaped else .inside
  | .escaped, _ => .inside
  | .lost, _ => .lost

def Place.after (place : Place) (text : Text) : Place := text.foldl Place.next place

namespace Place

@[simp] theorem after_nil (place : Place) : place.after [] = place := rfl

@[simp] theorem after_cons (place : Place) (c : Char) (rest : Text) :
    place.after (c :: rest) = (place.next c).after rest := rfl

@[simp] theorem after_append (place : Place) (s t : Text) :
    place.after (s ++ t) = (place.after s).after t := List.foldl_append

@[simp] theorem after_lost (text : Text) : lost.after text = lost := by
  induction text with
  | nil => rfl
  | cons c rest ih => exact ih

end Place

open Place

theorem after_outside_of_atoms {w : Text} (hw : ∀ c ∈ w, isAtomChar c = true) :
    outside.after w = outside := by
  induction w with
  | nil => rfl
  | cons c rest ih =>
      have hc := hw c List.mem_cons_self
      have hnext : outside.next c = outside := by
        have hquote : c ≠ '"' := by rintro rfl; cases hc
        have hbackslash : c ≠ '\\' := by rintro rfl; cases hc
        have hcolon : c ≠ ':' := by rintro rfl; cases hc
        rw [next, if_neg hquote, if_neg hbackslash, if_neg hcolon]
      rw [after_cons, hnext]
      exact ih fun d hd => hw d (List.mem_cons_of_mem c hd)

theorem after_inside_hex4 {n : Nat} (hn : n < 32) : inside.after (unicodeEscape n) = inside := by
  interval_cases n <;> decide

theorem after_inside_escapeInString (c : Char) : inside.after (escapeInString c) = inside := by
  rw [escapeInString]
  split_ifs with hquote hbackslash hnewline hreturn htab hbackspace hformfeed hcontrol
  all_goals try rfl
  · exact after_inside_hex4 hcontrol
  · rw [after_cons, after_nil, next, if_neg hquote, if_neg hbackslash]

theorem after_writeString (s : Text) : outside.after (writeString s) = outside := by
  have hbody : inside.after (s.flatMap escapeInString) = inside := by
    induction s with
    | nil => rfl
    | cons c rest ih => rw [List.flatMap_cons, after_append, after_inside_escapeInString, ih]
  change (inside.after (s.flatMap escapeInString ++ ['"'])) = outside
  rw [after_append, hbody]
  rfl

mutual

/-- A reader is outside of strings after a value. -/
theorem after_write : ∀ a : Json, outside.after (write a) = outside
  | .null => rfl
  | .bool true => rfl
  | .bool false => rfl
  | .int n => after_outside_of_atoms (isAtomChar_of_mem_write (a := .int n) rfl)
  | .float x => after_outside_of_atoms (isAtomChar_of_mem_write (a := .float x) rfl)
  | .str s => after_writeString s
  | .arr [] => rfl
  | .arr (a :: rest) => by
      change outside.after (write a ++ writeElements rest) = outside
      rw [after_append, after_write a, after_writeElements rest]
  | .obj [] => rfl
  | .obj ((k, a) :: rest) => by
      change outside.after (writeString k ++ ':' :: ' ' :: write a ++ writeEntries rest) = outside
      rw [List.append_assoc, after_append, after_writeString]
      change outside.after (write a ++ writeEntries rest) = outside
      rw [after_append, after_write a, after_writeEntries rest]

theorem after_writeElements : ∀ as : List Json, outside.after (writeElements as) = outside
  | [] => rfl
  | a :: rest => by
      change outside.after (write a ++ writeElements rest) = outside
      rw [after_append, after_write a, after_writeElements rest]

theorem after_writeEntries : ∀ as : JsonObject, outside.after (writeEntries as) = outside
  | [] => rfl
  | (k, a) :: rest => by
      change outside.after (writeString k ++ ':' :: ' ' :: write a ++ writeEntries rest) = outside
      rw [List.append_assoc, after_append, after_writeString]
      change outside.after (write a ++ writeEntries rest) = outside
      rw [after_append, after_write a, after_writeEntries rest]

end

/-- One of two readers of the same text is inside of a string where the other is
outside, until one of them is lost. -/
def Opposed (p q : Place) : Prop :=
  p = lost ∨ q = lost ∨ ((p = outside ∨ p = afterColon) ∧ q = inside) ∨
    (p = inside ∧ (q = outside ∨ q = afterColon))

theorem Opposed.next {p q : Place} (h : Opposed p q) (c : Char) :
    Opposed (p.next c) (q.next c) := by
  have hfrom (p : Place) (hp : p = outside ∨ p = afterColon) :
      Place.next p c = lost ∨ ((Place.next p c = outside ∨ Place.next p c = afterColon) ∧
        Place.next inside c = inside) ∨
        (Place.next p c = inside ∧ Place.next inside c = outside) := by
    by_cases hquote : c = '"'
    · rcases hp with rfl | rfl <;> simp [Place.next, hquote]
    · by_cases hbackslash : c = '\\'
      · rcases hp with rfl | rfl <;> simp [Place.next, hbackslash]
      · rcases hp with rfl | rfl
        · by_cases hcolon : c = ':' <;> simp [Place.next, hquote, hbackslash, hcolon]
        · by_cases hspace : c = ' ' <;> simp [Place.next, hquote, hbackslash, hspace]
  rcases h with rfl | rfl | ⟨hp, rfl⟩ | ⟨rfl, hq⟩
  · exact .inl rfl
  · exact .inr (.inl rfl)
  · rcases hfrom p hp with hlost | ⟨hplace, hinside⟩ | ⟨hplace, houtside⟩
    · exact .inl hlost
    · exact .inr (.inr (.inl ⟨hplace, hinside⟩))
    · exact .inr (.inr (.inr ⟨hplace, .inl houtside⟩))
  · rcases hfrom q hq with hlost | ⟨hplace, hinside⟩ | ⟨hplace, houtside⟩
    · exact .inr (.inl hlost)
    · exact .inr (.inr (.inr ⟨hinside, hplace⟩))
    · exact .inr (.inr (.inl ⟨.inl houtside, hplace⟩))

theorem Opposed.after {p q : Place} (h : Opposed p q) (text : Text) :
    Opposed (p.after text) (q.after text) := by
  induction text generalizing p q with
  | nil => exact h
  | cons c rest ih => exact ih (h.next c)

theorem after_colon_write_obj (place : Place) (entries : JsonObject) :
    (place.next ':').after (write (.obj entries)) ≠ outside := by
  have hbrace : ∃ rest, write (.obj entries) = '\x7b' :: rest := by
    rcases entries with _ | ⟨⟨k, a⟩, entries⟩ <;> exact ⟨_, rfl⟩
  obtain ⟨rest, hrest⟩ := hbrace
  have hinside : inside.after (write (.obj entries)) ≠ outside := by
    intro h
    have hopposed : Opposed outside inside := .inr (.inr (.inl ⟨.inl rfl, rfl⟩))
    have hends := hopposed.after (write (.obj entries))
    rw [after_write, h] at hends
    revert hends
    simp [Opposed]
  cases place with
  | outside =>
      change afterColon.after _ ≠ outside
      rw [hrest]
      change lost.after rest ≠ outside
      simp
  | afterColon =>
      change lost.after _ ≠ outside
      simp
  | inside => exact hinside
  | escaped => exact hinside
  | lost =>
      change lost.after _ ≠ outside
      simp

/-- A name, a colon and an object: the text gives the name and the object back. -/
theorem colon_write_obj_inj {m n : Text} {as bs : JsonObject}
    (h : m ++ ':' :: write (.obj as) = n ++ ':' :: write (.obj bs)) : m = n ∧ as = bs := by
  have hshorter (as bs : JsonObject) (w : Text)
      (h : ':' :: write (.obj as) = w ++ ':' :: write (.obj bs)) : w = [] := by
    rcases w with _ | ⟨c, w⟩
    · rfl
    · have hsuffix : write (.obj as) = w ++ ':' :: write (.obj bs) := (List.cons.inj h).2
      have hends := after_write (.obj as)
      rw [hsuffix, after_append, after_cons] at hends
      exact absurd hends (after_colon_write_obj _ bs)
  have hname : m = n := by
    rcases List.append_eq_append_iff.mp h with ⟨w, hname, hrest⟩ | ⟨w, hname, hrest⟩
    · rw [hname, hshorter as bs w hrest, List.append_nil]
    · rw [hname, hshorter bs as w hrest, List.append_nil]
  subst hname
  have hobj := write_injective (List.cons.inj (List.append_cancel_left h)).2
  exact ⟨rfl, Json.obj.inj hobj⟩

end NanoCore.Foundation.JsonColons
