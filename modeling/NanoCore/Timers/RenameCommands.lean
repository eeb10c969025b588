import NanoCore.Timers.CommandShapes
import NanoCore.Timers.Labels
import NanoCore.Foundation.RegexFindAll
import Mathlib.Data.List.DropRight

namespace NanoCore.Timers.RenameCommands

open NanoCore.Foundation.PythonText
open NanoCore.Foundation.Regex
open NanoCore.Foundation.RegexSearch
open NanoCore.Foundation.RegexFindAll
open NanoCore.Foundation.PythonRegex
open NanoCore.Common.Duration
open NanoCore.Timers.Parsing
open NanoCore.Timers.Labels
open NanoCore.Timers.CommandShapes

theorem straightQuote_of_isFiller {c : Char} (h : IsFiller c) : straightQuote c = c := by
  obtain heq | ⟨hquote, -⟩ := straightQuote_eq_self_or c
  · exact heq
  · have hnot : ∀ q ∈ ['\u2018', '\u2019', '\u201c', '\u201d'],
        ¬ (isSpace q = true ∨ q = '.' ∨ q = '!') := forall_mem_of_all (by decide)
    exact absurd h (hnot c hquote)

theorem map_straightQuote {s : Text} (h : ∀ c ∈ s, straightQuote c = c) :
    s.map straightQuote = s :=
  (List.map_congr_left h).trans (List.map_id s)

/-- The loop drops full stops, exclamation marks and the white space between them. -/
theorem dropTrailingStops_append {fuel : Nat} {filler : Text} {e : Char} (he : ¬ IsFiller e)
    (hfiller : ∀ c ∈ filler, IsFiller c) (hhead : lstrip filler = filler)
    (hfuel : filler.length ≤ fuel) (s : Text) :
    dropTrailingStops fuel (filler ++ e :: s) = e :: s := by
  induction fuel generalizing filler with
  | zero =>
      obtain rfl := List.eq_nil_of_length_eq_zero (Nat.le_zero.mp hfuel)
      rfl
  | succ fuel ih =>
      cases filler with
      | nil =>
          have hstop : ¬ (e = '.' ∨ e = '!') := fun h => he (.inr h)
          show dropTrailingStops (fuel + 1) (e :: s) = e :: s
          rw [dropTrailingStops, if_neg hstop]
      | cons c filler =>
          rw [List.forall_mem_cons] at hfiller
          have hspace : isSpace c ≠ true := List.dropWhile_eq_self_iff.mp hhead (Nat.succ_pos _)
          have hrest : lstrip (filler ++ e :: s) = lstrip filler ++ e :: s := by
            apply dropWhile_append_cons
            rw [Bool.eq_false_iff]
            exact fun h => he (.inl h)
          have hlength : (lstrip filler).length ≤ filler.length := List.length_dropWhile_le _ _
          rw [List.length_cons] at hfuel
          rw [List.cons_append, dropTrailingStops, if_pos (hfiller.1.resolve_left hspace), hrest]
          apply ih
          · exact fun d hd => hfiller.2 d (List.dropWhile_subset _ hd)
          · exact List.dropWhile_idempotent isSpace filler
          · omega

/-- A command that ends with a quote, and what may follow it. -/
theorem normalizeRenameCommandMessage_append {s tail : Text} {e : Char}
    (hs : lstrip s = s) (he : straightQuote e = '"') (htail : ∀ c ∈ tail, IsFiller c) :
    normalizeRenameCommandMessage (s ++ e :: tail) = s.map straightQuote ++ ['"'] := by
  have hspace : isSpace e = false := by
    rw [Bool.eq_false_iff]
    intro h
    rw [straightQuote_of_isFiller (.inl h)] at he
    rw [he] at h
    exact absurd h (by decide)
  have hfiller : ∀ c ∈ lstrip tail.reverse, IsFiller c := by
    intro c hc
    exact htail c (List.mem_reverse.mp (List.dropWhile_subset _ hc))
  have hmap : (rstrip tail).map straightQuote = rstrip tail := by
    apply map_straightQuote
    intro c hc
    rw [rstrip, List.mem_reverse] at hc
    exact straightQuote_of_isFiller (hfiller c hc)
  have hreverse : (s.map straightQuote ++ '"' :: rstrip tail).reverse =
      lstrip tail.reverse ++ '"' :: (s.map straightQuote).reverse := by
    simp [rstrip]
  have hfuel : (lstrip tail.reverse).length ≤
      (s.map straightQuote ++ '"' :: rstrip tail).length := by
    simp only [rstrip, List.length_append, List.length_cons, List.length_reverse]
    omega
  have hquote : ¬ IsFiller '"' := by
    unfold IsFiller
    decide
  rw [normalizeRenameCommandMessage, strip_append_cons hspace, hs, List.map_append,
    List.map_cons, he, hmap, hreverse,
    dropTrailingStops_append hquote hfiller (List.dropWhile_idempotent isSpace _) hfuel]
  simp

/-- Words of a command: what white space ends. -/
def Unspaced (w : Text) : Prop := w ≠ [] ∧ ∀ c ∈ w, isSpace c = false

theorem Unspaced.lstrip_append {w : Text} (h : Unspaced w) (rest : Text) :
    lstrip (w ++ rest) = w ++ rest := by
  obtain ⟨c, w, rfl⟩ := List.exists_cons_of_ne_nil h.1
  apply List.dropWhile_cons_of_neg
  rw [h.2 c List.mem_cons_self]
  decide

theorem Spells.unspaced {word : String} {w : Text} (hword : Solid word) (h : Spells word w) :
    Unspaced w := by
  refine ⟨?_, h.not_isSpace hword⟩
  rintro rfl
  exact hword.1 (List.length_eq_zero_iff.mp h.length_eq.symm)

theorem unspaced_of_isDecimal {u : PyData} {w : Text} (hne : w ≠ [])
    (h : ∀ c ∈ w, u.isDecimal c = true) : Unspaced w := by
  refine ⟨hne, fun c hc => ?_⟩
  rw [Bool.eq_false_iff]
  intro hspace
  have hword : u.isWord c = true := by
    rw [PyData.isWord, u.isAlnum_decimal c (h c hc), Bool.true_or]
  rw [not_isWord_of_isSpace u hspace] at hword
  exact Bool.noConfusion hword

/-- Patterns of words. -/
def ReadsWord (r : Regex) : Prop := ∀ before w after, Matches r before w after → Unspaced w

theorem readsWord_litCI {word : String} (hword : Solid word) : ReadsWord (litCI word) :=
  fun _ _ _ h => Spells.unspaced hword (matches_litCI.mp h)

theorem readsWord_digits {u : PyData} {name : String} : ReadsWord (.group name (digits u)) := by
  intro before w after h
  obtain ⟨hne, hdigits⟩ := (matches_digits u).mp h
  exact unspaced_of_isDecimal hne hdigits

variable {rs : List Regex} {c d : Cursor Char}

/-- A word and the white space behind it are the first word of the text. -/
theorem mem_runs_word {r : Regex} (hr : ReadsWord r)
    (h : d ∈ runs (seqs (r :: spaces :: rs)) c) :
    lstrip c.after = c.after ∧ ∃ e f, e ∈ runs r c ∧ Reads c (headWord c.after) e ∧
      f.groups = e.groups ∧ lstrip f.after = skipWord c.after ∧ d ∈ runs (seqs rs) f := by
  simp only [mem_runs_seqs_cons] at h
  obtain ⟨e, he, f, hf, hd⟩ := h
  obtain ⟨w, hread, hw⟩ := runs_sound _ _ _ he
  obtain ⟨sp, hread', hsp⟩ := runs_sound _ _ _ hf
  have hword := hr _ _ _ hw
  rw [matches_spaces] at hsp
  have htext : c.after = w ++ (sp ++ f.after) := by rw [hread.1, hread'.1]
  obtain ⟨hhead, hskip⟩ := headWord_append f.after hword.2 hsp.1 hsp.2
  rw [htext, hhead, hskip]
  refine ⟨hword.lstrip_append _, e, f, he, hread, ?_, rfl, hd⟩
  exact groups_of_mem_runs groupFree_plus _ _ hf

theorem mem_runs_litCI {word : String} (hword : Solid word)
    (h : d ∈ runs (seqs (litCI word :: spaces :: rs)) c) :
    lstrip c.after = c.after ∧ ∃ f, f.groups = c.groups ∧ lstrip f.after = skipWord c.after ∧
      d ∈ runs (seqs rs) f := by
  obtain ⟨hstrip, e, f, he, -, hgroups, hskip, hd⟩ := mem_runs_word (readsWord_litCI hword) h
  exact ⟨hstrip, f, hgroups.trans (groups_of_mem_runs groupFree_word _ _ he), hskip, hd⟩

variable {u : PyData} {name : String}

theorem mem_runs_id (h : d ∈ runs (seqs (.group name (digits u) :: spaces :: rs)) c) :
    lstrip c.after = c.after ∧ ∃ f, f.groups = (name, headWord c.after) :: c.groups ∧
      lstrip f.after = skipWord c.after ∧ d ∈ runs (seqs rs) f := by
  obtain ⟨hstrip, e, f, he, hread, hgroups, hskip, hd⟩ := mem_runs_word readsWord_digits h
  obtain ⟨w, hread', -, hgroup⟩ := mem_runs_group groupFree_plus he
  have hw : w = headWord c.after :=
    List.append_cancel_right (hread'.1.symm.trans hread.1)
  rw [hw] at hgroup
  exact ⟨hstrip, f, hgroups.trans hgroup, hskip, hd⟩

/-- What stands between the quotes that a text begins with. -/
def firstQuoted (s : Text) : Text := s.tail.takeWhile (· != '"')

/-- What follows those quotes. -/
def skipQuoted (s : Text) : Text := (s.tail.dropWhile (· != '"')).tail

theorem firstQuoted_eq {w : Text} (hw : '"' ∉ w) (rest : Text) :
    firstQuoted ('"' :: (w ++ '"' :: rest)) = w ∧
      skipQuoted ('"' :: (w ++ '"' :: rest)) = rest := by
  have hne : ∀ c ∈ w, (c != '"') = true := by
    intro c hc
    rw [bne_iff_ne]
    rintro rfl
    exact hw hc
  constructor
  · rw [firstQuoted, List.tail_cons, List.takeWhile_append_of_pos hne]
    simp
  · rw [skipQuoted, List.tail_cons, List.dropWhile_append_of_pos hne]
    simp

theorem mem_runs_quotedGroup (h : d ∈ runs (seqs (quotedGroup name :: rs)) c) :
    lstrip c.after = c.after ∧ ∃ f, f.groups = (name, firstQuoted c.after) :: c.groups ∧
      f.after = skipQuoted c.after ∧ d ∈ runs (seqs rs) f := by
  simp only [quotedGroup, mem_runs_seqs_cons, mem_runs_seqs_nil] at h
  obtain ⟨f, ⟨e₁, h₁, e₂, h₂, e₃, h₃, rfl⟩, hd⟩ := h
  obtain ⟨w₁, hread₁, hw₁⟩ := runs_sound _ _ _ h₁
  obtain ⟨w, hread₂, hw, hgroups⟩ := mem_runs_group groupFree_plus h₂
  obtain ⟨w₃, hread₃, hw₃⟩ := runs_sound _ _ _ h₃
  obtain rfl := matches_lit.mp hw₁
  obtain rfl := matches_lit.mp hw₃
  have hquote : '"' ∉ w := fun hmem => absurd ((matches_plus_sat.mp hw).2 _ hmem) (by decide)
  have htext : c.after = '"' :: (w ++ '"' :: f.after) := by
    rw [hread₁.1, hread₂.1, hread₃.1]
    rfl
  obtain ⟨hfirst, hskip⟩ := firstQuoted_eq hquote f.after
  rw [htext, hfirst, hskip]
  refine ⟨rfl, f, ?_, rfl, hd⟩
  rw [groups_of_mem_runs groupFree_word _ _ h₃, hgroups, groups_of_mem_runs groupFree_word _ _ h₁]

theorem groupFree_end : GroupFree (seqs [optSpaces, atEnd]) := ⟨trivial, trivial, trivial⟩

/-- The pattern by id reads its groups at fixed places of the text. -/
theorem groups_byId {noun idGroup : String} (hnoun : Solid noun) {s : Text}
    (h : d ∈ runs (renameByIdQuotedRe u noun idGroup) ⟨[], s, []⟩) :
    d.groups = [("new_label", firstQuoted (skipWord (skipWord (skipWord (skipWord s))))),
      (idGroup, headWord (skipWord (skipWord s)))] := by
  rw [renameByIdQuotedRe, mem_runs_seqs_cons] at h
  obtain ⟨_, hstart, h⟩ := h
  obtain ⟨-, rfl⟩ := mem_runs_look.mp hstart
  obtain ⟨-, f₁, hgroups₁, hskip₁, h⟩ := mem_runs_litCI (by decide) h
  obtain ⟨hstrip₂, f₂, hgroups₂, hskip₂, h⟩ := mem_runs_litCI hnoun h
  obtain ⟨hstrip₃, f₃, hgroups₃, hskip₃, h⟩ := mem_runs_id h
  obtain ⟨hstrip₄, f₄, hgroups₄, hskip₄, h⟩ := mem_runs_litCI (by decide) h
  obtain ⟨hstrip₅, f₅, hgroups₅, -, h⟩ := mem_runs_quotedGroup h
  have hend : d.groups = f₅.groups := groups_of_mem_runs groupFree_end _ _ h
  rw [hend, hgroups₅, hgroups₄, hgroups₃, hgroups₂, hgroups₁, ← hstrip₅, hskip₄, ← hstrip₄, hskip₃,
    ← hstrip₃, hskip₂, ← hstrip₂, hskip₁]

theorem lstrip_of_mem_runs_spaces (h : d ∈ runs spaces c) : lstrip c.after = lstrip d.after := by
  obtain ⟨sp, hread, hsp⟩ := runs_sound _ _ _ h
  rw [hread.1, lstrip, List.dropWhile_append_of_pos (matches_spaces.mp hsp).2]
  rfl

/-- The pattern by label reads the label first. -/
theorem groups_byLabel {noun : String} (hnoun : Solid noun) {s : Text}
    (h : d ∈ runs (renameByLabelRe noun) ⟨[], s, []⟩) :
    d.groups = [("new_label", firstQuoted (skipWord (lstrip (skipQuoted
      (skipWord (skipWord (skipWord s))))))),
      ("label", firstQuoted (skipWord (skipWord (skipWord s))))] := by
  rw [renameByLabelRe, mem_runs_seqs_cons] at h
  obtain ⟨_, hstart, h⟩ := h
  obtain ⟨-, rfl⟩ := mem_runs_look.mp hstart
  obtain ⟨-, f₁, hgroups₁, hskip₁, h⟩ := mem_runs_litCI (by decide) h
  obtain ⟨hstrip₂, f₂, hgroups₂, hskip₂, h⟩ := mem_runs_litCI (by decide) h
  obtain ⟨hstrip₃, f₃, hgroups₃, hskip₃, h⟩ := mem_runs_litCI hnoun h
  obtain ⟨hstrip₄, f₄, hgroups₄, hskip₄, h⟩ := mem_runs_quotedGroup h
  rw [mem_runs_seqs_cons] at h
  obtain ⟨f₅, hspaces, h⟩ := h
  have hgroups₅ : f₅.groups = f₄.groups := groups_of_mem_runs groupFree_plus _ _ hspaces
  have hskip₅ := lstrip_of_mem_runs_spaces hspaces
  obtain ⟨hstrip₆, f₆, hgroups₆, hskip₆, h⟩ := mem_runs_litCI (by decide) h
  obtain ⟨hstrip₇, f₇, hgroups₇, -, h⟩ := mem_runs_quotedGroup h
  have hend : d.groups = f₇.groups := groups_of_mem_runs groupFree_end _ _ h
  rw [hend, hgroups₇, hgroups₆, hgroups₅, hgroups₄, hgroups₃, hgroups₂, hgroups₁, ← hstrip₇, hskip₆,
    ← hstrip₆, ← hskip₅, hskip₄, ← hstrip₄, hskip₃, ← hstrip₃, hskip₂, ← hstrip₂, hskip₁]

/-- A word in some letter case. -/
abbrev Cased (word : String) : Type := { w : Text // w.map Char.toLower = word.toList }

/-- A straight or a typographic double quote. -/
abbrev DoubleQuote : Type := { c : Char // c ∈ ['"', '\u201c', '\u201d'] }

/-- A label that is stored as it is, without double quotes and typographic quotes. -/
structure PlainLabel (default : String) where
  text : Text
  accepted : normalizeTimerLabel text default = .ok text
  unquoted : ∀ c ∈ text, c ∉ ['"', '\u2018', '\u2019', '\u201c', '\u201d']

/-- How a rename command is written: the letter case of its words, its quotes (of the label
in front and of the new label), and what follows it. -/
structure Wording (noun : String) where
  renameWord : Cased "rename"
  theWord : Cased "the"
  nounWord : Cased noun
  toWord : Cased "to"
  labelQuotes : DoubleQuote × DoubleQuote
  newLabelQuotes : DoubleQuote × DoubleQuote
  ending : Text
  filler : ∀ c ∈ ending, IsFiller c

variable {noun default : String}

/-- Words with a space behind each, in front of a text. -/
def withWords (words : List Text) (rest : Text) : Text :=
  words.foldr (fun v rest => v ++ ' ' :: rest) rest

def quoted (quotes : Char × Char) (label rest : Text) : Text :=
  quotes.1 :: (label ++ quotes.2 :: rest)

def straight : Char × Char := ('"', '"')

def plainQuotes (quotes : DoubleQuote × DoubleQuote) : Char × Char := (quotes.1, quotes.2)

namespace Wording

variable (w : Wording noun)

def wordsById (id : Nat) : List Text :=
  [w.renameWord, w.nounWord, Nat.toDigits 10 id, w.toWord]

def wordsByLabel : List Text := [w.renameWord, w.theWord, w.nounWord]

/-- `rename <noun> <id> to "<label>"`, with some quotes and something behind it. -/
def commandById (id : Nat) (quotes : Char × Char) (label ending : Text) : Text :=
  withWords (w.wordsById id) (quoted quotes label ending)

/-- `rename the <noun> "<label>" to "<label>"`, likewise. -/
def commandByLabel (quotes : Char × Char) (label : Text) (quotes' : Char × Char)
    (newLabel ending : Text) : Text :=
  withWords w.wordsByLabel
    (quoted quotes label (' ' :: withWords [w.toWord] (quoted quotes' newLabel ending)))

def byId (id : Nat) (label : PlainLabel default) : Text :=
  w.commandById id (plainQuotes w.newLabelQuotes) label.text w.ending

def byLabel (label newLabel : PlainLabel default) : Text :=
  w.commandByLabel (plainQuotes w.labelQuotes) label.text (plainQuotes w.newLabelQuotes)
    newLabel.text w.ending

end Wording

/-- Words of ASCII code points without white space. -/
structure PlainWord (word : String) : Prop where
  solid : Solid word
  ascii : (word.toList.all fun x => decide (x.toNat < 128)) = true

theorem plainWord_rename : PlainWord "rename" := ⟨by decide, by decide⟩

theorem plainWord_the : PlainWord "the" := ⟨by decide, by decide⟩

theorem plainWord_to : PlainWord "to" := ⟨by decide, by decide⟩

theorem ascii_of_cased {word : String} (hword : PlainWord word) (w : Cased word) :
    ∀ c ∈ w.val, c.toNat < 128 := by
  intro c hc
  have hmem : c.toLower ∈ word.toList := by
    rw [← w.property]
    exact List.mem_map_of_mem hc
  have hlower := forall_mem_of_all hword.ascii _ hmem
  by_contra hnot
  rw [toLower_eq_self hnot] at hlower
  exact hnot hlower

theorem spells_of_cased {word : String} (w : Cased word) : Spells word w.val := by
  obtain ⟨w, hw⟩ := w
  show List.Forall₂ (fun x c => foldsTo x c = true) word.toList w
  rw [← hw, List.forall₂_map_left_iff, List.forall₂_same]
  intro c _
  rw [foldsTo, beq_self_eq_true]
  simp

theorem unspaced_of_cased {word : String} (hword : PlainWord word) (w : Cased word) :
    Unspaced w.val :=
  Spells.unspaced hword.solid (spells_of_cased w)

theorem straightQuote_of_ascii {c : Char} (h : c.toNat < 128) : straightQuote c = c := by
  obtain heq | ⟨hquote, -⟩ := straightQuote_eq_self_or c
  · exact heq
  · have hnot : ∀ q ∈ ['\u2018', '\u2019', '\u201c', '\u201d'], ¬ q.toNat < 128 :=
      forall_mem_of_all (by decide)
    exact absurd h (hnot c hquote)

theorem straightQuote_space : straightQuote ' ' = ' ' := by decide

theorem map_straightQuote_of_cased {word : String} (hword : PlainWord word) (w : Cased word) :
    w.val.map straightQuote = w.val :=
  map_straightQuote fun c hc => straightQuote_of_ascii (ascii_of_cased hword w c hc)

theorem isDigit_toDigits (id : Nat) : ∀ c ∈ Nat.toDigits 10 id, c.isDigit = true :=
  fun _ hc => Nat.isDigit_of_mem_toDigits (by decide) (by decide) hc

theorem isDecimal_toDigits (u : PyData) (id : Nat) :
    ∀ c ∈ Nat.toDigits 10 id, u.isDecimal c = true := by
  intro c hc
  have hdigit := isDigit_toDigits id c hc
  rw [PyData.isDecimal, u.decimal_ascii c (ascii_of_isDigit hdigit), if_pos hdigit]
  rfl

theorem map_straightQuote_toDigits (id : Nat) :
    (Nat.toDigits 10 id).map straightQuote = Nat.toDigits 10 id :=
  map_straightQuote fun c hc => straightQuote_of_ascii (ascii_of_isDigit (isDigit_toDigits id c hc))

theorem PlainLabel.map_straightQuote (label : PlainLabel default) :
    label.text.map straightQuote = label.text := by
  apply RenameCommands.map_straightQuote
  intro c hc
  obtain heq | ⟨hquote, -⟩ := straightQuote_eq_self_or c
  · exact heq
  · exact absurd (List.mem_cons_of_mem _ hquote) (label.unquoted c hc)

theorem PlainLabel.not_mem (label : PlainLabel default) : '"' ∉ label.text :=
  fun h => label.unquoted _ h List.mem_cons_self

theorem eq_of_normalizeTimerLabel {raw label : Text}
    (h : normalizeTimerLabel raw default = .ok label) :
    label = if strip raw = [] then default.toList else strip raw := by
  simp only [normalizeTimerLabel] at h
  generalize (if strip raw = [] then default.toList else strip raw) = stored at h ⊢
  split at h
  · cases h
  · split at h
    · cases h
    · exact (Except.ok.inj h).symm

/-- A label that is accepted unchanged is stripped already. -/
theorem PlainLabel.strip_eq (label : PlainLabel default) (hdefault : strip default.toList ≠ []) :
    strip label.text = label.text ∧ label.text ≠ [] := by
  have heq := eq_of_normalizeTimerLabel label.accepted
  have hne : strip label.text ≠ [] := by
    intro hblank
    rw [if_pos hblank] at heq
    rw [heq] at hblank
    exact hdefault hblank
  rw [if_neg hne] at heq
  refine ⟨heq.symm, ?_⟩
  rw [heq]
  exact hne

theorem straightQuote_of_doubleQuote (q : DoubleQuote) : straightQuote q.val = '"' := by
  have hall : ∀ q ∈ ['"', '\u201c', '\u201d'], straightQuote q = '"' :=
    forall_mem_of_all (by decide)
  exact hall q.val q.property

variable {rest : Text}

theorem matches_oneSpace (before after : Text) : Matches spaces before [' '] after :=
  matches_spaces.mpr ⟨List.cons_ne_nil _ _, forall_mem_of_all (by decide)⟩

theorem matches_word_space {r : Regex} {v after : Text}
    (hv : ∀ before after, Matches r before v after)
    (h : ∀ before, Matches (seqs rs) before rest after) (before : Text) :
    Matches (seqs (r :: spaces :: rs)) before (v ++ ' ' :: rest) after := by
  apply matches_seqs_append hv
  exact matches_seqs_append matches_oneSpace h

theorem matches_cased {word : String} (v : Cased word) (before after : Text) :
    Matches (litCI word) before v.val after :=
  matches_litCI.mpr (spells_of_cased v)

theorem matches_quotedGroup {label : Text} (hne : label ≠ []) (hlabel : '"' ∉ label)
    (before after : Text) :
    Matches (quotedGroup name) before ('"' :: (label ++ ['"'])) after := by
  have hlit : ∀ before after, Matches (lit "\"") before ['"'] after :=
    fun _ _ => matches_lit.mpr rfl
  have hgroup : ∀ before after,
      Matches (.group name (plus true (.sat fun c => c != '"'))) before label after := by
    intro before after
    refine matches_plus_sat.mpr ⟨hne, fun c hc => ?_⟩
    rw [bne_iff_ne]
    rintro rfl
    exact hlabel hc
  have hend : ∀ before, Matches (seqs ([] : List Regex)) before [] after := fun _ => rfl
  exact matches_seqs_append hlit (matches_seqs_append hgroup (matches_seqs_append hlit hend)) before

theorem matches_end (before : Text) : Matches (seqs [optSpaces, atEnd]) before [] [] := by
  refine ⟨[], [], rfl, ?_, [], [], rfl, ?_, rfl⟩
  · exact matches_optSpaces.mpr fun c hc => absurd hc List.not_mem_nil
  · exact matches_atEnd.mpr ⟨rfl, .inl rfl⟩

theorem matches_quoted {label after : Text} (hne : label ≠ []) (hlabel : '"' ∉ label)
    (h : ∀ before, Matches (seqs rs) before rest after) (before : Text) :
    Matches (seqs (quotedGroup name :: rs)) before (quoted straight label rest) after := by
  have hstep : Matches (seqs (quotedGroup name :: rs)) before
      ('"' :: (label ++ ['"']) ++ rest) after :=
    matches_seqs_append (matches_quotedGroup hne hlabel) h before
  rwa [List.cons_append, List.append_assoc] at hstep

theorem withWords_append (words : List Text) (s t : Text) :
    withWords words (s ++ t) = withWords words s ++ t := by
  induction words with
  | nil => rfl
  | cons v words ih =>
      show v ++ ' ' :: withWords words (s ++ t) = v ++ ' ' :: withWords words s ++ t
      rw [ih, List.append_assoc, List.cons_append]

theorem quoted_append (quotes : Char × Char) (label s t : Text) :
    quoted quotes label (s ++ t) = quoted quotes label s ++ t := by
  simp [quoted]

theorem map_withWords {words : List Text} (h : ∀ v ∈ words, v.map straightQuote = v) (s : Text) :
    (withWords words s).map straightQuote = withWords words (s.map straightQuote) := by
  induction words with
  | nil => rfl
  | cons v words ih =>
      rw [List.forall_mem_cons] at h
      show (v ++ ' ' :: withWords words s).map straightQuote =
        v ++ ' ' :: withWords words (s.map straightQuote)
      rw [List.map_append, List.map_cons, h.1, ih h.2, straightQuote_space]

theorem map_quoted (quotes : DoubleQuote × DoubleQuote) (label : PlainLabel default)
    (rest : Text) : (quoted (plainQuotes quotes) label.text rest).map straightQuote =
      quoted straight label.text (rest.map straightQuote) := by
  rw [quoted, plainQuotes, List.map_cons, List.map_append, List.map_cons,
    label.map_straightQuote, straightQuote_of_doubleQuote, straightQuote_of_doubleQuote]
  rfl

theorem map_wordsById (hnoun : PlainWord noun) (w : Wording noun) (id : Nat) :
    ∀ v ∈ w.wordsById id, v.map straightQuote = v := by
  simp only [Wording.wordsById, List.forall_mem_cons]
  exact ⟨map_straightQuote_of_cased plainWord_rename _, map_straightQuote_of_cased hnoun _,
    map_straightQuote_toDigits id, map_straightQuote_of_cased plainWord_to _,
    fun _ h => absurd h List.not_mem_nil⟩

theorem map_wordsByLabel (hnoun : PlainWord noun) (w : Wording noun) :
    ∀ v ∈ w.wordsByLabel, v.map straightQuote = v := by
  simp only [Wording.wordsByLabel, List.forall_mem_cons]
  exact ⟨map_straightQuote_of_cased plainWord_rename _, map_straightQuote_of_cased plainWord_the _,
    map_straightQuote_of_cased hnoun _, fun _ h => absurd h List.not_mem_nil⟩

theorem map_toWord (w : Wording noun) : ∀ v ∈ [w.toWord.val], v.map straightQuote = v := by
  rw [List.forall_mem_singleton]
  exact map_straightQuote_of_cased plainWord_to _

/-- A command whose last label stands in quotes, and what follows it. -/
theorem normalize_quoted {front ending : Text} (hfront : lstrip front = front)
    (quotes : DoubleQuote × DoubleQuote) (label : PlainLabel default)
    (hending : ∀ c ∈ ending, IsFiller c) :
    normalizeRenameCommandMessage (front ++ quoted (plainQuotes quotes) label.text ending) =
      front.map straightQuote ++ quoted straight label.text [] := by
  have hmessage : front ++ quoted (plainQuotes quotes) label.text ending =
      front ++ quotes.1.val :: label.text ++ quotes.2.val :: ending := by
    simp [quoted, plainQuotes]
  have hquote : isSpace quotes.1.val = false := by
    have hall : ∀ q ∈ ['"', '\u201c', '\u201d'], isSpace q = false :=
      forall_mem_of_all (by decide)
    exact hall _ quotes.1.property
  have hstrip : lstrip (front ++ quotes.1.val :: label.text) =
      front ++ quotes.1.val :: label.text := by
    rw [lstrip, dropWhile_append_cons hquote]
    exact congrArg (· ++ quotes.1.val :: label.text) hfront
  rw [hmessage, normalizeRenameCommandMessage_append hstrip (straightQuote_of_doubleQuote _)
    hending, List.map_append, List.map_cons, straightQuote_of_doubleQuote,
    label.map_straightQuote]
  simp [quoted, straight]

theorem normalize_byId (hnoun : PlainWord noun) (w : Wording noun) (id : Nat)
    (label : PlainLabel default) :
    normalizeRenameCommandMessage (w.byId id label) =
      w.commandById id straight label.text [] := by
  have hfront : lstrip (withWords (w.wordsById id) []) = withWords (w.wordsById id) [] :=
    (unspaced_of_cased plainWord_rename w.renameWord).lstrip_append _
  have happend := withWords_append (w.wordsById id) []
  rw [Wording.byId, Wording.commandById, ← List.nil_append (quoted _ _ w.ending), happend,
    normalize_quoted hfront _ _ w.filler, map_withWords (map_wordsById hnoun w id), List.map_nil,
    ← happend]
  rfl

theorem normalize_byLabel (hnoun : PlainWord noun) (w : Wording noun)
    (label newLabel : PlainLabel default) :
    normalizeRenameCommandMessage (w.byLabel label newLabel) =
      w.commandByLabel straight label.text straight newLabel.text [] := by
  have hfront : ∀ s, lstrip (withWords w.wordsByLabel s) = withWords w.wordsByLabel s :=
    fun s => (unspaced_of_cased plainWord_rename w.renameWord).lstrip_append _
  have happend : ∀ (quotes : Char × Char) (s : Text), withWords w.wordsByLabel
      (quoted quotes label.text (' ' :: withWords [w.toWord.val] s)) =
      withWords w.wordsByLabel (quoted quotes label.text (' ' :: withWords [w.toWord.val] [])) ++
        s := by
    intro quotes s
    have hto := withWords_append [w.toWord.val] [] s
    rw [List.nil_append] at hto
    rw [hto, ← List.cons_append, quoted_append, withWords_append]
  rw [Wording.byLabel, Wording.commandByLabel, happend, normalize_quoted (hfront _) _ _ w.filler,
    map_withWords (map_wordsByLabel hnoun w), map_quoted, List.map_cons,
    map_withWords (map_toWord w), straightQuote_space, List.map_nil, ← happend]
  rfl

theorem matches_commandById (w : Wording noun) (id : Nat) (label : PlainLabel default)
    (hdefault : strip default.toList ≠ []) (idGroup : String) :
    Matches (renameByIdQuotedRe u noun idGroup) []
      (w.commandById id straight label.text []) [] := by
  have hdigits : ∀ before after,
      Matches (.group idGroup (digits u)) before (Nat.toDigits 10 id) after := by
    intro before after
    exact (matches_digits u).mpr ⟨Nat.toDigits_ne_nil, isDecimal_toDigits u id⟩
  have hquoted : ∀ before, Matches (seqs [quotedGroup "new_label", optSpaces, atEnd]) before
      (quoted straight label.text []) [] :=
    matches_quoted (label.strip_eq hdefault).2 label.not_mem matches_end
  refine ⟨[], _, rfl, matches_atStart.mpr ⟨rfl, rfl⟩, ?_⟩
  apply matches_word_space (matches_cased w.renameWord)
  apply matches_word_space (matches_cased w.nounWord)
  apply matches_word_space hdigits
  exact matches_word_space (matches_cased w.toWord) hquoted

theorem matches_commandByLabel (w : Wording noun) (label newLabel : PlainLabel default)
    (hdefault : strip default.toList ≠ []) :
    Matches (renameByLabelRe noun) []
      (w.commandByLabel straight label.text straight newLabel.text []) [] := by
  have hto : ∀ before, Matches (seqs [spaces, litCI "to", spaces, quotedGroup "new_label",
      optSpaces, atEnd]) before
      (' ' :: withWords [w.toWord.val] (quoted straight newLabel.text [])) [] := by
    intro before
    apply matches_seqs_append matches_oneSpace
    exact matches_word_space (matches_cased w.toWord)
      (matches_quoted (newLabel.strip_eq hdefault).2 newLabel.not_mem matches_end)
  refine ⟨[], _, rfl, matches_atStart.mpr ⟨rfl, rfl⟩, ?_⟩
  apply matches_word_space (matches_cased w.renameWord)
  apply matches_word_space (matches_cased w.theWord)
  apply matches_word_space (matches_cased w.nounWord)
  exact matches_quoted (label.strip_eq hdefault).2 label.not_mem hto

theorem headWord_withWords {v : Text} (hv : Unspaced v) (words : List Text) (s : Text) :
    headWord (withWords (v :: words) s) = v ∧
      skipWord (withWords (v :: words) s) = lstrip (withWords words s) :=
  headWord_append (withWords words s) hv.2 (List.cons_ne_nil ' ' [])
    (forall_mem_of_all (by decide))

theorem skipWord_withWords {v v' : Text} (hv : Unspaced v) (hv' : Unspaced v')
    (words : List Text) (s : Text) :
    skipWord (withWords (v :: v' :: words) s) = withWords (v' :: words) s := by
  rw [(headWord_withWords hv _ s).2]
  exact hv'.lstrip_append _

theorem skipWord_lastWord {v : Text} (hv : Unspaced v) (label s : Text) :
    skipWord (withWords [v] (quoted straight label s)) = quoted straight label s :=
  (headWord_withWords hv [] _).2

variable {w : Wording noun} {idGroup : String}

theorem words_commandById (hnoun : PlainWord noun) (id : Nat) (label : Text) :
    headWord (skipWord (skipWord (w.commandById id straight label []))) = Nat.toDigits 10 id ∧
      skipWord (skipWord (skipWord (skipWord (w.commandById id straight label [])))) =
        quoted straight label [] := by
  have hrename := unspaced_of_cased plainWord_rename w.renameWord
  have hnoun' := unspaced_of_cased hnoun w.nounWord
  have hid : Unspaced (Nat.toDigits 10 id) :=
    unspaced_of_isDecimal Nat.toDigits_ne_nil (isDecimal_toDigits .ascii id)
  have hto := unspaced_of_cased plainWord_to w.toWord
  rw [Wording.commandById, Wording.wordsById, skipWord_withWords hrename hnoun',
    skipWord_withWords hnoun' hid, skipWord_withWords hid hto, skipWord_lastWord hto]
  exact ⟨(headWord_withWords hid _ _).1, rfl⟩

theorem words_commandByLabel (hnoun : PlainWord noun) (label newLabel : Text) :
    skipWord (skipWord (skipWord
      (w.commandByLabel straight label straight newLabel []))) =
        quoted straight label (' ' :: withWords [w.toWord.val] (quoted straight newLabel [])) := by
  have hrename := unspaced_of_cased plainWord_rename w.renameWord
  have hthe := unspaced_of_cased plainWord_the w.theWord
  have hnoun' := unspaced_of_cased hnoun w.nounWord
  rw [Wording.commandByLabel, Wording.wordsByLabel, skipWord_withWords hrename hthe,
    skipWord_withWords hthe hnoun', skipWord_lastWord hnoun']

/-- The parser of a kind of timer. -/
abbrev parseRename (u : PyData) (noun idGroup : String) : Text → Except PyError (Option PyDict) :=
  parseRenameArgs u (renameByIdQuotedRe u noun idGroup) (renameByIdUnquotedRe u noun idGroup)
    (renameByLabelRe noun) idGroup

theorem parseRename_byId (hnoun : PlainWord noun) (hdefault : strip default.toList ≠ [])
    (hgroup : idGroup ≠ "new_label") (w : Wording noun) {id : Nat}
    (hid : (Nat.toDigits 10 id).length ≤ maxIntDigits) (label : PlainLabel default) :
    parseRename u noun idGroup (w.byId id label) =
      .ok (some [(idGroup, .int id), ("new_label", .text label.text)]) := by
  obtain ⟨found, hfound, hrun⟩ :=
    exists_matchPrefix (matches_commandById (u := u) w id label hdefault idGroup)
  have hgroups := groups_byId hnoun.solid hrun
  obtain ⟨hhead, hskip⟩ := words_commandById (w := w) hnoun id label.text
  rw [hhead, hskip] at hgroups
  have hfirst : firstQuoted (quoted straight label.text []) = label.text :=
    (firstQuoted_eq label.not_mem []).1
  rw [hfirst] at hgroups
  have hint : u.intOfDigits (Nat.toDigits 10 id) = .ok id := by
    rw [intOfDigits_eq (isDigit_toDigits id) hid, Nat.ofDigitChars_ten_toDigits]
  have hidText : groupText found.groups idGroup = Nat.toDigits 10 id := by
    rw [hgroups, groupText, List.lookup_cons, beq_false_of_ne hgroup]
    simp
  have hlabelText : groupText found.groups "new_label" = label.text := by
    rw [hgroups]
    rfl
  have hstrip := (label.strip_eq hdefault).1
  simp only [parseRename, parseRenameArgs, normalize_byId hnoun, hfound, Option.some_or,
    hidText, hint, strippedGroup, hlabelText, hstrip]
  rfl

/-- No pattern with the noun as second word matches a command with `the` there. -/
theorem matchPrefix_byLabel_eq_none (hnoun : PlainWord noun) (hthe : noun.toList.length ≠ 3)
    (w : Wording noun) (label newLabel : Text) (rs : List Regex) :
    matchPrefix (seqs (atStart :: litCI "rename" :: spaces :: litCI noun :: spaces :: rs))
      (w.commandByLabel straight label straight newLabel []) = none := by
  rw [← Option.not_isSome_iff_eq_none]
  intro hsome
  obtain ⟨-, hspells, -⟩ := leadingWords_of_matchPrefix (by decide) hnoun.solid hsome
  have hword := unspaced_of_cased plainWord_the w.theWord
  rw [Wording.commandByLabel, Wording.wordsByLabel,
    skipWord_withWords (unspaced_of_cased plainWord_rename w.renameWord) hword,
    (headWord_withWords hword _ _).1] at hspells
  exact hthe (hspells.length_eq.symm.trans (spells_of_cased w.theWord).length_eq)

theorem parseRename_byLabel (hnoun : PlainWord noun) (hthe : noun.toList.length ≠ 3)
    (hdefault : strip default.toList ≠ []) (w : Wording noun)
    (label newLabel : PlainLabel default) :
    parseRename u noun idGroup (w.byLabel label newLabel) =
      .ok (some [("label", .text label.text), ("new_label", .text newLabel.text)]) := by
  have hquotedId : matchPrefix (renameByIdQuotedRe u noun idGroup)
      (w.commandByLabel straight label.text straight newLabel.text []) = none :=
    matchPrefix_byLabel_eq_none hnoun hthe w _ _ _
  have hunquotedId : matchPrefix (renameByIdUnquotedRe u noun idGroup)
      (w.commandByLabel straight label.text straight newLabel.text []) = none :=
    matchPrefix_byLabel_eq_none hnoun hthe w _ _ _
  obtain ⟨found, hfound, hrun⟩ :=
    exists_matchPrefix (matches_commandByLabel w label newLabel hdefault)
  have hgroups := groups_byLabel hnoun.solid hrun
  have hto := unspaced_of_cased plainWord_to w.toWord
  have hstripTo : lstrip (' ' :: withWords [w.toWord.val] (quoted straight newLabel.text [])) =
      withWords [w.toWord.val] (quoted straight newLabel.text []) :=
    hto.lstrip_append _
  have hlabel : ∀ s, firstQuoted (quoted straight label.text s) = label.text ∧
      skipQuoted (quoted straight label.text s) = s :=
    fun s => firstQuoted_eq label.not_mem s
  have hnewLabel : firstQuoted (quoted straight newLabel.text []) = newLabel.text :=
    (firstQuoted_eq newLabel.not_mem []).1
  rw [words_commandByLabel hnoun, (hlabel _).1, (hlabel _).2, hstripTo, skipWord_lastWord hto,
    hnewLabel] at hgroups
  have hlabelText : groupText found.groups "label" = label.text := by
    rw [hgroups]
    rfl
  have hnewLabelText : groupText found.groups "new_label" = newLabel.text := by
    rw [hgroups]
    rfl
  simp only [parseRename, parseRenameArgs, normalize_byLabel hnoun, hquotedId, hunquotedId, hfound,
    Option.none_or, strippedGroup, hlabelText, hnewLabelText, (label.strip_eq hdefault).1,
    (newLabel.strip_eq hdefault).1]

/-- One parser reads every rename command of its noun, with exactly the id or label and the
new label, and the parser of the other noun reads none of them. -/
structure ReadsRenames (parse other : Text → Except PyError (Option PyDict))
    (noun idGroup default : String) : Prop where
  byId : ∀ (w : Wording noun) (id : Nat) (label : PlainLabel default),
    (Nat.toDigits 10 id).length ≤ maxIntDigits →
      parse (w.byId id label) =
        .ok (some [(idGroup, .int id), ("new_label", .text label.text)]) ∧
      other (w.byId id label) = .ok none
  byLabel : ∀ (w : Wording noun) (label newLabel : PlainLabel default),
    parse (w.byLabel label newLabel) =
        .ok (some [("label", .text label.text), ("new_label", .text newLabel.text)]) ∧
      other (w.byLabel label newLabel) = .ok none

theorem ne_none_of_eq_some {read : Except PyError (Option PyDict)} {args : PyDict}
    (h : read = .ok (some args)) : read ≠ .ok none := by
  rw [h]
  intro hnone
  cases hnone

theorem readsRenames_of_excludes {parse other : Text → Except PyError (Option PyDict)}
    (hparse : parse = parseRename u noun idGroup)
    (hother : ∀ message, parse message ≠ .ok none → other message = .ok none)
    (hnoun : PlainWord noun) (hthe : noun.toList.length ≠ 3) (hgroup : idGroup ≠ "new_label")
    (hdefault : strip default.toList ≠ []) : ReadsRenames parse other noun idGroup default where
  byId w id label hid := by
    have hread : parse (w.byId id label) =
        .ok (some [(idGroup, .int id), ("new_label", .text label.text)]) := by
      rw [hparse]
      exact parseRename_byId hnoun hdefault hgroup w hid label
    exact ⟨hread, hother _ (ne_none_of_eq_some hread)⟩
  byLabel w label newLabel := by
    have hread : parse (w.byLabel label newLabel) =
        .ok (some [("label", .text label.text), ("new_label", .text newLabel.text)]) := by
      rw [hparse]
      exact parseRename_byLabel hnoun hthe hdefault w label newLabel
    exact ⟨hread, hother _ (ne_none_of_eq_some hread)⟩

/-- Rename commands round trip, for timers and for stopwatches. -/
theorem readsRenames (u : PyData) :
    ReadsRenames (parseTimerRenameArgs u) (parseStopwatchRenameArgs u)
      "timer" "timer_id" "Timer" ∧
    ReadsRenames (parseStopwatchRenameArgs u) (parseTimerRenameArgs u)
      "stopwatch" "stopwatch_id" "Stopwatch" := by
  constructor
  · apply readsRenames_of_excludes rfl
    · exact fun _ => parseStopwatchRenameArgs_of_timer
    · exact ⟨by decide, by decide⟩
    · decide
    · decide
    · decide
  · apply readsRenames_of_excludes rfl
    · exact fun _ => parseTimerRenameArgs_of_stopwatch
    · exact ⟨by decide, by decide⟩
    · decide
    · decide
    · decide

/-- A command in mixed letter case, with typographic quotes and a full stop. -/
def mixedWording : Wording "timer" where
  renameWord := ⟨"Rename".toList, rfl⟩
  theWord := ⟨"the".toList, rfl⟩
  nounWord := ⟨"timer".toList, rfl⟩
  toWord := ⟨"TO".toList, rfl⟩
  labelQuotes := (⟨'"', by decide⟩, ⟨'"', by decide⟩)
  newLabelQuotes := (⟨'\u201c', by decide⟩, ⟨'\u201d', by decide⟩)
  ending := ['.', ' ', '!']
  filler := by
    intro c hc
    rw [List.mem_cons, List.mem_cons, List.mem_singleton] at hc
    obtain rfl | rfl | rfl := hc
    · exact .inr (.inl rfl)
    · exact .inl rfl
    · exact .inr (.inr rfl)

/-- A label with command words that ends with a full stop. -/
def wordyLabel : PlainLabel "Timer" where
  text := "rename timer 3 to B.".toList
  accepted := rfl
  unquoted := forall_mem_of_all (by decide)

theorem readsRenames_mixed :
    mixedWording.byId 3 wordyLabel =
        "Rename timer 3 TO \u201crename timer 3 to B.\u201d. !".toList ∧
      parseTimerRenameArgs .ascii (mixedWording.byId 3 wordyLabel) =
        .ok (some [("timer_id", .int 3), ("new_label", .text "rename timer 3 to B.".toList)]) :=
  ⟨rfl, ((readsRenames .ascii).1.byId mixedWording 3 wordyLabel (by decide)).1⟩

end NanoCore.Timers.RenameCommands
