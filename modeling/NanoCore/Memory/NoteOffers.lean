import NanoCore.Common.Types
import NanoCore.Memory.NoteLifecycle
import NanoCore.Memory.Repository

namespace NanoCore.Memory.NoteOffers

open NanoCore.Common.Types
open NanoCore.Config
open NanoCore.Foundation.JsonLoads
open NanoCore.Foundation.JsonText
open NanoCore.Foundation.KeyedTable
open NanoCore.Foundation.PythonDatetime
open NanoCore.Foundation.PythonText
open NanoCore.Foundation.Runs
open NanoCore.Memory.InternalNotes
open NanoCore.Memory.InternalNoteService (recordFromOffer recordDeferredOffer rescheduleExisting)
open NanoCore.Memory.Models
open NanoCore.Memory.NoteLifecycle
open NanoCore.Memory.Repository
open NanoCore.Runtime.State

def offerFromInternalNote (readFloat : ReadFloat) (isPrintable : Char → Bool)
    (note : InternalNote) (server : Server) : Server × ProactiveOffer :=
  (server.tick, .fromJson readFloat isPrintable server.clock.now note.payloadJson)

def topPriorityDueNote (now : Option Datetime) (server : Server) : Server × Option InternalNote :=
  let (server, current) := givenOrNow now server
  (server, (listDueInternalNotes current 1 server.database).head?)

inductive OfferEvent where
  | recordFromOffer (settings : InternalNoteSettings) (offer : ProactiveOffer)
      (nextAttemptAt : Option Datetime)
  | recordDeferredOffer (settings : InternalNoteSettings) (offer : ProactiveOffer)
      (reason : Text) (noteId : Option Int)
  | markAttempted (noteId : Int)
  | markDelivered (noteId : Int)
  | dismissInternalNote (noteId : Int)
  | wipeDatabase

def OfferEvent.offer : OfferEvent → Option ProactiveOffer
  | .recordFromOffer _ offer _ => some offer
  | .recordDeferredOffer _ offer _ _ => some offer
  | .markAttempted _ | .markDelivered _ | .dismissInternalNote _ | .wipeDatabase => none

def offerStep (server : Server) : OfferEvent → Server
  | .recordFromOffer settings offer nextAttemptAt =>
      (recordFromOffer settings offer.toRecord nextAttemptAt server).1
  | .recordDeferredOffer settings offer reason noteId =>
      (recordDeferredOffer settings offer.toRecord reason noteId server).1
  | .markAttempted noteId => markInternalNoteAttempted noteId none server
  | .markDelivered noteId => markInternalNoteDelivered noteId none server
  | .dismissInternalNote noteId => (dismissInternalNote noteId server).1
  | .wipeDatabase => wipeDatabase server

/-- The offers recorded since the last wipe, in order: a call records its offer unless it
raises or finds the note that it names. -/
def logStep (server : Server) (log : List ProactiveOffer) : OfferEvent → List ProactiveOffer
  | .recordFromOffer settings offer nextAttemptAt =>
      match (recordFromOffer settings offer.toRecord nextAttemptAt server).2 with
      | .ok _ => log ++ [offer]
      | .error _ => log
  | .recordDeferredOffer settings offer _ noteId =>
      match noteId.bind fun noteId => getInternalNote noteId server.database with
      | some _ => log
      | none =>
          match (recordFromOffer settings offer.toRecord none server).2 with
          | .ok _ => log ++ [offer]
          | .error _ => log
  | .wipeDatabase => []
  | .markAttempted _ | .markDelivered _ | .dismissInternalNote _ => log

def step (state : Server × List ProactiveOffer) (event : OfferEvent) :
    Server × List ProactiveOffer :=
  (offerStep state.1 event, logStep state.1 state.2 event)

/-- The offer of a row id: SQLite counts from one. -/
def offerAt (log : List ProactiveOffer) (id : Int) : Option ProactiveOffer :=
  if 1 ≤ id then log[(id - 1).toNat]? else none

/-- What a note holds of its offer. -/
structure Holding where
  kind : String
  title : Text
  content : Text
  payloadJson : Text

def Holding.ofNote (note : InternalNote) : Holding :=
  ⟨note.kind, note.title, note.content, note.payloadJson⟩

def Holding.ofOffer (offer : ProactiveOffer) : Holding :=
  ⟨offer.kind, offer.title, offer.summary, offer.toJson⟩

/-- The notes are the recorded offers under consecutive ids. -/
def Holds (server : Server) (log : List ProactiveOffer) : Prop :=
  ∀ id, (getInternalNote id server.database).map Holding.ofNote =
    (offerAt log id).map Holding.ofOffer

variable {server after : Server} {log : List ProactiveOffer} {note row : InternalNote}

theorem offerAt_append (offer : ProactiveOffer) (id : Int) :
    offerAt (log ++ [offer]) id =
      if id = log.length + 1 then some offer else offerAt log id := by
  by_cases hid : id = log.length + 1
  · rw [if_pos hid, offerAt, if_pos (by omega), hid]
    simp
  · rw [if_neg hid, offerAt, offerAt]
    split
    · by_cases hlt : (id - 1).toNat < log.length
      · exact List.getElem?_append_left hlt
      · rw [List.getElem?_eq_none (by simp only [List.length_append, List.length_singleton]; omega),
          List.getElem?_eq_none (by omega)]
    · rfl

/-- The rows have the ids from one to the number of offers. -/
theorem Holds.mem_ids_iff (h : Holds server log) (id : Int) :
    id ∈ server.database.internalNotes.rows.map InternalNote.id ↔ 1 ≤ id ∧ id ≤ log.length := by
  have hsome : (getInternalNote id server.database).isSome = (offerAt log id).isSome := by
    have hid := congrArg Option.isSome (h id)
    rwa [Option.isSome_map, Option.isSome_map] at hid
  have hoffer : (offerAt log id).isSome = true ↔ 1 ≤ id ∧ id ≤ log.length := by
    rw [offerAt]
    split
    · rw [Option.isSome_iff_ne_none, Ne, List.getElem?_eq_none_iff]
      omega
    · simp only [Option.isSome_none, Bool.false_eq_true, false_iff]
      omega
  rw [← hoffer, ← hsome, Option.isSome_iff_exists, List.mem_map]
  constructor
  · rintro ⟨note, hnote, rfl⟩
    exact ⟨note, Table.find?_key_of_mem (Table.mem_rows.mp hnote)⟩
  · rintro ⟨note, hnote⟩
    exact ⟨note, Table.mem_rows.mpr (Table.mem_of_find? hnote), Table.key_of_find? hnote⟩

theorem nextRowid_eq {ids : List Int} {n : Nat} (h : ∀ id, id ∈ ids ↔ 1 ≤ id ∧ id ≤ n) :
    nextRowid ids = n + 1 := by
  rw [nextRowid]
  cases hmax : ids.max? with
  | none =>
      have hnil : ids = [] := List.max?_eq_none_iff.mp hmax
      have hone := (h 1).not.mp (by rw [hnil]; exact List.not_mem_nil)
      simp only [Option.map_none, Option.getD_none]
      omega
  | some largest =>
      obtain ⟨hmem, hle⟩ := List.max?_eq_some_iff.mp hmax
      have hlargest := (h largest).mp hmem
      have hn := hle n ((h n).mpr ⟨by omega, le_refl _⟩)
      simp only [Option.map_some, Option.getD_some]
      omega

theorem Holds.nextRowid_eq (h : Holds server log) :
    nextRowid (server.database.internalNotes.rows.map InternalNote.id) = log.length + 1 :=
  NoteOffers.nextRowid_eq h.mem_ids_iff

theorem Holds.of_database_eq (h : Holds server log) (hsame : after.database = server.database) :
    Holds after log := by
  intro id
  rw [hsame]
  exact h id

/-- A call that keeps what the row holds of its offer. -/
theorem Holds.of_writes (h : Holds server log) (hrow : getInternalNote note.id server.database =
    some note) (hwrites : Writes server row after) (hid : row.id = note.id)
    (hholding : Holding.ofNote row = Holding.ofNote note) : Holds after log := by
  intro id
  rw [hwrites id, hid]
  split
  · rename_i hsame
    rw [← h id, hsame, hrow, Option.map_some, Option.map_some, hholding]
  · exact h id

theorem Holds.of_changeNote (h : Holds server log) (noteId : Int)
    {f : InternalNote → InternalNote} (hf : ∀ note, (f note).id = note.id)
    (hholding : ∀ note, Holding.ofNote (f note) = Holding.ofNote note) :
    Holds (changeNote noteId f hf server) log := by
  rcases changeNote_cases noteId f hf server with hsame | ⟨note, -, hrow, hwrites⟩
  · exact h.of_database_eq hsame
  · exact h.of_writes hrow hwrites (hf note) (hholding note)

theorem Holds.of_new (h : Holds server log) {offer : ProactiveOffer}
    (hid : note.id = log.length + 1)
    (hholding : Holding.ofNote note = Holding.ofOffer offer) (hwrites : Writes server note after) :
    Holds after (log ++ [offer]) := by
  intro id
  rw [hwrites id, offerAt_append, hid]
  split
  · rw [Option.map_some, Option.map_some, hholding]
  · exact h id

theorem recordFromOffer_of_error {settings : InternalNoteSettings}
    {offer : InternalNoteService.ProactiveOffer} {nextAttemptAt : Option Datetime} {e : PyError}
    (h : (recordFromOffer settings offer nextAttemptAt server).2 = .error e) :
    (recordFromOffer settings offer nextAttemptAt server).1.database = server.database := by
  cases nextAttemptAt with
  | some value => cases h
  | none =>
      rw [recordFromOffer] at h ⊢
      cases hadd : (Datetime.utc server.clock.now).add (settings.retryIntervalSeconds * second) with
      | error e => rfl
      | ok scheduledAt =>
          rw [hadd] at h
          cases h

/-- A recorded offer is a new row under the next id. -/
theorem recordFromOffer_of_ok {settings : InternalNoteSettings} {offer : ProactiveOffer}
    {nextAttemptAt : Option Datetime}
    (h : (recordFromOffer settings offer.toRecord nextAttemptAt server).2 = .ok note) :
    note.id = nextRowid (server.database.internalNotes.rows.map InternalNote.id) ∧
      Holding.ofNote note = Holding.ofOffer offer ∧
      Writes server note (recordFromOffer settings offer.toRecord nextAttemptAt server).1 := by
  cases nextAttemptAt with
  | some value =>
      cases h
      exact ⟨rfl, rfl, writes_addInternalNote _ _ _ _ value server⟩
  | none =>
      rw [recordFromOffer] at h ⊢
      cases hadd : (Datetime.utc server.clock.now).add (settings.retryIntervalSeconds * second) with
      | error e =>
          rw [hadd] at h
          cases h
      | ok scheduledAt =>
          rw [hadd] at h
          cases h
          exact ⟨rfl, rfl, writes_addInternalNote _ _ _ _ scheduledAt server.tick⟩

theorem Holds.recordFromOffer (h : Holds server log) (settings : InternalNoteSettings)
    (offer : ProactiveOffer) (nextAttemptAt : Option Datetime) :
    Holds (offerStep server (.recordFromOffer settings offer nextAttemptAt))
      (logStep server log (.recordFromOffer settings offer nextAttemptAt)) := by
  rw [offerStep, logStep]
  cases hresult : (InternalNoteService.recordFromOffer settings offer.toRecord nextAttemptAt
      server).2 with
  | error e => exact h.of_database_eq (recordFromOffer_of_error hresult)
  | ok note =>
      obtain ⟨hid, hholding, hwrites⟩ := recordFromOffer_of_ok hresult
      exact h.of_new (hid.trans h.nextRowid_eq) hholding hwrites

theorem Holds.rescheduleExisting (h : Holds server log) (settings : InternalNoteSettings)
    (reason : Text) (hrow : getInternalNote note.id server.database = some note) :
    Holds (InternalNoteService.rescheduleExisting settings note reason server).1 log := by
  rcases rescheduleExisting_cases settings reason hrow with
    ⟨-, -, hwrites⟩ | ⟨-, -, hsame⟩ | ⟨-, attemptedAt, -, hwrites⟩
  · exact h.of_writes hrow hwrites rfl rfl
  · exact h.of_database_eq hsame
  · exact h.of_writes hrow hwrites rfl rfl

theorem Holds.recordDeferredOffer (h : Holds server log) (settings : InternalNoteSettings)
    (offer : ProactiveOffer) (reason : Text) (noteId : Option Int) :
    Holds (offerStep server (.recordDeferredOffer settings offer reason noteId))
      (logStep server log (.recordDeferredOffer settings offer reason noteId)) := by
  rw [offerStep, logStep]
  rcases exists_or_none noteId server with ⟨note, rfl, hrow⟩ | hnone
  · rw [recordDeferredOffer_of_some settings _ reason hrow, Option.bind_some, hrow]
    exact h.rescheduleExisting settings reason hrow
  · rw [recordDeferredOffer_of_none settings _ reason hnone, hnone]
    exact h.recordFromOffer settings offer none

theorem holds_of_empty (h : server.database.internalNotes.rows = []) : Holds server [] := by
  intro id
  have hnone : getInternalNote id server.database = none := by
    rw [getInternalNote, Table.find?_eq_none_iff]
    intro row hrow
    rw [← Table.mem_rows, h] at hrow
    cases hrow
  have hlog : offerAt [] id = none := by
    rw [offerAt]
    split <;> rfl
  rw [hnone, hlog]
  rfl

theorem Holds.step (h : Holds server log) (event : OfferEvent) :
    Holds (offerStep server event) (logStep server log event) := by
  cases event with
  | recordFromOffer settings offer nextAttemptAt => exact h.recordFromOffer settings offer _
  | recordDeferredOffer settings offer reason noteId =>
      exact h.recordDeferredOffer settings offer reason noteId
  | markAttempted noteId =>
      have htick : Holds server.tick log := h.of_database_eq rfl
      exact htick.of_changeNote noteId _ fun _ => rfl
  | markDelivered noteId =>
      have htick : Holds server.tick log := h.of_database_eq rfl
      exact htick.of_changeNote noteId _ fun _ => rfl
  | dismissInternalNote noteId => exact h.of_changeNote noteId _ fun _ => rfl
  | wipeDatabase =>
      refine holds_of_empty ?_
      show (Table.eraseAll _ _).rows = []
      rw [Table.eraseAll_keys]
      rfl

theorem head?_listDueInternalNotes {now : Int} {limit : Nat} {db : Database}
    (h : (listDueInternalNotes now limit db).head? = some note) :
    note ∈ db.internalNotes ∧ isDueNote now note = true ∧
      ∀ other ∈ db.internalNotes, isDueNote now other = true → dueBefore note other = true := by
  obtain ⟨rest, hrest⟩ : ∃ rest, ((db.internalNotes.filter (isDueNote now)).rows.insertionSort
      fun a b => dueBefore a b = true) = note :: rest := by
    rw [listDueInternalNotes, List.head?_take] at h
    split at h
    · cases h
    · exact List.head?_eq_some_iff.mp h
  have hmem (other : InternalNote) : other ∈ note :: rest ↔
      other ∈ db.internalNotes ∧ isDueNote now other = true := by
    rw [← hrest, List.mem_insertionSort, Table.mem_rows, Table.mem_filter]
  have hsorted := List.pairwise_insertionSort (fun a b => dueBefore a b = true)
    (db.internalNotes.filter (isDueNote now)).rows
  rw [hrest, List.pairwise_cons] at hsorted
  obtain ⟨htable, hdue⟩ := (hmem note).mp List.mem_cons_self
  refine ⟨htable, hdue, fun other hother hdue' => ?_⟩
  rcases List.mem_cons.mp ((hmem other).mpr ⟨hother, hdue'⟩) with rfl | hlater
  · rw [dueBefore_iff]
    exact .inr ⟨rfl, le_refl _⟩
  · exact hsorted.1 other hlater

variable {readFloat : ReadFloat}

theorem mem_append_offer {offer recorded : ProactiveOffer} (h : offer ∈ log ++ [recorded]) :
    offer ∈ log ∨ offer ∈ some recorded :=
  (List.mem_append.mp h).imp_right fun hlast => by
    rw [List.mem_singleton.mp hlast]
    rfl

theorem mem_of_logStep {event : OfferEvent} {offer : ProactiveOffer}
    (h : offer ∈ logStep server log event) : offer ∈ log ∨ offer ∈ event.offer := by
  cases event with
  | recordFromOffer settings recorded nextAttemptAt =>
      rw [logStep] at h
      split at h
      · exact mem_append_offer h
      · exact .inl h
  | recordDeferredOffer settings recorded reason noteId =>
      rw [logStep] at h
      split at h
      · exact .inl h
      · split at h
        · exact mem_append_offer h
        · exact .inl h
  | markAttempted noteId => exact .inl h
  | markDelivered noteId => exact .inl h
  | dismissInternalNote noteId => exact .inl h
  | wipeDatabase => cases h

/-- The notes are the recorded offers, and each of them can be written. -/
def Recorded (readFloat : ReadFloat) (state : Server × List ProactiveOffer) : Prop :=
  Holds state.1 state.2 ∧ ∀ offer ∈ state.2, offer.IsWritable readFloat

theorem recorded_stateAt (clock : Clock) {events : List OfferEvent}
    (h : ∀ event ∈ events, ∀ offer ∈ event.offer, offer.IsWritable readFloat) (k : Nat) :
    Recorded readFloat (stateAt step (Server.initial clock, []) events k) := by
  refine invariant_of_guarded
    (C := fun _ event => ∀ offer ∈ event.offer, offer.IsWritable readFloat)
    ⟨holds_of_empty rfl, nofun⟩ ?_ (fun k event hevent => h event (List.mem_of_getElem? hevent)) k
  rintro ⟨server, log⟩ event ⟨hholds, hwritable⟩ hoffer
  refine ⟨hholds.step event, fun offer hmem => ?_⟩
  rcases mem_of_logStep hmem with hold | hnew
  · exact hwritable offer hold
  · exact hoffer offer hnew

/-- The offer that a note holds is read from it. -/
theorem fromJson_of_holding (isPrintable : Char → Bool) {offer : ProactiveOffer} (now : Int)
    (hoffer : offer.IsWritable readFloat) (h : Holding.ofNote note = Holding.ofOffer offer) :
    ProactiveOffer.fromJson readFloat isPrintable now note.payloadJson = offer.normalized := by
  have hpayload : note.payloadJson = offer.toJson := congrArg Holding.payloadJson h
  rw [hpayload]
  exact fromJson_of_isWritable readFloat isPrintable hoffer now

variable (readFloat) in
/-- After any calls of the note service the notes read as the offers that were recorded
since the last wipe, each under its number; and the note of top priority is one of them
that is due, with no due note before it. -/
theorem noteOffers (isPrintable : Char → Bool) (clock : Clock) {events : List OfferEvent}
    (h : ∀ event ∈ events, ∀ offer ∈ event.offer, offer.IsWritable readFloat) (k : Nat) :
    let state := stateAt step (Server.initial clock, []) events k
    (∀ id, ((getInternalNote id state.1.database).map fun note =>
        (note.kind, note.title, note.content,
          (offerFromInternalNote readFloat isPrintable note state.1).2)) =
      (offerAt state.2 id).map fun offer =>
        (offer.kind, offer.title, offer.summary, offer.normalized)) ∧
    ∀ now note, (topPriorityDueNote (some now) state.1).2 = some note →
      isDueNote now.wall note = true ∧
      (∀ other ∈ state.1.database.internalNotes, isDueNote now.wall other = true →
        dueBefore note other = true) ∧
      ∃ offer ∈ state.2,
        (offerFromInternalNote readFloat isPrintable note state.1).2 = offer.normalized := by
  obtain ⟨hholds, hwritable⟩ := recorded_stateAt clock h k
  generalize stateAt step (Server.initial clock, []) events k = state at hholds hwritable ⊢
  have hmem {id : Int} {offer : ProactiveOffer} (h : offerAt state.2 id = some offer) :
      offer ∈ state.2 := by
    rw [offerAt] at h
    split at h
    · exact List.mem_of_getElem? h
    · cases h
  constructor
  · intro id
    have hid := hholds id
    cases hnote : getInternalNote id state.1.database with
    | none =>
        rw [hnote, Option.map_none] at hid
        rw [Option.map_eq_none_iff.mp hid.symm]
        rfl
    | some note =>
        rw [hnote, Option.map_some] at hid
        obtain ⟨offer, hoffer, hholding⟩ := Option.map_eq_some_iff.mp hid.symm
        have hread := fromJson_of_holding isPrintable state.1.clock.now
          (hwritable offer (hmem hoffer)) hholding.symm
        have hkind : note.kind = offer.kind := congrArg Holding.kind hholding.symm
        have htitle : note.title = offer.title := congrArg Holding.title hholding.symm
        have hcontent : note.content = offer.summary := congrArg Holding.content hholding.symm
        rw [hoffer, Option.map_some, Option.map_some, offerFromInternalNote, hread, hkind, htitle,
          hcontent]
  · intro now note hnote
    obtain ⟨htable, hdue, hfirst⟩ := head?_listDueInternalNotes hnote
    refine ⟨hdue, hfirst, ?_⟩
    have hfind : getInternalNote note.id state.1.database = some note :=
      Table.find?_key_of_mem htable
    have hid := hholds note.id
    rw [hfind, Option.map_some] at hid
    obtain ⟨offer, hoffer, hholding⟩ := Option.map_eq_some_iff.mp hid.symm
    exact ⟨offer, hmem hoffer, fromJson_of_holding isPrintable state.1.clock.now
      (hwritable offer (hmem hoffer)) hholding.symm⟩

/-- An offer is recorded, deferred under its number, and another one recorded. -/
def recordedTwice (settings : InternalNoteSettings) : List OfferEvent :=
  [.recordFromOffer settings writtenOffer (some (.utc 5)),
   .recordDeferredOffer settings { writtenOffer with title := [] } [] (some 1),
   .recordDeferredOffer settings writtenOffer [] (some 7)]

theorem noteOffers_recordedTwice :
    ((getInternalNote 1 (stateAt step (Server.initial (.stopped 0), []) (recordedTwice {})
        3).1.database).map fun note =>
      (note.kind, note.title, note.content,
        (offerFromInternalNote (fun _ => .zero) (fun _ => true) note
          (stateAt step (Server.initial (.stopped 0), []) (recordedTwice {}) 3).1).2)) =
      (offerAt (stateAt step (Server.initial (.stopped 0), []) (recordedTwice {}) 3).2 1).map
        fun offer => (offer.kind, offer.title, offer.summary, offer.normalized) := by
  have hwritable : ∀ event ∈ recordedTwice {}, ∀ offer ∈ event.offer,
      offer.IsWritable fun _ => FloatText.zero := by
    intro event hevent offer hoffer
    simp only [recordedTwice, List.mem_cons, List.not_mem_nil, or_false] at hevent
    rcases hevent with rfl | rfl | rfl
    · cases hoffer
      exact isWritable_writtenOffer
    · cases hoffer
      exact ⟨isWritable_writtenOffer.payload, isWritable_writtenOffer.createdAt⟩
    · cases hoffer
      exact isWritable_writtenOffer
  exact (noteOffers (fun _ => .zero) (fun _ => true) (.stopped 0) hwritable 3).1 1

end NanoCore.Memory.NoteOffers
