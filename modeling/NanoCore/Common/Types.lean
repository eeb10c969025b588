import NanoCore.Foundation.IsoformatRoundTrip
import NanoCore.Foundation.JsonRepr
import NanoCore.Foundation.JsonWriters
import NanoCore.Memory.InternalNoteService

namespace NanoCore.Common.Types

open NanoCore.Foundation.IsoformatRoundTrip
open NanoCore.Foundation.JsonLoads
open NanoCore.Foundation.JsonRepr
open NanoCore.Foundation.JsonText
open NanoCore.Foundation.JsonTokens
open NanoCore.Foundation.JsonWriters
open NanoCore.Foundation.PythonDatetime
open NanoCore.Foundation.PythonIsoformat
open NanoCore.Foundation.PythonIsoparse
open NanoCore.Foundation.PythonText

/-- An offer with the time at which it was made. -/
structure ProactiveOffer where
  kind : String
  title : Text
  summary : Text
  payload : JsonObject
  createdAt : Datetime

/-- The offer as the note service takes it. -/
def ProactiveOffer.toRecord (offer : ProactiveOffer) :
    Memory.InternalNoteService.ProactiveOffer where
  kind := offer.kind
  title := offer.title
  summary := offer.summary
  payload := offer.payload
  createdAt := isoformat offer.createdAt

def ProactiveOffer.toJson (offer : ProactiveOffer) : Text := offer.toRecord.toJson

variable (readFloat : ReadFloat) (isPrintable : Char → Bool)

/-- The dict in a text, empty when there is none. -/
def loadedDict (raw : Text) : JsonObject :=
  match loads readFloat raw with
  | .ok (.obj entries) => entries
  | _ => []

/-- The time in an entry, read as UTC without an offset, or the clock's. -/
def parsedCreatedAt (createdAt : Option Json) (now : Int) : Datetime :=
  match createdAt with
  | some (.str text) =>
      match fromisoformat text with
      | .ok parsed => parsed.normalizeTimestamp
      | .error _ => .utc now
  | _ => .utc now

/-- `str(data.get(key, ""))`. -/
def strEntry (data : JsonObject) (key : String) : Text :=
  str isPrintable ((data.get key).getD (.str []))

def payloadEntry (data : JsonObject) : JsonObject :=
  match (data.get "payload").getD (.obj []) with
  | .obj payload => payload
  | _ => []

/-- `from_json`, at a reading of the clock. -/
def ProactiveOffer.fromJson (now : Int) (raw : Text) : ProactiveOffer :=
  let data := loadedDict readFloat raw
  { kind := String.ofList (strEntry isPrintable data "kind")
    title := strEntry isPrintable data "title"
    summary := strEntry isPrintable data "summary"
    payload := payloadEntry data
    createdAt := parsedCreatedAt (data.get "created_at") now }

/-- An offer of JSON data, made at a time that Python can hold. -/
structure ProactiveOffer.IsWritable (offer : ProactiveOffer) : Prop where
  payload : Readable readFloat (.obj offer.payload)
  createdAt : IsRepresentable offer.createdAt

/-- The offer with its time in UTC when it has no offset. -/
def ProactiveOffer.normalized (offer : ProactiveOffer) : ProactiveOffer :=
  { offer with createdAt := offer.createdAt.normalizeTimestamp }

variable {readFloat} {offer : ProactiveOffer}

theorem loads_toJson (h : offer.IsWritable readFloat) :
    loads readFloat offer.toJson = .ok (.obj
      [("kind".toList, .str offer.kind.toList), ("title".toList, .str offer.title),
       ("summary".toList, .str offer.summary), ("payload".toList, .obj offer.payload),
       ("created_at".toList, .str (isoformat offer.createdAt))]) := by
  have hnodup :
      (["kind", "title", "summary", "payload", "created_at"].map String.toList).Nodup := by
    decide
  refine loads_write (.obj hnodup ?_)
  simp only [List.forall_mem_cons, List.not_mem_nil, false_implies, implies_true, and_true]
  exact ⟨.str _, .str _, .str _, h.payload, .str _⟩

variable (readFloat) in
/-- An offer is read back from its text, whatever the clock shows then; a time without an
offset comes back as UTC. -/
theorem fromJson_of_isWritable (h : offer.IsWritable readFloat) (now : Int) :
    ProactiveOffer.fromJson readFloat isPrintable now offer.toJson = offer.normalized := by
  have htime : parsedCreatedAt (some (.str (isoformat offer.createdAt))) now =
      offer.createdAt.normalizeTimestamp := by
    rw [parsedCreatedAt, fromisoformat_isoformat h.createdAt]
  have hdata := loads_toJson h
  rw [ProactiveOffer.fromJson, loadedDict, hdata]
  show ProactiveOffer.mk (String.ofList offer.kind.toList) offer.title offer.summary offer.payload
    (parsedCreatedAt (some (.str (isoformat offer.createdAt))) now) = offer.normalized
  rw [htime, String.ofList_toList]
  rfl

theorem isRepresentable_normalizeTimestamp {d : Datetime} (h : IsRepresentable d) :
    IsRepresentable d.normalizeTimestamp := by
  obtain ⟨hmin, hmax, hoffset⟩ := h
  refine ⟨?_, ?_, ?_⟩
  · rwa [Datetime.wall_normalizeTimestamp]
  · rwa [Datetime.wall_normalizeTimestamp]
  · rw [Datetime.normalizeTimestamp]
    split
    · rintro _ ⟨⟩
      decide
    · exact hoffset

theorem isRepresentable_parsedCreatedAt {now : Int} (hnow : IsRepresentable (.utc now))
    (createdAt : Option Json) : IsRepresentable (parsedCreatedAt createdAt now) := by
  unfold parsedCreatedAt
  split
  · split
    · rename_i parsed hparsed
      exact isRepresentable_normalizeTimestamp (isRepresentable_of_fromisoformat hparsed)
    · exact hnow
  · exact hnow

theorem readable_of_get {data : JsonObject} (hdata : Readable readFloat (.obj data)) {key : String}
    {value : Json} (h : data.get key = some value) : Readable readFloat value := by
  obtain ⟨entry, hfind, rfl⟩ := Option.map_eq_some_iff.mp h
  cases hdata with
  | obj _ hvalues => exact hvalues entry (List.mem_of_find?_eq_some hfind)

theorem readable_loadedDict (hfloat : ReadsFloats readFloat) (raw : Text) :
    Readable readFloat (.obj (loadedDict readFloat raw)) := by
  rw [loadedDict]
  split
  · rename_i entries hloads
    exact readable_of_loads hfloat hloads
  · exact .obj List.nodup_nil nofun

theorem readable_payloadEntry {data : JsonObject} (hdata : Readable readFloat (.obj data)) :
    Readable readFloat (.obj (payloadEntry data)) := by
  rw [payloadEntry]
  split
  · rename_i payload hpayload
    cases hget : data.get "payload" with
    | none =>
        rw [hget] at hpayload
        cases hpayload
        exact .obj List.nodup_nil nofun
    | some value =>
        rw [hget] at hpayload
        obtain rfl : value = .obj payload := hpayload
        exact readable_of_get hdata hget
  · exact .obj List.nodup_nil nofun

/-- Whatever a text holds, the offer that is read from it can be written. -/
theorem isWritable_fromJson (hfloat : ReadsFloats readFloat) {now : Int}
    (hnow : IsRepresentable (.utc now)) (raw : Text) :
    (ProactiveOffer.fromJson readFloat isPrintable now raw).IsWritable readFloat where
  payload := readable_payloadEntry (readable_loadedDict hfloat raw)
  createdAt := isRepresentable_parsedCreatedAt hnow _

theorem normalized_parsedCreatedAt (createdAt : Option Json) (now : Int) :
    (parsedCreatedAt createdAt now).normalizeTimestamp = parsedCreatedAt createdAt now := by
  have htwice (d : Datetime) : d.normalizeTimestamp.normalizeTimestamp = d.normalizeTimestamp := by
    obtain ⟨wall, utcoffset⟩ := d
    cases utcoffset <;> rfl
  unfold parsedCreatedAt
  split
  · split
    · exact htwice _
    · rfl
  · rfl

theorem normalized_fromJson (now : Int) (raw : Text) :
    (ProactiveOffer.fromJson readFloat isPrintable now raw).normalized =
      ProactiveOffer.fromJson readFloat isPrintable now raw := by
  rw [ProactiveOffer.normalized, ProactiveOffer.fromJson]
  congr 1
  exact normalized_parsedCreatedAt _ now

variable (readFloat) in
/-- An offer is read back from its text, and what is read from any other text is read
back from the text of that reading: the clock shows in neither. -/
theorem offerRoundTrip (hfloat : ReadsFloats readFloat) (later : Int) :
    (∀ offer : ProactiveOffer, offer.IsWritable readFloat →
      ProactiveOffer.fromJson readFloat isPrintable later offer.toJson = offer.normalized) ∧
    ∀ now, IsRepresentable (.utc now) → ∀ raw,
      let offer := ProactiveOffer.fromJson readFloat isPrintable now raw
      ProactiveOffer.fromJson readFloat isPrintable later offer.toJson = offer := by
  refine ⟨fun offer h => fromJson_of_isWritable readFloat isPrintable h later,
    fun now hnow raw => ?_⟩
  exact (fromJson_of_isWritable readFloat isPrintable
    (isWritable_fromJson isPrintable hfloat hnow raw) later).trans
      (normalized_fromJson isPrintable now raw)

def writtenOffer : ProactiveOffer where
  kind := "suggestion"
  title := "Timers".toList
  summary := "Clearer \"errors\".".toList
  payload := [("files".toList, .arr [.str "ä\n".toList]), ("score".toList, .float .zero)]
  createdAt := ⟨1709208000 * second + 5, none⟩

theorem isWord_zero : IsWord (fun _ => FloatText.zero) FloatText.zero.text
    (.float FloatText.zero) :=
  isWord_of_decide (by decide) rfl

theorem readsFloats_zero : ReadsFloats fun _ => FloatText.zero := fun _ => isWord_zero

theorem isWritable_writtenOffer : writtenOffer.IsWritable fun _ => FloatText.zero where
  payload := by
    refine .obj (by decide) ?_
    simp only [writtenOffer, List.forall_mem_cons, List.not_mem_nil, false_implies, implies_true,
      and_true]
    exact ⟨.arr (List.forall_mem_singleton.mpr (.str _)),
      .float isWord_zero⟩
  createdAt := ⟨by decide, by decide, nofun⟩

theorem offerRoundTrip_writtenOffer :
    ProactiveOffer.fromJson (fun _ => .zero) (fun _ => true) 0 writtenOffer.toJson =
        writtenOffer.normalized ∧
      ProactiveOffer.fromJson (fun _ => .zero) (fun _ => true) 0
          (ProactiveOffer.fromJson (fun _ => .zero) (fun _ => true) 1 "[]".toList).toJson =
        ProactiveOffer.fromJson (fun _ => .zero) (fun _ => true) 1 "[]".toList :=
  let h := offerRoundTrip (fun _ => .zero) (fun _ => true) readsFloats_zero 0
  ⟨h.1 writtenOffer isWritable_writtenOffer, h.2 1 ⟨by decide, by decide, by decide⟩ "[]".toList⟩

end NanoCore.Common.Types
