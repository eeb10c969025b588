import NanoCore.Integrations.GoogleDrive

namespace NanoCore.Integrations.DriveDownloads

open NanoCore.Foundation.PythonText
open NanoCore.Foundation.Utf8Decoding
open NanoCore.Integrations.GoogleDrive

variable {limit : Nat} {buffer content data : Bytes} {text fileId name : Text}
  {isPrintable : Char → Bool} {service service' : Except DriveError DriveService}
  {metadata : FileMetadata}

/-- The chunks of the download make up the content, and no request fails. -/
inductive Delivers : Downloader → Bytes → Prop
  | last (chunk : Bytes) : Delivers (.last chunk) chunk
  | more (chunk : Bytes) {next : Downloader} {content : Bytes} (h : Delivers next content) :
      Delivers (.more chunk next) (chunk ++ content)

theorem truncateBytes_of_lt (h : limit < data.length) :
    truncateBytes data limit = (data.take limit, true) := if_neg (not_le.mpr h)

theorem truncateBytes_eq (data : Bytes) (limit : Nat) :
    truncateBytes data limit = (data.take limit, decide (limit < data.length)) := by
  rcases le_or_gt data.length limit with hle | hlt
  · rw [truncateBytes, if_pos hle, List.take_of_length_le hle, decide_eq_false (not_lt.mpr hle)]
  · rw [truncateBytes_of_lt hlt, decide_eq_true hlt]

/-- The loop may stop early, but what it returns does not depend on the chunks. -/
theorem downloadRequest_of_delivers {downloader : Downloader} (h : Delivers downloader content)
    (limit : Nat) (buffer : Bytes) :
    downloadRequest limit downloader buffer =
      .ok (truncateBytes (buffer ++ content) limit) := by
  induction h generalizing buffer with
  | last chunk =>
      rw [downloadRequest]
      rcases le_or_gt (buffer ++ chunk).length limit with hle | hlt
      · exact if_neg (not_lt.mpr hle)
      · refine (if_pos hlt).trans ?_
        rw [truncateBytes_of_lt hlt]
  | @more chunk next content _ ih =>
      rw [downloadRequest]
      rcases le_or_gt (buffer ++ chunk).length limit with hle | hlt
      · refine (if_neg (not_lt.mpr hle)).trans ?_
        rw [ih, List.append_assoc]
      · refine (if_pos hlt).trans ?_
        have hwhole : limit < (buffer ++ chunk ++ content).length := by
          rw [List.length_append]
          omega
        rw [← List.append_assoc, truncateBytes_of_lt hlt, truncateBytes_of_lt hwhole,
          List.take_append_of_le_length hlt.le]

/-- The service knows the file under the name, and delivers its content as text. -/
structure Serves (isPrintable : Char → Bool) (service service' : Except DriveError DriveService)
    (fileId name : Text) (content : Bytes) : Prop where
  exists_metadata : ∃ metadata, getFileMetadata isPrintable service fileId = .ok metadata ∧
    name = (if metadata.name.isEmpty then fileId else metadata.name) ∧
    ∃ drive, service' = .ok drive ∧
      ((∃ exportMime, exportMimes.lookup metadata.mimeType = some exportMime ∧
          Delivers (drive.exportMedia fileId exportMime) content) ∨
        exportMimes.lookup metadata.mimeType = none ∧ isTextualMime metadata.mimeType = true ∧
          Delivers (drive.getMedia fileId) content)

theorem download_of_delivers {drive : DriveService} (request : DriveService → Downloader)
    (h : Delivers (request drive) content) (limit : Nat) :
    download (.ok drive) request limit =
      .ok (content.take limit, decide (limit < content.length)) := by
  simp only [download, bind, Except.bind, downloadRequest_of_delivers h, List.nil_append,
    truncateBytes_eq]

theorem readFileContent_of_serves (h : Serves isPrintable service service' fileId name content)
    (limit : Nat) :
    readFileContent isPrintable limit service service' fileId =
      .ok (name, decodeText (content.take limit), decide (limit < content.length)) := by
  obtain ⟨metadata, hmetadata, rfl, drive, rfl, hmime⟩ := h.exists_metadata
  rw [readFileContent, hmetadata]
  rcases hmime with ⟨exportMime, hlookup, hdelivers⟩ | ⟨hlookup, htextual, hdelivers⟩
  · have hdownload : downloadExport (.ok drive) fileId exportMime limit = _ :=
      download_of_delivers (fun drive => drive.exportMedia fileId exportMime) hdelivers limit
    simp only [bind, Except.bind, hlookup, hdownload]
    rfl
  · have hdownload : downloadMedia (.ok drive) fileId limit = _ :=
      download_of_delivers (fun drive => drive.getMedia fileId) hdelivers limit
    simp only [bind, Except.bind, hlookup, if_pos htextual, hdownload]
    rfl

/-- For every text and limit there is one text that is read, whatever the file, the
service and the chunks are: the text up to the limit, with one replacement where the
limit falls inside of a character.  It is flagged exactly when the content is longer. -/
theorem readFileContent_text (limit : Nat) (text : Text) :
    decodeText (utf8Encode text) = text ∧
    ∃ shown, Shows limit text shown ∧
      ∀ isPrintable service service' fileId name,
        Serves isPrintable service service' fileId name (utf8Encode text) →
        readFileContent isPrintable limit service service' fileId =
          .ok (name, shown, decide (limit < (utf8Encode text).length)) := by
  refine ⟨decodeReplace_utf8Encode text, _, shows_decodeReplace limit text, ?_⟩
  intro isPrintable service service' fileId name h
  exact readFileContent_of_serves h limit

/-- A service with one text file, delivered in two chunks. -/
def sampleService : DriveService where
  get _ := .ok (.obj [("name".toList, .str "Notes".toList),
    ("mimeType".toList, .str "text/plain".toList)])
  exportMedia _ _ := .fails (.other [])
  getMedia _ := .more [0xc3] (.last [0xa9])

theorem serves_sampleService :
    Serves (fun _ => true) (.ok sampleService) (.ok sampleService) "1".toList "Notes".toList
      (utf8Encode ['é']) where
  exists_metadata := by
    refine ⟨⟨"1".toList, "Notes".toList, "text/plain".toList⟩, by decide +kernel,
      by decide +kernel, sampleService, rfl, .inr ⟨by decide +kernel, by decide +kernel, ?_⟩⟩
    exact .more [0xc3] (.last [0xa9])

theorem readFileContent_text_sample : ∃ shown, Shows 2 ['é'] shown ∧
    readFileContent (fun _ => true) 2 (.ok sampleService) (.ok sampleService) "1".toList =
      .ok ("Notes".toList, shown, false) := by
  obtain ⟨-, shown, hshown, hread⟩ := readFileContent_text 2 ['é']
  exact ⟨shown, hshown, hread _ _ _ _ _ serves_sampleService⟩

/-- A limit of one byte cuts the character of two, which is then no prefix. -/
theorem not_prefix_of_decoded :
    ¬ ∀ (text : Text) (limit : Nat) (isPrintable : Char → Bool)
      (service service' : Except DriveError DriveService) (fileId name shown : Text)
      (truncated : Bool), 1 ≤ limit →
      Serves isPrintable service service' fileId name (utf8Encode text) →
      readFileContent isPrintable limit service service' fileId = .ok (name, shown, truncated) →
      shown <+: decodeText (utf8Encode text) := by
  intro h
  have hcut := h ['é'] 1 (fun _ => true) (.ok sampleService) (.ok sampleService) "1".toList
    "Notes".toList [replacement] true (by decide) serves_sampleService (by decide +kernel)
  revert hcut
  decide

end NanoCore.Integrations.DriveDownloads
