import NanoCore.Foundation.JsonRepr
import NanoCore.Foundation.Utf8Decoding

namespace NanoCore.Integrations.GoogleDrive

open NanoCore.Foundation.JsonRepr
open NanoCore.Foundation.JsonText
open NanoCore.Foundation.PythonText
open NanoCore.Foundation.Utf8Decoding

abbrev Bytes := List UInt8

/-- What a request to the API raises. -/
inductive ApiError where
  /-- `HttpError`, with the status of its response, when it has one, and its text. -/
  | http (status : Option Int) (text : Text)
  | other (text : Text)
  deriving DecidableEq, Repr

/-- What the calls of `next_chunk` do, one after the other: each appends a chunk to the
buffer, and the last says that the download is done. -/
inductive Downloader where
  | last (chunk : Bytes)
  | more (chunk : Bytes) (next : Downloader)
  | fails (error : ApiError)

structure DriveService where
  /-- `files().get(…).execute()`, decoded. -/
  get : (fileId : Text) → Except ApiError Json
  exportMedia : (fileId mimeType : Text) → Downloader
  getMedia : (fileId : Text) → Downloader

inductive DriveError where
  | authentication (message : Text)
  | notFound (message : Text)
  | access (message : Text)
  | binaryNotSupported (message : Text)
  | other (text : Text)
  deriving DecidableEq, Repr

/-- `_raise_for_http_error`, which does not see other exceptions. -/
def raiseForHttpError : ApiError → DriveError
  | .http status text =>
      if status = some 404 then .notFound "That Google Drive file was not found.".toList
      else if status = some 403 ∨ status = some 401 then
        .access "Google Drive denied access to that file. Check sharing and authorization.".toList
      else .access ("Google Drive API request failed: ".toList ++ text)
  | .other text => .other text

def truncateBytes (data : Bytes) (limit : Nat) : Bytes × Bool :=
  if data.length ≤ limit then (data, false) else (data.take limit, true)

def decodeText (data : Bytes) : Text := decodeReplace data

def exportMimes : List (Text × Text) :=
  [("application/vnd.google-apps.document".toList, "text/plain".toList),
   ("application/vnd.google-apps.spreadsheet".toList, "text/csv".toList),
   ("application/vnd.google-apps.presentation".toList, "text/plain".toList)]

def textualMimePrefixes : List Text :=
  ["text/".toList, "application/json".toList, "application/xml".toList,
   "application/javascript".toList]

def isTextualMime (mimeType : Text) : Bool :=
  (exportMimes.map Prod.snd).contains mimeType ||
    textualMimePrefixes.any fun front => front.isPrefixOf mimeType

structure FileMetadata where
  id : Text
  name : Text
  mimeType : Text
  deriving DecidableEq, Repr

variable (isPrintable : Char → Bool)

/-- `str(result.get(key) or default)`. -/
def textOr (result : JsonObject) (key : String) (default : Text) : Text :=
  match result.get key with
  | none => default
  | some value => if truthy value then str isPrintable value else default

def getFileMetadata (service : Except DriveError DriveService) (fileId : Text) :
    Except DriveError FileMetadata := do
  let service ← service
  match service.get fileId with
  | .error error => .error (raiseForHttpError error)
  | .ok (.obj result) =>
      .ok ⟨textOr isPrintable result "id" fileId, textOr isPrintable result "name" [],
        textOr isPrintable result "mimeType" []⟩
  | .ok _ => .error (.access "Unexpected response from Google Drive.".toList)

/-- The loop over the chunks, with what the buffer holds so far. -/
def downloadRequest (limit : Nat) : Downloader → (buffer : Bytes) → Except ApiError (Bytes × Bool)
  | .fails error, _ => .error error
  | .last chunk, buffer =>
      let buffer := buffer ++ chunk
      if limit < buffer.length then .ok ((truncateBytes buffer limit).1, true)
      else .ok (truncateBytes buffer limit)
  | .more chunk next, buffer =>
      let buffer := buffer ++ chunk
      if limit < buffer.length then .ok ((truncateBytes buffer limit).1, true)
      else downloadRequest limit next buffer

/-- `_download_export` and `_download_media`, which differ in their request. -/
def download (service : Except DriveError DriveService) (request : DriveService → Downloader)
    (limit : Nat) : Except DriveError (Bytes × Bool) := do
  let service ← service
  match downloadRequest limit (request service) [] with
  | .ok result => .ok result
  | .error error => .error (raiseForHttpError error)

def downloadExport (service : Except DriveError DriveService) (fileId exportMime : Text)
    (limit : Nat) : Except DriveError (Bytes × Bool) :=
  download service (fun service => service.exportMedia fileId exportMime) limit

def downloadMedia (service : Except DriveError DriveService) (fileId : Text) (limit : Nat) :
    Except DriveError (Bytes × Bool) :=
  download service (fun service => service.getMedia fileId) limit

/-- The name of the file, its text and whether the text is truncated.  The services are
what the two calls of `get_drive_service` return. -/
def readFileContent (maxExportBytes : Nat) (service service' : Except DriveError DriveService)
    (fileId : Text) : Except DriveError (Text × Text × Bool) := do
  let metadata ← getFileMetadata isPrintable service fileId
  let name := if metadata.name.isEmpty then fileId else metadata.name
  match exportMimes.lookup metadata.mimeType with
  | some exportMime =>
      let (data, truncated) ← downloadExport service' fileId exportMime maxExportBytes
      return (name, decodeText data, truncated)
  | none =>
      if isTextualMime metadata.mimeType then
        let (data, truncated) ← downloadMedia service' fileId maxExportBytes
        return (name, decodeText data, truncated)
      else
        let mimeType :=
          if metadata.mimeType.isEmpty then "unknown".toList else metadata.mimeType
        .error (.binaryNotSupported ("File '".toList ++ name ++ "' has type ".toList ++ mimeType ++
          "; only text-like files are supported.".toList))

end NanoCore.Integrations.GoogleDrive
