import NanoCore.Foundation.PythonRegex
import NanoCore.Foundation.UrlSplit

namespace NanoCore.Integrations.GoogleDriveIds

open NanoCore.Foundation.PythonText
open NanoCore.Foundation.Regex
open NanoCore.Foundation.RegexSearch
open NanoCore.Foundation.PythonRegex
open NanoCore.Foundation.UrlSplit

/-- `[a-zA-Z0-9_-]`. -/
def isIdChar (c : Char) : Bool := c.isAlphanum || c == '_' || c == '-'

/-- `([a-zA-Z0-9_-]+)`. -/
def idGroup : Regex := .group "1" (plus true (.sat isIdChar))

def fileIdInPath : Regex := seqs [lit "/file/d/", idGroup]

def folderInPath : Regex := seqs [lit "/drive/folders/", idGroup]

def bareFileId : Regex :=
  seqs ([atStart] ++ List.replicate 10 (.sat isIdChar) ++ [.star true (.sat isIdChar), atEnd])

/-- `/open\?id=([a-zA-Z0-9_-]+)`. -/
def openLink : Regex := seqs [lit "/open?id=", idGroup]

def firstCapture (pattern : Regex) (s : Text) : Option Text :=
  (search pattern s).bind fun found => found.groups.lookup "1"

inductive GoogleDriveIdError where
  | required
  | notAnId
  | folder
  | notAFileUrl
  deriving DecidableEq, Repr

def GoogleDriveIdError.message : GoogleDriveIdError → String
  | .required => "file_id or url is required."
  | .notAnId => "Could not parse a Google Drive file ID from that value."
  | .folder => "That link looks like a folder. Provide a file link or file ID."
  | .notAFileUrl => "Could not parse a Google Drive file ID from that URL."

variable (u : PyData)

/-- The id, or the caught `GoogleDriveIdError`; `urlparse` may raise besides. -/
def parseDriveFileId (raw : Text) : Except PyError (Except GoogleDriveIdError Text) := do
  let value := strip raw
  if value.isEmpty then return .error .required
  if (matchPrefix bareFileId value).isSome then return .ok value
  let parsed ← urlparse u value
  if !(parsed.scheme == "http".toList || parsed.scheme == "https".toList) then
    return .error .notAnId
  if occurs folderInPath parsed.path then return .error .folder
  match firstCapture fileIdInPath parsed.path with
  | some id => return .ok id
  | none =>
      match (firstQueryValue parsed.query "id").map strip with
      | some (c :: rest) => return .ok (c :: rest)
      | _ =>
          match firstCapture openLink value with
          | some id => return .ok id
          | none => return .error .notAFileUrl

def tryParseDriveFileId (raw : Text) : Except PyError (Option Text) := do
  return (← parseDriveFileId u raw).toOption

def nonBlankLines (s : Text) : List Text :=
  ((s.splitOnP isLineBreak).map strip).filter fun line => !line.isEmpty

def extractDriveFileReference (message : Text) : Except PyError (Option Text) := do
  let stripped := strip message
  if stripped.isEmpty then return none
  match nonBlankLines stripped with
  | line :: _ =>
      match ← tryParseDriveFileId u line with
      | some reference => return some reference
      | none => tryParseDriveFileId u stripped
  | [] => tryParseDriveFileId u stripped

example : extractDriveFileReference .ascii
    "https://drive.google.com/file/d/1AbC_d-9/view\nwhat is this?".toList =
    .ok (some "1AbC_d-9".toList) := by decide +kernel

end NanoCore.Integrations.GoogleDriveIds
