import NanoCore.Assistant.Sources
import NanoCore.Foundation.PythonText

namespace NanoCore.Assistant.Rules.Messages

open NanoCore.Foundation.PythonText
open NanoCore.Assistant.Sources

def confirmationReplies : List String :=
  ["yes", "yes.", "confirm", "confirm.", "do it", "proceed"]

def rejectionReplies : List String :=
  ["no", "cancel", "stop", "nothing", "never mind", "nevermind", "forget it"]

variable (u : PyData)

def isConfirmationMessage (message : Text) : Bool :=
  confirmationReplies.any fun reply => u.lower (strip message) = reply.toList

/-- `" ".join(message.strip().lower().strip(" .!?").split())`. -/
def bareReply (message : Text) : Text :=
  collapseSpaces (stripChars [' ', '.', '!', '?'] (u.lower (strip message)))

def isRejectionMessage (message : Text) : Bool :=
  rejectionReplies.any fun reply => bareReply u message = reply.toList

def normalizeWipeRequest (message : Text) : Text :=
  let normalized := collapseSpaces (strip message)
  if normalized = [] then "wipe what I am keeping".toList else normalized.take 160

def confirmationClosers : List String :=
  ["Say yes to proceed, or no to cancel.",
   "Reply yes if you want me to go ahead, or no to stop.",
   "If that's what you want, say yes; otherwise say no."]

def confirmationFollowup (seed : Text) : Text :=
  let total := seed.foldl (fun total c => total + c.toNat) 0
  (confirmationClosers.getD (total % confirmationClosers.length) "").toList

/-- `lowered.startswith((..))`. -/
def startsWithAny (starts : List String) (s : Text) : Bool :=
  starts.any fun start => start.toList.isPrefixOf s

def confirmationLead (subject : Text) : Text :=
  let cleaned := rstripChars ['.', '!', '?'] (strip subject)
  let lowered := u.lower cleaned
  if cleaned = [] then "You want me to wipe what I am keeping.".toList
  else if startsWithAny ["wipe ", "erase ", "delete ", "clear ", "remove "] lowered then
    "You want me to ".toList ++ lowered ++ ".".toList
  else if startsWithAny ["don't ", "do not "] lowered then
    "You're asking me to ".toList ++ lowered ++ ".".toList
  else "Just confirming - you want me to ".toList ++ lowered ++ ".".toList

def promptFor (subject : Text) : Text :=
  confirmationLead u subject ++ ' ' :: confirmationFollowup subject

def wipeConfirmationPrompt (message : Text) : Text := promptFor u (normalizeWipeRequest message)

/-- `message.strip() or default`. -/
def strippedOr (default : String) (message : Text) : Text :=
  if strip message = [] then default.toList else strip message

def rebootConfirmationPrompt (message : Text) : Text :=
  promptFor u (strippedOr "reboot the Raspberry Pi" message)

def serviceRestartConfirmationPrompt (message : Text) : Text :=
  promptFor u (strippedOr "restart my service" message)

def systemConfirmationPrompt : ConfirmationAction → Text → Text
  | .wipe => wipeConfirmationPrompt u
  | .reboot => rebootConfirmationPrompt u
  | .serviceRestart => serviceRestartConfirmationPrompt u

end NanoCore.Assistant.Rules.Messages
