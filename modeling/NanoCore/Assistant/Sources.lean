import NanoCore.Foundation.PythonText

namespace NanoCore.Assistant.Sources

open NanoCore.Foundation.PythonText

inductive ResponseKind where
  | answer
  | toolResult
  | toolError
  | followUp
  | confirmation
  deriving DecidableEq, Repr

inductive ConfirmationAction where
  | wipe
  | reboot
  | serviceRestart
  deriving DecidableEq, Repr

structure ResponseSource where
  kind : ResponseKind
  userMessage : Text
  facts : Text
  toolName : Option String := none
  conversationId : String := "default"
  persist : Bool := true
  speak : Bool := true
  skipEnrichment : Bool := false
  confirmationAction : Option ConfirmationAction := none
  deriving DecidableEq, Repr

/-- What a flow is asked: the message is the user's own in every call. -/
structure Request where
  conversationId : String
  message : Text

def answerSource (request : Request) (facts : Text) (persist : Bool := true) : ResponseSource where
  kind := .answer
  userMessage := request.message
  facts := facts
  conversationId := request.conversationId
  persist := persist

theorem facts_answerSource (request : Request) (facts : Text) :
    (answerSource request facts).facts = facts := rfl

def confusedAnswerSource (request : Request) (facts : Text) : ResponseSource :=
  { answerSource request facts with skipEnrichment := true }

def followUpSource (request : Request) (facts : Text) : ResponseSource where
  kind := .followUp
  userMessage := request.message
  facts := facts
  conversationId := request.conversationId

def confirmationSource (request : Request) (facts : Text)
    (confirmationAction : Option ConfirmationAction := none) : ResponseSource where
  kind := .confirmation
  userMessage := request.message
  facts := facts
  conversationId := request.conversationId
  confirmationAction := confirmationAction

/-- A tool's outcome; a silent one is neither stored nor spoken. -/
def toolSource (kind : ResponseKind) (request : Request) (toolName : String) (facts : Text)
    (silent : Bool) : ResponseSource where
  kind := kind
  userMessage := request.message
  facts := facts
  toolName := some toolName
  conversationId := request.conversationId
  persist := !silent
  speak := !silent

end NanoCore.Assistant.Sources
