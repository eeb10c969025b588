import NanoCore.Assistant.Rules.Intents
import NanoCore.Assistant.Sources

namespace NanoCore.Assistant.Guard.Detectors

open NanoCore.Foundation.PythonRegex
open NanoCore.Foundation.PythonText
open NanoCore.Foundation.Regex
open NanoCore.Foundation.RegexSearch
open NanoCore.Assistant.Rules.Intents
open NanoCore.Assistant.Sources

inductive ViolationKind where
  | selfDescription
  | unsupportedContinuation
  | thirdPerson
  | intentMismatch
  deriving DecidableEq, Repr

def maxGuardPasses : Nat := 2

def confirmationSuffix : String := "reply yes to proceed or no to cancel"

def spaced (words : List Regex) : Regex := seqs (words.intersperse spaces)

/-- Words with `\s+` between them, under `re.IGNORECASE`. -/
def spacedWords (words : List String) : Regex := spaced (words.map litCI)

def iWith (short long : String) : Regex := .seq (litCI "i") (.alt (litCI short) (litCI long))

def iAm : Regex := iWith "'m" " am"

def iWill : Regex := iWith "'ll" " will"

section Patterns

variable (u : PyData)

def bounded (r : Regex) : Regex := seqs [wordBoundary u, r, wordBoundary u]

/-- `can(?:'t| not)`. -/
def canNot : Regex := .seq (litCI "can") (.alt (litCI "'t") (litCI " not"))

/-- `won(?:'t| will\s+not)`. -/
def willNot : Regex :=
  .seq (litCI "won") (.alt (litCI "'t") (.seq (litCI " will") (.seq spaces (litCI "not"))))

def refusalPatterns : List Regex :=
  [bounded u (spaced [iAm, litCI "afraid"]),
   bounded u (spaced [litCI "i", canNot, litCI "assist"]),
   bounded u (spacedWords ["i", "cannot", "assist"]),
   bounded u (spaced [iAm, litCI "unable", litCI "to"]),
   bounded u (spaced [litCI "i", canNot, litCI "help"]),
   bounded u (spacedWords ["i", "cannot", "help"]),
   bounded u (spacedWords ["not", "able", "to", "assist"]),
   bounded u (spacedWords ["i", "must", "decline"]),
   bounded u (spaced [litCI "i", willNot, litCI "be", litCI "able", litCI "to"])]

def thirdPersonVerbs : List String :=
  ["is", "was", "has", "had", "will", "would", "can", "could", "should",
   "reports", "reported", "says", "said", "states", "stated", "indicates", "indicated",
   "ran", "runs", "checked", "finished", "answered", "needs", "called", "used"]

/-- `[,.!?]`. -/
def sentenceMark : Regex := oneOf [',', '.', '!', '?']

/-- `(?=[,.!?]|$)`. -/
def beforeMarkOrEnd : Regex :=
  .look fun _ after =>
    after.isEmpty || after == ['\n'] || after.head?.any fun c => [',', '.', '!', '?'].contains c

def thirdPersonSelfPatterns : List Regex :=
  [bounded u (spaced [litCI "nano", alts (thirdPersonVerbs.map litCI)]),
   bounded u (litCI "nano's"),
   bounded u (litCI "by nano"),
   seqs [.group "1" (.alt atStart (.seq sentenceMark spaces)), bounded u (litCI "nano"),
     beforeMarkOrEnd]]

def selfDescriptionPatterns : List Regex :=
  [bounded u (spacedWords ["i", "apologize"]),
   bounded u (spaced [iAm, litCI "sorry"]),
   bounded u (spaced [iAm, litCI "nano"]),
   bounded u (spacedWords ["i", "do", "not", "have", "the", "ability"]),
   bounded u (spacedWords ["i", "don't", "have", "the", "ability"]),
   bounded u (spacedWords ["i", "do", "not", "have", "access", "to"]),
   bounded u (spacedWords ["i", "don't", "have", "access", "to"]),
   bounded u (spaced [iAm, litCI "programmed", litCI "to"]),
   bounded u (seqs [litCI "based on the information ", iWith "'ve" " have",
     litCI " been trained on"]),
   bounded u (litCI "external databases"),
   bounded u (seqs [litCI "real", oneOf ['-', ' '], litCI "time information"]),
   bounded u (seqs [iWith "'d" " would", spaces, litCI "be happy to help"]),
   bounded u (seqs [litCI "local", oneOf ['-', ' '], litCI "first personal assistant"]),
   bounded u (litCI "private local assistant"),
   bounded u (litCI "i can execute local python code"),
   bounded u (litCI "i can answer questions"),
   bounded u (litCI "use local tools"),
   bounded u (litCI "read and write text files")]

def unsupportedContinuationPatterns : List Regex :=
  [bounded u (spacedWords ["i", "will", "continue", "to"]),
   bounded u (spaced [iWill, litCI "keep",
     alts (["checking", "monitoring", "running", "working"].map litCI)]),
   bounded u (seqs [iWill, spaces, litCI "provide", spaces,
     opt (.seq (spacedWords ["you", "with"]) spaces), opt (.seq (litCI "the") spaces),
     litCI "results"]),
   bounded u (spaced [iAm, litCI "currently", litCI "running", litCI "diagnostics"]),
   bounded u (seqs [litCI "diagnostics", spaces, litCI "are", spaces,
     opt (.seq (litCI "still") spaces), litCI "running"]),
   bounded u (spacedWords ["as", "they", "are", "determined"]),
   bounded u (spaced [litCI "as", litCI "soon", litCI "as", alts (["they", "it"].map litCI),
     alts (["are", "is"].map litCI), alts (["available", "ready", "determined"].map litCI)])]

end Patterns

variable (u : PyData)

def matchesAny (patterns : List Regex) (content : Text) : Bool :=
  patterns.any fun pattern => occurs pattern content

def looksLikeRefusal : Text → Bool := matchesAny (refusalPatterns u)

def hasConfirmationSuffix (content : Text) : Bool :=
  hasSubstring confirmationSuffix.toList (u.lower content)

def talksAboutNanoInThirdPerson : Text → Bool := matchesAny (thirdPersonSelfPatterns u)

def identityOrCapabilityTriggers : List String :=
  capabilityQuestionTriggers ++ ["who are you", "what are you", "introduce yourself"]

def looksLikeSelfDescriptionInsteadOfAnswer (userMessage content : Text) : Bool :=
  if hasAnySubstring identityOrCapabilityTriggers (u.lower userMessage) then false
  else matchesAny (selfDescriptionPatterns u) content

def impliesUnsupportedContinuation : Text → Bool := matchesAny (unsupportedContinuationPatterns u)

def detectIntentMismatch (source : ResponseSource) (content : Text) : Bool :=
  (source.kind = .confirmation && looksLikeRefusal u content) ||
    (looksLikeRefusal u content && hasConfirmationSuffix u content)

def detectViolations (userMessage content : Text) : List ViolationKind :=
  (if looksLikeSelfDescriptionInsteadOfAnswer u userMessage content then [.selfDescription]
    else []) ++
  (if impliesUnsupportedContinuation u content then [.unsupportedContinuation] else []) ++
  (if talksAboutNanoInThirdPerson u content then [.thirdPerson] else [])

def violationLabel : ViolationKind → Text
  | .selfDescription =>
      "Described identity or capabilities instead of answering the user's question.".toList
  | .unsupportedContinuation => "Promised unsupported continued work after responding.".toList
  | .thirdPerson => "Referred to yourself in third person instead of first person.".toList
  | .intentMismatch =>
      "Refused or contradicted the action you are performing or confirming.".toList

def kindName : ResponseKind → String
  | .answer => "answer"
  | .toolResult => "tool_result"
  | .toolError => "tool_error"
  | .followUp => "follow_up"
  | .confirmation => "confirmation"

def formatSourceContext (source : ResponseSource) : Text :=
  let toolLines := match source.toolName with
    | some name => if name = "" then [] else [("Tool: " ++ name).toList]
    | none => []
  ['\n'].intercalate
    (("Response kind: " ++ kindName source.kind).toList ::
      toolLines ++ ["Factual payload: ".toList ++ source.facts])

end NanoCore.Assistant.Guard.Detectors
