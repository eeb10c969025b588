import NanoCore.System.Specs
import Mathlib.Logic.Function.Basic

namespace NanoCore.Llm.ContextSizing

open NanoCore.Foundation.JsonText
open NanoCore.Foundation.PythonText
open NanoCore.System.Specs

def contextSizeLadder : List Int := [32768, 16384, 8192, 4096, 2048, 1024, 512]

/-- The ladder up to the requested size. -/
def ladderUpTo (requestedContextSize : Int) : List Int :=
  let requested := max 512 requestedContextSize
  let ladder := contextSizeLadder.filter (· ≤ requested)
  if ladder.isEmpty then [512] else ladder

/-- `ram_cap`: none where no limit is known. -/
def ramCap (modelBytes : Option Nat) (memory : MemoryInfo) : Option Int :=
  estimateMaxContextTokens modelBytes memory.availableBytes memoryReserveBytes
    kvBytesPerTokenEstimate

def contextSizesToTry (modelBytes : Option Nat) (memory : MemoryInfo)
    (requestedContextSize : Int) : List Int :=
  let ladder := ladderUpTo requestedContextSize
  match ramCap modelBytes memory with
  | none => ladder
  | some ramCap =>
      let ladder := ladder.filter (· ≤ ramCap)
      if ladder.isEmpty then [512] else ladder

inductive DowngradeReason where
  | memory
  | loadFailure
  deriving DecidableEq, Repr

def formatContextDowngradeNotice (requested resolved : Int) (reason : DowngradeReason) : Text :=
  if requested ≤ resolved then []
  else
    let detail :=
      match reason with
      | .memory => "your free memory was too low"
      | .loadFailure => "I couldn't load at my full setting"
    "I had to use a smaller memory window (".toList ++ detail.toList ++
      "), but I'm running.".toList

/-- `_load_notices`, by the path of the model. -/
abbrev LoadNotices := Text → Option Text

def popContextLoadNotice (notices : LoadNotices) (modelPath : Text) : Option Text × LoadNotices :=
  (notices modelPath, Function.update notices modelPath none)

def setContextLoadNotice (notices : LoadNotices) (modelPath message : Text) : LoadNotices :=
  Function.update notices modelPath (some message)

inductive ErrorKind where
  | osError
  | runtimeError
  | valueError
  | importError
  | other
  deriving DecidableEq, Repr

/-- Whether the loop goes on to the next size. -/
def ErrorKind.caught : ErrorKind → Bool
  | osError | runtimeError | valueError => true
  | importError | other => false

structure CreateError where
  kind : ErrorKind
  message : Text
  deriving DecidableEq, Repr

section Load

variable {Model : Type}

/-- `Llama(model_path=…, n_ctx=…)`; none where the package is not installed. -/
abbrev LlamaClass (Model : Type) := Option (Text → Int → Except CreateError Model)

def createLlamaModel (llama : LlamaClass Model) (modelPath : Text) (contextSize : Int) :
    Except CreateError Model :=
  match llama with
  | none => .error ⟨.importError,
      "llama-cpp-python is not installed. Install the local-llm extra.".toList⟩
  | some create => create modelPath contextSize

structure Loader where
  notices : LoadNotices
  /-- The sizes that a model has been created with, in the order of the tries. -/
  tried : List Int

inductive LoadError where
  | create (error : CreateError)
  | localModelLoadError (message : Text)
  deriving DecidableEq, Repr

variable (llama : LlamaClass Model) (modelPath : Text) (requestedContextSize : Int)

/-- The notice that is kept when the model loads with a smaller context. -/
def noticesAfterLoad (notices : LoadNotices) (contextSize : Int) (attemptedFailure : Bool) :
    LoadNotices :=
  if contextSize < requestedContextSize then
    let reason := if attemptedFailure then DowngradeReason.loadFailure else .memory
    let notice := formatContextDowngradeNotice requestedContextSize contextSize reason
    if notice.isEmpty then notices else setContextLoadNotice notices modelPath notice
  else notices

/-- The loop over the sizes; without a model, the errors that were met. -/
def tryContextSizes : (sizes : List Int) → (errors : List Text) → (attemptedFailure : Bool) →
    Loader → Except CreateError ((Model × Int) ⊕ List Text) × Loader
  | [], errors, _, s => (.ok (.inr errors), s)
  | contextSize :: sizes, errors, attemptedFailure, s =>
      let s := { s with tried := s.tried ++ [contextSize] }
      match createLlamaModel llama modelPath contextSize with
      | .ok model =>
          let notices :=
            noticesAfterLoad modelPath requestedContextSize s.notices contextSize attemptedFailure
          (.ok (.inl (model, contextSize)), { s with notices := notices })
      | .error error =>
          if error.kind.caught then
            let line := intText contextSize ++ ": ".toList ++ error.message
            tryContextSizes sizes (errors ++ [line]) true s
          else (.error error, s)

/-- The readings of the machine before the first try and after the last. -/
structure Readings where
  modelBytes : Option Nat
  memory : MemoryInfo
  deriving DecidableEq, Repr

def loadErrorMessage (after : Readings) (sizes : List Int) (errors : List Text) : Text :=
  let attempted := ", ".toList.intercalate (sizes.map intText)
  let detail := "; ".toList.intercalate (errors.drop (errors.length - 3))
  strip ("Local LLM could not load ".toList ++ modelPath ++ " (".toList ++
    formatBytes (after.modelBytes.map Int.ofNat) ++ ") with available memory ".toList ++
    formatBytes after.memory.availableBytes ++ ". Tried context sizes ".toList ++ attempted ++
    ". ".toList ++ detail)

def loadLocalModelUncached (before after : Readings) (s : Loader) :
    Except LoadError (Model × Int) × Loader :=
  let sizes := contextSizesToTry before.modelBytes before.memory requestedContextSize
  match tryContextSizes llama modelPath requestedContextSize sizes [] false s with
  | (.ok (.inl result), s) => (.ok result, s)
  | (.ok (.inr errors), s) =>
      (.error (.localModelLoadError (loadErrorMessage modelPath after sizes errors)), s)
  | (.error error, s) => (.error (.create error), s)

end Load

end NanoCore.Llm.ContextSizing
