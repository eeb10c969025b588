import NanoCore.Foundation.CachedCalls
import NanoCore.Foundation.Runs
import NanoCore.Llm.ModelLoading

namespace NanoCore.Llm.Providers

open NanoCore.Foundation.CachedCalls
open NanoCore.Foundation.JsonText
open NanoCore.Foundation.PythonText
open NanoCore.Foundation.Runs
open NanoCore.Llm.ContextSizing
open NanoCore.Llm.ModelLoading

inductive LlmProvider where
  | local
  | auto
  | ollama
  | llamaCpp
  | llamaCppServer
  deriving DecidableEq, Repr

/-- The fields of the settings that a completion reads. -/
structure LlmSettings where
  llmProvider : LlmProvider := .local
  llmModelPath : Text := "./models/qwen2.5-1.5b-instruct-q5_k_m.gguf".toList
  llmBaseUrl : Text := "http://localhost:11434".toList
  llmModel : Text := "local-assistant".toList
  llmTimeoutSeconds : Int := 60
  llmContextSize : Int := 32768
  llmMaxTokens : Int := 512
  llmTemperature : FloatText

/-- The arguments of `complete`. -/
structure Completion where
  messages : List (String × Text)
  maxTokens : Option Int := none
  temperature : Option FloatText := none

/-- How `httpx.post` or `raise_for_status` ends without a response. -/
inductive PostError where
  | httpError
  | other (error : CreateError)

/-- The machine, the packages and the servers during one completion. -/
structure Backends (Model : Type) where
  before : Readings
  after : Readings
  llama : LlamaClass Model
  /-- `model.create_chat_completion`. -/
  createChatCompletion : Model → Completion → Except CreateError Json
  /-- A response by what its `json()` gives. -/
  post : Text → JsonObject → Int → Except PostError (Except CreateError Json)

/-- `lru_cache(maxsize=8)` of `load_local_model`, by path and requested size. -/
abbrev ModelCache (Model : Type) := LruCache (Text × Int) Model 8

structure LocalState (Model : Type) where
  cache : ModelCache Model
  loader : Loader

def LocalState.initial (Model : Type) : LocalState Model := ⟨.empty, fun _ => none, []⟩

/-- `type(value).__name__`. -/
def typeName : Json → String
  | .null => "NoneType"
  | .bool _ => "bool"
  | .int _ => "int"
  | .float _ => "float"
  | .str _ => "str"
  | .arr _ => "list"
  | .obj _ => "dict"

def noGet (data : Json) : CreateError where
  kind := .other
  message := "'".toList ++ (typeName data).toList ++ "' object has no attribute 'get'".toList

/-- A content that is a text with more than white space. -/
def contentText : Option Json → Option Text
  | some (.str content) => if (strip content).isEmpty then none else some content
  | _ => none

/-- The content of the dictionary under `message`. -/
def messageContent (holder : JsonObject) : Option Text :=
  match JsonObject.get holder "message" with
  | some (.obj message) => contentText (JsonObject.get message "content")
  | _ => none

def firstChoiceContent (data : JsonObject) : Option Text :=
  match JsonObject.get data "choices" with
  | some (.arr (.obj firstChoice :: _)) => messageContent firstChoice
  | _ => none

def extractOllamaContent : Json → Except CreateError (Option Text)
  | .obj data => .ok (messageContent data)
  | data => .error (noGet data)

def extractLlamaCppContent : Json → Except CreateError (Option Text)
  | .obj data =>
      .ok ((firstChoiceContent data).or (contentText (JsonObject.get data "content")))
  | data => .error (noGet data)

def unavailableMessage : Text :=
  ("Local LLM is not available yet. Install a GGUF model and set " ++
    "LLM_MODEL_PATH, or point LLM_PROVIDER at a configured backend.").toList

def localUnavailable : Text :=
  ("Local LLM is not available yet. Set LLM_MODEL_PATH to a GGUF " ++
    "model file and install the local-llm extra.").toList

def emptyResponse : Text := "Local LLM returned an empty response.".toList

/-- A message where errors are to be told. -/
def told (raiseOnError : Bool) (message : Text) : Option Text :=
  if raiseOnError then some message else none

section Complete

variable {Model : Type} (settings : LlmSettings) (backends : Backends Model)

/-- The arguments of `load_local_model`. -/
def modelKey : Text × Int := (settings.llmModelPath, settings.llmContextSize)

/-- `load_local_model` without its cache. -/
def load (loader : Loader) : Except LoadError Model × Loader :=
  let (result, loader) := loadLocalModelUncached backends.llama settings.llmModelPath
    settings.llmContextSize backends.before backends.after loader
  (result.map Prod.fst, loader)

def loadLocalModel (state : LocalState Model) : Except LoadError Model × LocalState Model :=
  let (result, cache, loader) :=
    LruCache.call (load settings backends) (modelKey settings) (state.cache, state.loader)
  (result, ⟨cache, loader⟩)

/-- An exception of the package: the last `except` clauses of `complete_local`. -/
def packageError (raiseOnError : Bool) (error : CreateError) : Except CreateError (Option Text) :=
  if error.kind = .other then .error error else .ok (told raiseOnError localUnavailable)

/-- A content behind the notice that is kept for its model. -/
def withNotice (notice : Option Text) (content : Text) : Text :=
  match notice with
  | none => content
  | some notice => if notice.isEmpty then content else notice ++ "\n\n".toList ++ content

/-- The reply of a model that is loaded. -/
def answer (completion : Completion) (raiseOnError : Bool) (model : Model)
    (state : LocalState Model) : Except CreateError (Option Text) × LocalState Model :=
  match backends.createChatCompletion model completion with
  | .error error => (packageError raiseOnError error, state)
  | .ok result =>
      match extractLlamaCppContent result with
      | .error error => (.error error, state)
      | .ok none => (.ok (some emptyResponse), state)
      | .ok (some content) =>
          let (notice, notices) := popContextLoadNotice state.loader.notices settings.llmModelPath
          (.ok (some (withNotice notice content)),
            { state with loader := { state.loader with notices } })

/-- The options that the settings stand in for. -/
def resolved (completion : Completion) : Completion where
  messages := completion.messages
  maxTokens := some (completion.maxTokens.getD settings.llmMaxTokens)
  temperature := some (completion.temperature.getD settings.llmTemperature)

def completeLocal (completion : Completion) (raiseOnError : Bool) (state : LocalState Model) :
    Except CreateError (Option Text) × LocalState Model :=
  if settings.llmModelPath.isEmpty then (.ok (told raiseOnError localUnavailable), state)
  else
    match loadLocalModel settings backends state with
    | (.error (.localModelLoadError message), state) => (.ok (told raiseOnError message), state)
    | (.error (.create error), state) => (packageError raiseOnError error, state)
    | (.ok model, state) =>
        answer settings backends (resolved settings completion) raiseOnError model state

def messageJson (message : String × Text) : Json :=
  .obj [("role".toList, .str message.1.toList), ("content".toList, .str message.2)]

/-- The numbers of a request, from the options or the settings. -/
def maxTokensJson (completion : Completion) : Json :=
  .int (completion.maxTokens.getD settings.llmMaxTokens)

def temperatureJson (completion : Completion) : Json :=
  .float (completion.temperature.getD settings.llmTemperature)

def ollamaPayload (completion : Completion) : JsonObject :=
  [("model".toList, .str settings.llmModel),
   ("messages".toList, .arr (completion.messages.map messageJson)),
   ("stream".toList, .bool false),
   ("options".toList,
     .obj [("num_predict".toList, maxTokensJson settings completion),
       ("temperature".toList, temperatureJson settings completion)])]

def llamaCppServerPayload (completion : Completion) : JsonObject :=
  [("model".toList, .str settings.llmModel),
   ("messages".toList, .arr (completion.messages.map messageJson)),
   ("stream".toList, .bool false),
   ("max_tokens".toList, maxTokensJson settings completion),
   ("temperature".toList, temperatureJson settings completion)]

/-- `post_json` and the reading of its response: none where the server gives none. -/
def completeRemote (path : String) (payload : JsonObject)
    (extract : Json → Except CreateError (Option Text)) : Except CreateError (Option Text) :=
  match backends.post (settings.llmBaseUrl ++ path.toList) payload settings.llmTimeoutSeconds with
  | .error .httpError => .ok none
  | .error (.other error) => .error error
  | .ok response => do
      let data ← response
      return some ((← extract data).getD emptyResponse)

def completeOllama (completion : Completion) : Except CreateError (Option Text) :=
  completeRemote settings backends "/api/chat" (ollamaPayload settings completion)
    extractOllamaContent

def completeLlamaCppServer (completion : Completion) : Except CreateError (Option Text) :=
  completeRemote settings backends "/v1/chat/completions"
    (llamaCppServerPayload settings completion) extractLlamaCppContent

/-- `complete_auto`: the first of the three that has a reply. -/
def completeAuto (completion : Completion) (state : LocalState Model) :
    Except CreateError Text × LocalState Model :=
  match completeLocal settings backends completion false state with
  | (.error error, state) => (.error error, state)
  | (.ok (some content), state) => (.ok content, state)
  | (.ok none, state) =>
      (do
        match ← completeOllama settings backends completion with
        | some content => return content
        | none =>
            match ← completeLlamaCppServer settings backends completion with
            | some content => return content
            | none => return unavailableMessage, state)

/-- `content or unavailable_message()`. -/
def orUnavailable (content : Option Text) : Text :=
  match content with
  | some content => if content.isEmpty then unavailableMessage else content
  | none => unavailableMessage

/-- `LocalLLMClient.complete`. -/
def complete (completion : Completion) (state : LocalState Model) :
    Except CreateError Text × LocalState Model :=
  match settings.llmProvider with
  | .local =>
      let (result, state) := completeLocal settings backends completion true state
      (result.map orUnavailable, state)
  | .ollama => ((completeOllama settings backends completion).map orUnavailable, state)
  | .llamaCpp | .llamaCppServer =>
      ((completeLlamaCppServer settings backends completion).map orUnavailable, state)
  | .auto => completeAuto settings backends completion state

end Complete

end NanoCore.Llm.Providers
