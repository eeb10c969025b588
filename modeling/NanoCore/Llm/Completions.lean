import NanoCore.Foundation.Exceptions
import NanoCore.Llm.Providers

namespace NanoCore.Llm.Completions

open NanoCore.Foundation.CachedCalls
open NanoCore.Foundation.Exceptions
open NanoCore.Foundation.JsonText
open NanoCore.Foundation.PythonText
open NanoCore.Foundation.Runs
open NanoCore.Llm.ContextSizing
open NanoCore.Llm.ModelLoading
open NanoCore.Llm.Providers

variable {Model : Type} {settings : LlmSettings} {backends : Backends Model}
  {completion : Completion} {state : LocalState Model} {text : Text}

theorem hasInk_localUnavailable : HasInk localUnavailable := ⟨'L', by decide +kernel, by decide⟩

theorem hasInk_unavailableMessage : HasInk unavailableMessage := ⟨'L', by decide +kernel, by decide⟩

theorem hasInk_emptyResponse : HasInk emptyResponse := ⟨'L', by decide +kernel, by decide⟩

theorem hasInk_contentText {content : Option Json} (h : contentText content = some text) :
    HasInk text := by
  unfold contentText at h
  split at h
  · split at h
    · cases h
    · rename_i hstrip
      cases h
      exact hasInk_iff.mpr fun hempty => hstrip (List.isEmpty_iff.mpr hempty)
  · cases h

theorem hasInk_messageContent {holder : JsonObject} (h : messageContent holder = some text) :
    HasInk text := by
  rw [messageContent] at h
  split at h
  · exact hasInk_contentText h
  · cases h

theorem hasInk_extractOllamaContent {data : Json}
    (h : extractOllamaContent data = .ok (some text)) : HasInk text := by
  cases data with
  | obj data => exact hasInk_messageContent (Except.ok.inj h)
  | _ => cases h

theorem hasInk_extractLlamaCppContent {data : Json}
    (h : extractLlamaCppContent data = .ok (some text)) : HasInk text := by
  cases data with
  | obj data =>
      rcases Option.or_eq_some_iff.mp (Except.ok.inj h) with hfirst | ⟨-, hcontent⟩
      · rw [firstChoiceContent] at hfirst
        split at hfirst
        · exact hasInk_messageContent hfirst
        · cases hfirst
      · exact hasInk_contentText hcontent
  | _ => cases h

theorem hasInk_withNotice (h : HasInk text) (notice : Option Text) :
    HasInk (withNotice notice text) := by
  unfold Providers.withNotice
  split
  · exact h
  · split
    · exact h
    · exact h.append_right _

theorem hasInk_loadErrorMessage (modelPath : Text) (after : Readings) (sizes : List Int)
    (errors : List Text) : HasInk (loadErrorMessage modelPath after sizes errors) := by
  rw [loadErrorMessage]
  refine HasInk.strip ⟨'L', ?_, by decide⟩
  simp only [List.append_assoc]
  exact List.mem_append_left _ (by decide +kernel)

section Load

variable {llama : LlamaClass Model} {modelPath : Text} {requested : Int}

variable (llama modelPath requested) in
/-- How the loop over the sizes can end, and what it does to the notices. -/
theorem tryContextSizes_cases (sizes : List Int) (errors : List Text) (failed : Bool)
    (s : Loader) :
    (∃ model size failed', (tryContextSizes llama modelPath requested sizes errors failed s).1 =
        .ok (.inl (model, size)) ∧ createLlamaModel llama modelPath size = .ok model ∧
      (tryContextSizes llama modelPath requested sizes errors failed s).2.notices =
        noticesAfterLoad modelPath requested s.notices size failed') ∨
    ((∀ result, (tryContextSizes llama modelPath requested sizes errors failed s).1 ≠
        .ok (.inl result)) ∧
      (∀ e, (tryContextSizes llama modelPath requested sizes errors failed s).1 = .error e →
        ∃ size, createLlamaModel llama modelPath size = .error e) ∧
      (tryContextSizes llama modelPath requested sizes errors failed s).2.notices =
        s.notices) := by
  induction sizes generalizing errors failed s with
  | nil => exact .inr ⟨(fun _ h => by cases h), (fun _ h => by cases h), rfl⟩
  | cons size sizes ih =>
      rw [tryContextSizes]
      dsimp only
      cases hcreate : createLlamaModel llama modelPath size with
      | ok model => exact .inl ⟨model, size, failed, rfl, hcreate, rfl⟩
      | error error =>
          dsimp only
          split
          · exact ih _ _ _
          · refine .inr ⟨(fun _ h => by cases h), fun e he => ⟨size, ?_⟩, rfl⟩
            cases he
            exact hcreate

variable (llama modelPath requested) in
theorem loadLocalModelUncached_cases (before after : Readings) (s : Loader) :
    (∃ model size failed, (loadLocalModelUncached llama modelPath requested before after s).1 =
        .ok (model, size) ∧ createLlamaModel llama modelPath size = .ok model ∧
      (loadLocalModelUncached llama modelPath requested before after s).2.notices =
        noticesAfterLoad modelPath requested s.notices size failed) ∨
    (∃ e, (loadLocalModelUncached llama modelPath requested before after s).1 = .error e ∧
      (∀ message, e = .localModelLoadError message → HasInk message) ∧
      (∀ error, e = .create error →
        ∃ size, createLlamaModel llama modelPath size = .error error) ∧
      (loadLocalModelUncached llama modelPath requested before after s).2.notices =
        s.notices) := by
  have hcases := tryContextSizes_cases llama modelPath requested
    (contextSizesToTry before.modelBytes before.memory requested) [] false s
  rw [loadLocalModelUncached]
  generalize tryContextSizes llama modelPath requested _ [] false s = done at hcases
  obtain ⟨result, after⟩ := done
  rcases hcases with ⟨model, size, failed, hresult, hcreate, hnotices⟩ |
    ⟨hnone, herror, hnotices⟩
  · cases hresult
    exact .inl ⟨model, size, failed, rfl, hcreate, hnotices⟩
  · right
    cases result with
    | error error =>
        refine ⟨_, rfl, (fun _ h => by cases h), fun e he => ?_, hnotices⟩
        cases he
        exact herror _ rfl
    | ok result =>
        cases result with
        | inl loaded => exact absurd rfl (hnone loaded)
        | inr errors =>
            refine ⟨_, rfl, fun message hmessage => ?_, (fun _ h => by cases h), hnotices⟩
            cases hmessage
            exact hasInk_loadErrorMessage _ _ _ _

end Load

section Call

variable (settings backends completion state)

/-- What a load leaves behind. -/
theorem load_cases (loader : Loader) :
    (∃ model size failed, (load settings backends loader).1 = .ok model ∧
      createLlamaModel backends.llama settings.llmModelPath size = .ok model ∧
      (load settings backends loader).2.notices =
        noticesAfterLoad settings.llmModelPath settings.llmContextSize loader.notices size
          failed) ∨
    ∃ e, (load settings backends loader).1 = .error e ∧
      (∀ message, e = .localModelLoadError message → HasInk message) ∧
      (∀ error, e = .create error → ∃ size,
        createLlamaModel backends.llama settings.llmModelPath size = .error error) ∧
      (load settings backends loader).2.notices = loader.notices := by
  have hcases := loadLocalModelUncached_cases backends.llama settings.llmModelPath
    settings.llmContextSize backends.before backends.after loader
  rw [load]
  generalize loadLocalModelUncached backends.llama settings.llmModelPath settings.llmContextSize
    backends.before backends.after loader = done at hcases
  obtain ⟨result, after⟩ := done
  rcases hcases with ⟨model, size, failed, hresult, hcreate, hnotices⟩ |
    ⟨e, hresult, hink, hcreate, hnotices⟩
  · cases hresult
    exact .inl ⟨model, size, failed, rfl, hcreate, hnotices⟩
  · cases hresult
    exact .inr ⟨e, rfl, hink, hcreate, hnotices⟩

/-- A model comes from the cache, or with a load, or not at all. -/
theorem loadLocalModel_cases :
    (∃ model, state.cache.get? (modelKey settings) = some model ∧
      loadLocalModel settings backends state =
        (.ok model, ⟨state.cache.put (modelKey settings) model, state.loader⟩)) ∨
    (state.cache.get? (modelKey settings) = none ∧ ∃ model size failed loader,
      loadLocalModel settings backends state =
        (.ok model, ⟨state.cache.put (modelKey settings) model, loader⟩) ∧
      createLlamaModel backends.llama settings.llmModelPath size = .ok model ∧
      loader.notices = noticesAfterLoad settings.llmModelPath settings.llmContextSize
        state.loader.notices size failed) ∨
    (state.cache.get? (modelKey settings) = none ∧ ∃ e loader,
      loadLocalModel settings backends state = (.error e, ⟨state.cache, loader⟩) ∧
      loader.notices = state.loader.notices ∧
      (∀ message, e = .localModelLoadError message → HasInk message) ∧
      ∀ error, e = .create error → ∃ size,
        createLlamaModel backends.llama settings.llmModelPath size = .error error) := by
  obtain ⟨cache, loader⟩ := state
  rw [loadLocalModel]
  dsimp only
  cases hcached : cache.get? (modelKey settings) with
  | some model =>
      rw [LruCache.call_of_some hcached]
      exact .inl ⟨model, rfl, rfl⟩
  | none =>
      right
      rcases load_cases settings backends loader with
        ⟨model, size, failed, hok, hcreate, hnotices⟩ | ⟨e, herror, hink, hcreate, hnotices⟩
      · rw [LruCache.call_of_ok hcached hok]
        exact .inl ⟨rfl, model, size, failed, _, rfl, hcreate, hnotices⟩
      · rw [LruCache.call_of_error hcached herror]
        exact .inr ⟨rfl, e, _, rfl, hnotices, hink, hcreate⟩

/-- The content that a model gives, if it does. -/
def modelContent (model : Model) : Option Text :=
  match backends.createChatCompletion model (resolved settings completion) with
  | .ok result => (extractLlamaCppContent result).toOption.join
  | .error _ => none

/-- The notice of the model that is used is told. -/
def LocalState.told (state : LocalState Model) : LocalState Model :=
  { state with
    loader :=
      { state.loader with
        notices := Function.update state.loader.notices settings.llmModelPath none } }

variable {settings backends completion state} {model : Model} {raiseOnError : Bool}
  {content : Text}

theorem hasInk_told {message : Text} (hink : HasInk message)
    (h : Providers.told raiseOnError message = some text) : HasInk text := by
  rw [Providers.told] at h
  split at h
  · cases h
    exact hink
  · cases h

theorem hasInk_packageError {error : CreateError}
    (h : packageError raiseOnError error = .ok (some text)) : HasInk text := by
  rw [packageError] at h
  split at h
  · cases h
  · exact hasInk_told hasInk_localUnavailable (Except.ok.inj h)

theorem hasInk_modelContent (h : modelContent settings backends completion model = some content) :
    HasInk content := by
  unfold modelContent at h
  split at h
  · rename_i result hresult
    cases hextract : extractLlamaCppContent result with
    | error e =>
        rw [hextract] at h
        cases h
    | ok extracted =>
        rw [hextract] at h
        have hsome : extracted = some content := h
        exact hasInk_extractLlamaCppContent (hextract.trans (congrArg Except.ok hsome))
  · cases h

theorem answer_of_content (h : modelContent settings backends completion model = some content) :
    answer settings backends (resolved settings completion) raiseOnError model state =
      (.ok (some (withNotice (state.loader.notices settings.llmModelPath) content)),
        LocalState.told settings state) := by
  unfold modelContent at h
  unfold answer
  split at h
  · rename_i result hresult
    rw [hresult]
    dsimp only
    cases hextract : extractLlamaCppContent result with
    | error e =>
        rw [hextract] at h
        cases h
    | ok extracted =>
        rw [hextract] at h
        have hsome : extracted = some content := h
        rw [hsome]
        rfl
  · cases h

theorem answer_of_no_content (h : modelContent settings backends completion model = none) :
    (answer settings backends (resolved settings completion) raiseOnError model state).2 = state ∧
      ∀ text, (answer settings backends (resolved settings completion) raiseOnError model
        state).1 = .ok (some text) → HasInk text := by
  unfold modelContent at h
  unfold answer
  split at h
  · rename_i result hresult
    rw [hresult]
    dsimp only
    cases hextract : extractLlamaCppContent result with
    | error e => exact ⟨rfl, nofun⟩
    | ok extracted =>
        rw [hextract] at h
        have hnone : extracted = none := h
        rw [hnone]
        refine ⟨rfl, fun text htext => ?_⟩
        cases htext
        exact hasInk_emptyResponse
  · rename_i error herror
    rw [herror]
    exact ⟨rfl, fun text htext => hasInk_packageError htext⟩

theorem hasInk_answer (h : (answer settings backends (resolved settings completion) raiseOnError
    model state).1 = .ok (some text)) : HasInk text := by
  cases hcontent : modelContent settings backends completion model with
  | none => exact (answer_of_no_content hcontent).2 text h
  | some content =>
      rw [answer_of_content hcontent] at h
      cases h
      exact hasInk_withNotice (hasInk_modelContent hcontent) _

theorem hasInk_completeLocal
    (h : (completeLocal settings backends completion raiseOnError state).1 = .ok (some text)) :
    HasInk text := by
  rw [completeLocal] at h
  split at h
  · exact hasInk_told hasInk_localUnavailable (Except.ok.inj h)
  · rcases loadLocalModel_cases settings backends state with
      ⟨model, -, hload⟩ | ⟨-, model, size, failed, loader, hload, -⟩ |
        ⟨-, e, loader, hload, -, hink, -⟩
    · rw [hload] at h
      exact hasInk_answer h
    · rw [hload] at h
      exact hasInk_answer h
    · rw [hload] at h
      cases e with
      | create error => exact hasInk_packageError h
      | localModelLoadError message => exact hasInk_told (hink message rfl) (Except.ok.inj h)

theorem hasInk_completeRemote {path : String} {payload : JsonObject}
    {extract : Json → Except CreateError (Option Text)}
    (hextract : ∀ data text, extract data = .ok (some text) → HasInk text)
    (h : completeRemote settings backends path payload extract = .ok (some text)) :
    HasInk text := by
  rw [completeRemote] at h
  split at h
  · cases h
  · cases h
  · obtain ⟨data, -, h⟩ := bind_eq_ok_iff.mp h
    obtain ⟨found, hfound, h⟩ := bind_eq_ok_iff.mp h
    cases h
    cases found with
    | none => exact hasInk_emptyResponse
    | some content => exact hextract data content hfound

theorem hasInk_orUnavailable {reply : Option Text} (h : ∀ text, reply = some text → HasInk text) :
    HasInk (orUnavailable reply) := by
  cases reply with
  | none => exact hasInk_unavailableMessage
  | some text =>
      rw [orUnavailable]
      split
      · exact hasInk_unavailableMessage
      · exact h text rfl

theorem hasInk_map_orUnavailable {result : Except CreateError (Option Text)}
    (hink : ∀ text, result = .ok (some text) → HasInk text)
    (h : result.map orUnavailable = .ok text) : HasInk text := by
  cases result with
  | error e => cases h
  | ok reply =>
      cases h
      exact hasInk_orUnavailable fun text htext => hink text (congrArg Except.ok htext)

theorem hasInk_completeOllama (h : completeOllama settings backends completion = .ok (some text)) :
    HasInk text :=
  hasInk_completeRemote (fun _ _ => hasInk_extractOllamaContent) h

theorem hasInk_completeLlamaCppServer
    (h : completeLlamaCppServer settings backends completion = .ok (some text)) : HasInk text :=
  hasInk_completeRemote (fun _ _ => hasInk_extractLlamaCppContent) h

theorem hasInk_completeAuto
    (h : (completeAuto settings backends completion state).1 = .ok text) : HasInk text := by
  rw [completeAuto] at h
  split at h
  · cases h
  · rename_i content after hlocal
    cases h
    exact hasInk_completeLocal (congrArg Prod.fst hlocal)
  · obtain ⟨found, hollama, h⟩ := bind_eq_ok_iff.mp h
    cases found with
    | some content =>
        cases h
        exact hasInk_completeOllama hollama
    | none =>
        obtain ⟨found, hserver, h⟩ := bind_eq_ok_iff.mp h
        cases found with
        | some content =>
            cases h
            exact hasInk_completeLlamaCppServer hserver
        | none => exact Except.ok.inj h ▸ hasInk_unavailableMessage

theorem hasInk_complete (h : (complete settings backends completion state).1 = .ok text) :
    HasInk text := by
  rw [complete] at h
  cases hprovider : settings.llmProvider with
  | «local» =>
      rw [hprovider] at h
      exact hasInk_map_orUnavailable (fun _ => hasInk_completeLocal) h
  | auto =>
      rw [hprovider] at h
      exact hasInk_completeAuto h
  | ollama =>
      rw [hprovider] at h
      exact hasInk_map_orUnavailable (fun _ => hasInk_completeOllama) h
  | llamaCpp =>
      rw [hprovider] at h
      exact hasInk_map_orUnavailable (fun _ => hasInk_completeLlamaCppServer) h
  | llamaCppServer =>
      rw [hprovider] at h
      exact hasInk_map_orUnavailable (fun _ => hasInk_completeLlamaCppServer) h

/-- The package raises what it documents, and gives dictionaries; a server that does not
answer with a dictionary answers with an HTTP error. -/
structure Behaves (backends : Backends Model) : Prop where
  create : ∀ modelPath size e, createLlamaModel backends.llama modelPath size = .error e →
    e.kind ≠ .other
  chat : ∀ model completion,
    (∃ data, backends.createChatCompletion model completion = .ok (.obj data)) ∨
      ∃ e, backends.createChatCompletion model completion = .error e ∧ e.kind ≠ .other
  post : ∀ url payload timeout, backends.post url payload timeout = .error .httpError ∨
    ∃ data, backends.post url payload timeout = .ok (.ok (.obj data))

theorem packageError_ok {error : CreateError} (h : error.kind ≠ .other) :
    ∃ found, packageError raiseOnError error = .ok found :=
  ⟨_, if_neg h⟩

theorem extractLlamaCppContent_obj (data : JsonObject) :
    ∃ found, extractLlamaCppContent (.obj data) = .ok found := ⟨_, rfl⟩

theorem map_orUnavailable_ok {result : Except CreateError (Option Text)}
    (hok : ∃ found, result = .ok found) : ∃ text, result.map orUnavailable = .ok text := by
  obtain ⟨found, rfl⟩ := hok
  exact ⟨_, rfl⟩

section Behaves

variable (settings completion state)

variable (h : Behaves backends)

include h

theorem answer_ok (options : Completion) (raiseOnError : Bool) (model : Model) :
    ∃ found, (answer settings backends options raiseOnError model state).1 = .ok found := by
  rw [answer]
  rcases h.chat model options with ⟨data, hdata⟩ | ⟨e, he, hkind⟩
  · rw [hdata]
    obtain ⟨found, hfound⟩ := extractLlamaCppContent_obj data
    dsimp only
    rw [hfound]
    cases found with
    | none => exact ⟨_, rfl⟩
    | some content => exact ⟨_, rfl⟩
  · rw [he]
    exact packageError_ok hkind

theorem completeLocal_ok (raiseOnError : Bool) :
    ∃ found, (completeLocal settings backends completion raiseOnError state).1 = .ok found := by
  rw [completeLocal]
  split
  · exact ⟨_, rfl⟩
  · rcases loadLocalModel_cases settings backends state with
      ⟨model, -, hload⟩ | ⟨-, model, size, failed, loader, hload, -⟩ |
        ⟨-, e, loader, hload, -, -, hcreate⟩
    · rw [hload]
      exact answer_ok settings _ h _ raiseOnError model
    · rw [hload]
      exact answer_ok settings _ h _ raiseOnError model
    · rw [hload]
      cases e with
      | localModelLoadError message => exact ⟨_, rfl⟩
      | create error =>
          obtain ⟨size, hsize⟩ := hcreate error rfl
          exact packageError_ok (h.create _ _ _ hsize)

theorem completeRemote_ok {path : String} {payload : JsonObject}
    {extract : Json → Except CreateError (Option Text)}
    (hextract : ∀ data, ∃ found, extract (.obj data) = .ok found) :
    ∃ found, completeRemote settings backends path payload extract = .ok found := by
  rw [completeRemote]
  rcases h.post (settings.llmBaseUrl ++ path.toList) payload settings.llmTimeoutSeconds with
    hpost | ⟨data, hpost⟩
  · rw [hpost]
    exact ⟨_, rfl⟩
  · rw [hpost]
    obtain ⟨found, hfound⟩ := hextract data
    exact ⟨_, bind_eq_ok_iff.mpr ⟨_, rfl, bind_eq_ok_iff.mpr ⟨found, hfound, rfl⟩⟩⟩

theorem completeOllama_ok : ∃ found, completeOllama settings backends completion = .ok found :=
  completeRemote_ok settings h fun _ => ⟨_, rfl⟩

theorem completeLlamaCppServer_ok :
    ∃ found, completeLlamaCppServer settings backends completion = .ok found :=
  completeRemote_ok settings h extractLlamaCppContent_obj

theorem completeAuto_ok :
    ∃ text, (completeAuto settings backends completion state).1 = .ok text := by
  obtain ⟨found, hlocal⟩ := completeLocal_ok settings completion state h false
  rw [completeAuto]
  rcases hdone : completeLocal settings backends completion false state with ⟨result, after⟩
  rw [hdone] at hlocal
  cases hlocal
  cases found with
  | some content => exact ⟨content, rfl⟩
  | none =>
      obtain ⟨found, hollama⟩ := completeOllama_ok settings completion h
      dsimp only
      rw [hollama]
      cases found with
      | some content => exact ⟨content, rfl⟩
      | none =>
          obtain ⟨found, hserver⟩ := completeLlamaCppServer_ok settings completion h
          rw [hserver]
          cases found with
          | some content => exact ⟨content, rfl⟩
          | none => exact ⟨unavailableMessage, rfl⟩

theorem complete_ok : ∃ text, (complete settings backends completion state).1 = .ok text := by
  rw [complete]
  cases hprovider : settings.llmProvider with
  | «local» => exact map_orUnavailable_ok (completeLocal_ok settings completion state h true)
  | auto => exact completeAuto_ok settings completion state h
  | ollama => exact map_orUnavailable_ok (completeOllama_ok settings completion h)
  | llamaCpp => exact map_orUnavailable_ok (completeLlamaCppServer_ok settings completion h)
  | llamaCppServer =>
      exact map_orUnavailable_ok (completeLlamaCppServer_ok settings completion h)

/-- Whatever the provider, a completion has a reply, and the reply is not blank. -/
theorem reply_hasInk : ∃ text, (complete settings backends completion state).1 = .ok text ∧
    HasInk text := by
  obtain ⟨text, htext⟩ := complete_ok settings completion state h
  exact ⟨text, htext, hasInk_complete htext⟩

end Behaves

/-- A machine whose memory allows a window of 4096 tokens, and a model that says hello. -/
def smallMachine : Backends Unit where
  before := ⟨none, none, none⟩
  after := ⟨none, none, none⟩
  llama := some fun _ size =>
    if size ≤ 4096 then .ok () else .error ⟨.valueError, "Failed to create context".toList⟩
  createChatCompletion := fun _ _ =>
    .ok (.obj [("choices".toList, .arr [.obj [("message".toList,
      .obj [("role".toList, .str "assistant".toList),
        ("content".toList, .str "Hello.".toList)])]])])
  post := fun _ _ _ => .error .httpError

theorem behaves_smallMachine : Behaves smallMachine where
  create := by
    intro modelPath size e he
    simp only [smallMachine, createLlamaModel] at he
    split at he
    · cases he
    · cases he
      decide
  chat := fun _ _ => .inl ⟨_, rfl⟩
  post := fun _ _ _ => .inl rfl

def defaultSettings : LlmSettings := { llmTemperature := FloatText.zero }

def greeting : Completion := { messages := [("user", "hi".toList)] }

theorem reply_hasInk_smallMachine :
    ∃ text, (complete { defaultSettings with llmProvider := .auto } smallMachine greeting
      (LocalState.initial Unit)).1 = .ok text ∧ HasInk text :=
  reply_hasInk { defaultSettings with llmProvider := .auto } greeting (LocalState.initial Unit)
    behaves_smallMachine

/-- The provider asks the local model, and there is a path to one. -/
def AsksLocal (settings : LlmSettings) : Prop :=
  (settings.llmProvider = .local ∨ settings.llmProvider = .auto) ∧
    ¬ settings.llmModelPath.isEmpty = true

theorem state_of_not_asksLocal (h : ¬ AsksLocal settings) :
    (complete settings backends completion state).2 = state := by
  have hlocal (raiseOnError : Bool)
      (hprovider : settings.llmProvider = .local ∨ settings.llmProvider = .auto) :
      completeLocal settings backends completion raiseOnError state =
        (.ok (Providers.told raiseOnError localUnavailable), state) := by
    have hempty : settings.llmModelPath.isEmpty = true := by
      by_contra hpath
      exact h ⟨hprovider, hpath⟩
    rw [completeLocal, if_pos hempty]
  rw [complete]
  cases hprovider : settings.llmProvider with
  | «local» => rw [hlocal true (.inl hprovider)]
  | auto =>
      dsimp only
      rw [completeAuto, hlocal false (.inr hprovider)]
      rfl
  | ollama => rfl
  | llamaCpp => rfl
  | llamaCppServer => rfl

/-- The completion is the one of the local model. -/
theorem complete_of_local (h : AsksLocal settings) {reply : Text} {after : LocalState Model}
    (hink : HasInk reply)
    (hlocal : ∀ raiseOnError,
      completeLocal settings backends completion raiseOnError state = (.ok (some reply), after)) :
    complete settings backends completion state = (.ok reply, after) := by
  rw [complete]
  obtain ⟨hprovider | hprovider, -⟩ := h
  · rw [hprovider]
    dsimp only
    rw [hlocal true]
    obtain ⟨c, hc, -⟩ := hink
    have hne : ¬ reply.isEmpty = true := fun hempty =>
      List.not_mem_nil (List.isEmpty_iff.mp hempty ▸ hc)
    exact Prod.ext (congrArg Except.ok (if_neg hne)) rfl
  · rw [hprovider]
    dsimp only
    rw [completeAuto, hlocal false]

theorem state_of_local (h : AsksLocal settings) {after : LocalState Model}
    (hlocal : ∀ raiseOnError,
      (completeLocal settings backends completion raiseOnError state).2 = after) :
    (complete settings backends completion state).2 = after := by
  rw [complete]
  obtain ⟨hprovider | hprovider, -⟩ := h
  · rw [hprovider]
    exact hlocal true
  · rw [hprovider]
    dsimp only
    rw [completeAuto, ← hlocal false]
    split <;> rename_i heq <;> rw [heq]

theorem completeLocal_of_loaded (h : AsksLocal settings) {loaded : LocalState Model}
    (hload : loadLocalModel settings backends state = (.ok model, loaded)) :
    completeLocal settings backends completion raiseOnError state =
      answer settings backends (resolved settings completion) raiseOnError model loaded := by
  rw [completeLocal, if_neg h.2, hload]

theorem complete_of_content (h : AsksLocal settings) {loaded : LocalState Model}
    (hload : loadLocalModel settings backends state = (.ok model, loaded))
    (hcontent : modelContent settings backends completion model = some content) :
    complete settings backends completion state =
      (.ok (withNotice (loaded.loader.notices settings.llmModelPath) content),
        LocalState.told settings loaded) := by
  have hink := hasInk_withNotice (hasInk_modelContent hcontent)
    (loaded.loader.notices settings.llmModelPath)
  refine complete_of_local h hink fun raiseOnError => ?_
  rw [completeLocal_of_loaded h hload, answer_of_content hcontent]

theorem state_of_no_content (h : AsksLocal settings) {loaded : LocalState Model}
    (hload : loadLocalModel settings backends state = (.ok model, loaded))
    (hcontent : modelContent settings backends completion model = none) :
    (complete settings backends completion state).2 = loaded := by
  refine state_of_local h fun raiseOnError => ?_
  rw [completeLocal_of_loaded h hload]
  exact (answer_of_no_content hcontent).1

theorem state_of_load_error (h : AsksLocal settings) {e : LoadError} {loaded : LocalState Model}
    (hload : loadLocalModel settings backends state = (.error e, loaded)) :
    (complete settings backends completion state).2 = loaded := by
  refine state_of_local h fun raiseOnError => ?_
  rw [completeLocal, if_neg h.2, hload]
  cases e <;> rfl

end Call

structure Call (Model : Type) where
  settings : LlmSettings
  backends : Backends Model
  completion : Completion

namespace Call

variable (call : Call Model) (state : LocalState Model)

def reply : Except CreateError Text :=
  (complete call.settings call.backends call.completion state).1

def load : Except LoadError Model × LocalState Model :=
  loadLocalModel call.settings call.backends state

/-- The content that the call gets of a model. -/
def content (model : Model) : Option Text :=
  modelContent call.settings call.backends call.completion model

def key : Text × Int := modelKey call.settings

/-- The call asks the local model of a key. -/
structure Asks (key : Text × Int) : Prop where
  asksLocal : AsksLocal call.settings
  key_eq : call.key = key

end Call

def step (state : LocalState Model) (call : Call Model) : LocalState Model :=
  (complete call.settings call.backends call.completion state).2

section Notices

variable {requested size : Int} {failed : Bool} {notices : LoadNotices} {modelPath other : Text}

/-- What is kept of a load with a size. -/
def loadNotice (requested size : Int) (failed : Bool) : Option Text :=
  if size < requested then
    some (formatContextDowngradeNotice requested size (if failed then .loadFailure else .memory))
  else none

theorem noticesAfterLoad_self (h : notices modelPath = none) :
    noticesAfterLoad modelPath requested notices size failed modelPath =
      loadNotice requested size failed := by
  by_cases hsize : size < requested
  · rw [noticesAfterLoad_of_lt hsize, loadNotice, if_pos hsize]
  · rw [noticesAfterLoad_of_le (not_lt.mp hsize), loadNotice, if_neg hsize, h]

theorem noticesAfterLoad_of_ne (hne : other ≠ modelPath) :
    noticesAfterLoad modelPath requested notices size failed other = notices other := by
  by_cases hsize : size < requested
  · rw [noticesAfterLoad, if_pos hsize]
    show (if _ then _ else _ : LoadNotices) other = _
    rw [if_neg (formatContextDowngradeNotice_ne_nil hsize _)]
    exact Function.update_of_ne hne _ _
  · rw [noticesAfterLoad_of_le (not_lt.mp hsize)]

end Notices

section Runs

variable {key : Text × Int} {keys : List (Text × Int)} {call : Call Model} {model : Model}
  {content : Text} {notice : Option Text}

/-- The state after a call in terms of its load: the notice of the model is told or not. -/
theorem step_cases (call : Call Model) (state : LocalState Model) :
    (¬ AsksLocal call.settings ∧ step state call = state) ∨
    (AsksLocal call.settings ∧
      ((step state call = LocalState.told call.settings (call.load state).2 ∧
          ∃ model content, (call.load state).1 = .ok model ∧ call.content model = some content ∧
            call.reply state = .ok (withNotice
              ((call.load state).2.loader.notices call.settings.llmModelPath) content)) ∨
        (step state call = (call.load state).2 ∧
          ∀ model, (call.load state).1 = .ok model → call.content model = none))) := by
  by_cases hasks : AsksLocal call.settings
  · right
    refine ⟨hasks, ?_⟩
    rcases hload : call.load state with ⟨result, loaded⟩
    cases result with
    | error e => exact .inr ⟨state_of_load_error hasks hload, nofun⟩
    | ok model =>
        cases hcontent : call.content model with
        | none =>
            refine .inr ⟨state_of_no_content hasks hload hcontent, fun other hother => ?_⟩
            cases hother
            exact hcontent
        | some content =>
            have hcomplete := complete_of_content hasks hload hcontent
            exact .inl ⟨congrArg Prod.snd hcomplete, model, content, rfl, hcontent,
              congrArg Prod.fst hcomplete⟩
  · exact .inl ⟨hasks, state_of_not_asksLocal hasks⟩

theorem cache_told (settings : LlmSettings) (state : LocalState Model) :
    (LocalState.told settings state).cache = state.cache := rfl

/-- A load keeps what is in the cache, and a call does what its load does. -/
theorem Fits.load (h : LruCache.Fits state.cache keys) (hkey : call.key ∈ keys) :
    LruCache.Fits (call.load state).2.cache keys ∧
      (∀ other model, state.cache.get? other = some model →
        (call.load state).2.cache.get? other = some model) ∧
      ∀ model, (call.load state).1 = .ok model →
        (call.load state).2.cache.get? call.key = some model :=
  h.call hkey (Providers.load call.settings call.backends) state.loader

theorem Fits.step (h : LruCache.Fits state.cache keys) (hkey : call.key ∈ keys) :
    LruCache.Fits (step state call).cache keys ∧
      ∀ other model, state.cache.get? other = some model →
        (Completions.step state call).cache.get? other = some model := by
  obtain ⟨hfits, hkept, -⟩ := Fits.load h hkey
  rcases step_cases call state with ⟨-, hsame⟩ | ⟨-, ⟨htold, -⟩ | ⟨hsame, -⟩⟩
  · rw [hsame]
    exact ⟨h, fun _ _ hold => hold⟩
  · rw [htold, cache_told]
    exact ⟨hfits, hkept⟩
  · rw [hsame]
    exact ⟨hfits, hkept⟩

/-- A call that does not ask for the model of a path keeps its notice. -/
theorem notices_step_of_not_asks (hnot : ¬ call.Asks key)
    (hsize : call.key.1 = key.1 → call.key = key) :
    (step state call).loader.notices key.1 = state.loader.notices key.1 := by
  rcases step_cases call state with ⟨-, hsame⟩ | ⟨hasks, hstep⟩
  · rw [hsame]
  · have hne : key.1 ≠ call.settings.llmModelPath := fun heq => hnot ⟨hasks, hsize heq.symm⟩
    have hload : (call.load state).2.loader.notices key.1 = state.loader.notices key.1 := by
      rcases loadLocalModel_cases call.settings call.backends state with
        ⟨model, -, hload⟩ | ⟨-, model, size, failed, loader, hload, -, hnotices⟩ |
          ⟨-, e, loader, hload, hnotices, -⟩
      · rw [Call.load, hload]
      · rw [Call.load, hload]
        dsimp only
        rw [hnotices, noticesAfterLoad_of_ne hne]
      · rw [Call.load, hload]
        dsimp only
        rw [hnotices]
    rcases hstep with ⟨htold, -⟩ | ⟨hsame, -⟩
    · rw [htold]
      exact (Function.update_of_ne hne _ _).trans hload
    · rw [hsame]
      exact hload

/-- The model of a key is loaded, with this notice still to be told. -/
structure Loaded (keys : List (Text × Int)) (key : Text × Int) (model : Model)
    (notice : Option Text) (state : LocalState Model) : Prop where
  fits : LruCache.Fits state.cache keys
  cached : state.cache.get? key = some model
  notice : state.loader.notices key.1 = notice

namespace Loaded

/-- What a call does that finds its model loaded, now or before. -/
theorem of_load {state loaded : LocalState Model} (hasks : call.Asks key)
    (hload : call.load state = (.ok model, loaded)) (h : Loaded keys key model notice loaded) :
    (∀ content, call.content model = some content →
      call.reply state = .ok (withNotice notice content) ∧
        Loaded keys key model none (step state call)) ∧
    (call.content model = none → Loaded keys key model notice (step state call)) ∧
    (step state call).loader.tried = loaded.loader.tried := by
  have hpath : call.settings.llmModelPath = key.1 := congrArg Prod.fst hasks.key_eq
  have hcontent (content : Text) (hcontent : call.content model = some content) :=
    complete_of_content hasks.asksLocal hload hcontent
  have hnone (hcontent : call.content model = none) : step state call = loaded :=
    state_of_no_content hasks.asksLocal hload hcontent
  have htold (content : Text) (h : call.content model = some content) :
      step state call = LocalState.told call.settings loaded :=
    congrArg Prod.snd (hcontent content h)
  refine ⟨fun content hgives => ⟨?_, ?_⟩, fun hgives => ?_, ?_⟩
  · have hreply : call.reply state = _ := congrArg Prod.fst (hcontent content hgives)
    rw [hreply, hpath, h.notice]
  · rw [htold content hgives]
    refine ⟨h.fits, h.cached, ?_⟩
    rw [LocalState.told, hpath]
    exact Function.update_self _ _ _
  · rw [hnone hgives]
    exact h
  · cases hgives : call.content model with
    | none => rw [hnone hgives]
    | some content =>
        rw [htold content hgives]
        rfl

variable (h : Loaded keys key model notice state)

include h

theorem load (hasks : call.Asks key) (hkey : call.key ∈ keys) : ∃ loaded,
    call.load state = (.ok model, loaded) ∧ loaded.loader = state.loader ∧
      Loaded keys key model notice loaded := by
  obtain ⟨hfits, hkept, -⟩ := Fits.load h.fits hkey
  have hthere : state.cache.get? (modelKey call.settings) = some model :=
    (congrArg state.cache.get? hasks.key_eq).trans h.cached
  rcases loadLocalModel_cases call.settings call.backends state with
    ⟨other, hcached, hload⟩ | ⟨hnone, -⟩ | ⟨hnone, -⟩
  · have hother : other = model := Option.some.inj (hcached.symm.trans hthere)
    subst hother
    have hcache : (call.load state).2.cache =
        state.cache.put (modelKey call.settings) other := congrArg (fun r => r.2.cache) hload
    rw [hcache] at hfits hkept
    exact ⟨_, hload, rfl, hfits, hkept _ _ h.cached, h.notice⟩
  · cases hnone.symm.trans hthere
  · cases hnone.symm.trans hthere

theorem step_of_not_asks (hnot : ¬ call.Asks key) (hkey : call.key ∈ keys)
    (hsize : call.key.1 = key.1 → call.key = key) :
    Loaded keys key model notice (step state call) := by
  obtain ⟨hfits, hkept⟩ := Fits.step h.fits hkey
  exact ⟨hfits, hkept _ _ h.cached, (notices_step_of_not_asks hnot hsize).trans h.notice⟩

end Loaded

/-- The model of a key is yet to be loaded. -/
structure Unloaded (keys : List (Text × Int)) (key : Text × Int) (state : LocalState Model) :
    Prop where
  fits : LruCache.Fits state.cache keys
  cached : state.cache.get? key = none
  notice : state.loader.notices key.1 = none

namespace Unloaded

theorem initial (hkeys : keys.length ≤ 8) (key : Text × Int) :
    Unloaded keys key (LocalState.initial Model) :=
  ⟨LruCache.fits_empty hkeys, rfl, rfl⟩

variable (h : Unloaded keys key state)

include h

/-- The load that gives the model. -/
theorem load_ok (hasks : call.Asks key) (hkey : call.key ∈ keys)
    (hload : (call.load state).1 = .ok model) : ∃ size failed loaded,
      createLlamaModel call.backends.llama key.1 size = .ok model ∧
      call.load state = (.ok model, loaded) ∧
      Loaded keys key model (loadNotice key.2 size failed) loaded := by
  have hmodelKey : modelKey call.settings = key := hasks.key_eq
  obtain ⟨hfits, -, hnew⟩ := Fits.load h.fits hkey
  rcases loadLocalModel_cases call.settings call.backends state with
    ⟨other, hcached, -⟩ | ⟨-, other, size, failed, loader, hdone, hcreate, hnotices⟩ |
      ⟨-, e, loader, hdone, -⟩
  · cases hcached.symm.trans ((congrArg state.cache.get? hasks.key_eq).trans h.cached)
  · have hdone' : call.load state = (.ok other, _) := hdone
    rw [hdone'] at hload hfits hnew
    cases hload
    have hcached := hnew model rfl
    rw [hasks.key_eq] at hcached
    refine ⟨size, failed, _, ?_, hdone, hfits, hcached, ?_⟩
    · rw [← hmodelKey]
      exact hcreate
    · dsimp only
      rw [hnotices, ← hmodelKey]
      refine noticesAfterLoad_self ?_
      have hpath : call.settings.llmModelPath = key.1 := congrArg Prod.fst hmodelKey
      rw [hpath]
      exact h.notice
  · rw [Call.load, hdone] at hload
    cases hload

/-- Any other call leaves the model to be loaded. -/
theorem step (hkey : call.key ∈ keys) (hsize : call.key.1 = key.1 → call.key = key)
    (hfails : call.Asks key → ∃ e, (call.load state).1 = .error e) :
    Unloaded keys key (step state call) := by
  obtain ⟨hfits, -⟩ := Fits.step h.fits hkey
  by_cases hasks : call.Asks key
  · obtain ⟨e, he⟩ := hfails hasks
    rcases loadLocalModel_cases call.settings call.backends state with
      ⟨model, -, hdone⟩ | ⟨-, model, size, failed, loader, hdone, -⟩ |
        ⟨-, e', loader, hdone, hnotices, -⟩
    · rw [Call.load, hdone] at he
      cases he
    · rw [Call.load, hdone] at he
      cases he
    · have hstep : Completions.step state call = ⟨state.cache, loader⟩ :=
        state_of_load_error hasks.asksLocal hdone
      rw [hstep]
      refine ⟨h.fits, h.cached, ?_⟩
      dsimp only
      rw [hnotices]
      exact h.notice
  · refine ⟨hfits, ?_, (notices_step_of_not_asks hasks hsize).trans h.notice⟩
    rcases step_cases call state with ⟨-, hsame⟩ | ⟨hlocal, hstep⟩
    · rw [hsame]
      exact h.cached
    · have hne : key ≠ call.key := fun heq => hasks ⟨hlocal, heq.symm⟩
      have hload : (call.load state).2.cache.get? key = none := by
        rcases loadLocalModel_cases call.settings call.backends state with
          ⟨model, -, hdone⟩ | ⟨-, model, size, failed, loader, hdone, -⟩ |
            ⟨-, e, loader, hdone, -⟩
        · rw [Call.load, hdone]
          exact (h.fits.get?_put hkey model key).trans ((if_neg hne).trans h.cached)
        · rw [Call.load, hdone]
          exact (h.fits.get?_put hkey model key).trans ((if_neg hne).trans h.cached)
        · rw [Call.load, hdone]
          exact h.cached
      rcases hstep with ⟨htold, -⟩ | ⟨hsame, -⟩
      · rw [htold, cache_told]
        exact hload
      · rw [hsame]
        exact hload

end Unloaded

/-- No call from `j` on and before `i` has had a content of the model. -/
def Quiet (calls : List (Call Model)) (key : Text × Int) (model : Model) (j i : Nat) : Prop :=
  ∀ k call, j ≤ k → k < i → calls[k]? = some call → call.Asks key → call.content model = none

/-- What is still to be told of the notice before call `i`. -/
structure Pending (calls : List (Call Model)) (key : Text × Int) (model : Model)
    (notice : Option Text) (j i : Nat) (pending : Option Text) : Prop where
  of_quiet : Quiet calls key model j i → pending = notice
  of_not_quiet : ¬ Quiet calls key model j i → pending = none

section Run

variable {calls : List (Call Model)} {i j : Nat}

theorem quiet_self : Quiet calls key model j j :=
  fun _ _ hj hlt => absurd hj (Nat.not_le.mpr hlt)

theorem quiet_succ_iff (hji : j ≤ i) (hcall : calls[i]? = some call) :
    Quiet calls key model j (i + 1) ↔
      Quiet calls key model j i ∧ (call.Asks key → call.content model = none) := by
  constructor
  · intro h
    exact ⟨fun k other hj hk => h k other hj (Nat.lt_succ_of_lt hk),
      h i call hji (Nat.lt_succ_self i) hcall⟩
  · rintro ⟨h, hnow⟩ k other hj hk hother
    rcases Nat.lt_succ_iff_lt_or_eq.mp hk with hk | rfl
    · exact h k other hj hk hother
    · cases hcall.symm.trans hother
      exact hnow

theorem quiet_succ_of_none (hcall : calls[i]? = none) :
    Quiet calls key model j (i + 1) ↔ Quiet calls key model j i := by
  constructor
  · exact fun h k other hj hk => h k other hj (Nat.lt_succ_of_lt hk)
  · intro h k other hj hk hother
    rcases Nat.lt_succ_iff_lt_or_eq.mp hk with hk | rfl
    · exact h k other hj hk hother
    · cases hcall.symm.trans hother

theorem pending_self : Pending calls key model notice j j notice :=
  ⟨fun _ => rfl, fun h => absurd quiet_self h⟩

theorem Pending.of_iff {pending : Option Text} (h : Pending calls key model notice j i pending)
    (hiff : Quiet calls key model j (i + 1) ↔ Quiet calls key model j i) :
    Pending calls key model notice j (i + 1) pending :=
  ⟨fun hquiet => h.of_quiet (hiff.mp hquiet), fun hquiet => h.of_not_quiet (mt hiff.mpr hquiet)⟩

/-- After a call of the model, which tells what is pending with a content. -/
theorem Pending.succ_of_asks {pending : Option Text} {loaded : LocalState Model}
    (h : Pending calls key model notice j i pending) (hji : j ≤ i)
    (hcall : calls[i]? = some call) (hasks : call.Asks key)
    (hload : call.load state = (.ok model, loaded))
    (hloaded : Loaded keys key model pending loaded) :
    ∃ pending, Pending calls key model notice j (i + 1) pending ∧
      Loaded keys key model pending (step state call) := by
  obtain ⟨hcontent, hnone, -⟩ := hloaded.of_load hasks hload
  have hiff : Quiet calls key model j (i + 1) ↔
      Quiet calls key model j i ∧ (call.Asks key → call.content model = none) :=
    quiet_succ_iff hji hcall
  cases hgives : call.content model with
  | none =>
      refine ⟨pending, h.of_iff ?_, hnone hgives⟩
      rw [hiff]
      exact and_iff_left fun _ => hgives
  | some content =>
      refine ⟨none, ⟨fun hquiet => ?_, fun _ => rfl⟩, (hcontent content hgives).2⟩
      cases hgives.symm.trans ((hiff.mp hquiet).2 hasks)

section Keys

variable {pending : Option Text} (hcalls : ∀ call ∈ calls, call.key ∈ keys)
  (hsize : ∀ call ∈ calls, call.key.1 = key.1 → call.key = key)

include hcalls hsize

theorem pending_stateAt_succ (hji : j ≤ i)
    (hpending : Pending calls key model notice j i pending)
    (hloaded : Loaded keys key model pending (stateAt step (LocalState.initial Model) calls i)) :
    ∃ pending, Pending calls key model notice j (i + 1) pending ∧
      Loaded keys key model pending (stateAt step (LocalState.initial Model) calls (i + 1)) := by
  cases hcall : calls[i]? with
  | none =>
      rw [stateAt_succ_of_none hcall]
      exact ⟨pending, hpending.of_iff (quiet_succ_of_none hcall), hloaded⟩
  | some call =>
      rw [stateAt_succ hcall]
      have hmem := List.mem_of_getElem? hcall
      by_cases hasks : call.Asks key
      · obtain ⟨loaded, hload, -, hloaded⟩ := hloaded.load hasks (hcalls call hmem)
        exact hpending.succ_of_asks hji hcall hasks hload hloaded
      · refine ⟨pending, hpending.of_iff ?_,
          hloaded.step_of_not_asks hasks (hcalls call hmem) (hsize call hmem)⟩
        rw [quiet_succ_iff hji hcall]
        exact and_iff_left fun h => absurd h hasks

theorem pending_stateAt (hji : j < i)
    (hfirst : ∃ pending, Pending calls key model notice j (j + 1) pending ∧
      Loaded keys key model pending (stateAt step (LocalState.initial Model) calls (j + 1))) :
    ∃ pending, Pending calls key model notice j i pending ∧
      Loaded keys key model pending (stateAt step (LocalState.initial Model) calls i) := by
  induction i, Nat.succ_le_of_lt hji using Nat.le_induction with
  | base => exact hfirst
  | succ i hle ih =>
      obtain ⟨pending, hpending, hloaded⟩ := ih (Nat.lt_of_succ_le hle)
      exact pending_stateAt_succ hcalls hsize (Nat.le_of_succ_le hle) hpending hloaded

theorem unloaded_stateAt (hkeys : keys.length ≤ 8)
    (hfails : ∀ i call, i < j → calls[i]? = some call → call.Asks key →
      ∃ e, (call.load (stateAt step (LocalState.initial Model) calls i)).1 = .error e) :
    Unloaded keys key (stateAt step (LocalState.initial Model) calls j) := by
  induction j with
  | zero => exact Unloaded.initial hkeys key
  | succ j ih =>
      have hbefore := ih fun i call hi => hfails i call (Nat.lt_succ_of_lt hi)
      cases hcall : calls[j]? with
      | none => rwa [stateAt_succ_of_none hcall]
      | some call =>
          rw [stateAt_succ hcall]
          have hmem := List.mem_of_getElem? hcall
          exact hbefore.step (hcalls call hmem) (hsize call hmem)
            (hfails j call (Nat.lt_succ_self j) hcall)

end Keys

variable (keys) in
/-- A model is loaded by the first call that can load it, and no other; the first reply of
the model, and no other, tells that its window is smaller than asked. -/
theorem modelNotice (hkeys : keys.length ≤ 8) (hcalls : ∀ call ∈ calls, call.key ∈ keys)
    (hsize : ∀ call ∈ calls, call.key.1 = key.1 → call.key = key)
    (hcall : calls[j]? = some call) (hasks : call.Asks key)
    (hload : (call.load (stateAt step (LocalState.initial Model) calls j)).1 = .ok model)
    (hfails : ∀ i call, i < j → calls[i]? = some call → call.Asks key →
      ∃ e, (call.load (stateAt step (LocalState.initial Model) calls i)).1 = .error e) :
    ∃ size failed, createLlamaModel call.backends.llama key.1 size = .ok model ∧
      (∀ i other, j < i → calls[i]? = some other → other.Asks key →
        (stateAt step (LocalState.initial Model) calls (i + 1)).loader.tried =
          (stateAt step (LocalState.initial Model) calls i).loader.tried) ∧
      ∀ i other content, j ≤ i → calls[i]? = some other → other.Asks key →
        other.content model = some content →
        (Quiet calls key model j i →
          other.reply (stateAt step (LocalState.initial Model) calls i) =
            .ok (withNotice (loadNotice key.2 size failed) content)) ∧
        (¬ Quiet calls key model j i →
          other.reply (stateAt step (LocalState.initial Model) calls i) = .ok content) := by
  have hunloaded := unloaded_stateAt hcalls hsize hkeys hfails
  obtain ⟨size, failed, loaded, hcreate, hdone, hloaded⟩ :=
    hunloaded.load_ok hasks (hcalls call (List.mem_of_getElem? hcall)) hload
  have hfirst : ∃ pending,
      Pending calls key model (loadNotice key.2 size failed) j (j + 1) pending ∧
        Loaded keys key model pending (stateAt step (LocalState.initial Model) calls (j + 1)) := by
    rw [stateAt_succ hcall]
    exact pending_self.succ_of_asks (Nat.le_refl j) hcall hasks hdone hloaded
  refine ⟨size, failed, hcreate, fun i other hji hother hasks' => ?_,
    fun i other content hji hother hasks' hcontent => ?_⟩
  · obtain ⟨pending, -, hstate⟩ := pending_stateAt hcalls hsize hji hfirst
    obtain ⟨loaded, hdone, hloader, hloaded⟩ :=
      hstate.load hasks' (hcalls other (List.mem_of_getElem? hother))
    rw [stateAt_succ hother, ← hloader]
    exact (hloaded.of_load hasks' hdone).2.2
  · rcases Nat.eq_or_lt_of_le hji with rfl | hlt
    · cases hcall.symm.trans hother
      exact ⟨fun _ => ((hloaded.of_load hasks hdone).1 content hcontent).1,
        fun hquiet => absurd quiet_self hquiet⟩
    · obtain ⟨pending, hpending, hstate⟩ := pending_stateAt hcalls hsize hlt hfirst
      obtain ⟨loaded, hdone, -, hloaded⟩ :=
        hstate.load hasks' (hcalls other (List.mem_of_getElem? hother))
      have hreply := ((hloaded.of_load hasks' hdone).1 content hcontent).1
      refine ⟨fun hquiet => ?_, fun hquiet => ?_⟩
      · rw [hreply, hpending.of_quiet hquiet]
      · rw [hreply, hpending.of_not_quiet hquiet]
        rfl

end Run

end Runs

/-- Two greetings, the first of which loads the model. -/
def greetings : List (Call Unit) :=
  let call := { settings := defaultSettings, backends := smallMachine, completion := greeting }
  [call, call]

theorem modelNotice_greetings : ∃ size failed,
    createLlamaModel smallMachine.llama defaultSettings.llmModelPath size = .ok () ∧
      (stateAt step (LocalState.initial Unit) greetings 2).loader.tried =
        (stateAt step (LocalState.initial Unit) greetings 1).loader.tried ∧
      greetings[0].reply (stateAt step (LocalState.initial Unit) greetings 0) =
        .ok (withNotice (loadNotice 32768 size failed) "Hello.".toList) ∧
      greetings[1].reply (stateAt step (LocalState.initial Unit) greetings 1) =
        .ok "Hello.".toList := by
  have hasks : greetings[0].Asks (modelKey defaultSettings) :=
    ⟨⟨.inl rfl, by decide +kernel⟩, rfl⟩
  have hkey : ∀ call ∈ greetings, call.key = modelKey defaultSettings := by
    intro call hcall
    rcases List.mem_cons.mp hcall with rfl | hcall
    · rfl
    · cases List.mem_singleton.mp hcall
      rfl
  have hcontent : greetings[0].content () = some "Hello.".toList := by decide +kernel
  have hcall : greetings[0]? = some greetings[0] := rfl
  have hload : (greetings[0].load (stateAt step (LocalState.initial Unit) greetings 0)).1 =
      .ok () := by
    decide +kernel
  obtain ⟨size, failed, hcreate, htried, hreplies⟩ :=
    modelNotice [modelKey defaultSettings] (by decide)
      (fun call hcall => List.mem_singleton.mpr (hkey call hcall))
      (fun call hcall _ => hkey call hcall) hcall hasks hload
      (fun i call hi => absurd hi (Nat.not_lt_zero i))
  refine ⟨size, failed, hcreate, htried 1 _ (by decide) rfl hasks,
    (hreplies 0 _ _ (by decide) rfl hasks hcontent).1 quiet_self,
    (hreplies 1 _ _ (by decide) rfl hasks hcontent).2 fun hquiet => ?_⟩
  cases hcontent.symm.trans (hquiet 0 _ (by decide) (by decide) rfl hasks)

end NanoCore.Llm.Completions
