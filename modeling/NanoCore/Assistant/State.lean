import NanoCore.Assistant.Pending
import NanoCore.Assistant.Sources
import NanoCore.Deploy.UpdateState
import NanoCore.Runtime.State

namespace NanoCore.Assistant.State

open NanoCore.Foundation.PythonText
open NanoCore.Assistant.Pending
open NanoCore.Assistant.Sources
open NanoCore.Config
open NanoCore.Deploy.Update
open NanoCore.Deploy.UpdateState
open NanoCore.Memory.Models
open NanoCore.Runtime.State

inductive Action where
  | wipeDatabase
  | scheduleReboot
  | scheduleServiceRestart
  | pullLatest
  | installDependencies
  deriving DecidableEq, Repr

structure AssistantState where
  server : Server
  pending : PendingStore
  updates : UpdateStore
  /-- The calls so far, for the statements about runs: no function reads them. -/
  actions : List Action

/-- The settings, git, the language model and the tools that are no timer tools,
as they answer while one message is handled. -/
structure Environment where
  settings : Settings
  git : Git
  describe : PyError → Text
  /-- A tool's handler outside of `app/tools/timer_tools.py`. -/
  runOtherTool : String → PyDict → Server → Server × Except PyError Text
  /-- `AgentPlanner.run`, which runs tools. -/
  plan : Request → List ChatMessage → Server → Server × Except PyError ResponseSource
  /-- `AnswerExecutor.draft` and its siblings. -/
  draft : Request → List ChatMessage → Except PyError Text
  draftCapabilities : Request → Except PyError Text
  draftIdentity : Request → List ChatMessage → Except PyError Text
  /-- `choose_confused_response`. -/
  confusedResponse : Text
  compose : ResponseSource → Except PyError Text

/-- No git, no model and no other tool; a reply is composed of its facts. -/
def Environment.offline (settings : Settings) : Environment where
  settings := settings
  git := ⟨fun _ => .error "offline".toList, fun _ => []⟩
  describe _ := []
  runOtherTool _ _ server := (server, .error (.toolError "offline".toList))
  plan _ _ server := (server, .error (.toolError "offline".toList))
  draft _ _ := .error (.toolError "offline".toList)
  draftCapabilities _ := .error (.toolError "offline".toList)
  draftIdentity _ _ := .error (.toolError "offline".toList)
  confusedResponse := []
  compose source := .ok source.facts

namespace AssistantState

def initial (server : Server) : AssistantState := ⟨server, .empty, {}, []⟩

def onServer (assistant : AssistantState) (server : Server) : AssistantState :=
  { assistant with server := server }

def setPending (assistant : AssistantState) (interaction : PendingInteraction) : AssistantState :=
  { assistant with pending := PendingStore.set assistant.pending interaction }

def clearPending (assistant : AssistantState) (conversationId : String) : AssistantState :=
  { assistant with pending := PendingStore.clear assistant.pending conversationId }

def resetPending (assistant : AssistantState) : AssistantState :=
  { assistant with pending := PendingStore.reset }

def onUpdates (assistant : AssistantState) (updates : UpdateStore) : AssistantState :=
  { assistant with updates := updates }

def perform (assistant : AssistantState) (action : Action) : AssistantState :=
  { assistant with actions := assistant.actions ++ [action] }

def pendingOf (assistant : AssistantState) (conversationId : String) : Option PendingInteraction :=
  PendingStore.get assistant.pending conversationId

section Fields

variable (assistant : AssistantState) (server : Server) (interaction : PendingInteraction)
variable (updates : UpdateStore) (action : Action) (c : String)

@[simp] theorem onServer_server : (assistant.onServer server).server = server := rfl
@[simp] theorem onServer_updates : (assistant.onServer server).updates = assistant.updates := rfl
@[simp] theorem onServer_actions : (assistant.onServer server).actions = assistant.actions := rfl
@[simp] theorem pendingOf_onServer :
    (assistant.onServer server).pendingOf c = assistant.pendingOf c := rfl
@[simp] theorem setPending_server : (assistant.setPending interaction).server = assistant.server :=
  rfl
@[simp] theorem setPending_updates :
    (assistant.setPending interaction).updates = assistant.updates := rfl
@[simp] theorem setPending_actions :
    (assistant.setPending interaction).actions = assistant.actions := rfl
@[simp] theorem clearPending_server : (assistant.clearPending c).server = assistant.server := rfl
@[simp] theorem clearPending_updates : (assistant.clearPending c).updates = assistant.updates := rfl
@[simp] theorem clearPending_actions : (assistant.clearPending c).actions = assistant.actions := rfl
@[simp] theorem resetPending_server : assistant.resetPending.server = assistant.server := rfl
@[simp] theorem resetPending_actions : assistant.resetPending.actions = assistant.actions := rfl
@[simp] theorem pendingOf_resetPending : assistant.resetPending.pendingOf c = none := rfl
@[simp] theorem onUpdates_server : (assistant.onUpdates updates).server = assistant.server := rfl
@[simp] theorem onUpdates_updates : (assistant.onUpdates updates).updates = updates := rfl
@[simp] theorem onUpdates_actions : (assistant.onUpdates updates).actions = assistant.actions := rfl
@[simp] theorem pendingOf_onUpdates :
    (assistant.onUpdates updates).pendingOf c = assistant.pendingOf c := rfl
@[simp] theorem perform_server : (assistant.perform action).server = assistant.server := rfl
@[simp] theorem perform_updates : (assistant.perform action).updates = assistant.updates := rfl
@[simp] theorem perform_actions :
    (assistant.perform action).actions = assistant.actions ++ [action] := rfl
@[simp] theorem pendingOf_perform :
    (assistant.perform action).pendingOf c = assistant.pendingOf c := rfl

@[simp] theorem pendingOf_setPending :
    (assistant.setPending interaction).pendingOf interaction.conversationId = some interaction :=
  PendingStore.get_set_self assistant.pending interaction

@[simp] theorem pendingOf_clearPending : (assistant.clearPending c).pendingOf c = none :=
  PendingStore.get_clear_self assistant.pending c

variable {assistant interaction c}

theorem pendingOf_setPending_of_ne (hne : c ≠ interaction.conversationId) :
    (assistant.setPending interaction).pendingOf c = assistant.pendingOf c :=
  PendingStore.get_set_of_ne assistant.pending hne

theorem pendingOf_clearPending_of_ne {c' : String} (hne : c' ≠ c) :
    (assistant.clearPending c).pendingOf c' = assistant.pendingOf c' :=
  PendingStore.get_clear_of_ne assistant.pending hne

end Fields

end AssistantState

end NanoCore.Assistant.State
