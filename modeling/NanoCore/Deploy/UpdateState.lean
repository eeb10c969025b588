import NanoCore.Deploy.Update

namespace NanoCore.Deploy.UpdateState

open NanoCore.Config
open NanoCore.Deploy.Update
open NanoCore.Foundation.PythonText

structure UpdateStore where
  sessionBaselineSha : Option Text := none
  dismissedRemoteSha : Option Text := none
  lastCheck : Option UpdateCheckResult := none
  promptOfferedForSha : Option Text := none
  deriving DecidableEq, Repr

namespace UpdateStore

def setSessionBaseline (remoteSha : Option Text) (store : UpdateStore) : UpdateStore :=
  { store with sessionBaselineSha := remoteSha }

def recordCheck (result : UpdateCheckResult) (store : UpdateStore) : UpdateStore :=
  { store with lastCheck := some result }

def dismiss (remoteSha : Text) (store : UpdateStore) : UpdateStore :=
  { store with dismissedRemoteSha := some remoteSha, promptOfferedForSha := none }

def markPromptOffered (remoteSha : Text) (store : UpdateStore) : UpdateStore :=
  { store with promptOfferedForSha := some remoteSha }

def shouldPrompt (remoteSha : Text) (store : UpdateStore) : Bool :=
  if remoteSha = [] then false
  else if some remoteSha = store.dismissedRemoteSha then false
  else if some remoteSha = store.promptOfferedForSha then false
  else if some remoteSha = store.sessionBaselineSha then false
  else true

theorem shouldPrompt_iff {remoteSha : Text} {store : UpdateStore} :
    store.shouldPrompt remoteSha = true ↔ remoteSha ≠ [] ∧
      store.dismissedRemoteSha ≠ some remoteSha ∧ store.promptOfferedForSha ≠ some remoteSha ∧
      store.sessionBaselineSha ≠ some remoteSha := by
  unfold shouldPrompt
  simp only [eq_comm (a := some remoteSha)]
  split_ifs with hnil hdismissed hoffered hbaseline <;> simp_all

end UpdateStore

def recordSessionBaseline (u : PyData) (settings : Settings) (git : Git) (store : UpdateStore) :
    UpdateStore :=
  let result := checkForUpdates u settings git
  (store.recordCheck result).setSessionBaseline
    (if result.remoteSha = [] then none else some result.remoteSha)

end NanoCore.Deploy.UpdateState
