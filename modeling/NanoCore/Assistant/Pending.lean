import NanoCore.Foundation.KeyedTable
import NanoCore.Foundation.PythonText

namespace NanoCore.Assistant.Pending

open NanoCore.Foundation.KeyedTable
open NanoCore.Foundation.PythonText

inductive PendingKind where
  | timerDuration
  | wipeConfirmation
  | presenceCheck
  | rebootConfirmation
  | serviceRestartConfirmation
  | updateConfirmation
  deriving DecidableEq, Repr

structure PendingInteraction where
  conversationId : String
  kind : PendingKind
  payload : PyDict := []
  deriving DecidableEq, Repr

abbrev PendingStore := Table String PendingInteraction PendingInteraction.conversationId

namespace PendingStore

def set (store : PendingStore) (interaction : PendingInteraction) : PendingStore :=
  store.put interaction

def get (store : PendingStore) (conversationId : String) : Option PendingInteraction :=
  store.find? conversationId

def clear (store : PendingStore) (conversationId : String) : PendingStore :=
  store.erase conversationId

def reset : PendingStore := .empty

@[simp] theorem get_set_self (store : PendingStore) (interaction : PendingInteraction) :
    (set store interaction).get interaction.conversationId = some interaction :=
  Table.find?_put_self store interaction

theorem get_set_of_ne (store : PendingStore) {interaction : PendingInteraction} {c : String}
    (hne : c ≠ interaction.conversationId) : (set store interaction).get c = get store c :=
  Table.find?_put_of_ne store hne

@[simp] theorem get_clear_self (store : PendingStore) (c : String) :
    (clear store c).get c = none :=
  Table.find?_erase_self store c

theorem get_clear_of_ne (store : PendingStore) {c c' : String} (hne : c' ≠ c) :
    (clear store c).get c' = get store c' :=
  Table.find?_erase_of_ne store hne

@[simp] theorem get_reset (c : String) : get reset c = none := rfl

end PendingStore

end NanoCore.Assistant.Pending
