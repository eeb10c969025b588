import NanoCore.Assistant.Orchestrator
import NanoCore.Foundation.Runs

namespace NanoCore.Assistant.Transcripts

open NanoCore.Foundation.KeyedTable
open NanoCore.Foundation.PythonDatetime
open NanoCore.Foundation.PythonText
open NanoCore.Foundation.Runs
open NanoCore.Assistant.Orchestrator
open NanoCore.Assistant.Sources
open NanoCore.Assistant.State
open NanoCore.Memory.Models
open NanoCore.Memory.Repository
open NanoCore.Runtime.State

/-- A role and a content. -/
abbrev Turn := String × Text

def turn (message : ChatMessage) : Turn := (message.role, message.content)

/-- Newest first. -/
def newerFirst (a b : ChatMessage) : Bool :=
  b.createdAt < a.createdAt || (a.createdAt = b.createdAt && b.id ≤ a.id)

/-- The last messages of all conversations, oldest first. -/
def listRecentChatMessages (limit : Nat) (db : Database) : List ChatMessage :=
  ((db.chatMessages.rows.insertionSort fun a b => newerFirst a b).take limit).reverse

/-- The messages for the model: `AnswerExecutor.draft` and `build_agent_messages` differ in
the system prompt only. -/
def promptMessages (system : Text) (history : List ChatMessage) (message : Text) : List Turn :=
  ("system", system) :: history.map turn ++
    if history.getLast?.map turn ≠ some ("user", message) then [("user", message)] else []

/-- What else the server does: the chat messages stay, and the clock does not go back. -/
structure OtherOperation where
  run : Server → Server
  chatMessages : ∀ server, (run server).database.chatMessages = server.database.chatMessages
  latest_le : ∀ server, server.clock.latest ≤ (run server).clock.latest

inductive ChatEvent where
  | addChatMessage (conversationId role : String) (content : Text)
  | wipeDatabase
  | other (operation : OtherOperation)

def step (server : Server) : ChatEvent → Server
  | .addChatMessage conversationId role content =>
      addChatMessage conversationId role content server
  | .wipeDatabase => wipeDatabase server
  | .other operation => operation.run server

/-- The turns of all conversations since the last wipe, in order. -/
def logStep (log : List (String × Turn)) : ChatEvent → List (String × Turn)
  | .addChatMessage conversationId role content => log ++ [(conversationId, role, content)]
  | .wipeDatabase => []
  | .other _ => log

def turnLog (events : List ChatEvent) : List (String × Turn) := events.foldl logStep []

/-- The turns of a conversation. -/
def transcript (conversationId : String) (events : List ChatEvent) : List Turn :=
  ((turnLog events).filter fun entry => entry.1 = conversationId).map Prod.snd

def lastTurns {α : Type} (limit : Nat) (turns : List α) : List α :=
  turns.drop (turns.length - limit)

def entryOf (message : ChatMessage) : String × Turn := (message.conversationId, turn message)

/-- The rows are the log, in the order of their times and ids. -/
structure Logged (server : Server) (log : List (String × Turn)) : Prop where
  entries : server.database.chatMessages.rows.map entryOf = log
  sorted : server.database.chatMessages.rows.Pairwise fun a b =>
    a.createdAt ≤ b.createdAt ∧ a.id < b.id
  past : ∀ message ∈ server.database.chatMessages.rows, message.createdAt ≤ server.clock.latest

variable {server : Server} {log : List (String × Turn)} {rows : List ChatMessage}

theorem logged_of_empty (h : server.database.chatMessages.rows = []) : Logged server [] where
  entries := by rw [h]; rfl
  sorted := by rw [h]; exact .nil
  past := by rw [h]; nofun

theorem rows_addChatMessage (conversationId role : String) (content : Text) (server : Server) :
    (addChatMessage conversationId role content server).database.chatMessages.rows =
      server.database.chatMessages.rows ++
        [{ id := nextRowid (server.database.chatMessages.rows.map ChatMessage.id)
           conversationId, role, content, createdAt := server.clock.now }] := by
  refine congrArg (· ++ [_]) (List.filter_eq_self.mpr fun message hmem => ?_)
  exact decide_eq_true (ne_of_lt (lt_nextRowid (List.mem_map_of_mem hmem)))

theorem Logged.addChatMessage (h : Logged server log) (conversationId role : String)
    (content : Text) :
    Logged (addChatMessage conversationId role content server)
      (log ++ [(conversationId, role, content)]) := by
  have hrows := rows_addChatMessage conversationId role content server
  have hnow := server.clock.latest_le_now
  constructor
  · rw [hrows, List.map_append, h.entries]
    rfl
  · rw [hrows, List.pairwise_append]
    refine ⟨h.sorted, List.pairwise_singleton _ _, fun message hmem new hnew => ?_⟩
    rw [List.mem_singleton.mp hnew]
    exact ⟨(h.past message hmem).trans hnow, lt_nextRowid (List.mem_map_of_mem hmem)⟩
  · rw [hrows]
    intro message hmem
    rcases List.mem_append.mp hmem with hold | hnew
    · exact (h.past message hold).trans hnow
    · rw [List.mem_singleton.mp hnew]
      exact le_rfl

theorem Logged.step (h : Logged server log) (event : ChatEvent) :
    Logged (step server event) (logStep log event) := by
  cases event with
  | addChatMessage conversationId role content => exact h.addChatMessage conversationId role content
  | wipeDatabase =>
      refine logged_of_empty ?_
      exact congrArg Table.rows (Table.eraseAll_keys server.database.chatMessages)
  | other operation =>
      have hrows := congrArg Table.rows (operation.chatMessages server)
      refine ⟨?_, ?_, ?_⟩
      · exact (congrArg (List.map entryOf) hrows).trans h.entries
      · exact hrows ▸ h.sorted
      · intro message hmem
        rw [Transcripts.step, hrows] at hmem
        exact (h.past message hmem).trans (operation.latest_le server)

theorem logged_run (clock : Clock) (events : List ChatEvent) :
    Logged (run step (Server.initial clock) events) (turnLog events) := by
  suffices h : ∀ server log, Logged server log →
      Logged (run step server events) (events.foldl logStep log) from
    h _ _ (logged_of_empty rfl)
  induction events with
  | nil => exact fun server log h => h
  | cons event rest ih => exact fun server log h => ih _ _ (h.step event)

instance : Std.Total fun a b : ChatMessage => newerFirst a b = true where
  total a b := by
    simp only [newerFirst, Bool.or_eq_true, Bool.and_eq_true, decide_eq_true_eq]
    omega

instance : IsTrans ChatMessage fun a b => newerFirst a b = true where
  trans a b c := by
    simp only [newerFirst, Bool.or_eq_true, Bool.and_eq_true, decide_eq_true_eq]
    omega

/-- Rows in the order of their times and ids are sorted by reversing them. -/
theorem insertionSort_newerFirst
    (h : rows.Pairwise fun a b => a.createdAt ≤ b.createdAt ∧ a.id < b.id) :
    (rows.insertionSort fun a b => newerFirst a b) = rows.reverse := by
  have hperm : (rows.insertionSort fun a b => newerFirst a b).Perm rows.reverse :=
    (List.perm_insertionSort _ rows).trans (List.reverse_perm rows).symm
  have hids : (rows.map ChatMessage.id).Nodup :=
    List.pairwise_map.mpr (h.imp fun hlt => ne_of_lt hlt.2)
  refine hperm.eq_of_pairwise ?_ (List.pairwise_insertionSort _ rows) ?_
  · intro a b ha hb hab hba
    refine List.inj_on_of_nodup_map hids ((List.mem_insertionSort _).mp ha)
      (List.mem_reverse.mp hb) ?_
    simp only [newerFirst, Bool.or_eq_true, Bool.and_eq_true, decide_eq_true_eq] at hab hba
    omega
  · refine List.pairwise_reverse.mpr (h.imp fun ⟨htime, hid⟩ => ?_)
    simp only [newerFirst, Bool.or_eq_true, Bool.and_eq_true, decide_eq_true_eq]
    omega

theorem reverse_take_reverse {α : Type} (limit : Nat) (turns : List α) :
    (turns.reverse.take limit).reverse = lastTurns limit turns := by
  rw [List.take_reverse, List.reverse_reverse, lastTurns]

theorem map_lastTurns {α β : Type} (f : α → β) (limit : Nat) (turns : List α) :
    (lastTurns limit turns).map f = lastTurns limit (turns.map f) := by
  rw [lastTurns, lastTurns, List.map_drop, List.length_map]

theorem lastTurns_append {α : Type} (limit : Nat) (turns : List α) (new : α) :
    lastTurns (limit + 1) (turns ++ [new]) = lastTurns limit turns ++ [new] := by
  rw [lastTurns, lastTurns, List.length_append, List.length_singleton, Nat.add_sub_add_right,
    List.drop_append_of_le_length (Nat.sub_le _ _)]

/-- The messages of a conversation are the last turns of its transcript. -/
theorem map_listChatMessages (h : Logged server log) (conversationId : String) (limit : Nat) :
    (listChatMessages conversationId limit server.database).map turn =
      lastTurns limit
        ((log.filter fun entry => entry.1 = conversationId).map Prod.snd) := by
  have hsorted := h.sorted.filter fun message => message.conversationId = conversationId
  have hlist : listChatMessages conversationId limit server.database =
      lastTurns limit (server.database.chatMessages.rows.filter fun message =>
        message.conversationId = conversationId) := by
    rw [← reverse_take_reverse, ← insertionSort_newerFirst hsorted]
    rfl
  rw [hlist, map_lastTurns, ← h.entries, List.filter_map, List.map_map]
  rfl

theorem map_listRecentChatMessages (h : Logged server log) (limit : Nat) :
    (listRecentChatMessages limit server.database).map entryOf = lastTurns limit log := by
  rw [listRecentChatMessages, insertionSort_newerFirst h.sorted, reverse_take_reverse,
    map_lastTurns, h.entries]

theorem getLast?_lastTurns {α : Type} (limit : Nat) (turns : List α) (new : α) :
    (lastTurns limit (turns ++ [new])).getLast? = if limit = 0 then none else some new := by
  cases limit with
  | zero => simp [lastTurns]
  | succ limit => rw [lastTurns_append, List.getLast?_concat, if_neg (Nat.succ_ne_zero limit)]

theorem promptMessages_eq (system : Text) {history : List ChatMessage} {turns : List Turn}
    (h : history.map turn = turns) (message : Text) :
    promptMessages system history message =
      ("system", system) :: turns ++
        if turns.getLast? ≠ some ("user", message) then [("user", message)] else [] := by
  rw [promptMessages, ← h, List.getLast?_map]

/-- The message that has just been stored ends the prompt. -/
theorem promptMessages_of_stored (system : Text) {history : List ChatMessage} {limit : Nat}
    {turns : List Turn} {message : Text}
    (h : history.map turn = lastTurns limit (turns ++ [("user", message)])) :
    promptMessages system history message =
      ("system", system) :: lastTurns (limit - 1) turns ++ [("user", message)] := by
  rw [promptMessages_eq system h, getLast?_lastTurns]
  cases limit with
  | zero => simp [lastTurns]
  | succ limit =>
      rw [if_neg (Nat.succ_ne_zero limit), if_neg fun hne => hne rfl, lastTurns_append,
        Nat.add_sub_cancel, List.append_nil, List.cons_append]

/-- After any run of the server, in whatever order the conversations go on, the messages of a
conversation are the last turns of its own transcript; and the model is asked with the system
prompt, the last turns before the message and the message, once and at the end. -/
theorem chatPrompts (clock : Clock) (events : List ChatEvent) (environment : Environment)
    (request : Request) (assistant : AssistantState) (system : Text) :
    let reached := assistant.onServer (run step (Server.initial clock) events)
    let limit := environment.settings.chatHistoryLimit
    let turns := transcript request.conversationId events
    (∀ conversationId limit,
      (listChatMessages conversationId limit reached.server.database).map turn =
        lastTurns limit (transcript conversationId events)) ∧
    (∀ limit, (listRecentChatMessages limit reached.server.database).map entryOf =
      lastTurns limit (turnLog events)) ∧
    promptMessages system (history environment request (storeUserMessage request reached))
        request.message =
      ("system", system) :: lastTurns (limit - 1) turns ++ [("user", request.message)] ∧
    promptMessages system (history environment request reached) request.message =
      ("system", system) :: lastTurns limit turns ++
        if (lastTurns limit turns).getLast? ≠ some ("user", request.message) then
          [("user", request.message)]
        else [] := by
  have hlogged := logged_run clock events
  have hstored := hlogged.addChatMessage request.conversationId "user" request.message
  refine ⟨fun conversationId limit => map_listChatMessages hlogged conversationId limit,
    fun limit => map_listRecentChatMessages hlogged limit, ?_, ?_⟩
  · refine promptMessages_of_stored system
      ((map_listChatMessages hstored request.conversationId _).trans ?_)
    rw [List.filter_append, List.map_append, transcript]
    simp
  · exact promptMessages_eq system (map_listChatMessages hlogged request.conversationId _) _

end NanoCore.Assistant.Transcripts
