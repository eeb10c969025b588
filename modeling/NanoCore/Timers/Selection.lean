import NanoCore.Timers.Frames
import NanoCore.Timers.Removal

namespace NanoCore.Timers.Selection

open NanoCore.Foundation.KeyedTable
open NanoCore.Foundation.PythonText
open NanoCore.Memory.Models
open NanoCore.Memory.Repository
open NanoCore.Runtime.State
open NanoCore.Scheduler.Jobs
open NanoCore.Timers.Frames
open NanoCore.Timers.Labels
open NanoCore.Timers.Operations
open NanoCore.Timers.Removal

section Requests

variable (u : PyData)

/-- A row is selected by its id or by its label; each row where neither is given. -/
def Selects (requestedId : Option PyScalar) (requestedLabel : Text) (timer : Timer) : Prop :=
  (givenId requestedId = none ∧ requestedLabel = []) ∨
    (∃ value, givenId requestedId = some value ∧ u.intOfScalar value = .ok timer.id) ∨
    (requestedLabel ≠ [] ∧ u.lower timer.label = requestedLabel ∧
      ∀ value, givenId requestedId = some value → ∃ n, u.intOfScalar value = .ok n)

/-- The row to rename: the one with the given id, or without an id the only one of
its kind with the given label. -/
def IsTarget (kind : TimerKind) (itemId : Option PyScalar) (oldLabel : Text) (db : Database)
    (target : Timer) : Prop :=
  target ∈ db.timers ∧ target.kind = kind ∧
    ((∃ value, givenId itemId = some value ∧ u.intOfScalar value = .ok target.id) ∨
      (givenId itemId = none ∧ oldLabel ≠ [] ∧ ∀ timer ∈ db.timers, timer.kind = kind →
        (u.lower (strip timer.label) = u.lower oldLabel ↔ timer = target)))

end Requests

/-- The selected rows of one kind are gone, with the jobs of selected countdowns,
and nothing else. -/
structure Removes (kind : TimerKind) (selected : Timer → Prop) (server server' : Server) :
    Prop where
  rows : ∀ timer, timer ∈ server'.database.timers ↔
    timer ∈ server.database.timers ∧ ¬ (timer.kind = kind ∧ selected timer)
  others : OnlyTimers server server'
  jobs : ∀ job, job ∈ server'.jobs ↔ job ∈ server.jobs ∧
    ¬ ∃ timer ∈ server.database.timers, (timer.kind = kind ∧ selected timer) ∧
      kind = .countdown ∧ job.id = .timer timer.id

theorem id_setLabel (label : Text) (timer : Timer) : (setLabel label timer).id = timer.id := rfl

def relabeled (target : Timer) (label : Text) (server : Server) : Server :=
  server.onTimers (server.database.timers.modify target.id (setLabel label) (id_setLabel label))

/-- A rename gives the target the new label, or it refuses and changes nothing. -/
inductive Renames (u : PyData) (kind : TimerKind) (idName default : String) (args : PyDict)
    (server : Server) : Server × Except PyError Text → Prop where
  | renamed (target : Timer) (newLabelRaw : PyScalar) (newLabel text : Text)
      (htarget : IsTarget u kind (args.lookup idName) (strip (textArg args "label"))
        server.database target)
      (hraw : givenId (args.lookup "new_label") = some newLabelRaw)
      (hlabel : normalizeLabel newLabelRaw.toText default = .ok newLabel) :
      Renames u kind idName default args server (relabeled target newLabel server, .ok text)
  | refused (message : Text)
      (hnone : ¬ ∃ target newLabelRaw newLabel,
        IsTarget u kind (args.lookup idName) (strip (textArg args "label")) server.database target ∧
          givenId (args.lookup "new_label") = some newLabelRaw ∧
          normalizeLabel newLabelRaw.toText default = .ok newLabel) :
      Renames u kind idName default args server (server, .error (.toolError message))

variable {u : PyData} {args : PyDict} {server : Server} {timer target : Timer} {kind : TimerKind}
variable {db : Database} {items : List Timer}

theorem timerMatchesCancelRequest_iff {requestedId : Option PyScalar} {requestedLabel : Text} :
    timerMatchesCancelRequest u timer.id timer.label requestedId requestedLabel = true ↔
      Selects u requestedId requestedLabel timer := by
  rw [timerMatchesCancelRequest, Selects]
  rcases givenId requestedId with _ | value
  · by_cases hlabel : requestedLabel = []
    · simp [hlabel]
    · simp [hlabel]
  · dsimp only
    rcases hint : u.intOfScalar value with e | n
    · simp [hint]
    · simp [hint, eq_comm (a := n)]

/-- Of the rows of a table, the listed ones are those of their kind in the list. -/
theorem listed_iff {timers : List Timer} (hsub : ∀ timer ∈ timers, timer ∈ db.timers)
    (hmem : timer ∈ db.timers) :
    Listed kind timers timer ↔ timer.kind = kind ∧ timer ∈ timers := by
  refine and_congr_right fun _ => ?_
  constructor
  · intro hid
    obtain ⟨other, hother, heq⟩ := List.mem_map.mp hid
    rwa [Table.eq_of_key hmem (hsub other hother) heq.symm]
  · exact List.mem_map_of_mem

theorem listed_selectedTimers (hmem : timer ∈ db.timers) :
    Listed .countdown (selectedTimers u args db) timer ↔
      timer.kind = .countdown ∧
        Selects u (args.lookup "timer_id") (requestedLabel u args) timer := by
  have hsub : ∀ other ∈ selectedTimers u args db, other ∈ db.timers := fun other hother =>
    (mem_activeCountdownTimers.mp (List.mem_filter.mp hother).1).1
  rw [listed_iff hsub hmem, selectedTimers, List.mem_filter, mem_activeCountdownTimers,
    timerMatchesCancelRequest_iff]
  exact ⟨fun h => ⟨h.1, h.2.2⟩, fun h => ⟨h.1, ⟨hmem, h.1⟩, h.2⟩⟩

theorem listed_selectedStopwatches (hmem : timer ∈ db.timers) :
    Listed .stopwatch (selectedStopwatches u args db) timer ↔
      timer.kind = .stopwatch ∧
        Selects u (args.lookup "stopwatch_id") (requestedLabel u args) timer := by
  have hsub : ∀ other ∈ selectedStopwatches u args db, other ∈ db.timers := fun other hother =>
    (mem_activeStopwatches.mp (List.mem_filter.mp hother).1).1
  rw [listed_iff hsub hmem, selectedStopwatches, List.mem_filter, mem_activeStopwatches,
    timerMatchesCancelRequest_iff]
  exact ⟨fun h => ⟨h.1, h.2.2⟩, fun h => ⟨h.1, ⟨hmem, h.1⟩, h.2⟩⟩

theorem mem_jobs_removeCountdownTimer {timerId : Int} {job : Job} :
    job ∈ (removeCountdownTimer timerId server).1.jobs ↔ job ∈ server.jobs ∧
      ¬ ∃ timer ∈ server.database.timers,
        (timer.kind = .countdown ∧ timer.id = timerId) ∧ job.id = .timer timer.id := by
  rw [removeCountdownTimer, removeOfKind]
  cases hget : getTimer timerId server.database with
  | none =>
      have habsent := Table.find?_eq_none_iff.mp hget
      refine (and_iff_left ?_).symm
      rintro ⟨timer, hmem, ⟨-, hid⟩, -⟩
      exact habsent timer hmem hid
  | some row =>
      obtain ⟨hrow, hid⟩ := Table.find?_eq_some_iff.mp hget
      by_cases hkind : row.kind = .countdown
      · simp only [hkind, ne_eq, not_true_eq_false, if_false, deleteTimer_jobs]
        rw [unscheduleTimer, unscheduleJob, Server.onJobs_jobs, Table.mem_erase]
        refine and_congr_right fun _ => not_congr ?_
        constructor
        · intro hjob
          exact ⟨row, hrow, ⟨hkind, hid⟩, by rw [hjob, hid]⟩
        · rintro ⟨timer, -, ⟨-, rfl⟩, hjob⟩
          exact hjob
      · simp only [hkind, ne_eq, not_false_eq_true, if_true]
        refine (and_iff_left ?_).symm
        rintro ⟨timer, hmem, ⟨hcountdown, hsame⟩, -⟩
        rw [Table.eq_of_key hmem hrow (hsame.trans hid.symm)] at hcountdown
        exact hkind hcountdown

theorem mem_jobs_removeCountdownTimers {timers : List Timer} {job : Job} :
    job ∈ (removeCountdownTimers timers server).jobs ↔ job ∈ server.jobs ∧
      ¬ ∃ timer ∈ server.database.timers,
        Listed .countdown timers timer ∧ job.id = .timer timer.id := by
  induction timers generalizing server with
  | nil =>
      refine (and_iff_left ?_).symm
      rintro ⟨timer, -, hlisted, -⟩
      exact not_listed_nil hlisted
  | cons first rest ih =>
      show job ∈ (removeCountdownTimers rest (removeCountdownTimer first.id server).1).jobs ↔ _
      rw [ih, mem_jobs_removeCountdownTimer, and_assoc]
      refine and_congr_right fun _ => ?_
      rw [← not_or, not_iff_not]
      constructor
      · rintro (⟨timer, hmem, ⟨hkind, hid⟩, hjob⟩ | ⟨timer, hmem, ⟨hkind, hid⟩, hjob⟩)
        · exact ⟨timer, hmem, ⟨hkind, by rw [hid]; exact List.mem_cons_self⟩, hjob⟩
        · exact ⟨timer, (mem_removeCountdownTimer.mp hmem).1,
            ⟨hkind, List.mem_cons_of_mem _ hid⟩, hjob⟩
      · rintro ⟨timer, hmem, ⟨hkind, hid⟩, hjob⟩
        -- the row goes with the first of the list or is left to the rest
        by_cases hfirst : timer.id = first.id
        · exact .inl ⟨timer, hmem, ⟨hkind, hfirst⟩, hjob⟩
        · refine .inr ⟨timer, mem_removeCountdownTimer.mpr ⟨hmem, fun h => hfirst h.2⟩,
            ⟨hkind, (List.mem_cons.mp hid).resolve_left hfirst⟩, hjob⟩

theorem jobs_removeStopwatch (stopwatchId : Int) (server : Server) :
    (removeStopwatch stopwatchId server).1.jobs = server.jobs := by
  rw [removeStopwatch, removeOfKind]
  split
  · rfl
  · split
    · rfl
    · exact deleteTimer_jobs

theorem jobs_removeStopwatches (stopwatches : List Timer) (server : Server) :
    (removeStopwatches stopwatches server).jobs = server.jobs := by
  induction stopwatches generalizing server with
  | nil => rfl
  | cons first rest ih => exact (ih _).trans (jobs_removeStopwatch first.id server)

theorem jobs_cancelTimers {job : Job} :
    job ∈ (cancelTimers u args server).1.jobs ↔ job ∈ server.jobs ∧
      ¬ ∃ timer ∈ server.database.timers,
        Listed .countdown (selectedTimers u args server.database) timer ∧
          job.id = .timer timer.id := by
  simp only [cancelTimers]
  split
  · rename_i hnone
    rw [hnone]
    refine (and_iff_left ?_).symm
    rintro ⟨timer, -, hlisted, -⟩
    exact not_listed_nil hlisted
  · exact mem_jobs_removeCountdownTimers

theorem removes_cancelTimers (u : PyData) (args : PyDict) (server : Server) :
    Removes .countdown (Selects u (args.lookup "timer_id") (requestedLabel u args)) server
      (cancelTimers u args server).1 where
  rows timer := by
    rw [mem_cancelTimers]
    exact and_congr_right fun hmem => not_congr (listed_selectedTimers hmem)
  others := onlyTimers_cancelTimers server u args
  jobs job := by
    rw [jobs_cancelTimers]
    refine and_congr_right fun _ => not_congr (exists_congr fun timer => ?_)
    refine and_congr_right fun hmem => ?_
    rw [listed_selectedTimers hmem]
    exact and_congr_right fun _ => (and_iff_right rfl).symm

theorem jobs_stopStopwatches : (stopStopwatches u args server).1.jobs = server.jobs := by
  simp only [stopStopwatches]
  split
  · rfl
  · exact jobs_removeStopwatches _ server

theorem removes_stopStopwatches (u : PyData) (args : PyDict) (server : Server) :
    Removes .stopwatch (Selects u (args.lookup "stopwatch_id") (requestedLabel u args)) server
      (stopStopwatches u args server).1 where
  rows timer := by
    rw [mem_stopStopwatches]
    exact and_congr_right fun hmem => not_congr (listed_selectedStopwatches hmem)
  others := onlyTimers_stopStopwatches server u args
  jobs job := by
    rw [jobs_stopStopwatches]
    refine (and_iff_left ?_).symm
    rintro ⟨timer, -, -, hkind, -⟩
    cases hkind

theorem cancelTimers_of_error {e : PyError} (h : (cancelTimers u args server).2 = .error e) :
    (cancelTimers u args server).1 = server := by
  simp only [cancelTimers] at h ⊢
  split
  · rfl
  · rename_i hselected
    rw [if_neg hselected] at h
    cases h

theorem stopStopwatches_of_error {e : PyError}
    (h : (stopStopwatches u args server).2 = .error e) :
    (stopStopwatches u args server).1 = server := by
  simp only [stopStopwatches] at h ⊢
  split
  · rfl
  · rename_i hselected
    rw [if_neg hselected] at h
    cases h

/-- The rows of one kind, each once. -/
structure ListsKind (kind : TimerKind) (db : Database) (items : List Timer) : Prop where
  mem : ∀ timer, timer ∈ items ↔ timer ∈ db.timers ∧ timer.kind = kind
  nodup : items.Nodup

theorem nodup_rows (db : Database) (p : Timer → Bool) : (db.timers.filter p).rows.Nodup :=
  List.Nodup.of_map _ (db.timers.filter p).keys_nodup

theorem listsKind_activeStopwatches (db : Database) :
    ListsKind .stopwatch db (activeStopwatches db) where
  mem _ := mem_activeStopwatches
  nodup := (List.perm_insertionSort _ _).nodup_iff.mpr (nodup_rows db _)

theorem listsKind_activeCountdownTimers (db : Database) :
    ListsKind .countdown db (activeCountdownTimers db) where
  mem _ := mem_activeCountdownTimers
  nodup := by
    rw [activeCountdownTimers, (List.perm_insertionSort _ _).nodup_iff]
    exact (List.perm_insertionSort _ _).nodup_iff.mpr (nodup_rows db _)

theorem eq_singleton_iff {items : List Timer} (hnodup : items.Nodup) :
    items = [target] ↔ ∀ timer, timer ∈ items ↔ timer = target := by
  rw [← List.perm_singleton, List.perm_ext_iff_of_nodup hnodup (List.nodup_singleton target)]
  simp only [List.mem_singleton]

theorem find?_eq_some_iff (hitems : ListsKind kind db items) {timerId : Int} :
    (items.find? fun item => item.id = timerId) = some target ↔
      target ∈ db.timers ∧ target.kind = kind ∧ target.id = timerId := by
  constructor
  · intro hfind
    obtain ⟨hmem, hkind⟩ := (hitems.mem target).mp (List.mem_of_find?_eq_some hfind)
    have hid := List.find?_some hfind
    exact ⟨hmem, hkind, of_decide_eq_true hid⟩
  · rintro ⟨hmem, hkind, hid⟩
    have hitem : target ∈ items := (hitems.mem target).mpr ⟨hmem, hkind⟩
    have hsome : (items.find? fun item => item.id = timerId).isSome = true :=
      List.find?_isSome.mpr ⟨target, hitem, decide_eq_true hid⟩
    obtain ⟨other, hother⟩ := Option.isSome_iff_exists.mp hsome
    have hotherMem := ((hitems.mem other).mp (List.mem_of_find?_eq_some hother)).1
    have hotherId := List.find?_some hother
    rw [hother, Table.eq_of_key hotherMem hmem ((of_decide_eq_true hotherId).trans hid.symm)]

theorem filter_eq_singleton_iff (hitems : ListsKind kind db items) {oldLabel : Text} :
    (items.filter fun item => u.lower (strip item.label) = u.lower oldLabel) = [target] ↔
      target ∈ db.timers ∧ target.kind = kind ∧ ∀ timer ∈ db.timers, timer.kind = kind →
        (u.lower (strip timer.label) = u.lower oldLabel ↔ timer = target) := by
  rw [eq_singleton_iff (hitems.nodup.filter _)]
  simp only [List.mem_filter, hitems.mem, decide_eq_true_eq]
  constructor
  · intro h
    obtain ⟨⟨hmem, hkind⟩, -⟩ := (h target).mpr rfl
    refine ⟨hmem, hkind, fun timer htimer htimerKind => ?_⟩
    rw [← h timer]
    exact (and_iff_right ⟨htimer, htimerKind⟩).symm
  · rintro ⟨hmem, hkind, honly⟩ timer
    constructor
    · rintro ⟨⟨htimer, htimerKind⟩, hlabel⟩
      exact (honly timer htimer htimerKind).mp hlabel
    · rintro rfl
      exact ⟨⟨hmem, hkind⟩, (honly timer hmem hkind).mpr rfl⟩

/-- The target is found exactly where there is one. -/
theorem resolveRenameTarget_iff (hitems : ListsKind kind db items) {itemId : Option PyScalar}
    {oldLabel : Text} {itemNoun : String} :
    resolveRenameTarget u items itemId oldLabel itemNoun = .ok target ↔
      IsTarget u kind itemId oldLabel db target := by
  rw [resolveRenameTarget, IsTarget]
  rcases givenId itemId with _ | value
  · simp only [reduceCtorEq, false_and, exists_false, true_and, false_or]
    by_cases hlabel : oldLabel = []
    · simp only [hlabel, if_true, reduceCtorEq, ne_eq, not_true_eq_false, false_and, and_false]
    · simp only [hlabel, if_false, ne_eq, not_false_eq_true, true_and]
      rw [← filter_eq_singleton_iff hitems]
      generalize items.filter (fun item => u.lower (strip item.label) = u.lower oldLabel) = found
      rcases found with _ | ⟨item, _ | ⟨item', rest⟩⟩
      · simp only [reduceCtorEq, List.nil_eq, List.cons_ne_nil]
      · simp only [Except.ok.injEq, List.cons.injEq, and_true]
      · simp only [reduceCtorEq, List.cons.injEq, and_false]
  · simp only [Option.some.injEq, reduceCtorEq, false_and, or_false, exists_eq_left']
    rcases u.intOfScalar value with e | n
    · simp only [reduceCtorEq, and_false]
    · rw [Except.ok.injEq, eq_comm (a := n), ← find?_eq_some_iff hitems]
      dsimp only
      generalize items.find? (fun item => item.id = n) = found
      rcases found with _ | item
      · simp only [reduceCtorEq]
      · simp only [Except.ok.injEq, Option.some.injEq]

theorem toolError_of_resolveRenameTarget {itemId : Option PyScalar} {oldLabel : Text}
    {itemNoun : String} {e : PyError}
    (h : resolveRenameTarget u items itemId oldLabel itemNoun = .error e) :
    ∃ message, e = .toolError message := by
  rw [resolveRenameTarget] at h
  split at h
  · split at h
    · cases h
      exact ⟨_, rfl⟩
    · split at h <;> cases h
      exact ⟨_, rfl⟩
  · split at h
    · cases h
      exact ⟨_, rfl⟩
    · split at h <;> cases h <;> exact ⟨_, rfl⟩

theorem toolError_of_normalizeLabel {raw : Text} {default : String} {e : PyError}
    (h : normalizeLabel raw default = .error e) : ∃ message, e = .toolError message := by
  rw [normalizeLabel] at h
  split at h <;> cases h
  exact ⟨_, rfl⟩

theorem updateTimerLabel_of_mem (hmem : target ∈ server.database.timers) (label : Text) :
    updateTimerLabel target.id label server =
      (relabeled target label server, some (setLabel label target)) := by
  have hfind : getTimer target.id server.database = some target := Table.find?_key_of_mem hmem
  rw [updateTimerLabel, hfind]
  rfl

theorem renames_renameRow {items : Database → List Timer} {idName itemNoun default : String}
    (hitems : ListsKind kind server.database (items server.database)) :
    Renames u kind idName default args server
      (renameRow u items idName itemNoun default args server) := by
  rw [renameRow]
  rcases hraw : givenId (args.lookup "new_label") with _ | newLabelRaw
  · refine .refused _ ?_
    rintro ⟨target, other, newLabel, -, hother, -⟩
    rw [hraw] at hother
    cases hother
  · rcases htarget : resolveRenameTarget u (items server.database) (args.lookup idName)
      (strip (textArg args "label")) itemNoun with e | target
    · obtain ⟨message, rfl⟩ := toolError_of_resolveRenameTarget htarget
      refine .refused _ ?_
      rintro ⟨target, other, newLabel, hother, -⟩
      rw [(resolveRenameTarget_iff hitems).mpr hother] at htarget
      cases htarget
    · rcases hlabel : normalizeLabel newLabelRaw.toText default with e | newLabel
      · obtain ⟨message, rfl⟩ := toolError_of_normalizeLabel hlabel
        simp only [hlabel]
        refine .refused _ ?_
        rintro ⟨target', other, newLabel, -, hother, hnewLabel⟩
        rw [hraw] at hother
        cases hother
        rw [hlabel] at hnewLabel
        cases hnewLabel
      · have hfound := (resolveRenameTarget_iff hitems).mp htarget
        simp only [hlabel, updateTimerLabel_of_mem hfound.1]
        exact .renamed target newLabelRaw newLabel _ hfound hraw hlabel

structure Selective (u : PyData) (args : PyDict) (server : Server) : Prop where
  cancel : Removes .countdown (Selects u (args.lookup "timer_id") (requestedLabel u args)) server
    (cancelTimers u args server).1
  cancelRefused : ∀ e, (cancelTimers u args server).2 = .error e →
    (cancelTimers u args server).1 = server
  stop : Removes .stopwatch (Selects u (args.lookup "stopwatch_id") (requestedLabel u args)) server
    (stopStopwatches u args server).1
  stopRefused : ∀ e, (stopStopwatches u args server).2 = .error e →
    (stopStopwatches u args server).1 = server
  renameTimer : Renames u .countdown "timer_id" "Timer" args server (renameTimer u args server)
  renameStopwatch : Renames u .stopwatch "stopwatch_id" "Stopwatch" args server
    (renameStopwatch u args server)

/-- The operations on selected timers and stopwatches change what is selected and
nothing else. -/
theorem selective (u : PyData) (args : PyDict) (server : Server) : Selective u args server where
  cancel := removes_cancelTimers u args server
  cancelRefused _ h := cancelTimers_of_error h
  stop := removes_stopStopwatches u args server
  stopRefused _ h := stopStopwatches_of_error h
  renameTimer := renames_renameRow (listsKind_activeCountdownTimers server.database)
  renameStopwatch := renames_renameRow (listsKind_activeStopwatches server.database)

end NanoCore.Timers.Selection
