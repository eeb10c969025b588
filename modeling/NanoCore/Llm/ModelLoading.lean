import NanoCore.Llm.ContextCaps

namespace NanoCore.Llm.ModelLoading

open NanoCore.Foundation.JsonText
open NanoCore.Foundation.PythonText
open NanoCore.Llm.ContextCaps
open NanoCore.Llm.ContextSizing
open NanoCore.System.Specs

def memoryNotice : Text :=
  ("I had to use a smaller memory window (your free memory was too low), " ++
    "but I'm running.").toList

variable {requested size : Int}

theorem formatContextDowngradeNotice_memory (h : size < requested) :
    formatContextDowngradeNotice requested size .memory = memoryNotice := by
  rw [formatContextDowngradeNotice, if_neg (not_le.mpr h)]
  decide +kernel

theorem formatContextDowngradeNotice_loadFailure (h : size < requested) :
    formatContextDowngradeNotice requested size .loadFailure ≠ memoryNotice := by
  rw [formatContextDowngradeNotice, if_neg (not_le.mpr h)]
  decide +kernel

theorem formatContextDowngradeNotice_ne_nil (h : size < requested) (reason : DowngradeReason) :
    ¬ (formatContextDowngradeNotice requested size reason).isEmpty = true := by
  cases reason with
  | memory =>
      rw [formatContextDowngradeNotice, if_neg (not_le.mpr h)]
      decide +kernel
  | loadFailure =>
      rw [formatContextDowngradeNotice, if_neg (not_le.mpr h)]
      decide +kernel

variable {modelPath : Text} {notices : LoadNotices} {attemptedFailure : Bool}

theorem noticesAfterLoad_of_le (h : requested ≤ size) :
    noticesAfterLoad modelPath requested notices size attemptedFailure = notices :=
  if_neg (not_lt.mpr h)

theorem noticesAfterLoad_of_lt (h : size < requested) :
    noticesAfterLoad modelPath requested notices size attemptedFailure modelPath =
      some (formatContextDowngradeNotice requested size
        (if attemptedFailure then .loadFailure else .memory)) := by
  rw [noticesAfterLoad, if_pos h]
  show (if _ then _ else _ : LoadNotices) modelPath = _
  rw [if_neg (formatContextDowngradeNotice_ne_nil h _)]
  exact Function.update_self modelPath _ notices

section Load

variable {Model : Type} {llama : LlamaClass Model} {model : Model} {front sizes : List Int}

/-- Creating the model raises one of the exceptions that the loop catches. -/
def Fails (llama : LlamaClass Model) (modelPath : Text) (size : Int) : Prop :=
  ∃ error, createLlamaModel llama modelPath size = .error error ∧ error.kind.caught = true

theorem tryContextSizes_of_fails (h : Fails llama modelPath size) (requested : Int)
    (rest : List Int) (errors : List Text) (attemptedFailure : Bool) (s : Loader) :
    ∃ line, tryContextSizes llama modelPath requested (size :: rest) errors attemptedFailure s =
      tryContextSizes llama modelPath requested rest (errors ++ [line]) true
        { s with tried := s.tried ++ [size] } := by
  obtain ⟨error, herror, hcaught⟩ := h
  refine ⟨intText size ++ ": ".toList ++ error.message, ?_⟩
  rw [tryContextSizes, herror]
  exact if_pos hcaught

/-- The loop stops at the first size that works. -/
theorem tryContextSizes_append (hfront : ∀ x ∈ front, Fails llama modelPath x)
    (hsize : createLlamaModel llama modelPath size = .ok model) (requested : Int)
    (rest : List Int) (errors : List Text) (attemptedFailure : Bool) (s : Loader) :
    tryContextSizes llama modelPath requested (front ++ size :: rest) errors attemptedFailure s =
      (.ok (.inl (model, size)),
        ⟨noticesAfterLoad modelPath requested s.notices size
          (attemptedFailure || !front.isEmpty), s.tried ++ (front ++ [size])⟩) := by
  induction front generalizing errors attemptedFailure s with
  | nil =>
      rw [List.nil_append, tryContextSizes, hsize, List.isEmpty_nil, Bool.not_true, Bool.or_false]
      rfl
  | cons x front ih =>
      rw [List.forall_mem_cons] at hfront
      obtain ⟨line, hline⟩ := tryContextSizes_of_fails hfront.1 requested
        (front ++ size :: rest) errors attemptedFailure s
      rw [List.cons_append, hline, ih hfront.2, List.isEmpty_cons, Bool.not_false, Bool.or_true,
        Bool.true_or, List.append_assoc]
      rfl

theorem tryContextSizes_of_forall (h : ∀ x ∈ sizes, Fails llama modelPath x) (requested : Int)
    (errors : List Text) (attemptedFailure : Bool) (s : Loader) :
    ∃ errors', tryContextSizes llama modelPath requested sizes errors attemptedFailure s =
      (.ok (.inr errors'), { s with tried := s.tried ++ sizes }) := by
  induction sizes generalizing errors attemptedFailure s with
  | nil =>
      refine ⟨errors, ?_⟩
      rw [tryContextSizes, List.append_nil]
  | cons x sizes ih =>
      rw [List.forall_mem_cons] at h
      obtain ⟨line, hline⟩ :=
        tryContextSizes_of_fails h.1 requested sizes errors attemptedFailure s
      obtain ⟨errors', herrors⟩ := ih h.2 (errors ++ [line]) true
        { s with tried := s.tried ++ [x] }
      refine ⟨errors', ?_⟩
      rw [hline, herrors, List.append_assoc]
      rfl

variable {modelBytes : Option Nat} {memory : MemoryInfo}

/-- The cap takes away a size of the ladder that the request allows. -/
def CapExcludes (modelBytes : Option Nat) (memory : MemoryInfo) (requested : Int) : Prop :=
  ∃ cap ∈ ramCap modelBytes memory, ∃ size ∈ contextSizeLadder, size ≤ requested ∧ cap < size

theorem mem_contextSizeLadder_of_mem (h : size ∈ contextSizesToTry modelBytes memory requested) :
    size ∈ contextSizeLadder := by
  cases hcap : ramCap modelBytes memory with
  | none =>
      rw [contextSizesToTry_of_none hcap] at h
      exact (List.mem_filter.mp h).1
  | some cap =>
      rw [contextSizesToTry_of_some hcap] at h
      split_ifs at h with hempty
      · rw [List.mem_singleton.mp h]
        exact mem_contextSizeLadder_512
      · exact (List.mem_filter.mp h).1

/-- Where the cap takes nothing away, the largest size up to the request is tried first. -/
theorem contextSizesToTry_of_not_excludes (hrequested : 512 ≤ requested)
    (h : ¬ CapExcludes modelBytes memory requested) :
    ∃ rest, contextSizesToTry modelBytes memory requested = ladderTop requested :: rest := by
  have hhead : (contextSizesToTry modelBytes memory requested).headD 512 =
      ladderTop requested := by
    cases hcap : ramCap modelBytes memory with
    | none => rw [headD_contextSizesToTry_of_none hcap, max_eq_right hrequested]
    | some cap =>
        have hall : ∀ size ∈ contextSizeLadder, size ≤ requested → size ≤ max 512 cap := by
          intro size hsize hle
          by_contra hlt
          exact h ⟨cap, hcap, size, hsize, hle, (max_lt_iff.mp (not_le.mp hlt)).2⟩
        rw [headD_contextSizesToTry_of_some hcap, max_eq_right hrequested]
        exact le_antisymm (ladderTop_mono (min_le_left requested cap))
          ((ladderTop_le_ladderTop_min_iff hrequested).mpr hall)
  obtain ⟨size, rest, hsizes⟩ :=
    List.exists_cons_of_ne_nil (contextSizesToTry_ne_nil modelBytes memory requested)
  rw [hsizes] at hhead
  exact ⟨rest, hhead ▸ hsizes⟩

def Succeeds (llama : LlamaClass Model) (modelPath : Text) (size : Int) : Prop :=
  ∃ model, createLlamaModel llama modelPath size = .ok model

/-- Every exception that creating a model raises is one that the loop catches. -/
def FailuresCaught (llama : LlamaClass Model) (modelPath : Text) : Prop :=
  ∀ size error, createLlamaModel llama modelPath size = .error error → error.kind.caught = true

theorem FailuresCaught.fails (h : FailuresCaught llama modelPath)
    (hsize : ¬ Succeeds llama modelPath size) : Fails llama modelPath size := by
  cases hcreate : createLlamaModel llama modelPath size with
  | ok model => exact absurd ⟨model, hcreate⟩ hsize
  | error error => exact ⟨error, hcreate, h size error hcreate⟩

theorem Fails.not_succeeds (h : Fails llama modelPath size) :
    ¬ Succeeds llama modelPath size := by
  rintro ⟨model, hmodel⟩
  obtain ⟨error, herror, -⟩ := h
  rw [hmodel] at herror
  cases herror

/-- Either every size fails, or some size works after ones that fail. -/
theorem FailuresCaught.forall_fails_or_exists (h : FailuresCaught llama modelPath)
    (sizes : List Int) :
    (∀ size ∈ sizes, Fails llama modelPath size) ∨
      ∃ front size rest model, sizes = front ++ size :: rest ∧
        (∀ x ∈ front, Fails llama modelPath x) ∧
        createLlamaModel llama modelPath size = .ok model := by
  induction sizes with
  | nil => exact .inl fun _ hmem => absurd hmem List.not_mem_nil
  | cons size sizes ih =>
      by_cases hsize : Succeeds llama modelPath size
      · obtain ⟨model, hmodel⟩ := hsize
        exact .inr ⟨[], size, sizes, model, rfl, fun _ hmem => absurd hmem List.not_mem_nil, hmodel⟩
      · rcases ih with hall | ⟨front, x, rest, model, rfl, hfront, hx⟩
        · exact .inl (List.forall_mem_cons.mpr ⟨h.fails hsize, hall⟩)
        · exact .inr ⟨size :: front, x, rest, model, rfl,
            List.forall_mem_cons.mpr ⟨h.fails hsize, hfront⟩, hx⟩

variable {before : Readings}

theorem loadLocalModelUncached_of_append {rest : List Int}
    (hsizes : contextSizesToTry before.modelBytes before.memory requested = front ++ size :: rest)
    (hfront : ∀ x ∈ front, Fails llama modelPath x)
    (hsize : createLlamaModel llama modelPath size = .ok model) (after : Readings) (s : Loader) :
    loadLocalModelUncached llama modelPath requested before after s =
      (.ok (model, size),
        ⟨noticesAfterLoad modelPath requested s.notices size (!front.isEmpty),
          s.tried ++ (front ++ [size])⟩) := by
  rw [loadLocalModelUncached, hsizes, tryContextSizes_append hfront hsize, Bool.false_or]

theorem loadLocalModelUncached_of_forall
    (h : ∀ size ∈ contextSizesToTry before.modelBytes before.memory requested,
      Fails llama modelPath size) (after : Readings) (s : Loader) :
    ∃ message, loadLocalModelUncached llama modelPath requested before after s =
      (.error (.localModelLoadError message),
        { s with tried := s.tried ++
            contextSizesToTry before.modelBytes before.memory requested }) := by
  obtain ⟨errors, herrors⟩ := tryContextSizes_of_forall h requested [] false s
  refine ⟨loadErrorMessage modelPath after
    (contextSizesToTry before.modelBytes before.memory requested) errors, ?_⟩
  rw [loadLocalModelUncached, herrors]

/-- Loading falls back as it should, whatever notices are kept from before. -/
structure FallsBack (llama : LlamaClass Model) (modelPath : Text) (requested : Int)
    (before after : Readings) : Prop where
  returns : ∀ s front size rest model,
    contextSizesToTry before.modelBytes before.memory requested = front ++ size :: rest →
    (∀ x ∈ front, ¬ Succeeds llama modelPath x) →
    createLlamaModel llama modelPath size = .ok model →
    (loadLocalModelUncached llama modelPath requested before after s).1 = .ok (model, size) ∧
      (loadLocalModelUncached llama modelPath requested before after s).2.tried =
        s.tried ++ (front ++ [size])
  raises : ∀ s,
    (∃ message, (loadLocalModelUncached llama modelPath requested before after s).1 =
      .error (.localModelLoadError message)) ↔
    ∀ size ∈ contextSizesToTry before.modelBytes before.memory requested,
      ¬ Succeeds llama modelPath size
  notices : ∀ s,
    (loadLocalModelUncached llama modelPath requested before after s).2.notices modelPath =
      some memoryNotice →
    s.notices modelPath = some memoryNotice ∨
      CapExcludes before.modelBytes before.memory requested

variable {after : Readings}

theorem loads_of_failuresCaught (h : FailuresCaught llama modelPath) (s : Loader)
    {rest : List Int}
    (hsizes : contextSizesToTry before.modelBytes before.memory requested = front ++ size :: rest)
    (hfront : ∀ x ∈ front, ¬ Succeeds llama modelPath x)
    (hsize : createLlamaModel llama modelPath size = .ok model) :
    (loadLocalModelUncached llama modelPath requested before after s).1 = .ok (model, size) ∧
      (loadLocalModelUncached llama modelPath requested before after s).2.tried =
        s.tried ++ (front ++ [size]) := by
  rw [loadLocalModelUncached_of_append hsizes (fun x hx => h.fails (hfront x hx)) hsize]
  exact ⟨rfl, rfl⟩

theorem raises_iff_of_failuresCaught (h : FailuresCaught llama modelPath) (s : Loader) :
    (∃ message, (loadLocalModelUncached llama modelPath requested before after s).1 =
      .error (.localModelLoadError message)) ↔
    ∀ size ∈ contextSizesToTry before.modelBytes before.memory requested,
      ¬ Succeeds llama modelPath size := by
  constructor
  · rintro ⟨message, hmessage⟩
    rcases h.forall_fails_or_exists
      (contextSizesToTry before.modelBytes before.memory requested) with
      hall | ⟨front, size, rest, model, hsizes, hfront, hsize⟩
    · exact fun size hmem => (hall size hmem).not_succeeds
    · rw [loadLocalModelUncached_of_append hsizes hfront hsize] at hmessage
      cases hmessage
  · intro hnone
    obtain ⟨message, hload⟩ := loadLocalModelUncached_of_forall
      (fun size hmem => h.fails (hnone size hmem)) after s
    exact ⟨message, congrArg Prod.fst hload⟩

/-- The notice about the memory is left only by a first try that works. -/
theorem notices_of_failuresCaught (h : FailuresCaught llama modelPath) (s : Loader)
    (hnotice : (loadLocalModelUncached llama modelPath requested before after s).2.notices
      modelPath = some memoryNotice) :
    s.notices modelPath = some memoryNotice ∨ ∃ size rest,
      contextSizesToTry before.modelBytes before.memory requested = size :: rest ∧
        size < requested ∧ Succeeds llama modelPath size := by
  rcases h.forall_fails_or_exists
    (contextSizesToTry before.modelBytes before.memory requested) with
    hall | ⟨front, size, rest, model, hsizes, hfront, hsize⟩
  · obtain ⟨message, hload⟩ := loadLocalModelUncached_of_forall hall after s
    rw [hload] at hnotice
    exact .inl hnotice
  · rw [loadLocalModelUncached_of_append hsizes hfront hsize] at hnotice
    change noticesAfterLoad modelPath requested s.notices size (!front.isEmpty) modelPath =
      some memoryNotice at hnotice
    rcases lt_or_ge size requested with hlt | hle
    · rw [noticesAfterLoad_of_lt hlt] at hnotice
      cases front with
      | nil => exact .inr ⟨size, rest, hsizes, hlt, model, hsize⟩
      | cons x front =>
          exact absurd (Option.some.inj hnotice)
            (formatContextDowngradeNotice_loadFailure hlt)
    · rw [noticesAfterLoad_of_le hle] at hnotice
      exact .inl hnotice

theorem ladderTop_lt (hlarge : 512 < requested) (hladder : requested ∉ contextSizeLadder) :
    ladderTop requested < requested := by
  have hle := ladderTop_le requested
  rw [max_eq_right hlarge.le] at hle
  apply lt_of_le_of_ne hle
  intro heq
  apply hladder
  rw [← heq]
  exact ladderTop_mem requested

/-- Where the cap takes nothing away, a first try below the request is of the largest size
up to it, and the request is none of the ladder. -/
theorem first_of_not_excludes {rest : List Int}
    (hexcludes : ¬ CapExcludes before.modelBytes before.memory requested)
    (hsizes : contextSizesToTry before.modelBytes before.memory requested = size :: rest)
    (hlt : size < requested) :
    512 < requested ∧ requested ∉ contextSizeLadder ∧ size = ladderTop requested := by
  have hmem : size ∈ contextSizeLadder := by
    apply mem_contextSizeLadder_of_mem
    rw [hsizes]
    exact List.mem_cons_self
  have hlarge : 512 < requested := lt_of_le_of_lt (le_of_mem_contextSizeLadder hmem) hlt
  obtain ⟨rest', hsizes'⟩ := contextSizesToTry_of_not_excludes hlarge.le hexcludes
  rw [hsizes] at hsizes'
  obtain ⟨rfl, -⟩ := List.cons.inj hsizes'
  refine ⟨hlarge, ?_, rfl⟩
  intro hladder
  have htop := le_ladderTop hladder (le_refl requested)
  omega

/-- The notice that a loader without notices gets from a first try that works. -/
theorem notices_of_first_try {rest : List Int}
    (hsizes : contextSizesToTry before.modelBytes before.memory requested = size :: rest)
    (hlt : size < requested) (hsize : Succeeds llama modelPath size) (after : Readings) :
    (loadLocalModelUncached llama modelPath requested before after
      ⟨fun _ => none, []⟩).2.notices modelPath = some memoryNotice := by
  obtain ⟨model, hmodel⟩ := hsize
  rw [← List.nil_append (size :: rest)] at hsizes
  rw [loadLocalModelUncached_of_append hsizes (fun _ hmem => absurd hmem List.not_mem_nil) hmodel]
  apply (noticesAfterLoad_of_lt hlt).trans
  exact congrArg some (formatContextDowngradeNotice_memory hlt)

/-- The notice blames the memory wrongly exactly where the request lies between two
sizes of the ladder, or above it, and the largest size up to it works at once. -/
theorem fallsBack_iff (h : FailuresCaught llama modelPath) (requested : Int)
    (before after : Readings) :
    FallsBack llama modelPath requested before after ↔
      CapExcludes before.modelBytes before.memory requested ∨ requested ≤ 512 ∨
        requested ∈ contextSizeLadder ∨ ¬ Succeeds llama modelPath (ladderTop requested) := by
  constructor
  · intro hfalls
    by_contra hnone
    simp only [not_or, not_not, not_le] at hnone
    obtain ⟨hexcludes, hlarge, hladder, hsize⟩ := hnone
    obtain ⟨rest, hsizes⟩ := contextSizesToTry_of_not_excludes hlarge.le hexcludes
    have hlt := ladderTop_lt hlarge hladder
    have hnotice := notices_of_first_try hsizes hlt hsize after
    rcases hfalls.notices ⟨fun _ => none, []⟩ hnotice with hinit | hcap
    · cases hinit
    · exact hexcludes hcap
  · intro hcondition
    constructor
    · intro s front size rest model
      exact loads_of_failuresCaught h s
    · exact raises_iff_of_failuresCaught h
    · intro s hnotice
      rcases notices_of_failuresCaught h s hnotice with hinit | ⟨size, rest, hsizes, hlt, hsize⟩
      · exact .inl hinit
      · right
        by_contra hexcludes
        obtain ⟨hlarge, hladder, rfl⟩ := first_of_not_excludes hexcludes hsizes hlt
        rcases hcondition with hcap | hsmall | hon | hfailure
        · exact hexcludes hcap
        · exact absurd hsmall (not_le.mpr hlarge)
        · exact hladder hon
        · exact hfailure hsize

theorem fallsBack_full_size :
    FallsBack (some fun _ _ => .ok ()) "chat.gguf".toList 32768 ⟨none, none, none⟩
      ⟨none, none, none⟩ :=
  (fallsBack_iff (fun _ _ h => by cases h) 32768 ⟨none, none, none⟩ ⟨none, none, none⟩).mpr
    (.inr (.inr (.inl (by decide))))

/-- A request for 10000 tokens on a machine that does not tell its memory. -/
theorem not_fallsBack_between_sizes :
    ¬ ∀ (Model : Type) (llama : LlamaClass Model) (modelPath : Text) (requested : Int)
      (before after : Readings), FailuresCaught llama modelPath →
        FallsBack llama modelPath requested before after := by
  intro h
  have hfalls := h Unit (some fun _ _ => .ok ()) "chat.gguf".toList 10000 ⟨none, none, none⟩
    ⟨none, none, none⟩ (fun _ _ h => by cases h)
  rcases hfalls.notices ⟨fun _ => none, []⟩ (by decide +kernel) with hinit | ⟨cap, hcap, -⟩
  · cases hinit
  · cases hcap

end Load

end NanoCore.Llm.ModelLoading
