/-!
Computations that change a state and may raise an exception.  As in Python the
changes made before an exception stay, and what cleans up runs in that state.
-/

namespace NanoCore.Foundation.Effects

def Effect (σ ε α : Type) := σ → σ × Except ε α

namespace Effect

variable {σ τ ε α β : Type}

def andThen (body : Effect σ ε α) (next : α → Effect σ ε β) : Effect σ ε β := fun s =>
  match body s with
  | (s, .error e) => (s, .error e)
  | (s, .ok a) => next a s

instance : Monad (Effect σ ε) where
  pure a s := (s, .ok a)
  bind := andThen

def change (f : σ → σ) : Effect σ ε Unit := fun s => (f s, .ok ())

def ofExcept (result : Except ε α) : Effect σ ε α := fun s => (s, result)

def onFirst (body : Effect σ ε α) : Effect (σ × τ) ε α := fun s =>
  (((body s.1).1, s.2), (body s.1).2)

/-- `if condition: body`. -/
def onlyIf (condition : Bool) (body : Effect σ ε Unit) : Effect σ ε Unit :=
  if condition then body else pure ()

/-- `try: body` with `except Exception: cleanup; raise`. -/
def onException (body : Effect σ ε α) (cleanup : σ → σ) : Effect σ ε α := fun s =>
  match body s with
  | (s, .error e) => (cleanup s, .error e)
  | (s, .ok a) => (s, .ok a)

/-- `try: body` with `finally: cleanup`. -/
def andFinally (body : Effect σ ε α) (cleanup : σ → σ) : Effect σ ε α := fun s =>
  (cleanup (body s).1, (body s).2)

theorem bind_of_ok {body : Effect σ ε α} {next : α → Effect σ ε β} {s s' : σ} {a : α}
    (h : body s = (s', .ok a)) : (body >>= next) s = next a s' := by
  change body.andThen next s = _
  rw [andThen, h]

theorem bind_of_error {body : Effect σ ε α} {next : α → Effect σ ε β} {s s' : σ} {e : ε}
    (h : body s = (s', .error e)) : (body >>= next) s = (s', .error e) := by
  change body.andThen next s = _
  rw [andThen, h]

theorem bind_pure_right (body : Effect σ ε α) : body >>= pure = body := by
  funext s
  rcases h : body s with ⟨s', e | a⟩
  · exact bind_of_error h
  · exact bind_of_ok h

/-- A condition on the state in which a computation returns. -/
def ReturnsIn (P : σ → Prop) (body : Effect σ ε α) : Prop :=
  ∀ s s' a, body s = (s', .ok a) → P s'

def EndsIn (P : σ → Prop) (body : Effect σ ε α) : Prop := ∀ s, P (body s).1

def Keeps (part : σ → τ) (body : Effect σ ε α) : Prop := ∀ s, part (body s).1 = part s

variable {P : σ → Prop} {part : σ → τ} {body : Effect σ ε α} {next : α → Effect σ ε β}
variable {cleanup : σ → σ}

theorem endsIn_andFinally (hcleanup : ∀ s, P (cleanup s)) : EndsIn P (body.andFinally cleanup) :=
  fun _ => hcleanup _

theorem EndsIn.returnsIn (h : EndsIn P body) : ReturnsIn P body := by
  intro s s' a hbody
  have hends := h s
  rwa [hbody] at hends

theorem ReturnsIn.bind (h : ∀ a, ReturnsIn P (next a)) : ReturnsIn P (body >>= next) := by
  intro s s' b hrun
  rcases hbody : body s with ⟨between, e | a⟩
  · rw [bind_of_error hbody] at hrun
    cases hrun
  · rw [bind_of_ok hbody] at hrun
    exact h a between s' b hrun

theorem endsIn_onException (hbody : ReturnsIn P body) (hcleanup : ∀ s, P (cleanup s)) :
    EndsIn P (body.onException cleanup) := by
  intro s
  rw [onException]
  rcases hrun : body s with ⟨s', e | a⟩
  · exact hcleanup s'
  · exact hbody s s' a hrun

theorem keeps_ofExcept (result : Except ε α) : Keeps part (ofExcept result) := fun _ => rfl

theorem keeps_pure (a : α) : Keeps part (pure a : Effect σ ε α) := fun _ => rfl

theorem keeps_onFirst (body : Effect σ ε α) :
    Keeps Prod.snd (onFirst body : Effect (σ × τ) ε α) := fun _ => rfl

theorem keeps_onlyIf {body : Effect σ ε Unit} (hbody : Keeps part body) (condition : Bool) :
    Keeps part (onlyIf condition body) := by
  cases condition with
  | false => exact keeps_pure ()
  | true => exact hbody

theorem Keeps.bind (hbody : Keeps part body) (hnext : ∀ a, Keeps part (next a)) :
    Keeps part (body >>= next) := by
  intro s
  have hkept := hbody s
  rcases hrun : body s with ⟨s', e | a⟩
  · rw [bind_of_error hrun]
    rwa [hrun] at hkept
  · rw [bind_of_ok hrun, hnext a s']
    rwa [hrun] at hkept

def Preserves (P : σ → Prop) (body : Effect σ ε α) : Prop := ∀ s, P s → P (body s).1

theorem preserves_pure (a : α) : Preserves P (pure a : Effect σ ε α) := fun _ h => h

theorem preserves_ofExcept (result : Except ε α) : Preserves P (ofExcept result) := fun _ h => h

theorem preserves_change {f : σ → σ} (hf : ∀ s, P s → P (f s)) :
    Preserves P (change f : Effect σ ε Unit) := hf

/-- A computation cannot break a condition on a part that it keeps. -/
theorem Keeps.preserves (h : Keeps part body) (Q : τ → Prop) :
    Preserves (fun s => Q (part s)) body := by
  intro s hs
  rwa [h s]

theorem Preserves.bind (hbody : Preserves P body) (hnext : ∀ a, Preserves P (next a)) :
    Preserves P (body >>= next) := by
  intro s hs
  have hkept := hbody s hs
  rcases hrun : body s with ⟨s', e | a⟩
  · rw [bind_of_error hrun]
    rwa [hrun] at hkept
  · rw [bind_of_ok hrun]
    rw [hrun] at hkept
    exact hnext a s' hkept

/-- A condition on what a computation returns. -/
def Yields (Q : α → Prop) (body : Effect σ ε α) : Prop := ∀ s s' a, body s = (s', .ok a) → Q a

section Yields

variable {Q : α → Prop} {R : β → Prop}

theorem yields_pure {a : α} (h : Q a) : Yields Q (pure a : Effect σ ε α) := by
  intro s s' b hrun
  cases hrun
  exact h

theorem yields_ofExcept {result : Except ε α} (h : ∀ a, result = .ok a → Q a) :
    Yields Q (ofExcept result : Effect σ ε α) :=
  fun _ _ a hrun => h a (congrArg Prod.snd hrun)

theorem Yields.bind (hbody : Yields Q body) (hnext : ∀ a, Q a → Yields R (next a)) :
    Yields R (body >>= next) := by
  intro s s' b hrun
  rcases hstep : body s with ⟨between, e | a⟩
  · rw [bind_of_error hstep] at hrun
    cases hrun
  · rw [bind_of_ok hstep] at hrun
    exact hnext a (hbody s between a hstep) between s' b hrun

theorem Yields.of_next (hnext : ∀ a, Yields R (next a)) : Yields R (body >>= next) :=
  Yields.bind (fun _ _ _ _ => trivial : Yields (fun _ => True) body) fun a _ => hnext a

end Yields

/-- One result, in whatever state. -/
def Gives (a : α) (body : Effect σ ε α) : Prop := ∀ s, (body s).2 = .ok a

section Gives

variable {a : α} {b : β}

theorem gives_pure (a : α) : Gives a (pure a : Effect σ ε α) := fun _ => rfl

theorem Gives.bind (hbody : Gives a body) (hnext : Gives b (next a)) :
    Gives b (body >>= next) := by
  intro s
  rw [bind_of_ok (Prod.ext rfl (hbody s) : body s = ((body s).1, .ok a))]
  exact hnext _

end Gives

/-- What a computation adds to a measure of the state, at most. -/
def Costs (measure : σ → Nat) (n : Nat) (body : Effect σ ε α) : Prop :=
  ∀ s, measure (body s).1 ≤ measure s + n

section Costs

variable {measure : σ → Nat} {m n : Nat}

theorem Costs.mono (h : Costs measure n body) (hle : n ≤ m) : Costs measure m body :=
  fun s => Nat.le_trans (h s) (Nat.add_le_add_left hle _)

theorem Costs.bind (hbody : Costs measure m body) (hnext : ∀ a, Costs measure n (next a)) :
    Costs measure (m + n) (body >>= next) := by
  intro s
  have hfirst := hbody s
  rcases hrun : body s with ⟨s', e | a⟩
  · rw [bind_of_error hrun]
    rw [hrun] at hfirst
    exact Nat.le_trans hfirst (Nat.add_le_add_left (Nat.le_add_right m n) _)
  · rw [bind_of_ok hrun]
    rw [hrun] at hfirst
    have hsecond := hnext a s'
    dsimp only at hfirst
    omega

end Costs

/-- A computation that does on the first part of the state what another one does. -/
def Refines (body : Effect (σ × τ) ε α) (inner : Effect σ ε α) : Prop :=
  ∀ s t, ((body (s, t)).1.1, (body (s, t)).2) = inner s

section Refines

variable {τ : Type} {body : Effect (σ × τ) ε α} {inner : Effect σ ε α}
variable {next : α → Effect (σ × τ) ε β} {innerNext : α → Effect σ ε β}

theorem refines_onFirst (inner : Effect σ ε α) :
    (onFirst inner : Effect (σ × τ) ε α).Refines inner := fun _ _ => rfl

theorem refines_pure (a : α) : (pure a : Effect (σ × τ) ε α).Refines (pure a) := fun _ _ => rfl

theorem refines_onlyIf {body : Effect (σ × τ) ε Unit} {inner : Effect σ ε Unit}
    (hbody : body.Refines inner) (condition : Bool) :
    (onlyIf condition body).Refines (onlyIf condition inner) := by
  cases condition with
  | false => exact refines_pure ()
  | true => exact hbody

theorem refines_onlyIf_pure {body : Effect (σ × τ) ε Unit} (hbody : body.Refines (pure ()))
    (condition : Bool) : (onlyIf condition body).Refines (pure ()) := by
  cases condition with
  | false => exact refines_pure ()
  | true => exact hbody

theorem Refines.bind (hbody : body.Refines inner) (hnext : ∀ a, (next a).Refines (innerNext a)) :
    Refines (body >>= next) (inner >>= innerNext) := by
  intro s t
  have hinner := (hbody s t).symm
  rcases hrun : body (s, t) with ⟨⟨s', t'⟩, e | a⟩
  · rw [hrun] at hinner
    rw [bind_of_error hrun, bind_of_error hinner]
  · rw [hrun] at hinner
    rw [bind_of_ok hrun, bind_of_ok hinner]
    exact hnext a s' t'

/-- A step that only changes the second part does nothing to the first. -/
theorem Refines.bind_left {body : Effect (σ × τ) ε Unit} {next : Unit → Effect (σ × τ) ε β}
    {inner : Effect σ ε β} (hbody : body.Refines (pure ())) (hnext : (next ()).Refines inner) :
    Refines (body >>= next) inner := by
  have hboth : Refines (body >>= next) (pure () >>= fun _ => inner) :=
    hbody.bind fun _ => hnext
  exact hboth

theorem Refines.onException (hbody : body.Refines inner) {cleanup : σ × τ → σ × τ}
    (hcleanup : ∀ s, (cleanup s).1 = s.1) : Refines (body.onException cleanup) inner := by
  intro s t
  rw [← hbody s t, Effect.onException]
  rcases body (s, t) with ⟨s', e | a⟩
  · exact Prod.ext (hcleanup s') rfl
  · rfl

theorem Refines.andFinally (hbody : body.Refines inner) {cleanup : σ × τ → σ × τ}
    (hcleanup : ∀ s, (cleanup s).1 = s.1) : Refines (body.andFinally cleanup) inner := by
  intro s t
  rw [← hbody s t]
  exact Prod.ext (hcleanup _) rfl

end Refines

end Effect

end NanoCore.Foundation.Effects
