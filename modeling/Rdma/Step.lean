/-!
# Steps on a state

A step yields a value or a cause of failure, and in both cases the state it leaves. Failing does not
undo what ran before it, so whether a failed operation changed anything is a fact to be proved about
the operation.
-/

namespace Rdma

/-- A step on a state of type `σ` that fails with an `ε`. -/
def Step (σ ε α : Type) : Type := σ → Except ε α × σ

namespace Step

variable {σ ε α β : Type}

def ok (a : α) : Step σ ε α := fun s => (.ok a, s)

def fail (e : ε) : Step σ ε α := fun s => (.error e, s)

def andThen (x : Step σ ε α) (f : α → Step σ ε β) : Step σ ε β := fun s =>
  match x s with
  | (.ok a, s) => f a s
  | (.error e, s) => (.error e, s)

instance : Monad (Step σ ε) where
  pure := ok
  bind := andThen

instance : MonadExceptOf ε (Step σ ε) where
  throw := fail
  tryCatch x handler := fun s =>
    match x s with
    | (.ok a, s) => (.ok a, s)
    | (.error e, s) => handler e s

/-- The state. -/
def state : Step σ ε σ := fun s => (.ok s, s)

/-- Replace the state. -/
def update (f : σ → σ) : Step σ ε Unit := fun s => (.ok (), f s)

/-- A value computed from the state, which stays as it is. -/
def read (f : σ → Except ε α) : Step σ ε α := fun s => (f s, s)

/-- A step that cannot fail. -/
def always (f : σ → α × σ) : Step σ ε α := fun s => let (a, s) := f s; (.ok a, s)

/-- A checked update: a failed check leaves the state alone, a passed one commits. -/
def guarded (check : σ → Except ε α) (commit : α → σ → β × σ) : Step σ ε β := fun s =>
  match check s with
  | .error e => (.error e, s)
  | .ok a => let (b, s) := commit a s; (.ok b, s)

@[simp] theorem pure_apply (a : α) (s : σ) : (pure a : Step σ ε α) s = (.ok a, s) := rfl

@[simp] theorem throw_apply (e : ε) (s : σ) : (throw e : Step σ ε α) s = (.error e, s) := rfl

theorem bind_apply (x : Step σ ε α) (f : α → Step σ ε β) (s : σ) :
    (x >>= f) s = match x s with
      | (.ok a, s) => f a s
      | (.error e, s) => (.error e, s) := rfl

theorem map_apply (f : α → β) (x : Step σ ε α) (s : σ) :
    (f <$> x) s = match x s with
      | (.ok a, s) => (.ok (f a), s)
      | (.error e, s) => (.error e, s) := rfl

/-- Steps in a row relate the first state to the last if each relates its own, as long as the relation
is transitive. -/
theorem bind_relates {R : σ → σ → Prop} (htrans : ∀ {s t u}, R s t → R t u → R s u)
    {x : Step σ ε α} {f : α → Step σ ε β} (hx : ∀ s, R s (x s).2) (hf : ∀ a s, R s (f a s).2)
    (s : σ) : R s ((x >>= f) s).2 := by
  have hfirst := hx s
  rw [bind_apply]
  split
  case h_1 a t heq =>
    rw [heq] at hfirst
    exact htrans hfirst (hf a t)
  case h_2 e t heq =>
    rw [heq] at hfirst
    exact hfirst

/-- What holds of a failed check and of every commit holds of a guarded step. -/
theorem guarded_cases {P : Except ε β × σ → Prop} {check : σ → Except ε α}
    {commit : α → σ → β × σ} {s : σ} (hfail : ∀ e, check s = .error e → P (.error e, s))
    (hcommit : ∀ a, check s = .ok a → P (.ok (commit a s).1, (commit a s).2)) :
    P (guarded check commit s) := by
  unfold guarded
  cases h : check s with
  | error e => exact hfail e h
  | ok a => exact hcommit a h

/-- A guarded step that succeeds passed its check and committed. -/
theorem guarded_ok {check : σ → Except ε α} {commit : α → σ → β × σ} {s : σ} {b : β}
    (h : (guarded check commit s).1 = .ok b) : ∃ a, check s = .ok a ∧ (commit a s).1 = b := by
  unfold guarded at h
  split at h
  case h_1 => cases h
  case h_2 a hcheck => exact ⟨a, hcheck, Except.ok.inj h⟩

/-- A guarded step that fails leaves the state as it was. -/
theorem guarded_error {check : σ → Except ε α} {commit : α → σ → β × σ} {s s' : σ} {e : ε}
    (h : guarded check commit s = (.error e, s')) : s' = s := by
  unfold guarded at h
  split at h <;> simp_all

end Step

section Checks

variable {ε α β : Type}

@[simp] theorem ok_bind (a : α) (f : α → Except ε β) : Except.ok a >>= f = f a := rfl

@[simp] theorem error_bind (e : ε) (f : α → Except ε β) : Except.error e >>= f = .error e := rfl

@[simp] theorem map_ok (f : α → β) (a : α) : f <$> (Except.ok a : Except ε α) = .ok (f a) := rfl

@[simp] theorem pure_eq_ok (a : α) : (pure a : Except ε α) = .ok a := rfl

@[simp] theorem throw_eq_error (e : ε) : (throw e : Except ε α) = .error e := rfl

/-- Checks in a row pass if each does. -/
theorem bind_eq_ok {x : Except ε α} {f : α → Except ε β} {b : β} :
    x >>= f = .ok b ↔ ∃ a, x = .ok a ∧ f a = .ok b := by
  cases x <;> simp

/-- Where a check refuses, what follows it is not reached. -/
theorem refuse_eq_ok {c : Prop} [Decidable c] {cause : ε} {f : Unit → Except ε β} {b : β} :
    (if c then do let r ← (throw cause : Except ε Unit); f r else f ()) = .ok b ↔
      ¬ c ∧ f () = .ok b := by
  by_cases hc : c <;> simp [hc]

end Checks

end Rdma
