import RentalStatus.Engine

namespace RentalStatus

section Results

variable {ε σ α β : Type} {x : EStateM ε σ α} {f : α → EStateM ε σ β} {s s' : σ}

theorem bind_eq_ok {b : β} :
    (x >>= f) s = .ok b s' ↔ ∃ a s₁, x s = .ok a s₁ ∧ f a s₁ = .ok b s' := by
  change EStateM.bind x f s = _ ↔ _
  unfold EStateM.bind
  cases x s <;> simp [and_assoc]

theorem discard_eq_ok : (Functor.discard x) s = .ok () s' ↔ ∃ a, x s = .ok a s' := by
  change EStateM.map _ x s = _ ↔ _
  unfold EStateM.map
  cases x s <;> simp

theorem map_eq_ok {g : α → β} {b : β} :
    (g <$> x) s = .ok b s' ↔ ∃ a, x s = .ok a s' ∧ g a = b := by
  change EStateM.map g x s = _ ↔ _
  unfold EStateM.map
  cases x s <;> simp [and_assoc, and_comm]

theorem pure_eq_ok {a b : α} : (pure a : EStateM ε σ α) s = .ok b s' ↔ a = b ∧ s = s' := by
  change EStateM.Result.ok a s = _ ↔ _
  simp

theorem bind_eq_error {e : ε} :
    (x >>= f) s = .error e s' ↔ x s = .error e s' ∨ ∃ a s₁, x s = .ok a s₁ ∧ f a s₁ = .error e s' := by
  change EStateM.bind x f s = _ ↔ _
  unfold EStateM.bind
  cases x s <;> simp [and_assoc]

theorem discard_eq_error {e : ε} : (Functor.discard x) s = .error e s' ↔ x s = .error e s' := by
  change EStateM.map _ x s = _ ↔ _
  unfold EStateM.map
  cases x s <;> simp

theorem bind_of_ok {a : α} (h : x s = .ok a s') : (x >>= f) s = f a s' := by
  change EStateM.bind x f s = _
  unfold EStateM.bind
  rw [h]

theorem bind_of_error {e : ε} (h : x s = .error e s') : (x >>= f) s = .error e s' :=
  bind_eq_error.2 (.inl h)

theorem discard_of_ok {a : α} (h : x s = .ok a s') : (Functor.discard x) s = .ok () s' :=
  discard_eq_ok.2 ⟨a, h⟩

theorem discard_of_error {e : ε} (h : x s = .error e s') : (Functor.discard x) s = .error e s' :=
  discard_eq_error.2 h

@[simp] theorem pure_apply (a : α) (s : σ) : (pure a : EStateM ε σ α) s = .ok a s := rfl

end Results

namespace Except

variable {ε ε' α β : Type} {x : Except ε α} {k : α → Except ε β}

@[simp] theorem ok_bind (a : α) : (Except.ok a >>= k) = k a := rfl

@[simp] theorem error_bind (e : ε) : (Except.error e >>= k) = .error e := rfl

@[simp] theorem pure_eq (a : α) : (pure a : Except ε α) = .ok a := rfl

@[simp] theorem mapError_ok (f : ε → ε') (a : α) : (Except.ok a : Except ε α).mapError f = .ok a :=
  rfl

@[simp] theorem mapError_error (f : ε → ε') (e : ε) :
    (Except.error e : Except ε α).mapError f = .error (f e) := rfl

theorem bind_eq_error_iff {e : ε} :
    (x >>= k) = .error e ↔ x = .error e ∨ ∃ a, x = .ok a ∧ k a = .error e := by
  cases x <;> simp

theorem bind_eq_ok_iff {b : β} : (x >>= k) = .ok b ↔ ∃ a, x = .ok a ∧ k a = .ok b := by
  cases x <;> simp

end Except

theorem Op.ofExcept_eq_ok {α : Type} {x : Except DbError α} {a : α} {s s' : Store} :
    Op.ofExcept x s = .ok a s' ↔ x = .ok a ∧ s = s' := by
  unfold Op.ofExcept
  cases x <;> simp

namespace EngineOp

variable {α : Type} {s s' : Store} {a : α}

theorem atomically_eq_ok {op : EngineOp α} : op.atomically s = .ok a s' ↔ op s = .ok a s' := by
  unfold atomically
  cases op s <;> simp

theorem atomically_error {op : EngineOp α} {e : EngineError}
    (h : op.atomically s = .error e s') : s' = s := by
  unfold atomically at h
  split at h
  · cases h
  · cases h
    rfl

theorem db_eq_ok {op : Op α} : db op s = .ok a s' ↔ op s = .ok a s' := by
  unfold db
  cases op s <;> simp

theorem db_eq_error {op : Op α} {e : EngineError} :
    db op s = .error e s' ↔ ∃ d, e = .db d ∧ op s = .error d s' := by
  unfold db
  cases op s <;> simp [and_left_comm, eq_comm]

theorem db_of_ok {op : Op α} (h : op s = .ok a s') : db op s = .ok a s' := db_eq_ok.2 h

theorem db_of_error {op : Op α} {e : DbError} (h : op s = .error e s') :
    db op s = .error (.db e) s' := by
  unfold db
  rw [h]

@[simp] theorem refuse_apply (e : OrderStatusError) (s : Store) :
    (refuse e : EngineOp α) s = .error (.status e) s := rfl

@[simp] theorem refuse_bind {β : Type} (e : OrderStatusError) (f : α → EngineOp β) :
    (refuse e >>= f) = refuse e := rfl

theorem atomically_of_ok {op : EngineOp α} (h : op s = .ok a s') : op.atomically s = .ok a s' :=
  atomically_eq_ok.2 h

theorem atomically_of_error {op : EngineOp α} {e : EngineError} (t : Store)
    (h : op s = .error e t) : op.atomically s = .error e s := by
  unfold atomically
  rw [h]

theorem atomically_congr {op op' : EngineOp α} (h : op s = op' s) :
    op.atomically s = op'.atomically s := by
  unfold atomically
  rw [h]

@[simp] theorem requireOk_ok (a : α) : requireOk (.ok a : Except OrderStatusError α) = pure a := rfl

@[simp] theorem requireOk_error (e : OrderStatusError) :
    requireOk (.error e : Except OrderStatusError α) = refuse e := rfl

theorem refuse_ne_ok {e : OrderStatusError} : refuse e s ≠ .ok a s' := by
  simp [refuse]

theorem requireOk_eq_ok {x : Except OrderStatusError α} :
    requireOk x s = .ok a s' ↔ x = .ok a ∧ s = s' := by
  cases x <;> simp

end EngineOp

variable {policy : Policy} {now : Instant} {req : StatusRequest}

/-- A status change that is refused, or that fails in the store at any point, leaves every
table as it was: no event is added, no version moves and no record is rewritten. -/
theorem addStatus_error_keeps_store {s s' : Store} {err : EngineError}
    (h : addStatus policy now req s = .error err s') : s' = s :=
  EngineOp.atomically_error h

def reviewStore : Store where
  schema := .migrations
  users := [⟨1, "user1", "User"⟩]
  orders := [{ id := 10, userId := 1 }]
  events := [⟨1, 10, "InReview", none, ⟨1673773200, 0⟩, some 1⟩]

theorem addStatus_unknown_author_keeps_store :
    (∃ s₁, Store.append ⟨10, 0, .approved, none, ⟨1675598400, 0⟩, some 7⟩ reviewStore =
      .error DbError.foreignKey s₁ ∧ s₁.orders ≠ reviewStore.orders) ∧
    ∃ err s', addStatus .strict ⟨1675598400, 0⟩ ⟨10, "Approved", none, ⟨7, .manager⟩⟩ reviewStore =
      .error err s' ∧ s' = reviewStore := by
  have h : addStatus .strict ⟨1675598400, 0⟩ ⟨10, "Approved", none, ⟨7, .manager⟩⟩ reviewStore =
      .error (.db DbError.foreignKey) reviewStore := rfl
  exact ⟨⟨_, rfl, by decide⟩, _, _, h, addStatus_error_keeps_store h⟩

end RentalStatus
