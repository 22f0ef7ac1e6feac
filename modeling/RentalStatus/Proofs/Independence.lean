import Mathlib.Logic.Equiv.Basic
import RentalStatus.Proofs.Locality

namespace RentalStatus

def renameAnswer (σ : Equiv.Perm Int) : Except EngineError (Option Event) →
    Except EngineError (Option Event) :=
  Except.map (Option.map fun e => { e with id := σ e.id })

@[simp] theorem renameAnswer_refl (r : Except EngineError (Option Event)) :
    renameAnswer (Equiv.refl Int) r = r := by
  rcases r with _ | _ | e <;> simp [renameAnswer, Except.map]

namespace Store

/-- `t` is `s` with every event id renamed by `σ`: the same tables, and the same events up to
their ids, in any order (a table is a set of rows). -/
structure Renamed (σ : Equiv.Perm Int) (s t : Store) : Prop where
  events : (s.events.map fun r => { r with id := σ r.id }).Perm t.events
  orders : t.orders = s.orders
  records : t.records = s.records
  users : t.users = s.users
  equipment : t.equipment = s.equipment
  links : t.links = s.links
  schema : t.schema = s.schema

theorem Renamed.refl (s : Store) : Renamed (Equiv.refl Int) s s := by
  refine ⟨?_, rfl, rfl, rfl, rfl, rfl, rfl⟩
  simp

theorem nextId_append_nextId (ids : List Int) : nextId (ids ++ [nextId ids]) = nextId ids + 1 := by
  simp only [nextId, List.foldl_append, List.foldl_cons, List.foldl_nil]
  omega

theorem nextId_commit (p : AppendRequest) (g : RecordRow → RecordRow) (s : Store) :
    nextId ((s.commit p (nextId (s.events.map (·.id))) g).events.map (·.id)) =
      nextId (s.events.map (·.id)) + 1 := by
  simp only [commit, List.map_append, List.map_cons, List.map_nil]
  exact nextId_append_nextId _

theorem map_rename_of_fixed {σ : Equiv.Perm Int} {rs : List EventRow}
    (h : ∀ x ∈ rs, σ x.id = x.id) : rs.map (fun r => { r with id := σ r.id }) = rs := by
  conv => rhs; rw [← List.map_id rs]
  exact List.map_congr_left fun x hx => by simp [h x hx]

theorem fitsId_of_le {i j : Int} (hi : 1 ≤ i) (hij : i ≤ j) (hj : fitsId j = true) :
    fitsId i = true := by
  simp only [fitsId, decide_eq_true_eq] at hj ⊢
  omega

theorem fitsId_nextId_of_next {ids : List Int} (h : fitsId (nextId ids + 1) = true) :
    fitsId (nextId ids) = true :=
  fitsId_of_le (one_le_nextId ids) (by omega) h

theorem bumped_comm {p₁ p₂ : AppendRequest} (hne : p₁.orderId ≠ p₂.orderId) (s : Store) :
    ({ s with orders := s.bumped p₁ } : Store).bumped p₂ =
      ({ s with orders := s.bumped p₂ } : Store).bumped p₁ := by
  simp only [bumped, List.map_map]
  refine List.map_congr_left fun x _ => ?_
  by_cases h₁ : x.id = p₁.orderId
  · have h₂ : x.id ≠ p₂.orderId := h₁ ▸ hne
    simp [h₁, hne]
  · by_cases h₂ : x.id = p₂.orderId
    · simp [h₂, Ne.symm hne]
    · simp [h₁, h₂]

theorem rewrite_comm {o₁ o₂ : Int} (hne : o₁ ≠ o₂) {g₁ g₂ : RecordRow → RecordRow}
    (h₁ : ∀ x, (g₁ x).orderId = x.orderId) (h₂ : ∀ x, (g₂ x).orderId = x.orderId)
    (rs : List RecordRow) :
    ((rs.map fun x => if x.orderId = some o₁ then g₁ x else x).map fun x =>
        if x.orderId = some o₂ then g₂ x else x) =
      (rs.map fun x => if x.orderId = some o₂ then g₂ x else x).map fun x =>
        if x.orderId = some o₁ then g₁ x else x := by
  simp only [List.map_map]
  refine List.map_congr_left fun x _ => ?_
  by_cases hx₁ : x.orderId = some o₁
  · have hx₂ : x.orderId ≠ some o₂ := by
      rw [hx₁]
      exact fun h => hne (Option.some.inj h)
    simp [hx₁, h₁, hne]
  · by_cases hx₂ : x.orderId = some o₂
    · simp [hx₂, h₂, Ne.symm hne]
    · simp [hx₁, hx₂]

end Store

namespace OrderEffect

variable {o₁ o₂ : Int}

def both (eff₁ : OrderEffect o₁) (eff₂ : OrderEffect o₂) (s : Store) :
    (Except EngineError (Option Event) × Except EngineError (Option Event)) × Store :=
  let a := eff₁.apply (Store.nextId (s.events.map (·.id))) s
  let b := eff₂.apply (Store.nextId (a.2.events.map (·.id))) a.2
  ((a.1, b.1), b.2)

/-- Two effects on different orders commute: served in either order, each gives the same answer
and the stores left are the same, the ids of the events they append swapped. -/
theorem both_comm (hne : o₁ ≠ o₂) (eff₁ : OrderEffect o₁) (eff₂ : OrderEffect o₂) (s : Store) :
    ∃ σ : Equiv.Perm Int, (∀ x ∈ s.events, σ x.id = x.id) ∧
      (eff₁.both eff₂ s).1.1 = renameAnswer σ (eff₂.both eff₁ s).1.2 ∧
      (eff₁.both eff₂ s).1.2 = renameAnswer σ (eff₂.both eff₁ s).1.1 ∧
      Store.Renamed σ (eff₂.both eff₁ s).2 (eff₁.both eff₂ s).2 := by
  cases eff₁ with
  | answer r₁ =>
    -- an answer writes nothing, so the other effect meets the same store first or second
    refine ⟨Equiv.refl Int, fun _ _ => rfl, ?_, ?_, Store.Renamed.refl _⟩ <;>
      rw [renameAnswer_refl] <;> rfl
  | write p₁ ho₁ g₁ hid₁ horder₁ =>
    cases eff₂ with
    | answer r₂ =>
      refine ⟨Equiv.refl Int, fun _ _ => rfl, ?_, ?_, Store.Renamed.refl _⟩ <;>
        rw [renameAnswer_refl] <;> rfl
    | write p₂ ho₂ g₂ hid₂ horder₂ =>
      -- each new event takes the next id, so the two swap theirs between the two orders
      have hne' : p₁.orderId ≠ p₂.orderId := by rw [ho₁, ho₂]; exact hne
      have hfix : ∀ x ∈ s.events, Equiv.swap (Store.nextId (s.events.map (·.id)))
          (Store.nextId (s.events.map (·.id)) + 1) x.id = x.id := fun x hx => by
        have hlt := Store.lt_nextId (List.mem_map_of_mem (f := (·.id)) hx)
        exact Equiv.swap_apply_of_ne_of_ne (by omega) (by omega)
      refine ⟨Equiv.swap (Store.nextId (s.events.map (·.id)))
        (Store.nextId (s.events.map (·.id)) + 1), hfix, ?_, ?_, ?_⟩
      · simp [both, apply, Store.nextId_commit, renameAnswer, Except.map, AppendRequest.event]
      · simp [both, apply, Store.nextId_commit, renameAnswer, Except.map, AppendRequest.event]
      · refine ⟨?_, ?_, ?_, rfl, rfl, rfl, rfl⟩
        · simp only [both, apply]
          rw [Store.nextId_commit, Store.nextId_commit]
          simp only [Store.commit, List.map_append, Store.map_rename_of_fixed hfix, List.map_cons,
            List.map_nil, List.append_assoc, List.cons_append, List.nil_append, Event.row,
            AppendRequest.event, Equiv.swap_apply_left, Equiv.swap_apply_right]
          exact List.Perm.append_left _ (List.Perm.swap _ _ [])
        · exact Store.bumped_comm hne' s
        · exact Store.rewrite_comm hne' horder₁ horder₂ s.records

end OrderEffect

namespace OrderRequest

def both (r₁ r₂ : OrderRequest) (s : Store) :
    (Except EngineError (Option Event) × Except EngineError (Option Event)) × Store :=
  let a := r₁.serve s
  let b := r₂.serve a.2
  ((a.1, b.1), b.2)

variable {s : Store}

theorem fitsId_nextId_apply {o : Int} (eff : OrderEffect o)
    (hfit : Store.fitsId (Store.nextId (s.events.map (·.id)) + 1) = true) :
    Store.fitsId (Store.nextId (((eff.apply (Store.nextId (s.events.map (·.id))) s).2.events.map
      (·.id)))) = true := by
  cases eff with
  | answer r => exact Store.fitsId_nextId_of_next hfit
  | write p ho g hid horder =>
    have hnext := Store.nextId_append_nextId (s.events.map (·.id))
    simp only [OrderEffect.apply, Store.commit, List.map_append, List.map_cons, List.map_nil]
    rw [show (p.event (Store.nextId (s.events.map (·.id)))).row.id =
      Store.nextId (s.events.map (·.id)) from rfl, hnext]
    exact hfit

theorem both_eq (r₁ r₂ : OrderRequest) (hne : r₁.orderId ≠ r₂.orderId)
    (hk : (s.records.map (·.id)).Nodup)
    (hfit : Store.fitsId (Store.nextId (s.events.map (·.id)) + 1) = true) :
    r₁.both r₂ s = (r₁.effect s).both (r₂.effect s) s := by
  have h₁ := r₁.serve_eq hk (Store.fitsId_nextId_of_next hfit)
  -- the second request finds its order and the users as they were, so it has the same effect
  have h₂ := r₂.serve_eq ((r₁.effect s).nodup_apply _ hk) (fitsId_nextId_apply _ hfit)
  rw [r₂.effect_of_alike ((r₁.effect s).alike_apply hne _ s)] at h₂
  simp only [both, OrderEffect.both, h₁, h₂]

end OrderRequest

/-- On a store whose record ids are unique, two requests on different orders, each a status change
or an overdue mark, can be served in either order as long as the two ids their events may get fit
in 32 bits. The first leaves the order of the second as it stood; each gets the same answer
either way, and the stores left are the same, up to a renaming of the new events' ids that keeps
every id already in the store. -/
theorem requests_on_two_orders_commute (r₁ r₂ : OrderRequest) {s : Store}
    (hne : r₁.orderId ≠ r₂.orderId) (hk : (s.records.map (·.id)).Nodup)
    (hfit : Store.fitsId (Store.nextId (s.events.map (·.id)) + 1) = true) :
    Frozen s r₂.orderId (r₁.serve s).2 ∧
    ∃ σ : Equiv.Perm Int, (∀ x ∈ s.events, σ x.id = x.id) ∧
      (r₁.both r₂ s).1.1 = renameAnswer σ (r₂.both r₁ s).1.2 ∧
      (r₁.both r₂ s).1.2 = renameAnswer σ (r₂.both r₁ s).1.1 ∧
      Store.Renamed σ (r₂.both r₁ s).2 (r₁.both r₂ s).2 := by
  refine ⟨?_, ?_⟩
  · rw [r₁.serve_eq hk (Store.fitsId_nextId_of_next hfit)]
    exact ((r₁.effect s).alike_apply hne _ s).frozen
  · rw [OrderRequest.both_eq r₁ r₂ hne hk hfit, OrderRequest.both_eq r₂ r₁ (Ne.symm hne) hk hfit]
    exact OrderEffect.both_comm hne _ _ s

theorem requests_on_two_orders_commute_rental :
    (rentalStore.records.map (·.id)).Nodup ∧
    Store.fitsId (Store.nextId (rentalStore.events.map (·.id)) + 1) = true ∧
    Frozen rentalStore 10 ((OrderRequest.change .strict ⟨1676116800, 0⟩
      ⟨11, "Approved", none, ⟨2, .manager⟩⟩).serve rentalStore).2 ∧
    ∃ σ : Equiv.Perm Int, (∀ x ∈ rentalStore.events, σ x.id = x.id) ∧
      ((OrderRequest.change .strict ⟨1676116800, 0⟩ ⟨11, "Approved", none, ⟨2, .manager⟩⟩).both
        (.mark ⟨1676116800, 0⟩ 10) rentalStore).1.1 =
        renameAnswer σ ((OrderRequest.mark ⟨1676116800, 0⟩ 10).both
          (.change .strict ⟨1676116800, 0⟩ ⟨11, "Approved", none, ⟨2, .manager⟩⟩) rentalStore).1.2 ∧
      ((OrderRequest.change .strict ⟨1676116800, 0⟩ ⟨11, "Approved", none, ⟨2, .manager⟩⟩).both
        (.mark ⟨1676116800, 0⟩ 10) rentalStore).1.2 =
        renameAnswer σ ((OrderRequest.mark ⟨1676116800, 0⟩ 10).both
          (.change .strict ⟨1676116800, 0⟩ ⟨11, "Approved", none, ⟨2, .manager⟩⟩) rentalStore).1.1 ∧
      Store.Renamed σ ((OrderRequest.mark ⟨1676116800, 0⟩ 10).both
          (.change .strict ⟨1676116800, 0⟩ ⟨11, "Approved", none, ⟨2, .manager⟩⟩) rentalStore).2
        ((OrderRequest.change .strict ⟨1676116800, 0⟩ ⟨11, "Approved", none, ⟨2, .manager⟩⟩).both
          (.mark ⟨1676116800, 0⟩ 10) rentalStore).2 := by
  have hk : (rentalStore.records.map (·.id)).Nodup := by decide
  have hfit : Store.fitsId (Store.nextId (rentalStore.events.map (·.id)) + 1) = true := by decide
  exact ⟨hk, hfit, requests_on_two_orders_commute
    (.change .strict ⟨1676116800, 0⟩ ⟨11, "Approved", none, ⟨2, .manager⟩⟩)
    (.mark ⟨1676116800, 0⟩ 10) (by decide) hk hfit⟩

def lastIdStore : Store where
  schema := .migrations
  users := [⟨1, "user1", "User"⟩, ⟨2, "user2", "Manager"⟩]
  orders := [{ id := 10, userId := 1 }, { id := 11, userId := 1 }]
  events := [⟨1, 10, "InReview", none, ⟨1673773200, 0⟩, some 1⟩,
    ⟨2147483646, 11, "InReview", none, ⟨1673773200, 0⟩, some 1⟩]

/-- A manager approving both orders of `lastIdStore`: whichever approval is served second
fails, its event's id being beyond 32 bits, so the answers differ by more than the ids. -/
theorem requests_at_the_last_id_interfere :
    ((OrderRequest.change .strict ⟨1675598400, 0⟩ ⟨10, "Approved", none, ⟨2, .manager⟩⟩).both
        (.change .strict ⟨1675598400, 0⟩ ⟨11, "Approved", none, ⟨2, .manager⟩⟩) lastIdStore).1 =
      (.ok (some ⟨2147483647, 10, .approved, none, ⟨1675598400, 0⟩, some 2⟩),
        .error (.db (.idTooLarge "id"))) ∧
    ((OrderRequest.change .strict ⟨1675598400, 0⟩ ⟨11, "Approved", none, ⟨2, .manager⟩⟩).both
        (.change .strict ⟨1675598400, 0⟩ ⟨10, "Approved", none, ⟨2, .manager⟩⟩) lastIdStore).1 =
      (.ok (some ⟨2147483647, 11, .approved, none, ⟨1675598400, 0⟩, some 2⟩),
        .error (.db (.idTooLarge "id"))) :=
  ⟨rfl, rfl⟩

end RentalStatus
