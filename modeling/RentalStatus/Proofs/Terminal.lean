import RentalStatus.Proofs.Coupling

namespace RentalStatus

open EngineOp

namespace EventRow

/-- A row whose status is Rejected or Closed. -/
def Ended (r : EventRow) : Prop :=
  r.status = OrderStatus.rejected.name ∨ r.status = OrderStatus.closed.name

theorem Ended.status {r : EventRow} {ev : Event} (h : r.Ended) (hread : r.read = .ok ev) :
    ev.status = .rejected ∨ ev.status = .closed := by
  rw [← row_of_read hread] at h
  exact h.imp OrderStatus.name_injective OrderStatus.name_injective

theorem Ended.read {r : EventRow} (h : r.Ended) (hfit : Store.fitsId r.id = true) :
    ∃ ev, r.read = .ok ev := by
  refine read_ok_iff.2 ⟨hfit, ?_⟩
  rcases h with h | h <;> rw [h] <;> rfl

end EventRow

/-- Order `o` stands in `s` as it stood in `s₀`: the same events, the same order row, its
version included, and the same records. -/
structure Frozen (s₀ : Store) (o : Int) (s : Store) : Prop where
  events : s.eventsOf o = s₀.eventsOf o
  order : s.order? o = s₀.order? o
  records : s.recordRowsOf o = s₀.recordRowsOf o

variable {now : Instant} {o : Int} {r : EventRow} {s s₀ : Store}

theorem addStatus_ended {req : StatusRequest} (hr : s.currentRow req.orderId = some r)
    (hend : r.Ended) : ∃ err, addStatus .strict now req s = .error err s := by
  cases h : addStatus .strict now req s with
  | ok e s' =>
    obtain ⟨t, cur, _, _, -, hcur, hauth, -⟩ := addStatus_eq_ok h
    obtain ⟨r', hr', hread⟩ := Store.currentRow_of_currentStatus hcur
    rw [hr] at hr'
    obtain rfl := Option.some.inj hr'
    have hopen := Rule.opens_of_authorize hauth
    rcases hend.status hread with hst | hst <;> rw [hst] at hopen
    · rw [Rule.not_opens_rejected] at hopen
      cases hopen
    · rw [Rule.not_opens_closed] at hopen
      cases hopen
  | error err s' => exact ⟨err, by rw [addStatus_error_keeps_store h]⟩

theorem markOverdue_ended (hr : s.currentRow o = some r) (hend : r.Ended)
    (ho : s.hasOrder o = true) :
    (Store.fitsId r.id = true → markOverdue now o s = .ok none s) ∧
      (Store.fitsId r.id = false → ∃ err, markOverdue now o s = .error err s) := by
  constructor
  · intro hfit
    obtain ⟨ev, hread⟩ := hend.read hfit
    obtain ⟨ord, hord⟩ := Store.order?_of_hasOrder ho
    refine markOverdue_of_not_running (Store.currentStatus_of_currentRow hr hread hord) ?_
    rcases hend.status hread with hst | hst <;> rw [hst] <;> decide
  · intro hfit
    have hcur : Store.currentStatus o s = .error (DbError.idTooLarge "A_id") s := by
      simp [Store.currentStatus, hr, hfit]
    exact ⟨_, markOverdue_of_currentStatus_error hcur⟩

namespace Frozen

theorem symm (h : Frozen s₀ o s) : Frozen s o s₀ := ⟨h.events.symm, h.order.symm, h.records.symm⟩

theorem trans {s₁ : Store} (h : Frozen s₀ o s) (h₁ : Frozen s o s₁) : Frozen s₀ o s₁ :=
  ⟨h₁.events.trans h.events, h₁.order.trans h.order, h₁.records.trans h.records⟩

theorem of_markOverdue {o' : Int} (hne : o' ≠ o) : Frozen s o (leaves (markOverdue now o' s)) := by
  rcases markOverdue_leaves now o' s with h | ⟨e, h⟩
  · rw [h]
    exact ⟨rfl, rfl, rfl⟩
  · obtain ⟨cur, -, -, -, rfl, -, -, -, hs'⟩ := markOverdue_ok_store h
    refine ⟨Store.eventsOf_append_of_ne hne (by rw [hs']), ?_, by rw [hs']; rfl⟩
    exact Store.order?_map_of_ne hne (fun x => { x with statusVersion := cur.statusVersion + 1 })
      (fun _ => rfl) (by rw [hs'])

theorem currentRow (hf : Frozen s₀ o s) : s.currentRow o = s₀.currentRow o := by
  rw [Store.currentRow, Store.currentRow, hf.events]

theorem hasOrder (hf : Frozen s₀ o s) (ho : s₀.hasOrder o = true) : s.hasOrder o = true := by
  obtain ⟨ord, hord⟩ := Store.order?_of_hasOrder ho
  rw [← hf.order] at hord
  have hmem := List.mem_of_find?_eq_some hord
  have hid : ord.id = o := by simpa using List.find?_some hord
  exact Store.hasOrder_iff.2 ⟨ord, hmem, hid⟩

theorem change {req : StatusRequest} {policy : Policy} (hf : Frozen s₀ o s)
    (hk : (s.records.map (·.id)).Nodup) (hne : req.orderId ≠ o) :
    Frozen s₀ o (leaves (addStatus policy now req s)) ∧
      ((leaves (addStatus policy now req s)).records.map (·.id)).Nodup := by
  rcases addStatus_leaves policy now req s with h | ⟨e, h⟩
  · rw [h]
    exact ⟨hf, hk⟩
  · obtain ⟨t, cur, -, -, -, he, hs'⟩ := addStatus_ok_store hk h
    have horder : e.row.orderId = req.orderId := by rw [he]; rfl
    refine ⟨⟨?_, ?_, ?_⟩, ?_⟩
    · rw [Store.eventsOf_append_of_ne (horder.trans_ne hne) (by rw [hs']), hf.events]
    · rw [Store.order?_map_of_ne hne (fun x => { x with statusVersion := cur.statusVersion + 1 })
        (fun _ => rfl) (by rw [hs']), hf.order]
    · rw [Store.recordRowsOf_map_of_ne hne _ (fun _ => RecordRow.afterChange_orderId)
        (by rw [hs']), hf.records]
    · rw [hs', List.map_map]
      convert hk using 2
      funext x
      by_cases hx : x.orderId = some req.orderId <;> simp [hx]

theorem mark {o' : Int} (hf : Frozen s₀ o s) (hk : (s.records.map (·.id)).Nodup)
    (hr : s₀.currentRow o = some r) (hend : r.Ended) :
    Frozen s₀ o (leaves (markOverdue now o' s)) ∧
      ((leaves (markOverdue now o' s)).records.map (·.id)).Nodup := by
  rcases markOverdue_leaves now o' s with h | ⟨e, h⟩
  · rw [h]
    exact ⟨hf, hk⟩
  · obtain ⟨cur, hcur, hrun, -, rfl, -, -, -, hs'⟩ := markOverdue_ok_store h
    -- the mark found a running order, so it is not `o`, whose current event has ended
    have hne : e.orderId ≠ o := by
      rintro rfl
      obtain ⟨r', hr', hread⟩ := Store.currentRow_of_currentStatus hcur
      rw [hf.currentRow, hr] at hr'
      obtain rfl := Option.some.inj hr'
      rcases hend.status hread with hst | hst <;> rw [hst] at hrun <;> cases hrun
    refine ⟨hf.trans (of_markOverdue hne), ?_⟩
    rw [hs']
    exact hk

theorem sweep (hf : Frozen s₀ o s) (hk : (s.records.map (·.id)).Nodup)
    (hr : s₀.currentRow o = some r) (hend : r.Ended) :
    Frozen s₀ o (leaves (sweepOverdue now s)) ∧
      ((leaves (sweepOverdue now s)).records.map (·.id)).Nodup := by
  rw [sweepOverdue_eq, leaves_ok]
  exact marks_preserves (fun t => Frozen s₀ o t ∧ (t.records.map (·.id)).Nodup)
    (fun _ _ t ht => ht.1.mark ht.2 hr hend) ⟨hf, hk⟩

theorem call (hf : Frozen s₀ o s) (hk : (s.records.map (·.id)).Nodup)
    (hr : s₀.currentRow o = some r) (hend : r.Ended) (c : Call) :
    Frozen s₀ o (c.after .strict s) ∧ ((c.after .strict s).records.map (·.id)).Nodup := by
  cases c with
  | change now req =>
    by_cases hreq : req.orderId = o
    · -- a change of `o` itself is refused and writes nothing
      obtain ⟨err, h⟩ : ∃ err, addStatus .strict now req s = .error err s :=
        addStatus_ended (hreq ▸ hf.currentRow.trans hr) hend
      have hsame : Call.after .strict (.change now req) s = s := by
        show leaves (addStatus .strict now req s) = s
        rw [h, leaves_error]
      rw [hsame]
      exact ⟨hf, hk⟩
    · exact hf.change hk hreq
  | mark now o' => exact hf.mark hk hr hend
  | sweep now => exact hf.sweep hk hr hend

end Frozen

/-- In store `s` order `o`, whose current event `r` in `s₀` has ended, still stands as it stood
in `s₀`, and the engine keeps it so: every status change of it is refused, and an overdue mark
of it finds nothing to do, or fails when `r`'s id is beyond 32 bits. -/
structure StaysEnded (s₀ : Store) (o : Int) (r : EventRow) (s : Store) : Prop where
  frozen : Frozen s₀ o s
  refused : ∀ now (req : StatusRequest), req.orderId = o →
    ∃ err, addStatus .strict now req s = .error err s
  unmarked : ∀ now, Store.fitsId r.id = true → markOverdue now o s = .ok none s
  markFails : ∀ now, Store.fitsId r.id = false → ∃ err, markOverdue now o s = .error err s

/-- Under the strict policy an order whose current event is rejected or closed never changes
again: along every run of status changes, overdue marks and sweeps, made by any principals at
any clock values, its events, its order row with its version and its records stay as they
were, every status change of it is refused, and every overdue mark of it finds nothing to do,
or fails without writing when that event's id is beyond 32 bits. -/
theorem strict_terminal_order_frozen {s : Store} {cs : List Call} (hk : s₀.Keyed)
    (hr : s₀.currentRow o = some r) (hend : r.Ended)
    (hrun : Run .strict (fun _ _ => True) s₀ cs s) : StaysEnded s₀ o r s := by
  have hfrozen : Frozen s₀ o s ∧ (s.records.map (·.id)).Nodup :=
    hrun.preserves (fun t => Frozen s₀ o t ∧ (t.records.map (·.id)).Nodup)
      (fun c _ _ ht => ht.1.call ht.2 hr hend c) ⟨⟨rfl, rfl, rfl⟩, hk.recordIds⟩
  obtain ⟨hf, -⟩ := hfrozen
  have hcur := hf.currentRow.trans hr
  -- the order of an event exists, and its row stays
  have ho : s.hasOrder o = true := hf.hasOrder (by
    have hmem := Store.mem_eventsOf.1 (Store.latestEvent_of_currentRow hr).1
    rw [← hmem.2]
    exact hk.eventOrders r hmem.1)
  exact ⟨hf, fun now req hreq => addStatus_ended (hreq ▸ hcur) hend,
    fun now => (markOverdue_ended hcur hend ho).1, fun now => (markOverdue_ended hcur hend ho).2⟩

def closedStore : Store where
  schema := .migrations
  users := [⟨1, "user1", "User"⟩, ⟨2, "user2", "Manager"⟩]
  equipment := [{ id := 100 }, { id := 101 }]
  orders := [{ id := 10, userId := 1, statusVersion := 2 }, { id := 11, userId := 1, statusVersion := 2 }]
  events := [⟨1, 10, "InReview", none, ⟨1673773200, 0⟩, some 1⟩,
    ⟨2, 10, "Approved", none, ⟨1673776800, 0⟩, some 2⟩,
    ⟨3, 10, "Closed", none, ⟨1673780400, 0⟩, some 1⟩,
    ⟨4, 11, "InProgress", none, ⟨1673773200, 0⟩, some 2⟩]
  records := [⟨1, 100, "Available", ⟨1675252800, 0⟩, ⟨1676030400, 0⟩, some 10⟩,
    ⟨2, 101, "InUse", ⟨1675252800, 0⟩, ⟨1676030400, 0⟩, some 11⟩]

theorem strict_terminal_order_frozen_closed :
    closedStore.Keyed ∧
    closedStore.currentRow 10 = some ⟨3, 10, "Closed", none, ⟨1673780400, 0⟩, some 1⟩ ∧
    EventRow.Ended ⟨3, 10, "Closed", none, ⟨1673780400, 0⟩, some 1⟩ ∧
    ∃ s, Run .strict (fun _ _ => True) closedStore
        [.change ⟨1675598400, 0⟩ ⟨10, "Closed", none, ⟨1, .user⟩⟩,
          .change ⟨1675598400, 0⟩ ⟨10, "Approved", none, ⟨2, .manager⟩⟩,
          .sweep ⟨1676116800, 0⟩,
          .change ⟨1676120400, 0⟩ ⟨11, "Closed", some "returned", ⟨2, .manager⟩⟩] s ∧
      StaysEnded closedStore 10 ⟨3, 10, "Closed", none, ⟨1673780400, 0⟩, some 1⟩ s := by
  have hk : closedStore.Keyed := ⟨by decide, by decide, by decide, by decide⟩
  have hr : closedStore.currentRow 10 = some ⟨3, 10, "Closed", none, ⟨1673780400, 0⟩, some 1⟩ := by
    decide
  have hend : EventRow.Ended ⟨3, 10, "Closed", none, ⟨1673780400, 0⟩, some 1⟩ := .inr rfl
  have hrun : Run .strict (fun _ _ => True) closedStore
      [.change ⟨1675598400, 0⟩ ⟨10, "Closed", none, ⟨1, .user⟩⟩,
        .change ⟨1675598400, 0⟩ ⟨10, "Approved", none, ⟨2, .manager⟩⟩,
        .sweep ⟨1676116800, 0⟩,
        .change ⟨1676120400, 0⟩ ⟨11, "Closed", some "returned", ⟨2, .manager⟩⟩] _ :=
    .cons trivial (.cons trivial (.cons trivial (.cons trivial (.nil _))))
  exact ⟨hk, hr, hend, _, hrun, strict_terminal_order_frozen hk hr hend hrun⟩

/-- The store after an append on the connection gave the closing event of a running rental the
id 2147483648: the order is closed, and marking it overdue fails instead of finding nothing to
do, since its current event cannot be read. -/
theorem markOverdue_closed_wide_id_fails :
    wideIdStore.currentRow 10 = some ⟨2147483648, 10, "Closed", none, ⟨1675598400, 0⟩, none⟩ ∧
    markOverdue ⟨1676116800, 0⟩ 10 wideIdStore =
      .error (.db (DbError.idTooLarge "A_id")) wideIdStore :=
  ⟨by decide, rfl⟩

end RentalStatus
