import RentalStatus.Proofs.Versioning

namespace RentalStatus

open EngineOp

namespace Store

/-- Principal `p` may read the status of order `o`: staff may, and so may the owner of `o` and
anyone who changed the status of `o` before. -/
def MayRead (s : Store) (o : Int) (p : Principal) : Prop :=
  p.role.isStaff = true ∨ (∃ x ∈ s.orders, x.id = o ∧ x.userId = p.id) ∨
    ∃ r ∈ s.eventsOf o, r.changedBy = some p.id

instance (s : Store) (o : Int) (p : Principal) : Decidable (s.MayRead o p) :=
  inferInstanceAs (Decidable (p.role.isStaff = true ∨ (∃ x ∈ s.orders, x.id = o ∧ x.userId = p.id) ∨
    ∃ r ∈ s.eventsOf o, r.changedBy = some p.id))

variable {s : Store} {o : Int}

theorem owner_iff (hk : (s.orders.map (·.id)).Nodup) {ord : OrderRow} (hord : s.order? o = some ord)
    (u : Int) : (∃ x ∈ s.orders, x.id = o ∧ x.userId = u) ↔ ord.userId = u := by
  have hmem := List.mem_of_find?_eq_some hord
  have hid : ord.id = o := by simpa using List.find?_some hord
  constructor
  · rintro ⟨x, hx, hxid, rfl⟩
    rw [List.inj_on_of_nodup_map hk hx hmem (hxid.trans hid.symm)]
  · intro hu
    exact ⟨ord, hmem, hid, hu⟩

theorem any_changedBy_iff {evs : List Event} (hrows : (evs.map Event.row).Perm (s.eventsOf o))
    (u : Int) : evs.any (·.changedBy == some u) = true ↔ ∃ r ∈ s.eventsOf o, r.changedBy = some u := by
  simp only [List.any_eq_true, beq_iff_eq]
  constructor
  · rintro ⟨e, he, hby⟩
    exact ⟨e.row, hrows.subset (List.mem_map_of_mem he), hby⟩
  · rintro ⟨r, hr, hby⟩
    obtain ⟨e, he, rfl⟩ := List.mem_map.1 (hrows.symm.subset hr)
    exact ⟨e, he, hby⟩

theorem leaves_history (o : Int) (s : Store) : leaves (history o s) = s := by
  unfold history
  split <;> rfl

end Store

section Readers

variable {o : Int} {p : Principal} {s : Store} {c : CurrentStatus}

/-- Reading the current status writes nothing, whatever it finds. -/
theorem visibleStatus_leaves (o : Int) (p : Principal) (s : Store) :
    leaves (visibleStatus o p s) = s := by
  rcases result_of_leaves (Store.leaves_currentStatus o s) with ⟨c₀, hc⟩ | ⟨e, hc⟩
  · cases c₀ with
    | none => rw [visibleStatus_of_no_event hc, leaves_error]
    | some cur =>
      cases hp : (p.role.isStaff || p.id == cur.ownerId)
      · -- anyone else: the history is read too, and that writes nothing either
        rcases result_of_leaves (Store.leaves_history o s) with ⟨evs, hh⟩ | ⟨e, hh⟩
        · rw [visibleStatus_of_other hc hp hh]
          split <;> rfl
        · simp only [visibleStatus, bind_of_ok (db_of_ok hc), hp, Bool.false_eq_true, reduceIte,
            bind_of_error (db_of_error hh), leaves_error]
      · rw [visibleStatus_of_staff_or_owner hc hp, leaves_ok]
  · simp only [visibleStatus, bind_of_error (db_of_error hc), leaves_error]

theorem leaves_db {α : Type} (op : Op α) (s : Store) : leaves (db op s) = leaves (op s) := by
  unfold db
  cases op s <;> rfl

theorem history_leaves (o : Int) (p : Principal) (s : Store) : leaves (history o p s) = s := by
  rcases result_of_leaves (visibleStatus_leaves o p s) with ⟨c, h⟩ | ⟨e, h⟩
  · rw [history_of_visible h, leaves_db, Store.leaves_history]
  · rw [history_of_hidden h, leaves_error]

theorem currentStatus_leaves (o : Int) (p : Principal) (s : Store) :
    leaves (currentStatus o p s) = s := by
  rcases result_of_leaves (visibleStatus_leaves o p s) with ⟨c, h⟩ | ⟨e, h⟩
  · rw [currentStatus_of_visible h, leaves_ok]
  · rw [currentStatus_of_hidden h, leaves_error]

theorem reads_of_readable (hk : s.Keyed) (hne : s.eventsOf o ≠ [])
    (hread : ∀ r ∈ s.eventsOf o, Store.fitsId r.id = true ∧ (OrderStatus.ofName? r.status).isSome) :
    ∃ c evs ord, Store.currentStatus o s = .ok (some c) s ∧ Store.history o s = .ok evs s ∧
      (evs.map Event.row).Perm (s.eventsOf o) ∧
      (evs.map Event.row).Pairwise (fun a b => a.key < b.key) ∧ evs.getLast? = some c.event ∧
      s.order? o = some ord ∧ c.ownerId = ord.userId := by
  obtain ⟨evs, hh, hperm, hsorted, c', hc', hlast⟩ :=
    Store.history_of_readable hk fun r hr => EventRow.read_ok_iff.2 (hread r hr)
  cases c' with
  | none => exact absurd (Store.currentStatus_eq_ok_none.1 hc').1 hne
  | some c =>
    obtain ⟨-, ⟨-, hnone⟩ | ⟨r, ord, ev, -, hord, -, hc⟩⟩ := Store.currentStatus_eq_ok hc'
    · cases hnone
    · refine ⟨c, evs, ord, hc', hh, hperm, hsorted, hlast.symm, hord, ?_⟩
      rw [Option.some.inj hc]

theorem visibleStatus_eq_of_reads (hk : s.Keyed) {evs : List Event} {ord : OrderRow}
    (hc : Store.currentStatus o s = .ok (some c) s) (hh : Store.history o s = .ok evs s)
    (hperm : (evs.map Event.row).Perm (s.eventsOf o)) (hord : s.order? o = some ord)
    (howner : c.ownerId = ord.userId) :
    visibleStatus o p s =
      if s.MayRead o p then .ok c s else .error (.status (.accessDenied p.id o)) s := by
  have hown := Store.owner_iff hk.orderIds hord p.id
  by_cases hso : (p.role.isStaff || p.id == c.ownerId) = true
  · -- staff and the owner are let through before the history is read
    have hmay : s.MayRead o p := by
      simp only [Bool.or_eq_true, beq_iff_eq] at hso
      rcases hso with hst | hid
      · exact .inl hst
      · exact .inr (.inl (hown.2 (howner ▸ hid.symm)))
    rw [visibleStatus_of_staff_or_owner hc hso, if_pos hmay]
  · have hso' : (p.role.isStaff || p.id == c.ownerId) = false := by simpa using hso
    simp only [Bool.or_eq_false_iff, beq_eq_false_iff_ne] at hso'
    -- anyone else may read exactly when an event of the order names them as its author
    have hmay : s.MayRead o p ↔ evs.any (·.changedBy == some p.id) = true := by
      rw [Store.any_changedBy_iff hperm, Store.MayRead, hown, hso'.1, ← howner]
      simp only [Bool.false_eq_true, false_or, or_iff_right_iff_imp]
      exact fun hid => absurd hid.symm hso'.2
    rw [visibleStatus_of_other hc (by simpa using hso) hh]
    by_cases hm : s.MayRead o p
    · rw [if_pos (hmay.1 hm), if_pos hm]
    · rw [if_neg (mt hmay.2 hm), if_neg hm]

theorem visibleStatus_of_readable (hk : s.Keyed) (hne : s.eventsOf o ≠ [])
    (hread : ∀ r ∈ s.eventsOf o, Store.fitsId r.id = true ∧ (OrderStatus.ofName? r.status).isSome) :
    ∃ c evs, Store.history o s = .ok evs s ∧ (evs.map Event.row).Perm (s.eventsOf o) ∧
      (evs.map Event.row).Pairwise (fun a b => a.key < b.key) ∧ evs.getLast? = some c.event ∧
      visibleStatus o p s =
        if s.MayRead o p then .ok c s else .error (.status (.accessDenied p.id o)) s := by
  obtain ⟨c, evs, ord, hc, hh, hperm, hsorted, hlast, hord, howner⟩ := reads_of_readable hk hne hread
  exact ⟨c, evs, hh, hperm, hsorted, hlast, visibleStatus_eq_of_reads hk hc hh hperm hord howner⟩

end Readers

/-- Reading an order's history or current status on a store whose keys hold, where every event of
the order has an id of 32 bits and a status name: both readers find the order missing exactly when
it has no event. Otherwise both succeed exactly when the reader is staff, the order's owner, or
someone who changed the order's status before: the history is every event of the order, in
history order (creation time as stored, then id), and the current status is its last event; and
both deny anyone else. Neither reader writes. -/
theorem status_read_by_staff_owner_or_participant {s : Store} (hk : s.Keyed) (o : Int)
    (p : Principal)
    (hread : ∀ r ∈ s.eventsOf o, Store.fitsId r.id = true ∧ (OrderStatus.ofName? r.status).isSome) :
    (history o p s = .error (.status (.orderNotFound o)) s ↔ s.eventsOf o = []) ∧
    (currentStatus o p s = .error (.status (.orderNotFound o)) s ↔ s.eventsOf o = []) ∧
    (s.eventsOf o ≠ [] → s.MayRead o p →
      ∃ evs, history o p s = .ok evs s ∧ (evs.map Event.row).Perm (s.eventsOf o) ∧
        (evs.map Event.row).Pairwise (fun a b => a.key < b.key) ∧
        ∃ e, evs.getLast? = some e ∧ currentStatus o p s = .ok e s) ∧
    (s.eventsOf o ≠ [] → ¬s.MayRead o p →
      history o p s = .error (.status (.accessDenied p.id o)) s ∧
        currentStatus o p s = .error (.status (.accessDenied p.id o)) s) ∧
    leaves (history o p s) = s ∧ leaves (currentStatus o p s) = s := by
  have hnone : s.eventsOf o = [] → history o p s = .error (.status (.orderNotFound o)) s ∧
      currentStatus o p s = .error (.status (.orderNotFound o)) s := fun hnil => by
    have hv := visibleStatus_of_no_event (p := p) (Store.currentStatus_eq_ok_none.2 ⟨hnil, rfl⟩)
    exact ⟨history_of_hidden hv, currentStatus_of_hidden hv⟩
  have hmay : s.eventsOf o ≠ [] → s.MayRead o p →
      ∃ evs, history o p s = .ok evs s ∧ (evs.map Event.row).Perm (s.eventsOf o) ∧
        (evs.map Event.row).Pairwise (fun a b => a.key < b.key) ∧
        ∃ e, evs.getLast? = some e ∧ currentStatus o p s = .ok e s := fun hne hm => by
    obtain ⟨c, evs, hh, hperm, hsorted, hlast, hv⟩ := visibleStatus_of_readable (p := p) hk hne hread
    rw [if_pos hm] at hv
    refine ⟨evs, ?_, hperm, hsorted, c.event, hlast, currentStatus_of_visible hv⟩
    rw [history_of_visible hv, db_eq_ok]
    exact hh
  have hdenied : s.eventsOf o ≠ [] → ¬s.MayRead o p →
      history o p s = .error (.status (.accessDenied p.id o)) s ∧
        currentStatus o p s = .error (.status (.accessDenied p.id o)) s := fun hne hm => by
    obtain ⟨c, evs, -, -, -, -, hv⟩ := visibleStatus_of_readable (p := p) hk hne hread
    rw [if_neg hm] at hv
    exact ⟨history_of_hidden hv, currentStatus_of_hidden hv⟩
  -- an order with events is never reported missing: it is read or denied
  have hfound : s.eventsOf o ≠ [] → history o p s ≠ .error (.status (.orderNotFound o)) s ∧
      currentStatus o p s ≠ .error (.status (.orderNotFound o)) s := fun hne => by
    by_cases hm : s.MayRead o p
    · obtain ⟨evs, hh, -, -, e, -, hcur⟩ := hmay hne hm
      rw [hh, hcur]
      exact ⟨nofun, nofun⟩
    · obtain ⟨hh, hcur⟩ := hdenied hne hm
      rw [hh, hcur]
      exact ⟨by simp, by simp⟩
  refine ⟨⟨fun h => ?_, fun hnil => (hnone hnil).1⟩, ⟨fun h => ?_, fun hnil => (hnone hnil).2⟩,
    hmay, hdenied, history_leaves o p s, currentStatus_leaves o p s⟩
  · exact Classical.byContradiction fun hne => (hfound hne).1 h
  · exact Classical.byContradiction fun hne => (hfound hne).2 h

theorem status_read_by_staff_owner_or_participant_stranger :
    rentalStore.Keyed ∧
    (∀ r ∈ rentalStore.eventsOf 11, Store.fitsId r.id = true ∧
      (OrderStatus.ofName? r.status).isSome) ∧
    rentalStore.eventsOf 11 ≠ [] ∧ ¬rentalStore.MayRead 11 ⟨3, .user⟩ ∧
    history 11 ⟨3, .user⟩ rentalStore = .error (.status (.accessDenied 3 11)) rentalStore ∧
    currentStatus 11 ⟨3, .user⟩ rentalStore = .error (.status (.accessDenied 3 11)) rentalStore := by
  have hk : rentalStore.Keyed := ⟨by decide, by decide, by decide, by decide⟩
  have hread : ∀ r ∈ rentalStore.eventsOf 11, Store.fitsId r.id = true ∧
      (OrderStatus.ofName? r.status).isSome := by decide
  have hne : rentalStore.eventsOf 11 ≠ [] := by decide
  have hm : ¬rentalStore.MayRead 11 ⟨3, .user⟩ := by decide
  exact ⟨hk, hread, hne, hm,
    (status_read_by_staff_owner_or_participant hk 11 ⟨3, .user⟩ hread).2.2.2.1 hne hm⟩

def farFutureStore : Store where
  schema := .migrations
  users := [⟨1, "user1", "User"⟩, ⟨2, "user2", "Manager"⟩]
  orders := [{ id := 10, userId := 1 }]
  events := [⟨1, 10, "InReview", none, ⟨1673773200, 0⟩, some 1⟩,
    ⟨2, 10, "Approved", none, ⟨253402380000, 0⟩, some 2⟩]

/-- Two orders whose statuses are all names and that staff cannot read in time order. Where an
event's id is beyond 32 bits, both readers fail. And an event made in the year 10000, stored as
`+10000-01-01T22:00:00+00:00`, comes first in the history, before the event made in 2023. -/
theorem status_read_beyond_id_and_year_range :
    (∀ r ∈ wideIdStore.events, (OrderStatus.ofName? r.status).isSome) ∧
    history 10 ⟨2, .manager⟩ wideIdStore =
      .error (.db (DbError.idTooLarge "A_id")) wideIdStore ∧
    currentStatus 10 ⟨2, .manager⟩ wideIdStore =
      .error (.db (DbError.idTooLarge "A_id")) wideIdStore ∧
    (∀ r ∈ farFutureStore.events, (OrderStatus.ofName? r.status).isSome) ∧
    history 10 ⟨2, .manager⟩ farFutureStore =
      .ok [⟨2, 10, .approved, none, ⟨253402380000, 0⟩, some 2⟩,
        ⟨1, 10, .inReview, none, ⟨1673773200, 0⟩, some 1⟩] farFutureStore ∧
    (⟨1673773200, 0⟩ : Instant) < ⟨253402380000, 0⟩ := by
  have hc : Store.currentStatus 10 farFutureStore =
      .ok (some ⟨⟨1, 10, .inReview, none, ⟨1673773200, 0⟩, some 1⟩, 1, 0⟩) farFutureStore := rfl
  have hevents : farFutureStore.eventsOf 10 = [⟨1, 10, "InReview", none, ⟨1673773200, 0⟩, some 1⟩,
      ⟨2, 10, "Approved", none, ⟨253402380000, 0⟩, some 2⟩] := by decide
  -- the stored texts are compared, and a signed year sorts before every other
  have hfirst : (⟨2, 10, "Approved", none, ⟨253402380000, 0⟩, some 2⟩ : EventRow).precedes
      ⟨1, 10, "InReview", none, ⟨1673773200, 0⟩, some 1⟩ = true := by decide
  have horder : historyOrder (farFutureStore.eventsOf 10) =
      [⟨2, 10, "Approved", none, ⟨253402380000, 0⟩, some 2⟩,
        ⟨1, 10, "InReview", none, ⟨1673773200, 0⟩, some 1⟩] := by
    rw [hevents]
    simp [historyOrder, List.mergeSort, hfirst]
  refine ⟨by decide, rfl, rfl, by decide, ?_, by decide⟩
  rw [history_staff rfl hc, db_eq_ok]
  unfold Store.history
  rw [horder]
  rfl

end RentalStatus
