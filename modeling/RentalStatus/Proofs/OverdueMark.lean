import RentalStatus.Proofs.Sweep

namespace RentalStatus

open EngineOp

namespace Instant

theorem le_iff (a b : Instant) :
    a ≤ b ↔ a.secs < b.secs ∨ (a.secs = b.secs ∧ a.nanos ≤ b.nanos) := by
  show (compare a.secs b.secs).then (compare a.nanos b.nanos) ≠ .gt ↔ _
  rcases Int.lt_trichotomy a.secs b.secs with h | h | h
  · simp [Ordering.then, h, Int.compare_eq_lt.mpr h]
  · rw [Int.compare_eq_eq.mpr h]
    simp only [Ordering.then, ne_eq, Nat.compare_eq_gt, not_lt, h, Int.lt_irrefl, false_or, true_and]
  · simp only [Ordering.then, Int.compare_eq_gt.mpr h, ne_eq, not_true_eq_false, false_iff, not_or,
      not_and]
    exact ⟨by omega, by omega⟩

theorem le_refl (a : Instant) : a ≤ a := (le_iff a a).2 (.inr ⟨rfl, Nat.le_refl _⟩)

theorem le_trans {a b c : Instant} (hab : a ≤ b) (hbc : b ≤ c) : a ≤ c := by
  rw [le_iff] at *
  omega

theorem le_of_not_lt {a b : Instant} (h : ¬b < a) : a ≤ b := by
  rw [lt_iff] at h
  rw [le_iff]
  omega

theorem min_le_left (a b : Instant) : a.min b ≤ a := by
  unfold Instant.min
  split
  · rename_i h
    rw [lt_iff] at h
    rw [le_iff]
    omega
  · exact le_refl a

theorem min_le_right (a b : Instant) : a.min b ≤ b := by
  unfold Instant.min
  split
  · exact le_refl b
  · exact le_of_not_lt ‹_›

end Instant

theorem foldl_min_spec (ts : List Instant) :
    ∀ t, ts.foldl Instant.min t ∈ t :: ts ∧ ∀ x ∈ t :: ts, ts.foldl Instant.min t ≤ x := by
  induction ts with
  | nil =>
    refine fun t => ⟨List.mem_singleton_self t, fun x hx => ?_⟩
    rw [List.mem_singleton.1 hx]
    exact Instant.le_refl t
  | cons u us ih =>
    intro t
    -- the fold goes on from the lesser of the first two instants
    obtain ⟨hmem, hle⟩ := ih (t.min u)
    refine ⟨?_, fun x hx => ?_⟩
    · rcases List.mem_cons.1 hmem with h | h
      · rw [List.foldl_cons, h]
        unfold Instant.min
        split <;> simp
      · exact List.mem_cons_of_mem t (List.mem_cons_of_mem u h)
    · have hhead := hle _ List.mem_cons_self
      rcases List.mem_cons.1 hx with rfl | hx
      · exact Instant.le_trans hhead (Instant.min_le_left _ _)
      · rcases List.mem_cons.1 hx with rfl | hx
        · exact Instant.le_trans hhead (Instant.min_le_right _ _)
        · exact hle x (List.mem_cons_of_mem _ hx)

theorem earliest_spec {ds : List Instant} {d : Instant} (h : earliest ds = some d) :
    d ∈ ds ∧ ∀ x ∈ ds, d ≤ x := by
  cases ds with
  | nil => cases h
  | cons t ts =>
    obtain rfl := Option.some.inj h
    exact foldl_min_spec ts t

namespace RecordRow

theorem fitsId_of_read {x : RecordRow} {rec : EquipmentRecord} (h : x.read = .ok rec) :
    Store.fitsId x.id = true := by
  unfold read at h
  split at h
  · cases h
  · simpa using ‹¬(!Store.fitsId x.id) = true›

end RecordRow

theorem exists_right_of_forall₂ {α β : Type} {R : α → β → Prop} {xs : List α} {ys : List β}
    (h : List.Forall₂ R xs ys) {x : α} (hx : x ∈ xs) : ∃ y, R x y := by
  induction h with
  | nil => cases hx
  | cons hxy _ ih =>
    rcases List.mem_cons.1 hx with rfl | hx
    · exact ⟨_, hxy⟩
    · exact ih hx

theorem exists_mapM_eq_ok {ε α β : Type} {f : α → Except ε β} :
    ∀ {xs : List α}, (∀ x ∈ xs, ∃ y, f x = .ok y) → ∃ ys, xs.mapM f = .ok ys
  | [], _ => ⟨[], rfl⟩
  | x :: xs, h => by
    obtain ⟨y, hy⟩ := h x List.mem_cons_self
    obtain ⟨ys, hys⟩ := exists_mapM_eq_ok fun x' hx' => h x' (List.mem_cons_of_mem x hx')
    exact ⟨y :: ys, by simp [List.mapM_cons, hy, hys]⟩

namespace Store

variable {s s' : Store} {o : Int} {now : Instant}

/-- Order `o` is a running rental whose booking ended before `now`: its latest event is
`InProgress`, and one of its records ends before `now`. -/
def BookingEnded (s : Store) (o : Int) (now : Instant) : Prop :=
  ∃ x, s.LatestEvent o x ∧ x.status = OrderStatus.inProgress.name ∧
    ∃ r ∈ s.recordRowsOf o, r.endDate < now

/-- What a mark of `o` reads can be read: the latest event of `o` and every record of `o` have
ids of 32 bits and status names. -/
structure MarkReadable (s : Store) (o : Int) : Prop where
  latest : ∀ x, s.LatestEvent o x → ∃ ev, x.read = .ok ev
  records : ∀ r ∈ s.recordRowsOf o, ∃ rec, r.read = .ok rec

theorem recordsOf_ok_iff :
    (∃ recs, recordsOf o s = .ok recs s) ↔ ∀ r ∈ s.recordRowsOf o, ∃ rec, r.read = .ok rec := by
  constructor
  · rintro ⟨recs, h⟩ r hr
    exact exists_right_of_forall₂ (recordsOf_eq_ok h).2 hr
  · intro h
    have hfit : (s.recordRowsOf o).all (fitsId ·.id) = true := by
      simp only [List.all_eq_true]
      intro r hr
      obtain ⟨rec, hrec⟩ := h r hr
      exact RecordRow.fitsId_of_read hrec
    obtain ⟨recs, hrecs⟩ := exists_mapM_eq_ok h
    exact ⟨recs, by simp [recordsOf, hfit, hrecs]⟩

theorem endDates_of_recordsOf {recs : List EquipmentRecord} (h : recordsOf o s = .ok recs s') :
    recs.map (·.endDate) = (s.recordRowsOf o).map (·.endDate) :=
  map_eq_of_forall₂ (f := RecordRow.endDate) (g := EquipmentRecord.endDate)
    (fun _ _ hx => (RecordRow.id_of_read hx).2) (recordsOf_eq_ok h).2

end Store

/-- `s'` is `s` after the overdue mark of order `o` at `now` appended `e`: `e` is an `Overdue`
event of `o` made by no one at `now`, under an id above every other, and its comment names the
day of the earliest end among the records of `o` that ended before `now`; the order moves on to a
version one above its own, and no other order, no event and no record changes. -/
def MarkEffect (now : Instant) (o : Int) (s : Store) (e : Event) (s' : Store) : Prop :=
  ∃ ended, (∃ r ∈ s.recordRowsOf o, r.endDate = ended ∧ ended < now) ∧
    (∀ r ∈ s.recordRowsOf o, r.endDate < now → ended ≤ r.endDate) ∧
    e = ⟨Store.nextId (s.events.map (·.id)), o, .overdue,
      some ("Rental period ended on " ++ ended.date.toIso ++ " without the equipment being returned"),
      now, none⟩ ∧
    ∃ x ∈ s.orders, x.id = o ∧ ∃ next : Int32,
      (x.statusVersion.toInt < 2147483647 → next.toInt = x.statusVersion.toInt + 1) ∧
      s' = { s with
        orders := s.orders.map fun y => if y.id = o then { y with statusVersion := next } else y
        events := s.events ++ [e.row] }

variable {now : Instant} {o : Int} {s s' : Store}

theorem earliest_ended_spec {recs : List EquipmentRecord} {ended : Instant}
    (hrecs : Store.recordsOf o s = .ok recs s)
    (hend : earliest ((recs.map (·.endDate)).filter (· < now)) = some ended) :
    (∃ r ∈ s.recordRowsOf o, r.endDate = ended ∧ ended < now) ∧
      ∀ r ∈ s.recordRowsOf o, r.endDate < now → ended ≤ r.endDate := by
  rw [Store.endDates_of_recordsOf hrecs] at hend
  obtain ⟨hmem, hle⟩ := earliest_spec hend
  obtain ⟨hd, hlt⟩ := List.mem_filter.1 hmem
  obtain ⟨r, hr, rfl⟩ := List.mem_map.1 hd
  exact ⟨⟨r, hr, rfl, by simpa using hlt⟩, fun x hx hxlt =>
    hle x.endDate (List.mem_filter.2 ⟨List.mem_map_of_mem hx, by simpa using hxlt⟩)⟩

/-- A mark that appended an event had exactly the effect `MarkEffect` describes. -/
theorem markOverdue_effect {e : Event} (h : markOverdue now o s = .ok (some e) s') :
    MarkEffect now o s e s' := by
  obtain ⟨cur, recs, ended, -, -, hrecs, hend, happ⟩ := markOverdue_eq_ok_some h
  obtain ⟨⟨x, hx, hxid, hxv⟩, rfl, -, rfl⟩ := Store.append_eq_ok_some happ
  obtain ⟨hended, hfirst⟩ := earliest_ended_spec hrecs hend
  refine ⟨ended, hended, hfirst, rfl, x, hx, hxid, cur.statusVersion + 1, fun hlt => ?_, rfl⟩
  -- below the largest version the next one is one more
  have hmax : cur.statusVersion ≠ Int32.maxValue := fun hmax => by
    dsimp only at hxv
    rw [hxv, hmax, Int32.toInt_maxValue] at hlt
    omega
  rw [Int32.toInt_add_one, if_neg hmax, hxv]

theorem bookingEnded_of_marked {e : Event} (h : markOverdue now o s = .ok (some e) s') :
    s.BookingEnded o now := by
  obtain ⟨cur, -, -, hcur, hrun, -, -, -⟩ := markOverdue_eq_ok_some h
  obtain ⟨r, hr, hread⟩ := Store.currentRow_of_currentStatus hcur
  have hname : r.status = OrderStatus.inProgress.name := by
    rw [← EventRow.row_of_read hread, ← hrun]
    rfl
  exact ⟨r, Store.latestEvent_of_currentRow hr, hname, ended_of_marked h⟩

theorem readable_of_marked (hk : s.Keyed) {e : Event} (h : markOverdue now o s = .ok (some e) s') :
    s.MarkReadable o ∧ Store.fitsId (Store.nextId (s.events.map (·.id))) = true := by
  obtain ⟨cur, recs, ended, hcur, -, hrecs, -, happ⟩ := markOverdue_eq_ok_some h
  obtain ⟨r, hr, hread⟩ := Store.currentRow_of_currentStatus hcur
  obtain ⟨-, rfl, hfit, -⟩ := Store.append_eq_ok_some happ
  -- the latest event is unique, so it is the one the mark read
  refine ⟨⟨fun x hx => ⟨cur.event, ?_⟩, Store.recordsOf_ok_iff.1 ⟨recs, hrecs⟩⟩, hfit⟩
  rw [hx.unique hk.eventIds (Store.latestEvent_of_currentRow hr)]
  exact hread

theorem due_of_bookingEnded (hk : s.Keyed) (hb : s.BookingEnded o now) (hr : s.MarkReadable o) :
    Due now o s := by
  obtain ⟨x, hx, hname, hended⟩ := hb
  obtain ⟨ev, hev⟩ := hr.latest x hx
  obtain ⟨c, hc, rfl⟩ := Store.currentStatus_of_latest hk hx hev
  have hrun : c.event.status = .inProgress := by
    apply OrderStatus.name_injective
    rw [← hname, ← EventRow.row_of_read hev]
    rfl
  obtain ⟨recs, hrecs⟩ := Store.recordsOf_ok_iff.2 hr.records
  cases hend : earliest ((recs.map (·.endDate)).filter (· < now)) with
  | none =>
    exact absurd ((exists_ended_iff (Store.recordsOf_eq_ok hrecs).2).1 hended)
      (earliest_ended_eq_none.1 hend)
  | some ended => exact ⟨c, recs, ended, hc, hrun, hrecs, hend⟩

theorem markOverdue_of_no_event (h : Store.currentStatus o s = .ok none s) :
    markOverdue now o s = .ok none s := by
  rw [markOverdue, atomically_eq_ok, bind_eq_ok]
  exact ⟨none, s, db_eq_ok.2 h, pure_eq_ok.2 ⟨rfl, rfl⟩⟩

theorem markOverdue_of_nothing_ended {cur : CurrentStatus} {recs : List EquipmentRecord}
    (hcur : Store.currentStatus o s = .ok (some cur) s) (hrun : cur.event.status = .inProgress)
    (hrecs : Store.recordsOf o s = .ok recs s)
    (hend : earliest ((recs.map (·.endDate)).filter (· < now)) = none) :
    markOverdue now o s = .ok none s := by
  rw [markOverdue, atomically_eq_ok, bind_eq_ok]
  refine ⟨some cur, s, db_eq_ok.2 hcur, ?_⟩
  simp only [hrun, bne_self_eq_false, Bool.false_eq_true, if_false]
  refine bind_eq_ok.2 ⟨recs, s, db_eq_ok.2 hrecs, ?_⟩
  simp only [hend]
  exact pure_eq_ok.2 ⟨rfl, rfl⟩

theorem markOverdue_of_not_ended (hk : s.Keyed) (hr : s.MarkReadable o)
    (hb : ¬s.BookingEnded o now) : markOverdue now o s = .ok none s := by
  cases hc : s.currentRow o with
  | none =>
    exact markOverdue_of_no_event
      (Store.currentStatus_eq_ok_none.2 ⟨Store.currentRow_eq_none.1 hc, rfl⟩)
  | some x =>
    have hx := Store.latestEvent_of_currentRow hc
    obtain ⟨ev, hev⟩ := hr.latest x hx
    obtain ⟨c, hcur, rfl⟩ := Store.currentStatus_of_latest hk hx hev
    by_cases hrun : c.event.status = .inProgress
    · -- the rental runs, so none of its records ended
      have hname : x.status = OrderStatus.inProgress.name := by
        rw [← EventRow.row_of_read hev, ← hrun]
        rfl
      obtain ⟨recs, hrecs⟩ := Store.recordsOf_ok_iff.2 hr.records
      refine markOverdue_of_nothing_ended hcur hrun hrecs (earliest_ended_eq_none.2 fun hended => ?_)
      exact hb ⟨x, hx, hname, (exists_ended_iff (Store.recordsOf_eq_ok hrecs).2).2 hended⟩
    · exact markOverdue_of_not_running hcur hrun

theorem markOverdue_none_not_ended (hk : s.Keyed) (h : markOverdue now o s = .ok none s') :
    s' = s ∧ ¬s.BookingEnded o now := by
  refine ⟨markOverdue_eq_ok_none h, ?_⟩
  rintro ⟨x, hx, hname, hended⟩
  exact not_ended_of_none h ((Store.currentRow_eq_some hk.eventIds).2 hx) hname hended

/-- A mark of a rental at `now` appends an `Overdue` event exactly when the rental is running,
one of its records ended before `now`, and what the mark reads and writes fits the service's
types; the event names the earliest such end, and only the event and the order's version are
written. When its reads go through and the rental is not running or no record ended before
`now` (a record ending at `now` included), the mark finds nothing to do; a mark that finds
nothing to do, or fails, writes nothing. -/
theorem markOverdue_exactly_when_booking_ended (hk : s.Keyed) (now : Instant) (o : Int) :
    ((∃ e s', markOverdue now o s = .ok (some e) s') ↔
      s.BookingEnded o now ∧ s.MarkReadable o ∧
        Store.fitsId (Store.nextId (s.events.map (·.id))) = true) ∧
    (∀ e s', markOverdue now o s = .ok (some e) s' → MarkEffect now o s e s') ∧
    (s.MarkReadable o → ¬s.BookingEnded o now → markOverdue now o s = .ok none s) ∧
    (∀ s', markOverdue now o s = .ok none s' → s' = s ∧ ¬s.BookingEnded o now) ∧
    (∀ err s', markOverdue now o s = .error err s' → s' = s) := by
  refine ⟨⟨fun ⟨e, s', h⟩ => ⟨bookingEnded_of_marked h, readable_of_marked hk h⟩,
    fun ⟨hb, hr, hfit⟩ => (due_of_bookingEnded hk hb hr).marks_iff.2 hfit⟩,
    fun e s' h => markOverdue_effect h, markOverdue_of_not_ended hk,
    fun s' h => markOverdue_none_not_ended hk h, fun err s' h => atomically_error h⟩

theorem markOverdue_exactly_when_booking_ended_rental :
    rentalStore.Keyed ∧
    markOverdue ⟨1676116800, 0⟩ 10 rentalStore = .ok (some ⟨3, 10, .overdue,
      some "Rental period ended on 2023-02-10 without the equipment being returned",
      ⟨1676116800, 0⟩, none⟩)
      { rentalStore with
        orders := [{ id := 10, userId := 1, statusVersion := 1 }, { id := 11, userId := 1 }]
        events := rentalStore.events ++
          [⟨3, 10, "Overdue", some "Rental period ended on 2023-02-10 without the equipment being returned",
            ⟨1676116800, 0⟩, none⟩] } ∧
    ((∃ e s', markOverdue ⟨1676116800, 0⟩ 10 rentalStore = .ok (some e) s') ↔
      rentalStore.BookingEnded 10 ⟨1676116800, 0⟩ ∧ rentalStore.MarkReadable 10 ∧
        Store.fitsId (Store.nextId (rentalStore.events.map (·.id))) = true) := by
  have hk : rentalStore.Keyed := ⟨by decide, by decide, by decide, by decide⟩
  exact ⟨hk, rfl, (markOverdue_exactly_when_booking_ended hk ⟨1676116800, 0⟩ 10).1⟩

def lastEventIdStore : Store where
  schema := .migrations
  users := [⟨1, "user1", "User"⟩]
  equipment := [{ id := 100 }]
  orders := [{ id := 10, userId := 1 }]
  events := [⟨2147483647, 10, "InProgress", none, ⟨1673773200, 0⟩, none⟩]
  records := [⟨1, 100, "InUse", ⟨1675252800, 0⟩, ⟨1676030400, 0⟩, some 10⟩]

/-- The rental is running and its booking ended, yet the mark fails: the `Overdue` event would
get the id 2147483648, which is written and then cannot be read back, and the mark leaves the
store as it was. -/
theorem markOverdue_ended_at_last_id_fails :
    lastEventIdStore.BookingEnded 10 ⟨1676462400, 0⟩ ∧
    markOverdue ⟨1676462400, 0⟩ 10 lastEventIdStore =
      .error (.db (DbError.idTooLarge "id")) lastEventIdStore := by
  refine ⟨⟨⟨2147483647, 10, "InProgress", none, ⟨1673773200, 0⟩, none⟩, ⟨by decide, by decide⟩,
    rfl, ⟨1, 100, "InUse", ⟨1675252800, 0⟩, ⟨1676030400, 0⟩, some 10⟩, by decide, by decide⟩, rfl⟩

end RentalStatus
