import RentalStatus.Proofs.Overdue

namespace RentalStatus

open EngineOp

namespace Store

variable {s t : Store} {o : Int} {r : EventRow}

/-- A clock reading `now` is not behind order `o`: no event of `o` is stored as made after `now`. -/
def NotBehind (s : Store) (o : Int) (now : Instant) : Prop :=
  ∀ r ∈ s.eventsOf o, r.createdAt.storedText ≤ now.storedText

instance (s : Store) (o : Int) (now : Instant) : Decidable (s.NotBehind o now) :=
  inferInstanceAs (Decidable (∀ r ∈ s.eventsOf o, r.createdAt.storedText ≤ now.storedText))

/-- `r` is the newest event of order `o`: every other event of `o` comes before it. -/
def Newest (s : Store) (o : Int) (r : EventRow) : Prop :=
  r ∈ s.eventsOf o ∧ ∀ x ∈ s.eventsOf o, x ≠ r → x.key < r.key

namespace Newest

theorem of_events_eq (h : s.Newest o r) (he : t.events = s.events) : t.Newest o r := by
  unfold Newest eventsOf at *
  rwa [he]

theorem latestEvent_iff (h : s.Newest o r) {x : EventRow} : s.LatestEvent o x ↔ x = r := by
  constructor
  · intro hx
    by_contra hne
    exact absurd (hx.2 r h.1) (not_le.2 (h.2 x hx.1 hne))
  · rintro rfl
    refine ⟨h.1, fun y hy => ?_⟩
    by_cases hyx : y = x
    · rw [hyx]
    · exact le_of_lt (h.2 y hy hyx)

theorem currentRow_eq (h : s.Newest o r) : s.currentRow o = some r := by
  obtain ⟨r', hc⟩ := exists_currentRow h.1
  rw [hc, h.latestEvent_iff.1 (latestEvent_of_currentRow hc)]

theorem mem_orderIdsWithStatus_iff (h : s.Newest o r) {name : String} :
    o ∈ s.orderIdsWithStatus name ↔ r.status = name := by
  rw [mem_orderIdsWithStatus]
  constructor
  · rintro ⟨x, hx, rfl⟩
    rw [h.latestEvent_iff.1 hx]
  · intro hname
    exact ⟨r, h.latestEvent_iff.2 rfl, hname⟩

theorem currentStatus_eq (h : s.Newest o r) (ho : s.hasOrder o = true) {ev : Event}
    (hread : r.read = .ok ev) : ∃ c, currentStatus o s = .ok (some c) s ∧ c.event = ev := by
  obtain ⟨ord, hord⟩ := order?_of_hasOrder ho
  exact ⟨_, currentStatus_of_currentRow h.currentRow_eq hread hord, rfl⟩

theorem history_eq (h : s.Newest o r) (hread : ∀ x ∈ s.eventsOf o, ∃ ev, x.read = .ok ev) :
    ∃ evs, history o s = .ok evs s ∧ evs.getLast?.map Event.row = some r := by
  obtain ⟨evs, hevs, hrows⟩ :=
    readAll_of_readable fun x hx => hread x ((historyOrder_perm _).subset hx)
  refine ⟨evs, by simp [history, hevs], ?_⟩
  rw [← List.getLast?_map, hrows, getLast?_historyOrder_of_max h.1 h.2]

end Newest

theorem notBehind_of_latestEvent (hsub : ∀ x ∈ s.eventsOf o, x ∈ t.eventsOf o)
    (hr : t.LatestEvent o r) : s.NotBehind o r.createdAt :=
  fun x hx => EventRow.storedText_le_of_key_le (hr.2 x (hsub x hx))

theorem append_events {p : AppendRequest} {e : Event} {s' : Store}
    (h : append p s = .ok (some e) s') :
    s'.events = s.events ++ [e.row] ∧ e.orderId = p.orderId ∧ e.createdAt = p.createdAt := by
  obtain ⟨-, rfl, -, rfl⟩ := append_eq_ok_some h
  exact ⟨rfl, rfl, rfl⟩

theorem newest_of_eventsOf (hnow : s.NotBehind o r.createdAt)
    (hid : ∀ x ∈ s.eventsOf o, x.id < r.id) (he : t.eventsOf o = s.eventsOf o ++ [r]) :
    t.Newest o r := by
  refine ⟨by simp [he], fun y hy hne => ?_⟩
  have hold : y ∈ s.eventsOf o := by simpa [he, hne] using hy
  exact EventRow.key_lt_of_le_of_lt (hnow y hold) (hid y hold)

theorem newest_of_append (hnow : s.NotBehind r.orderId r.createdAt)
    (hid : ∀ x ∈ s.events, x.id < r.id) (he : t.events = s.events ++ [r]) :
    t.Newest r.orderId r :=
  newest_of_eventsOf hnow (fun x hx => hid x (mem_eventsOf.1 hx).1)
    (by simp [eventsOf, he, List.filter_append])

theorem append_newest {p : AppendRequest} {e : Event} {s' : Store}
    (hnow : s.NotBehind p.orderId p.createdAt) (h : append p s = .ok (some e) s') :
    s'.Newest p.orderId e.row ∧ s'.hasOrder p.orderId = true ∧ e.row.read = .ok e := by
  obtain ⟨⟨x, hx, hid, -⟩, rfl, hfit, rfl⟩ := append_eq_ok_some h
  refine ⟨newest_of_append hnow (fun y hy => lt_nextId (List.mem_map_of_mem hy)) rfl, ?_,
    EventRow.read_row hfit⟩
  · refine hasOrder_iff.2 ⟨_, List.mem_map_of_mem hx, ?_⟩
    rw [if_pos hid]
    exact hid

end Store

section Readers

variable {o : Int} {p : Principal} {s : Store} {c : CurrentStatus}

theorem visibleStatus_of_no_event (h : Store.currentStatus o s = .ok none s) :
    visibleStatus o p s = .error (.status (.orderNotFound o)) s := by
  simp only [visibleStatus, bind_of_ok (db_of_ok h), refuse_apply]

theorem visibleStatus_of_staff_or_owner (h : Store.currentStatus o s = .ok (some c) s)
    (hp : (p.role.isStaff || p.id == c.ownerId) = true) : visibleStatus o p s = .ok c s := by
  simp only [visibleStatus, bind_of_ok (db_of_ok h), hp, reduceIte, pure_apply]

theorem visibleStatus_of_other (h : Store.currentStatus o s = .ok (some c) s)
    (hp : (p.role.isStaff || p.id == c.ownerId) = false) {evs : List Event}
    (hh : Store.history o s = .ok evs s) :
    visibleStatus o p s = if evs.any (·.changedBy == some p.id) then .ok c s
      else .error (.status (.accessDenied p.id o)) s := by
  simp only [visibleStatus, bind_of_ok (db_of_ok h), hp, Bool.false_eq_true, reduceIte,
    bind_of_ok (db_of_ok hh)]
  split <;> rfl

theorem history_of_visible (h : visibleStatus o p s = .ok c s) :
    history o p s = db (Store.history o) s := by
  simp only [history, bind_of_ok (discard_of_ok h)]

theorem history_of_hidden {e : EngineError} (h : visibleStatus o p s = .error e s) :
    history o p s = .error e s := by
  simp only [history, bind_of_error (discard_of_error h)]

theorem currentStatus_of_visible (h : visibleStatus o p s = .ok c s) :
    currentStatus o p s = .ok c.event s := by
  simp only [currentStatus, bind_of_ok h, pure_apply]

theorem currentStatus_of_hidden {e : EngineError} (h : visibleStatus o p s = .error e s) :
    currentStatus o p s = .error e s := by
  simp only [currentStatus, bind_of_error h]

theorem visibleStatus_staff (hp : p.role.isStaff = true)
    (h : Store.currentStatus o s = .ok (some c) s) : visibleStatus o p s = .ok c s :=
  visibleStatus_of_staff_or_owner h (by rw [hp, Bool.true_or])

theorem currentStatus_staff (hp : p.role.isStaff = true)
    (h : Store.currentStatus o s = .ok (some c) s) : currentStatus o p s = .ok c.event s :=
  currentStatus_of_visible (visibleStatus_staff hp h)

theorem history_staff (hp : p.role.isStaff = true) (h : Store.currentStatus o s = .ok (some c) s) :
    history o p s = db (Store.history o) s :=
  history_of_visible (visibleStatus_staff hp h)

theorem visibleStatus_eq_ok {s' : Store} (h : visibleStatus o p s = .ok c s') :
    Store.currentStatus o s = .ok (some c) s ∧ s' = s := by
  rw [visibleStatus, bind_eq_ok] at h
  obtain ⟨x, s₁, hdb, h⟩ := h
  have hc := db_eq_ok.1 hdb
  obtain rfl := Store.currentStatus_store hc
  cases x with
  | none => exact absurd h refuse_ne_ok
  | some cur =>
    dsimp only at h
    split at h
    · obtain ⟨rfl, rfl⟩ := pure_eq_ok.1 h
      exact ⟨hc, rfl⟩
    · rw [bind_eq_ok] at h
      obtain ⟨evs, s₂, hdbh, h⟩ := h
      obtain rfl := Store.history_store (db_eq_ok.1 hdbh)
      split at h
      · obtain ⟨rfl, rfl⟩ := pure_eq_ok.1 h
        exact ⟨hc, rfl⟩
      · exact absurd h refuse_ne_ok

theorem currentStatus_eq_ok {s' : Store} {e : Event} (h : currentStatus o p s = .ok e s') :
    ∃ c, Store.currentStatus o s = .ok (some c) s ∧ c.event = e := by
  rw [currentStatus, bind_eq_ok] at h
  obtain ⟨c, s₁, hv, h⟩ := h
  obtain ⟨hc, rfl⟩ := visibleStatus_eq_ok hv
  exact ⟨c, hc, (pure_eq_ok.1 h).1⟩

end Readers

/-- In store `s'`, every reader finds `e` as the current event of order `o`, which store `s` held
before: staff reading the current status get `e`; staff reading the history get one that ends in
`e`, when every event `s` held for the order reads; and the order is listed under the status of
`e` and under no other. -/
def ShowsCurrent (s : Store) (o : Int) (e : Event) (s' : Store) : Prop :=
  (∀ p : Principal, p.role.isStaff = true → currentStatus o p s' = .ok e s') ∧
  ((∀ r ∈ s.eventsOf o, Store.fitsId r.id = true ∧ (OrderStatus.ofName? r.status).isSome) →
    ∀ p : Principal, p.role.isStaff = true →
      ∃ evs, history o p s' = .ok evs s' ∧ evs.getLast? = some e) ∧
  (∀ t : OrderStatus, ∃ ids, Store.orderIdsInStatus t s' = .ok ids s' ∧ (o ∈ ids ↔ t = e.status))

theorem append_shows_current {s s₁ s' : Store} {p : AppendRequest} {e : Event}
    (hnow : s.NotBehind p.orderId p.createdAt) (h : Store.append p s = .ok (some e) s₁)
    (horders : s'.orders = s₁.orders) (hevents : s'.events = s₁.events) :
    ShowsCurrent s p.orderId e s' := by
  obtain ⟨hnew, ho, hread⟩ := Store.append_newest hnow h
  obtain ⟨hevs, horder, -⟩ := Store.append_events h
  have hnew' := hnew.of_events_eq hevents
  have ho' : s'.hasOrder p.orderId = true := by rwa [Store.hasOrder, horders]
  obtain ⟨c, hc, rfl⟩ := hnew'.currentStatus_eq ho' hread
  refine ⟨fun q hq => currentStatus_staff hq hc, fun hold q hq => ?_, fun t => ⟨_, rfl, ?_⟩⟩
  · -- the events of the order are the old ones, which read by assumption, and the new one
    have hall : ∀ x ∈ s'.eventsOf p.orderId, ∃ ev, x.read = .ok ev := by
      intro x hx
      obtain ⟨hx, hxo⟩ := Store.mem_eventsOf.1 hx
      rw [hevents, hevs, List.mem_append, List.mem_singleton] at hx
      rcases hx with hx | rfl
      · exact EventRow.read_ok_iff.2 (hold x (Store.mem_eventsOf.2 ⟨hx, hxo⟩))
      · exact ⟨_, hread⟩
    obtain ⟨evs, hh, hlast⟩ := hnew'.history_eq hall
    obtain ⟨ev, hev, hrow⟩ := Option.map_eq_some_iff.1 hlast
    refine ⟨evs, by rw [history_staff hq hc, db_eq_ok]; exact hh, ?_⟩
    rw [hev, Event.row_injective hrow]
  · rw [hnew'.mem_orderIdsWithStatus_iff]
    exact ⟨fun hname => (OrderStatus.name_injective hname).symm, fun ht => ht ▸ rfl⟩

theorem append_shows_current_iff {s s₁ s' : Store} {p : AppendRequest} {e : Event}
    (h : Store.append p s = .ok (some e) s₁) (horders : s'.orders = s₁.orders)
    (hevents : s'.events = s₁.events) :
    s.NotBehind p.orderId p.createdAt ↔ ShowsCurrent s p.orderId e s' := by
  refine ⟨fun hnow => append_shows_current hnow h horders hevents, fun hshow => ?_⟩
  obtain ⟨hevs, -, hat⟩ := Store.append_events h
  obtain ⟨c, hc, hce⟩ := currentStatus_eq_ok (hshow.1 ⟨0, .admin⟩ rfl)
  obtain ⟨r, hr, hread⟩ := Store.currentRow_of_currentStatus hc
  have hre : r = e.row := by rw [← EventRow.row_of_read hread, hce]
  have hsub : ∀ x ∈ s.eventsOf p.orderId, x ∈ s'.eventsOf p.orderId := fun x hx => by
    obtain ⟨hx, hxo⟩ := Store.mem_eventsOf.1 hx
    exact Store.mem_eventsOf.2 ⟨by simp [hevents, hevs, hx], hxo⟩
  have hbehind := Store.notBehind_of_latestEvent hsub (Store.latestEvent_of_currentRow hr)
  rw [hre] at hbehind
  change s.NotBehind p.orderId e.createdAt at hbehind
  rwa [hat] at hbehind

/-- The new event of a status change, or of an overdue mark, is what every reader then finds as
the order's current event exactly when the clock was not behind the order's history. -/
theorem change_becomes_current :
    (∀ {policy : Policy} {now : Instant} {req : StatusRequest} {s s' : Store} {e : Event},
      addStatus policy now req s = .ok e s' →
        OrderStatus.ofName? req.status = some e.status ∧
        (s.NotBehind req.orderId now ↔ ShowsCurrent s req.orderId e s')) ∧
    (∀ {now : Instant} {o : Int} {s s' : Store} {e : Event},
      markOverdue now o s = .ok (some e) s' →
        e.status = .overdue ∧ (s.NotBehind o now ↔ ShowsCurrent s o e s')) := by
  constructor
  · intro policy now req s s' e h
    obtain ⟨t, cur, recs, s₁, ht, -, -, -, -, happ, hloop⟩ := addStatus_eq_ok h
    obtain ⟨horders, hevents⟩ := Store.forIn_updateRecord_frame hloop
    obtain ⟨-, rfl, -, -⟩ := Store.append_eq_ok_some happ
    exact ⟨ofName?_of_parseTarget ht, append_shows_current_iff happ horders hevents⟩
  · intro now o s s' e h
    obtain ⟨cur, recs, ended, -, -, -, -, happ⟩ := markOverdue_eq_ok_some h
    obtain ⟨-, rfl, -, -⟩ := Store.append_eq_ok_some happ
    exact ⟨rfl, append_shows_current_iff happ rfl rfl⟩

theorem change_becomes_current_rental :
    (∃ e s', addStatus .strict ⟨1675598400, 0⟩ ⟨11, "Approved", none, ⟨2, .manager⟩⟩ rentalStore =
        .ok e s' ∧ rentalStore.NotBehind 11 ⟨1675598400, 0⟩ ∧
      OrderStatus.ofName? "Approved" = some e.status ∧ ShowsCurrent rentalStore 11 e s') ∧
    (∃ e s', markOverdue ⟨1676116800, 0⟩ 10 rentalStore = .ok (some e) s' ∧
      rentalStore.NotBehind 10 ⟨1676116800, 0⟩ ∧ e.status = .overdue ∧
      ShowsCurrent rentalStore 10 e s') := by
  have hadd : addStatus .strict ⟨1675598400, 0⟩ ⟨11, "Approved", none, ⟨2, .manager⟩⟩ rentalStore =
      .ok ⟨3, 11, .approved, none, ⟨1675598400, 0⟩, some 2⟩
        { rentalStore with
          orders := [{ id := 10, userId := 1 }, { id := 11, userId := 1, statusVersion := 1 }]
          events := rentalStore.events ++ [⟨3, 11, "Approved", none, ⟨1675598400, 0⟩, some 2⟩] } :=
    rfl
  have hmark : markOverdue ⟨1676116800, 0⟩ 10 rentalStore =
      .ok (some ⟨3, 10, .overdue,
        some "Rental period ended on 2023-02-10 without the equipment being returned",
        ⟨1676116800, 0⟩, none⟩)
        { rentalStore with
          orders := [{ id := 10, userId := 1, statusVersion := 1 }, { id := 11, userId := 1 }]
          events := rentalStore.events ++ [⟨3, 10, "Overdue",
            some "Rental period ended on 2023-02-10 without the equipment being returned",
            ⟨1676116800, 0⟩, none⟩] } :=
    rfl
  have hnow₁ : rentalStore.NotBehind 11 ⟨1675598400, 0⟩ := by decide
  have hnow₂ : rentalStore.NotBehind 10 ⟨1676116800, 0⟩ := by decide
  obtain ⟨hname, hiff₁⟩ := change_becomes_current.1 hadd
  obtain ⟨hover, hiff₂⟩ := change_becomes_current.2 hmark
  exact ⟨⟨_, _, hadd, hnow₁, hname, hiff₁.1 hnow₁⟩, ⟨_, _, hmark, hnow₂, hover, hiff₂.1 hnow₂⟩⟩

def shippedStore : Store where
  schema := .entities
  users := [⟨1, "user1", "User"⟩, ⟨2, "user2", "Manager"⟩]
  orders := [{ id := 10, userId := 1 }]
  events := [⟨1, 10, "Shipped", none, ⟨1673341200, 0⟩, some 1⟩,
    ⟨2, 10, "InReview", none, ⟨1673773200, 0⟩, some 1⟩]

/-- Two approvals that succeed and do not read back as current. With the clock behind the order
in review, the approval is dated before the event in review, which stays current; and with an
older event of a status that names none, the history of the approved order cannot be read. -/
theorem change_not_shown_current :
    (∃ s', addStatus .strict ⟨1672531200, 0⟩ ⟨11, "Approved", none, ⟨2, .manager⟩⟩ rentalStore =
        .ok ⟨3, 11, .approved, none, ⟨1672531200, 0⟩, some 2⟩ s' ∧
      currentStatus 11 ⟨2, .manager⟩ s' =
        .ok ⟨2, 11, .inReview, none, ⟨1673773200, 0⟩, some 1⟩ s') ∧
    (∃ s', addStatus .strict ⟨1675598400, 0⟩ ⟨10, "Approved", none, ⟨2, .manager⟩⟩ shippedStore =
        .ok ⟨3, 10, .approved, none, ⟨1675598400, 0⟩, some 2⟩ s' ∧
      ∃ err, history 10 ⟨2, .manager⟩ s' = .error err s') := by
  set approved : Store := { shippedStore with
    orders := [{ id := 10, userId := 1, statusVersion := 1 }]
    events := shippedStore.events ++ [⟨3, 10, "Approved", none, ⟨1675598400, 0⟩, some 2⟩] }
  have hc : Store.currentStatus 10 approved =
      .ok (some ⟨⟨3, 10, .approved, none, ⟨1675598400, 0⟩, some 2⟩, 1, 1⟩) approved := rfl
  have hmem : (⟨1, 10, "Shipped", none, ⟨1673341200, 0⟩, some 1⟩ : EventRow) ∈
      approved.eventsOf 10 := by decide
  obtain ⟨err, herr⟩ := Store.history_error_of_unreadable hmem fun ev hev =>
    absurd (EventRow.read_ok_iff.1 ⟨ev, hev⟩).2 (by decide)
  refine ⟨⟨{ rentalStore with
      orders := [{ id := 10, userId := 1 }, { id := 11, userId := 1, statusVersion := 1 }]
      events := rentalStore.events ++ [⟨3, 11, "Approved", none, ⟨1672531200, 0⟩, some 2⟩] },
    rfl, rfl⟩, ⟨approved, rfl, .db err, ?_⟩⟩
  rw [history_staff rfl hc]
  simp only [db, herr]

end RentalStatus
