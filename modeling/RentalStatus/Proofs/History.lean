import Mathlib.Data.List.Induction
import Mathlib.Data.Prod.Lex
import Mathlib.Data.String.Basic
import RentalStatus.Proofs.Writes

namespace RentalStatus

namespace EventRow

/-- Where an event stands in its order's history: its creation time as stored, then its id. -/
def key (r : EventRow) : Lex (String × Int) := toLex (r.createdAt.storedText, r.id)

theorem precedes_iff {a b : EventRow} : a.precedes b = true ↔ a.key < b.key := by
  simp [precedes, key, Prod.Lex.toLex_lt_toLex]

theorem not_precedes_iff {a b : EventRow} : a.precedes b = false ↔ b.key ≤ a.key := by
  rw [Bool.eq_false_iff, ne_eq, precedes_iff, not_lt]

theorem key_lt_of_le_of_lt {a b : EventRow}
    (ht : a.createdAt.storedText ≤ b.createdAt.storedText) (hid : a.id < b.id) : a.key < b.key := by
  rcases lt_or_eq_of_le ht with ht | ht
  · exact Prod.Lex.toLex_lt_toLex.2 (.inl ht)
  · exact Prod.Lex.toLex_lt_toLex.2 (.inr ⟨ht, hid⟩)

theorem storedText_le_of_key_le {a b : EventRow} (h : a.key ≤ b.key) :
    a.createdAt.storedText ≤ b.createdAt.storedText :=
  (Prod.Lex.toLex_le_toLex'.1 h).1

theorem id_eq_of_key_eq {a b : EventRow} (h : a.key = b.key) : a.id = b.id := by
  simpa [key] using congrArg (fun k => (ofLex k).2) h

end EventRow

theorem latest_append_singleton (rs : List EventRow) (x : EventRow) :
    latest (rs ++ [x]) = match latest rs with
      | none => some x
      | some b => if b.precedes x then some x else some b := by
  unfold latest
  rw [List.foldl_append]
  rfl

theorem latest_eq_none {rs : List EventRow} : latest rs = none ↔ rs = [] := by
  induction rs using List.reverseRecOn with
  | nil => simp [latest]
  | append_singleton rs x _ =>
    rw [latest_append_singleton]
    constructor
    · intro h
      split at h
      · cases h
      · split at h <;> cases h
    · intro h
      simp at h

theorem latest_spec {rs : List EventRow} {r : EventRow} (h : latest rs = some r) :
    r ∈ rs ∧ ∀ x ∈ rs, x.key ≤ r.key := by
  induction rs using List.reverseRecOn generalizing r with
  | nil => simp [latest] at h
  | append_singleton rs x ih =>
    rw [latest_append_singleton] at h
    split at h
    · rename_i hnone
      cases h
      simp [latest_eq_none.1 hnone]
    · rename_i b hb
      obtain ⟨hbmem, hbmax⟩ := ih hb
      split at h
      · rename_i hbx
        cases h
        have hlt := EventRow.precedes_iff.1 hbx
        refine ⟨by simp, fun y hy => ?_⟩
        rcases List.mem_append.1 hy with hy | hy
        · exact le_of_lt (lt_of_le_of_lt (hbmax y hy) hlt)
        · rw [List.mem_singleton.1 hy]
      · rename_i hbx
        obtain rfl := Option.some.inj h
        have hle : x.key ≤ b.key := not_lt.1 fun hlt => hbx (EventRow.precedes_iff.2 hlt)
        refine ⟨List.mem_append_left _ hbmem, fun y hy => ?_⟩
        rcases List.mem_append.1 hy with hy | hy
        · exact hbmax y hy
        · rw [List.mem_singleton.1 hy]
          exact hle

theorem historyOrder_sorted (rs : List EventRow) :
    (historyOrder rs).Pairwise fun a b => a.key ≤ b.key := by
  have h := @List.pairwise_mergeSort EventRow (fun a b => !b.precedes a)
    (fun a b c hab hbc => by
      simp only [Bool.not_eq_true', EventRow.not_precedes_iff] at hab hbc ⊢
      exact le_trans hab hbc)
    (fun a b => by
      simp only [Bool.or_eq_true, Bool.not_eq_true', EventRow.not_precedes_iff]
      exact le_total a.key b.key) rs
  exact h.imp fun {a b} hab => by simpa only [Bool.not_eq_true', EventRow.not_precedes_iff] using hab

theorem historyOrder_perm (rs : List EventRow) : (historyOrder rs).Perm rs :=
  List.mergeSort_perm _ _

theorem pairwise_lt_mergeSort {xs : List Int} (h : xs.Nodup) :
    (xs.mergeSort fun a b => decide (a ≤ b)).Pairwise (· < ·) := by
  have hle := @List.pairwise_mergeSort Int (fun a b => decide (a ≤ b))
    (fun a b c hab hbc => by simpa using Int.le_trans (by simpa using hab) (by simpa using hbc))
    (fun a b => by simpa using Int.le_total a b) xs
  have hne := (List.mergeSort_perm xs fun a b => decide (a ≤ b)).nodup_iff.2 h
  exact hle.imp₂ (fun a b hab hab' => lt_of_le_of_ne (by simpa using hab) hab') hne

theorem mapM_read_of_readable {rs : List EventRow} (h : ∀ r ∈ rs, ∃ ev, r.read = .ok ev) :
    ∃ evs, rs.mapM EventRow.read = .ok evs ∧ evs.map Event.row = rs := by
  induction rs with
  | nil => exact ⟨[], rfl, rfl⟩
  | cons r rs ih =>
    obtain ⟨ev, hev⟩ := h r List.mem_cons_self
    obtain ⟨evs, hevs, hrows⟩ := ih fun x hx => h x (List.mem_cons_of_mem r hx)
    refine ⟨ev :: evs, ?_, ?_⟩
    · simp [List.mapM_cons, hev, hevs]
    · simp [hrows, EventRow.row_of_read hev]

theorem readAll_of_readable {rs : List EventRow} (h : ∀ r ∈ rs, ∃ ev, r.read = .ok ev) :
    ∃ evs, readAll rs = .ok evs ∧ evs.map Event.row = rs := by
  have hfit : rs.all (Store.fitsId ·.id) = true := by
    simp only [List.all_eq_true]
    intro r hr
    obtain ⟨ev, hev⟩ := h r hr
    exact EventRow.fitsId_of_read hev
  simpa [readAll, hfit] using mapM_read_of_readable h

theorem getLast?_historyOrder_eq_none {rs : List EventRow} :
    (historyOrder rs).getLast? = none ↔ rs = [] := by
  rw [List.getLast?_eq_none_iff, ← List.length_eq_zero_iff, (historyOrder_perm rs).length_eq,
    List.length_eq_zero_iff]

theorem getLast?_historyOrder_max {rs : List EventRow} {l : EventRow}
    (h : (historyOrder rs).getLast? = some l) : l ∈ rs ∧ ∀ x ∈ rs, x.key ≤ l.key := by
  have hperm := historyOrder_perm rs
  obtain ⟨ys, hys⟩ := List.getLast?_eq_some_iff.1 h
  have hsorted := historyOrder_sorted rs
  rw [hys, List.pairwise_append] at hsorted
  refine ⟨hperm.subset (hys ▸ List.mem_append_right ys (List.mem_singleton_self l)), fun x hx => ?_⟩
  have hx' := hperm.symm.subset hx
  rw [hys] at hx'
  rcases List.mem_append.1 hx' with hx' | hx'
  · exact hsorted.2.2 x hx' l (List.mem_singleton_self l)
  · rw [List.mem_singleton.1 hx']

theorem getLast?_historyOrder_of_max {rs : List EventRow} {r : EventRow} (hr : r ∈ rs)
    (hmax : ∀ x ∈ rs, x ≠ r → x.key < r.key) : (historyOrder rs).getLast? = some r := by
  cases hl : (historyOrder rs).getLast? with
  | none =>
    rw [getLast?_historyOrder_eq_none.1 hl] at hr
    cases hr
  | some l =>
    obtain ⟨hl, hlmax⟩ := getLast?_historyOrder_max hl
    by_contra hlr
    exact absurd (hlmax r hr) (not_le.2 (hmax l hl fun h => hlr (congrArg some h)))

theorem readable_of_readAll {rs : List EventRow} {evs : List Event} (h : readAll rs = .ok evs) :
    ∀ r ∈ rs, ∃ ev, r.read = .ok ev := by
  unfold readAll at h
  split at h
  · exact exists_of_mapM_eq_ok h
  · cases h

namespace Store

variable {s : Store} {o : Int}

/-- `r` is the latest event of order `o`: an event of `o` that no event of `o` comes after. -/
def LatestEvent (s : Store) (o : Int) (r : EventRow) : Prop :=
  r ∈ s.eventsOf o ∧ ∀ x ∈ s.eventsOf o, x.key ≤ r.key

theorem mem_eventsOf {r : EventRow} : r ∈ s.eventsOf o ↔ r ∈ s.events ∧ r.orderId = o := by
  simp [eventsOf]

theorem LatestEvent.unique (hk : (s.events.map (·.id)).Nodup) {a b : EventRow}
    (ha : s.LatestEvent o a) (hb : s.LatestEvent o b) : a = b := by
  have hkey : a.key = b.key := le_antisymm (hb.2 a ha.1) (ha.2 b hb.1)
  exact List.inj_on_of_nodup_map hk (mem_eventsOf.1 ha.1).1 (mem_eventsOf.1 hb.1).1
    (EventRow.id_eq_of_key_eq hkey)

theorem currentRow_eq_none : s.currentRow o = none ↔ s.eventsOf o = [] := latest_eq_none

theorem latestEvent_of_currentRow {r : EventRow} (h : s.currentRow o = some r) :
    s.LatestEvent o r :=
  latest_spec h

theorem exists_currentRow {r : EventRow} (hr : r ∈ s.eventsOf o) :
    ∃ r', s.currentRow o = some r' := by
  cases hc : s.currentRow o with
  | none =>
    rw [currentRow_eq_none.1 hc] at hr
    cases hr
  | some r' => exact ⟨r', rfl⟩

theorem currentRow_eq_some (hk : (s.events.map (·.id)).Nodup) {r : EventRow} :
    s.currentRow o = some r ↔ s.LatestEvent o r := by
  refine ⟨latestEvent_of_currentRow, fun hr => ?_⟩
  obtain ⟨r', hc⟩ := exists_currentRow hr.1
  rw [hc, (latestEvent_of_currentRow hc).unique hk hr]

theorem isCurrent_iff {r : EventRow} (hr : r ∈ s.events) :
    s.isCurrent r = true ↔ s.LatestEvent r.orderId r := by
  simp only [isCurrent, Bool.not_eq_true', List.any_eq_false, Bool.and_eq_true, beq_iff_eq,
    not_and, EventRow.precedes_iff, not_lt, LatestEvent, mem_eventsOf, hr, true_and, and_imp]

theorem mem_orderIdsWithStatus {name : String} :
    o ∈ s.orderIdsWithStatus name ↔ ∃ r, s.LatestEvent o r ∧ r.status = name := by
  simp only [orderIdsWithStatus, List.mem_mergeSort, List.mem_map, List.mem_filter,
    Bool.and_eq_true, beq_iff_eq]
  constructor
  · rintro ⟨r, ⟨hr, hname, hcur⟩, rfl⟩
    exact ⟨r, (isCurrent_iff hr).1 hcur, hname⟩
  · rintro ⟨r, hlast, hname⟩
    have hr := mem_eventsOf.1 hlast.1
    refine ⟨r, ⟨hr.1, hname, ?_⟩, hr.2⟩
    rw [isCurrent_iff hr.1, hr.2]
    exact hlast

theorem orderIdsWithStatus_sorted (hk : (s.events.map (·.id)).Nodup) (name : String) :
    (s.orderIdsWithStatus name).Pairwise (· < ·) := by
  set current := s.events.filter fun r => r.status == name && s.isCurrent r
  have hcur : ∀ r ∈ current, s.LatestEvent r.orderId r := fun r hr => by
    obtain ⟨hr, hp⟩ := List.mem_filter.1 hr
    simp only [Bool.and_eq_true] at hp
    exact (isCurrent_iff hr).1 hp.2
  have hnodup : (current.map (·.orderId)).Nodup := by
    refine List.Nodup.map_on (fun a ha b hb hab => ?_)
      ((List.Nodup.of_map _ hk).filter _)
    have hb' := hcur b hb
    rw [← hab] at hb'
    exact (hcur a ha).unique hk hb'
  exact pairwise_lt_mergeSort hnodup

theorem order?_of_hasOrder (h : s.hasOrder o = true) : ∃ ord, s.order? o = some ord := by
  obtain ⟨x, hx, hid⟩ := hasOrder_iff.1 h
  cases hf : s.order? o with
  | none =>
    simp only [order?, List.find?_eq_none, beq_iff_eq] at hf
    exact absurd hid (hf x hx)
  | some ord => exact ⟨ord, rfl⟩

theorem currentStatus_eq_ok {c : Option CurrentStatus} {s' : Store}
    (h : currentStatus o s = .ok c s') :
    s' = s ∧ ((s.currentRow o = none ∧ c = none) ∨
      ∃ r ord ev, s.currentRow o = some r ∧ s.order? o = some ord ∧ r.read = .ok ev ∧
        c = some ⟨ev, ord.userId, ord.statusVersion⟩) := by
  unfold currentStatus at h
  split at h
  · rename_i hr
    cases h
    exact ⟨rfl, .inl ⟨hr, rfl⟩⟩
  · rename_i r hr
    split at h
    · cases h
    · split at h
      · cases h
      · rename_i ord hord
        split at h
        · rename_i ev hev
          cases h
          exact ⟨rfl, .inr ⟨r, ord, ev, hr, hord, hev, rfl⟩⟩
        · cases h

theorem currentStatus_store {c : Option CurrentStatus} {s' : Store}
    (h : currentStatus o s = .ok c s') : s' = s :=
  (currentStatus_eq_ok h).1

theorem history_store {evs : List Event} {s' : Store} (h : history o s = .ok evs s') : s' = s := by
  unfold history at h
  split at h <;> cases h
  rfl

theorem currentRow_of_currentStatus {c : CurrentStatus} {s' : Store}
    (h : currentStatus o s = .ok (some c) s') :
    ∃ r, s.currentRow o = some r ∧ r.read = .ok c.event := by
  obtain ⟨-, ⟨-, hnone⟩ | ⟨r, ord, ev, hr, -, hev, hc⟩⟩ := currentStatus_eq_ok h
  · cases hnone
  · obtain rfl := Option.some.inj hc
    exact ⟨r, hr, hev⟩

theorem currentStatus_eq_ok_none {s' : Store} :
    currentStatus o s = .ok none s' ↔ s.eventsOf o = [] ∧ s' = s := by
  constructor
  · intro h
    obtain ⟨rfl, hnone | ⟨r, ord, ev, -, -, -, hsome⟩⟩ := currentStatus_eq_ok h
    · exact ⟨currentRow_eq_none.1 hnone.1, rfl⟩
    · cases hsome
  · rintro ⟨hnil, rfl⟩
    simp [currentStatus, currentRow_eq_none.2 hnil]

theorem currentStatus_of_currentRow {r : EventRow} {ev : Event} {ord : OrderRow}
    (hr : s.currentRow o = some r) (hread : r.read = .ok ev) (hord : s.order? o = some ord) :
    currentStatus o s = .ok (some ⟨ev, ord.userId, ord.statusVersion⟩) s := by
  simp [currentStatus, hr, hord, hread, EventRow.fitsId_of_read hread]

theorem currentStatus_of_latest (hk : s.Keyed) {r : EventRow} {ev : Event}
    (hr : s.LatestEvent o r) (hread : r.read = .ok ev) :
    ∃ c, currentStatus o s = .ok (some c) s ∧ c.event = ev := by
  have ho : s.hasOrder o = true := by
    have hm := mem_eventsOf.1 hr.1
    simpa [hm.2] using hk.eventOrders r hm.1
  obtain ⟨ord, hord⟩ := order?_of_hasOrder ho
  exact ⟨_, currentStatus_of_currentRow ((currentRow_eq_some hk.eventIds).2 hr) hread hord, rfl⟩

theorem getLast?_historyOrder (hk : (s.events.map (·.id)).Nodup) :
    (historyOrder (s.eventsOf o)).getLast? = s.currentRow o := by
  cases hl : (historyOrder (s.eventsOf o)).getLast? with
  | none => exact (currentRow_eq_none.2 (getLast?_historyOrder_eq_none.1 hl)).symm
  | some l => exact ((currentRow_eq_some hk).2 (getLast?_historyOrder_max hl)).symm

/-- When every event of an order reads, its history is all its events in history order, ending
in the event `currentStatus` reads. -/
theorem history_of_readable (hk : s.Keyed) (h : ∀ r ∈ s.eventsOf o, ∃ ev, r.read = .ok ev) :
    ∃ evs, history o s = .ok evs s ∧ (evs.map Event.row).Perm (s.eventsOf o) ∧
      (evs.map Event.row).Pairwise (fun a b => a.key < b.key) ∧
      ∃ c, currentStatus o s = .ok c s ∧ c.map (·.event) = evs.getLast? := by
  have hperm := historyOrder_perm (s.eventsOf o)
  obtain ⟨evs, hread, hrows⟩ := readAll_of_readable fun r hr => h r (hperm.subset hr)
  have hnodup : (s.eventsOf o).Nodup := (List.Nodup.of_map _ hk.eventIds).filter _
  -- distinct events of one order have distinct keys, so history order is strict
  have hlt : (historyOrder (s.eventsOf o)).Pairwise (fun a b => a.key < b.key) := by
    refine ((historyOrder_sorted _).and (hperm.nodup_iff.2 hnodup)).imp_of_mem
      fun ha hb hab => lt_of_le_of_ne hab.1 fun hkey => hab.2 ?_
    exact List.inj_on_of_nodup_map hk.eventIds (mem_eventsOf.1 (hperm.subset ha)).1
      (mem_eventsOf.1 (hperm.subset hb)).1 (EventRow.id_eq_of_key_eq hkey)
  have hlast : (evs.getLast?).map Event.row = s.currentRow o := by
    rw [← List.getLast?_map, hrows, getLast?_historyOrder hk.eventIds]
  refine ⟨evs, by simp [history, hread], hrows ▸ hperm, hrows ▸ hlt, ?_⟩
  cases hc : s.currentRow o with
  | none =>
    rw [hc, Option.map_eq_none_iff] at hlast
    exact ⟨none, currentStatus_eq_ok_none.2 ⟨currentRow_eq_none.1 hc, rfl⟩, hlast.symm⟩
  | some r =>
    obtain ⟨ev, hev⟩ := h r (latestEvent_of_currentRow hc).1
    obtain ⟨c, hcs, rfl⟩ := currentStatus_of_latest hk (latestEvent_of_currentRow hc) hev
    rw [hc, Option.map_eq_some_iff] at hlast
    obtain ⟨ev', hev', hrow⟩ := hlast
    refine ⟨some c, hcs, ?_⟩
    rw [hev', Event.row_injective (hrow.trans (EventRow.row_of_read hev).symm)]
    rfl

theorem history_error_of_unreadable {r : EventRow} (hr : r ∈ s.eventsOf o)
    (hbad : ∀ ev, r.read ≠ .ok ev) : ∃ err, history o s = .error err s := by
  unfold history
  cases hall : readAll (historyOrder (s.eventsOf o)) with
  | ok evs =>
    obtain ⟨ev, hev⟩ := readable_of_readAll hall r ((historyOrder_perm _).symm.subset hr)
    exact absurd hev (hbad ev)
  | error err => exact ⟨err, rfl⟩

end Store

/-- The three readers of an order's current status agree on every store that keeps its keys.
Listing the orders in a status lists, once each and ascending, the orders whose latest event has
that status; reading the current status finds nothing exactly when the order has no event, and
otherwise reads its latest event whenever that event's id fits and its status is a name; and when
every event of the order reads, the history is all its events in strictly ascending history
order, ending in the event the current status reads. -/
theorem current_status_readers_agree {s : Store} (hk : s.Keyed) (o : Int) (st : OrderStatus) :
    (∃ ids, Store.orderIdsInStatus st s = .ok ids s ∧
      (o ∈ ids ↔ ∃ r, s.LatestEvent o r ∧ r.status = st.name) ∧ ids.Pairwise (· < ·)) ∧
    (Store.currentStatus o s = .ok none s ↔ s.eventsOf o = []) ∧
    (∀ r, s.LatestEvent o r → Store.fitsId r.id = true → (OrderStatus.ofName? r.status).isSome →
      ∃ c, Store.currentStatus o s = .ok (some c) s ∧ c.event.row = r) ∧
    ((∀ r ∈ s.eventsOf o, Store.fitsId r.id = true ∧ (OrderStatus.ofName? r.status).isSome) →
      ∃ evs, Store.history o s = .ok evs s ∧ (evs.map Event.row).Perm (s.eventsOf o) ∧
        (evs.map Event.row).Pairwise (fun a b => a.key < b.key) ∧
        ∃ c, Store.currentStatus o s = .ok c s ∧ c.map (·.event) = evs.getLast?) := by
  refine ⟨⟨_, rfl, Store.mem_orderIdsWithStatus, Store.orderIdsWithStatus_sorted hk.eventIds _⟩,
    Store.currentStatus_eq_ok_none.trans (and_iff_left rfl), fun r hr hfit hst => ?_,
    fun h => Store.history_of_readable hk fun r hr => EventRow.read_ok_iff.2 (h r hr)⟩
  obtain ⟨ev, hev⟩ := EventRow.read_ok_iff.2 ⟨hfit, hst⟩
  obtain ⟨c, hc, rfl⟩ := Store.currentStatus_of_latest hk hr hev
  exact ⟨c, hc, EventRow.row_of_read hev⟩

def tiedStore : Store where
  schema := .migrations
  users := [⟨1, "user1", "User"⟩, ⟨2, "user2", "Manager"⟩]
  orders := [{ id := 10, userId := 1 }, { id := 11, userId := 1 }]
  events := [⟨1, 10, "InReview", none, ⟨1673773200, 0⟩, some 1⟩,
    ⟨2, 10, "Approved", none, ⟨1673773200, 0⟩, some 2⟩,
    ⟨3, 11, "InReview", none, ⟨1673773200, 0⟩, some 1⟩]

theorem current_status_readers_agree_tied :
    tiedStore.Keyed ∧
    (∃ ids, Store.orderIdsInStatus .approved tiedStore = .ok ids tiedStore ∧
      (10 ∈ ids ↔ ∃ r, tiedStore.LatestEvent 10 r ∧ r.status = OrderStatus.approved.name) ∧
      ids.Pairwise (· < ·)) ∧
    (Store.currentStatus 10 tiedStore = .ok none tiedStore ↔ tiedStore.eventsOf 10 = []) ∧
    (∀ r, tiedStore.LatestEvent 10 r → Store.fitsId r.id = true →
      (OrderStatus.ofName? r.status).isSome →
      ∃ c, Store.currentStatus 10 tiedStore = .ok (some c) tiedStore ∧ c.event.row = r) ∧
    ((∀ r ∈ tiedStore.eventsOf 10, Store.fitsId r.id = true ∧
        (OrderStatus.ofName? r.status).isSome) →
      ∃ evs, Store.history 10 tiedStore = .ok evs tiedStore ∧
        (evs.map Event.row).Perm (tiedStore.eventsOf 10) ∧
        (evs.map Event.row).Pairwise (fun a b => a.key < b.key) ∧
        ∃ c, Store.currentStatus 10 tiedStore = .ok c tiedStore ∧
          c.map (·.event) = evs.getLast?) := by
  have hk : tiedStore.Keyed := ⟨by decide, by decide, by decide, by decide⟩
  exact ⟨hk, current_status_readers_agree hk 10 .approved⟩

def wideIdStore : Store where
  schema := .migrations
  users := [⟨1, "user1", "User"⟩]
  orders := [{ id := 10, userId := 1, statusVersion := 1 }]
  events := [⟨2147483647, 10, "InProgress", none, ⟨1673773200, 0⟩, none⟩,
    ⟨2147483648, 10, "Closed", none, ⟨1675598400, 0⟩, none⟩]

/-- The latest event of the order has a status name, yet the current status cannot be read:
its id is beyond the 32 bits ids are read as. -/
theorem currentStatus_wide_id_fails :
    wideIdStore.LatestEvent 10 ⟨2147483648, 10, "Closed", none, ⟨1675598400, 0⟩, none⟩ ∧
    OrderStatus.ofName? "Closed" = some .closed ∧
    Store.currentStatus 10 wideIdStore = .error (DbError.idTooLarge "A_id") wideIdStore := by
  refine ⟨⟨by decide, by decide⟩, rfl, rfl⟩

end RentalStatus
