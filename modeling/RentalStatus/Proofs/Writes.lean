import Mathlib.Data.List.Forall2
import Mathlib.Data.List.Nodup
import RentalStatus.Store.Records
import RentalStatus.Proofs.Transaction

namespace RentalStatus

theorem mapM_eq_ok_forall₂ {ε α β : Type} {f : α → Except ε β} :
    ∀ {xs : List α} {ys : List β}, xs.mapM f = .ok ys → List.Forall₂ (fun x y => f x = .ok y) xs ys
  | [], ys, h => by
    cases h
    exact .nil
  | x :: xs, ys, h => by
    rw [List.mapM_cons] at h
    cases hx : f x with
    | error e =>
      rw [hx] at h
      cases h
    | ok y =>
      cases hxs : xs.mapM f with
      | error e =>
        rw [hx, hxs] at h
        cases h
      | ok ys' =>
        rw [hx, hxs] at h
        cases h
        exact .cons hx (mapM_eq_ok_forall₂ hxs)

theorem exists_of_mapM_eq_ok {ε α β : Type} {f : α → Except ε β} {xs : List α} {ys : List β}
    (h : xs.mapM f = .ok ys) : ∀ x ∈ xs, ∃ y, f x = .ok y := by
  have hpaired := mapM_eq_ok_forall₂ h
  clear h
  induction hpaired with
  | nil => simp
  | cons hxy _ ih =>
    intro x hx
    rcases List.mem_cons.1 hx with rfl | hx
    · exact ⟨_, hxy⟩
    · exact ih x hx

def Event.row (e : Event) : EventRow :=
  ⟨e.id, e.orderId, e.status.name, e.comment, e.createdAt, e.changedBy⟩

def AppendRequest.event (p : AppendRequest) (id : Int) : Event :=
  ⟨id, p.orderId, p.status, p.comment, p.createdAt, p.changedBy⟩

theorem Event.row_injective {a b : Event} (h : a.row = b.row) : a = b := by
  obtain ⟨_, _, _, _, _, _⟩ := a
  obtain ⟨_, _, _, _, _, _⟩ := b
  simp only [Event.row, EventRow.mk.injEq] at h
  obtain ⟨rfl, rfl, hst, rfl, rfl, rfl⟩ := h
  rw [OrderStatus.name_injective hst]

namespace EventRow

variable {r : EventRow} {ev : Event}

theorem fitsId_of_read (h : r.read = .ok ev) : Store.fitsId r.id = true := by
  unfold read at h
  split at h
  · cases h
  · simpa using ‹¬(!Store.fitsId r.id) = true›

theorem row_of_read (h : r.read = .ok ev) : ev.row = r := by
  unfold read at h
  split at h
  · cases h
  · split at h
    · rename_i st hst
      cases h
      simp [Event.row, OrderStatus.name_ofName? hst]
    · cases h

theorem read_ok_iff :
    (∃ ev, r.read = .ok ev) ↔ Store.fitsId r.id = true ∧ (OrderStatus.ofName? r.status).isSome := by
  unfold read
  cases hfit : Store.fitsId r.id with
  | false => simp
  | true =>
    cases hst : OrderStatus.ofName? r.status with
    | none => simp
    | some st => simp

theorem read_row (h : Store.fitsId ev.id = true) : ev.row.read = .ok ev := by
  simp [read, Event.row, h, OrderStatus.ofName?_name]

end EventRow

namespace Store

/-- The keys the schema declares on the tables the status engine writes: orders, events and
records are keyed by id, and every event belongs to an order. -/
structure Keyed (s : Store) : Prop where
  orderIds : (s.orders.map (·.id)).Nodup
  eventIds : (s.events.map (·.id)).Nodup
  recordIds : (s.records.map (·.id)).Nodup
  eventOrders : ∀ r ∈ s.events, s.hasOrder r.orderId = true

variable {s s' : Store}

theorem le_foldl_max (ids : List Int) (init : Int) :
    init ≤ ids.foldl max init ∧ ∀ i ∈ ids, i ≤ ids.foldl max init := by
  induction ids generalizing init with
  | nil => simp
  | cons j js ih =>
    obtain ⟨hinit, hall⟩ := ih (max init j)
    refine ⟨Int.le_trans (Int.le_max_left _ _) hinit, fun i hi => ?_⟩
    rcases List.mem_cons.1 hi with rfl | hi
    · exact Int.le_trans (Int.le_max_right _ _) hinit
    · exact hall i hi

theorem lt_nextId {ids : List Int} {i : Int} (h : i ∈ ids) : i < nextId ids :=
  Int.lt_add_one_of_le ((le_foldl_max ids 0).2 i h)

theorem insertBy_of_le {α : Type} {key : α → Int} {r : α} {xs : List α}
    (h : ∀ x ∈ xs, key x ≤ key r) : insertBy key r xs = xs ++ [r] := by
  induction xs with
  | nil => rfl
  | cons x xs ih =>
    have hx : ¬key r < key x := Int.not_lt.2 (h x List.mem_cons_self)
    simp only [insertBy, hx, if_false, List.cons_append, ih fun y hy => h y (List.mem_cons_of_mem x hy)]

theorem map_ite_key_of_nodup {α : Type} {key : α → Int} {xs : List α} (hk : (xs.map key).Nodup)
    {y : α} (hy : y ∈ xs) {i : Int} (hyi : key y = i) (F : α → α → α) :
    (xs.map fun x => if key x = i then F x y else x) =
      xs.map fun x => if key x = i then F x x else x := by
  refine List.map_congr_left fun x hx => ?_
  by_cases hxi : key x = i
  · rw [if_pos hxi, if_pos hxi, List.inj_on_of_nodup_map hk hx hy (hxi.trans hyi.symm)]
  · rw [if_neg hxi, if_neg hxi]

theorem hasOrder_iff {o : Int} : s.hasOrder o = true ↔ ∃ x ∈ s.orders, x.id = o := by
  simp [hasOrder]

theorem bumpVersion_eq_ok_true {o : Int} {v : Int32} (h : bumpVersion o v s = .ok true s') :
    (∃ x ∈ s.orders, x.id = o ∧ x.statusVersion = v) ∧
      s' = { s with orders := s.orders.map fun x =>
        if x.id = o then { x with statusVersion := v + 1 } else x } := by
  unfold bumpVersion at h
  split at h
  · rename_i hany
    cases h
    simp only [List.any_eq_true, Bool.and_eq_true, beq_iff_eq] at hany
    obtain ⟨x, hx, hid, hv⟩ := hany
    exact ⟨⟨x, hx, hid, hv⟩, by simp only [beq_iff_eq]⟩
  · cases h

theorem bumpVersion_eq_ok_false {o : Int} {v : Int32} (h : bumpVersion o v s = .ok false s') :
    s' = s := by
  unfold bumpVersion at h
  split at h <;> cases h
  rfl

theorem insertEvent_eq_ok {o : Int} {st : String} {c : Option String} {t : Instant}
    {author : Option Int} {r : EventRow} (h : insertEvent none o st c t author s = .ok r s') :
    r = ⟨nextId (s.events.map (·.id)), o, st, c, t, author⟩ ∧ fitsId r.id = true ∧
      s.hasOrder o = true ∧ s' = { s with events := s.events ++ [r] } := by
  unfold insertEvent readBack at h
  simp only [Option.getD_none] at h
  split at h
  · cases h
  · split at h
    · cases h
    · rename_i hfk
      simp only [Bool.or_eq_true, Bool.not_eq_true', not_or, Bool.not_eq_false] at hfk
      split at h
      · cases h
        have hle : ∀ x ∈ s.events, x.id ≤ nextId (s.events.map (·.id)) := fun x hx =>
          Int.le_of_lt (lt_nextId (List.mem_map_of_mem hx))
        exact ⟨rfl, ‹_›, hfk.1.1, by rw [insertBy_of_le hle]⟩
      · cases h

/-- A successful append moved the order's version from the expected value to the next one
and added one event, under an id above every other, at the end of the event table. -/
theorem append_eq_ok_some {p : AppendRequest} {e : Event} (h : append p s = .ok (some e) s') :
    (∃ x ∈ s.orders, x.id = p.orderId ∧ x.statusVersion = p.expectedVersion) ∧
      e = p.event (nextId (s.events.map (·.id))) ∧ fitsId e.id = true ∧
      s' = { s with
        orders := s.orders.map fun x =>
          if x.id = p.orderId then { x with statusVersion := p.expectedVersion + 1 } else x
        events := s.events ++ [e.row] } := by
  rw [append, bind_eq_ok] at h
  obtain ⟨bumped, s₁, hb, h⟩ := h
  cases bumped with
  | false => simp at h
  | true =>
    obtain ⟨hx, rfl⟩ := bumpVersion_eq_ok_true hb
    simp only [Bool.not_true, Bool.false_eq_true, if_false] at h
    rw [bind_eq_ok] at h
    obtain ⟨row, s₂, hi, h⟩ := h
    obtain ⟨rfl, hfit, -, rfl⟩ := insertEvent_eq_ok hi
    obtain ⟨ev, hev, hsome⟩ := map_eq_ok.1 h
    obtain ⟨hread, rfl⟩ := Op.ofExcept_eq_ok.1 hev
    cases hsome
    simp only [EventRow.read, hfit, Bool.not_true, Bool.false_eq_true, if_false,
      OrderStatus.ofName?_name, Except.ok.injEq] at hread
    subst hread
    exact ⟨hx, rfl, hfit, rfl⟩

theorem append_eq_ok_none {p : AppendRequest} (h : append p s = .ok none s') : s' = s := by
  rw [append, bind_eq_ok] at h
  obtain ⟨bumped, s₁, hb, h⟩ := h
  cases bumped with
  | false =>
    simp only [Bool.not_false, if_true, pure_eq_ok] at h
    rw [← h.2, bumpVersion_eq_ok_false hb]
  | true =>
    simp only [Bool.not_true, Bool.false_eq_true, if_false, bind_eq_ok] at h
    obtain ⟨row, s₂, -, h⟩ := h
    obtain ⟨ev, -, hsome⟩ := map_eq_ok.1 h
    cases hsome

theorem updateRecord_eq_ok {u : RecordUpdate} {rec : EquipmentRecord}
    (hk : (s.records.map (·.id)).Nodup) (h : updateRecord u s = .ok rec s') :
    s' = { s with records := s.records.map fun x => if x.id = u.id then x.apply u else x } := by
  unfold updateRecord at h
  dsimp only at h
  split at h
  · cases h
  · rename_i r hr
    have hid : r.id = u.id := by simpa using List.find?_some hr
    split at h
    · cases h
      simp only [beq_iff_eq]
      rw [map_ite_key_of_nodup hk (List.mem_of_find?_eq_some hr) hid fun _ y => y.apply u]
    · cases h

theorem updateRecord_frame {u : RecordUpdate} {rec : EquipmentRecord}
    (h : updateRecord u s = .ok rec s') : s'.orders = s.orders ∧ s'.events = s.events := by
  unfold updateRecord at h
  dsimp only at h
  split at h
  · cases h
  · split at h
    · cases h
      exact ⟨rfl, rfl⟩
    · cases h

end Store

end RentalStatus
