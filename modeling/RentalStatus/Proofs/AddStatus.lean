import RentalStatus.Proofs.History

namespace RentalStatus

namespace RecordRow

/-- A record of an order after a change of the order to `target` from `current` by a principal
of `role`, as the effect of the rule for `target` says. -/
def afterChange (target current : OrderStatus) (role : Role) (x : RecordRow) : RecordRow :=
  match Rule.effectFor target with
  | .unchanged => x
  | .setAll st => { x with status := st.name }
  | .release =>
    { x with
      status := EquipmentStatus.available.name
      endDate := if Equipment.extendsBooking current role then x.endDate.addDay else x.endDate }

@[simp] theorem apply_id (x : RecordRow) (u : RecordUpdate) : (x.apply u).id = x.id := rfl

theorem id_of_read {x : RecordRow} {rec : EquipmentRecord} (h : x.read = .ok rec) :
    rec.id = x.id ∧ rec.endDate = x.endDate := by
  unfold read at h
  split at h
  · cases h
  · split at h
    · cases h
      exact ⟨rfl, rfl⟩
    · cases h

end RecordRow

def rewriteRecords (rs : List RecordRow) (us : List RecordUpdate) : List RecordRow :=
  us.foldl (fun rs u => rs.map fun x => if x.id = u.id then x.apply u else x) rs

theorem rewriteRecords_eq (rs : List RecordRow) (us : List RecordUpdate) :
    rewriteRecords rs us = rs.map fun x => (us.filter (·.id == x.id)).foldl RecordRow.apply x := by
  induction us generalizing rs with
  | nil => simp [rewriteRecords]
  | cons u us ih =>
    simp only [rewriteRecords, List.foldl_cons] at ih ⊢
    rw [ih, List.map_map]
    refine List.map_congr_left fun x _ => ?_
    by_cases hx : x.id = u.id
    · simp [hx]
    · simp [hx, Ne.symm hx]

namespace Store

variable {s s' : Store}

theorem recordsOf_eq_ok {o : Int} {recs : List EquipmentRecord}
    (h : recordsOf o s = .ok recs s') :
    s' = s ∧ List.Forall₂ (fun x rec => x.read = .ok rec) (s.recordRowsOf o) recs := by
  unfold recordsOf at h
  dsimp only at h
  split at h
  · rename_i rs hrs
    cases h
    split at hrs
    · exact ⟨rfl, mapM_eq_ok_forall₂ hrs⟩
    · cases hrs
  · cases h

theorem filter_id_eq_singleton {rs : List RecordRow} (hk : (rs.map (·.id)).Nodup)
    {x : RecordRow} (hx : x ∈ rs) : rs.filter (·.id == x.id) = [x] := by
  induction rs with
  | nil => cases hx
  | cons y ys ih =>
    rw [List.map_cons, List.nodup_cons] at hk
    rcases List.mem_cons.1 hx with rfl | hx
    · have hnone : ys.filter (·.id == x.id) = [] := List.filter_eq_nil_iff.2 fun z hz hid => by
        rw [beq_iff_eq] at hid
        exact hk.1 (hid ▸ List.mem_map_of_mem hz)
      simp [hnone]
    · have hne : y.id ≠ x.id := fun h => hk.1 (h ▸ List.mem_map_of_mem hx)
      simp [hne, ih hk.2 hx]

theorem updates_filter_id (target current : OrderStatus) (role : Role)
    (recs : List EquipmentRecord) (i : Int) :
    (Equipment.updates target current role recs).filter (·.id == i) =
      Equipment.updates target current role (recs.filter (·.id == i)) := by
  unfold Equipment.updates
  split <;> simp [List.filter_map, Function.comp_def]

theorem updates_single {x : RecordRow} {rec : EquipmentRecord} (h : x.read = .ok rec)
    (target current : OrderStatus) (role : Role) :
    (Equipment.updates target current role [rec]).foldl RecordRow.apply x =
      x.afterChange target current role := by
  have hrec := RecordRow.id_of_read h
  cases heff : Rule.effectFor target with
  | unchanged => simp [Equipment.updates, RecordRow.afterChange, heff]
  | setAll st => simp [Equipment.updates, RecordRow.afterChange, heff, RecordRow.apply]
  | release =>
    simp only [Equipment.updates, RecordRow.afterChange, heff, List.map_cons, List.map_nil,
      List.foldl_cons, List.foldl_nil]
    cases Equipment.extendsBooking current role <;> simp [RecordRow.apply, hrec.2]

theorem rewriteRecords_updates {o : Int} {recs : List EquipmentRecord}
    (hk : (s.records.map (·.id)).Nodup)
    (hrecs : List.Forall₂ (fun x rec => x.read = .ok rec) (s.recordRowsOf o) recs)
    (target current : OrderStatus) (role : Role) :
    rewriteRecords s.records (Equipment.updates target current role recs) =
      s.records.map fun x =>
        if x.orderId = some o then x.afterChange target current role else x := by
  rw [rewriteRecords_eq]
  refine List.map_congr_left fun x hx => ?_
  -- the records of the order with the id of `x`: `x` itself when it is one of them
  have hrows : (s.recordRowsOf o).filter (·.id == x.id) =
      if x.orderId = some o then [x] else [] := by
    have hswap : (s.recordRowsOf o).filter (·.id == x.id) =
        (s.records.filter (·.id == x.id)).filter (·.orderId == some o) := by
      simp only [recordRowsOf, List.filter_filter, Bool.and_comm]
    rw [hswap, filter_id_eq_singleton hk hx]
    by_cases ho : x.orderId = some o <;> simp [ho]
  have hpaired : List.Forall₂ (fun x rec => x.read = .ok rec)
      ((s.recordRowsOf o).filter (·.id == x.id)) (recs.filter (·.id == x.id)) :=
    List.rel_filter (fun _ _ hab => by simp [(RecordRow.id_of_read hab).1]) hrecs
  rw [hrows] at hpaired
  rw [updates_filter_id]
  by_cases ho : x.orderId = some o
  · rw [if_pos ho] at hpaired
    obtain ⟨rec, rest, hrec, hrest, hfilter⟩ := List.forall₂_cons_left_iff.1 hpaired
    rw [List.forall₂_nil_left_iff.1 hrest] at hfilter
    rw [hfilter, if_pos ho, updates_single hrec]
  · rw [if_neg ho, List.forall₂_nil_left_iff] at hpaired
    rw [if_neg ho, hpaired]
    unfold Equipment.updates
    split <;> rfl

theorem forIn_updateRecord_inv (P : List RecordUpdate → Store → Prop)
    (hstep : ∀ done u s s' rec, P done s → updateRecord u s = .ok rec s' → P (done ++ [u]) s') :
    ∀ (done : List RecordUpdate) {us : List RecordUpdate} {s s' : Store}, P done s →
      (forIn us PUnit.unit fun u _ => do
        discard (EngineOp.db (updateRecord u))
        pure (ForInStep.yield PUnit.unit)) s = .ok PUnit.unit s' → P (done ++ us) s'
  | done, [], s, s', hP, h => by
    rw [List.forIn_nil, pure_eq_ok] at h
    rw [List.append_nil, ← h.2]
    exact hP
  | done, u :: us, s, s', hP, h => by
    rw [List.forIn_cons, bind_eq_ok] at h
    obtain ⟨step, s₁, hstep₁, h⟩ := h
    rw [bind_eq_ok] at hstep₁
    obtain ⟨_, s₂, hupd, hyield⟩ := hstep₁
    obtain ⟨rfl, rfl⟩ := pure_eq_ok.1 hyield
    obtain ⟨rec, hupd⟩ := discard_eq_ok.1 hupd
    have hnext := hstep done u s s₂ rec hP (EngineOp.db_eq_ok.1 hupd)
    simpa using forIn_updateRecord_inv P hstep (done ++ [u]) hnext h

theorem forIn_updateRecord {us : List RecordUpdate}
    (h : (forIn us PUnit.unit fun u _ => do
        discard (EngineOp.db (updateRecord u))
        pure (ForInStep.yield PUnit.unit)) s = .ok PUnit.unit s')
    (hk : (s.records.map (·.id)).Nodup) :
    s' = { s with records := rewriteRecords s.records us } := by
  -- the records so far are those the updates done so far give, and their ids stay unique
  let P : List RecordUpdate → Store → Prop := fun done x =>
    x = { s with records := rewriteRecords s.records done } ∧ (x.records.map (·.id)).Nodup
  have hstep : ∀ done u x x' rec, P done x → updateRecord u x = .ok rec x' →
      P (done ++ [u]) x' := by
    rintro done u x x' rec ⟨rfl, hnodup⟩ hupd
    rw [updateRecord_eq_ok hnodup hupd]
    refine ⟨by simp [rewriteRecords, List.foldl_append], ?_⟩
    rw [List.map_map]
    convert hnodup using 2
    funext y
    by_cases hy : y.id = u.id <;> simp [hy]
  have hstart : P [] s := ⟨rfl, hk⟩
  exact (forIn_updateRecord_inv P hstep [] hstart h).1

theorem forIn_updateRecord_frame {us : List RecordUpdate}
    (h : (forIn us PUnit.unit fun u _ => do
        discard (EngineOp.db (updateRecord u))
        pure (ForInStep.yield PUnit.unit)) s = .ok PUnit.unit s') :
    s'.orders = s.orders ∧ s'.events = s.events := by
  let P : List RecordUpdate → Store → Prop := fun _ x => x.orders = s.orders ∧ x.events = s.events
  have hstep : ∀ done u x x' rec, P done x → updateRecord u x = .ok rec x' →
      P (done ++ [u]) x' := by
    rintro done u x x' rec ⟨ho, he⟩ hupd
    obtain ⟨ho', he'⟩ := updateRecord_frame hupd
    exact ⟨ho'.trans ho, he'.trans he⟩
  have hstart : P [] s := ⟨rfl, rfl⟩
  exact forIn_updateRecord_inv P hstep [] hstart h

end Store

variable {policy : Policy} {now : Instant} {req : StatusRequest}

theorem ofName?_of_parseTarget {t : OrderStatus} (h : parseTarget req.status = .ok t) :
    OrderStatus.ofName? req.status = some t := by
  unfold parseTarget at h
  split at h
  · cases h
  · split at h
    · cases h
      assumption
    · cases h

open EngineOp in
/-- What a successful status change did, step by step: it read the target, the current status
and the records of the order, the guard allowed the change, the records were ready, the append
succeeded, and then every record rewrite of the change succeeded. -/
theorem addStatus_eq_ok {s s' : Store} {e : Event} (h : addStatus policy now req s = .ok e s') :
    ∃ t cur recs s₁, parseTarget req.status = .ok t ∧
      Store.currentStatus req.orderId s = .ok (some cur) s ∧
      authorize policy req.principal cur.ownerId (rule cur.event.status t) = true ∧
      Store.recordsOf req.orderId s = .ok recs s ∧
      Equipment.notReady t recs = [] ∧
      Store.append ⟨req.orderId, cur.statusVersion, t, req.comment, now, some req.principal.id⟩ s =
        .ok (some e) s₁ ∧
      (forIn (Equipment.updates t cur.event.status req.principal.role recs) PUnit.unit
        fun u _ => do
          discard (db (Store.updateRecord u))
          pure (ForInStep.yield PUnit.unit)) s₁ = .ok PUnit.unit s' := by
  rw [addStatus, atomically_eq_ok, bind_eq_ok] at h
  obtain ⟨t, s₀, hreq, h⟩ := h
  obtain ⟨ht, rfl⟩ := requireOk_eq_ok.1 hreq
  rw [bind_eq_ok] at h
  obtain ⟨c, s₁, hdb, h⟩ := h
  have hc := db_eq_ok.1 hdb
  obtain rfl := Store.currentStatus_store hc
  cases c with
  | none => exact absurd h refuse_ne_ok
  | some cur =>
    dsimp only at h
    split at h
    · rw [bind_eq_ok] at h
      obtain ⟨_, _, h, -⟩ := h
      exact absurd h refuse_ne_ok
    · rename_i hauth
      rw [bind_eq_ok] at h
      obtain ⟨recs, s₂, hdbr, h⟩ := h
      have hr := db_eq_ok.1 hdbr
      obtain rfl := (Store.recordsOf_eq_ok hr).1
      cases hn : Equipment.notReady t recs with
      | cons i is =>
        simp only [hn, bind_eq_ok] at h
        obtain ⟨_, _, h, -⟩ := h
        exact absurd h refuse_ne_ok
      | nil =>
        simp only [hn] at h
        rw [bind_eq_ok] at h
        obtain ⟨ev, s₃, hev, h⟩ := h
        cases ev with
        | none => exact absurd h refuse_ne_ok
        | some ev =>
          dsimp only at h
          rw [bind_eq_ok] at h
          obtain ⟨_, s₄, hloop, h⟩ := h
          obtain ⟨rfl, rfl⟩ := pure_eq_ok.1 h
          refine ⟨t, cur, recs, s₃, ht, hc, ?_, hr, hn, db_eq_ok.1 hev, hloop⟩
          simpa using hauth

/-- The store `s'` is `s` after the status change `req` at `now` appended `e`: one event is
added, under an id above every other, with the target status, the comment, the clock's time and
the principal as its author; the order, at the version the change read, moves to the next
version; each record of the order is rewritten as the rule's effect on the target says, from
the status the change read; and nothing else changes. -/
def ChangeEffect (now : Instant) (req : StatusRequest) (s : Store) (e : Event) (s' : Store) :
    Prop :=
  ∃ t cur, OrderStatus.ofName? req.status = some t ∧
    Store.currentStatus req.orderId s = .ok (some cur) s ∧
    (∃ x ∈ s.orders, x.id = req.orderId ∧ x.statusVersion = cur.statusVersion) ∧
    e = ⟨Store.nextId (s.events.map (·.id)), req.orderId, t, req.comment, now,
      some req.principal.id⟩ ∧
    (∀ x ∈ s.events, x.id < e.id) ∧
    s' = { s with
      orders := s.orders.map fun x =>
        if x.id = req.orderId then { x with statusVersion := x.statusVersion + 1 } else x
      events := s.events ++ [e.row]
      records := s.records.map fun x =>
        if x.orderId = some req.orderId then
          x.afterChange t cur.event.status req.principal.role
        else x }

theorem Int32.toInt_add_one (v : Int32) :
    (v + 1).toInt = if v = Int32.maxValue then Int32.minValue.toInt else v.toInt + 1 := by
  have hlo := Int32.le_toInt v
  have hhi := Int32.toInt_le v
  rw [Int32.toInt_maxValue] at hhi
  rw [Int32.toInt_add]
  split
  · subst_vars
    decide
  · have hne : v.toInt ≠ 2 ^ 31 - 1 := fun h =>
      ‹¬v = Int32.maxValue› (Int32.toInt_inj.1 (h.trans Int32.toInt_maxValue.symm))
    rw [Int.bmod_eq_of_le] <;> simp <;> omega

/-- A successful status change has exactly the effect `ChangeEffect` describes. The order's
version grows by one unless it was the largest 32-bit version, which wraps to the smallest. -/
theorem addStatus_effect {s s' : Store} {e : Event} (hk : s.Keyed)
    (h : addStatus policy now req s = .ok e s') :
    ChangeEffect now req s e s' ∧
      ∀ x ∈ s.orders, x.id = req.orderId → (x.statusVersion + 1).toInt =
        if x.statusVersion = Int32.maxValue then Int32.minValue.toInt else x.statusVersion.toInt + 1 := by
  refine ⟨?_, fun x _ _ => Int32.toInt_add_one x.statusVersion⟩
  obtain ⟨t, cur, recs, s₁, ht, hcur, -, hrecs, -, happ, hloop⟩ := addStatus_eq_ok h
  obtain ⟨hx, rfl, -, rfl⟩ := Store.append_eq_ok_some happ
  have hs' := Store.forIn_updateRecord hloop hk.recordIds
  rw [Store.rewriteRecords_updates hk.recordIds (Store.recordsOf_eq_ok hrecs).2] at hs'
  refine ⟨t, cur, ofName?_of_parseTarget ht, hcur, hx, rfl,
    fun x hx => Store.lt_nextId (List.mem_map_of_mem hx), ?_⟩
  rw [hs']
  -- the one order with the id is at the version the change read
  obtain ⟨y, hy, hyid, hyv⟩ := hx
  rw [← hyv, Store.map_ite_key_of_nodup hk.orderIds hy hyid fun x y =>
    { x with statusVersion := y.statusVersion + 1 }]

def rentalStore : Store where
  schema := .migrations
  users := [⟨1, "user1", "User"⟩, ⟨2, "user2", "Manager"⟩]
  equipment := [{ id := 100 }, { id := 101 }, { id := 102 }]
  orders := [{ id := 10, userId := 1 }, { id := 11, userId := 1 }]
  events := [⟨1, 10, "InProgress", none, ⟨1673773200, 0⟩, none⟩,
    ⟨2, 11, "InReview", none, ⟨1673773200, 0⟩, some 1⟩]
  records := [⟨1, 100, "InUse", ⟨1675252800, 0⟩, ⟨1676030400, 0⟩, some 10⟩,
    ⟨2, 101, "InUse", ⟨1675252800, 0⟩, ⟨1676030400, 0⟩, some 10⟩,
    ⟨3, 102, "Booked", ⟨1675252800, 0⟩, ⟨1676030400, 0⟩, some 11⟩]

theorem addStatus_effect_closing :
    rentalStore.Keyed ∧
    ∃ s', addStatus .strict ⟨1675598400, 0⟩ ⟨10, "Closed", some "returned", ⟨2, .manager⟩⟩
        rentalStore = .ok ⟨3, 10, .closed, some "returned", ⟨1675598400, 0⟩, some 2⟩ s' ∧
      s'.records = [⟨1, 100, "Available", ⟨1675252800, 0⟩, ⟨1676116800, 0⟩, some 10⟩,
        ⟨2, 101, "Available", ⟨1675252800, 0⟩, ⟨1676116800, 0⟩, some 10⟩,
        ⟨3, 102, "Booked", ⟨1675252800, 0⟩, ⟨1676030400, 0⟩, some 11⟩] ∧
      ChangeEffect ⟨1675598400, 0⟩ ⟨10, "Closed", some "returned", ⟨2, .manager⟩⟩ rentalStore
        ⟨3, 10, .closed, some "returned", ⟨1675598400, 0⟩, some 2⟩ s' := by
  have hk : rentalStore.Keyed := ⟨by decide, by decide, by decide, by decide⟩
  have h : addStatus .strict ⟨1675598400, 0⟩ ⟨10, "Closed", some "returned", ⟨2, .manager⟩⟩
      rentalStore = .ok ⟨3, 10, .closed, some "returned", ⟨1675598400, 0⟩, some 2⟩
        { rentalStore with
          orders := [{ id := 10, userId := 1, statusVersion := 1 }, { id := 11, userId := 1 }]
          events := rentalStore.events ++ [⟨3, 10, "Closed", some "returned", ⟨1675598400, 0⟩, some 2⟩]
          records := [⟨1, 100, "Available", ⟨1675252800, 0⟩, ⟨1676116800, 0⟩, some 10⟩,
            ⟨2, 101, "Available", ⟨1675252800, 0⟩, ⟨1676116800, 0⟩, some 10⟩,
            ⟨3, 102, "Booked", ⟨1675252800, 0⟩, ⟨1676030400, 0⟩, some 11⟩] } := rfl
  exact ⟨hk, _, h, rfl, (addStatus_effect hk h).1⟩

end RentalStatus
