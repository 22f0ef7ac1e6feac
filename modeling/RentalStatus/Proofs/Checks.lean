import RentalStatus.Proofs.Versioning

namespace RentalStatus

open EngineOp

/-- The checks of a status change on `s`, in the order the change makes them: the refusal, or
the target, the current status and the records the change goes on with. -/
def changeChecks (policy : Policy) (req : StatusRequest) (s : Store) :
    Except EngineError (OrderStatus × CurrentStatus × List EquipmentRecord) := do
  let target ← (parseTarget req.status).mapError .status
  let some cur ← (outcome (Store.currentStatus req.orderId s)).1.mapError .db
    | .error (.status (.orderNotFound req.orderId))
  let source := cur.event.status
  if !authorize policy req.principal cur.ownerId (rule source target) then
    .error (.status (.transitionDenied req.principal.id req.orderId source target))
  let records ← (outcome (Store.recordsOf req.orderId s)).1.mapError .db
  match Equipment.notReady target records with
  | [] => pure ()
  | ids => .error (.status (.equipmentNotReady .booked ids))
  return (target, cur, records)

/-- The writes of a status change that passed its checks: the append at the version read, then
one rewrite per record. -/
def commitChange (now : Instant) (req : StatusRequest) (target : OrderStatus)
    (cur : CurrentStatus) (records : List EquipmentRecord) : EngineOp Event := do
  let some ev ← db (Store.append {
      orderId := req.orderId, expectedVersion := cur.statusVersion, status := target,
      comment := req.comment, createdAt := now, changedBy := some req.principal.id })
    | refuse (.versionConflict req.orderId)
  for u in Equipment.updates target cur.event.status req.principal.role records do
    discard <| db (Store.updateRecord u)
  pure ev

theorem eq_of_outcome_error {ε σ α : Type} {r : EStateM.Result ε σ α} {e : ε}
    (h : (outcome r).1 = .error e) : r = .error e (leaves r) := by
  cases r with
  | ok a t => cases h
  | error e' t =>
    simp only [outcome, Except.error.injEq] at h
    rw [h, leaves_error]

theorem Store.leaves_recordsOf (o : Int) (s : Store) : leaves (Store.recordsOf o s) = s := by
  unfold Store.recordsOf
  dsimp only
  split <;> rfl

theorem OrderStatus.blank_name (t : OrderStatus) : Text.blank t.name = false := by
  cases t <;> decide

theorem parseTarget_of_blank {x : String} (h : Text.blank x = true) :
    parseTarget x = .error .emptyStatus := by
  simp [parseTarget, h]

theorem parseTarget_of_unnamed {x : String} (hb : Text.blank x = false)
    (h : OrderStatus.ofName? x = none) : parseTarget x = .error (.unknownStatus x) := by
  simp [parseTarget, hb, h]

theorem parseTarget_of_named {x : String} {t : OrderStatus} (h : OrderStatus.ofName? x = some t) :
    parseTarget x = .ok t := by
  have hb : Text.blank x = false := by
    rw [← OrderStatus.name_ofName? h]
    exact OrderStatus.blank_name t
  simp [parseTarget, hb, h]

/-- How the checks of a change end: one way for each check that can refuse or fail, in the order
the checks are made, and one for a change that passes them all. -/
inductive Checked (policy : Policy) (req : StatusRequest) (s : Store) :
    Except EngineError (OrderStatus × CurrentStatus × List EquipmentRecord) → Prop
  | blank (h : Text.blank req.status = true) : Checked policy req s (.error (.status .emptyStatus))
  | unnamed (hb : Text.blank req.status = false) (h : OrderStatus.ofName? req.status = none) :
      Checked policy req s (.error (.status (.unknownStatus req.status)))
  | currentFails {t : OrderStatus} {e : DbError} (ht : OrderStatus.ofName? req.status = some t)
      (h : Store.currentStatus req.orderId s = .error e s) : Checked policy req s (.error (.db e))
  | noEvent {t : OrderStatus} (ht : OrderStatus.ofName? req.status = some t)
      (h : s.eventsOf req.orderId = []) :
      Checked policy req s (.error (.status (.orderNotFound req.orderId)))
  | denied {t : OrderStatus} {cur : CurrentStatus} (ht : OrderStatus.ofName? req.status = some t)
      (hc : Store.currentStatus req.orderId s = .ok (some cur) s)
      (ha : authorize policy req.principal cur.ownerId (rule cur.event.status t) = false) :
      Checked policy req s
        (.error (.status (.transitionDenied req.principal.id req.orderId cur.event.status t)))
  | recordsFail {t : OrderStatus} {cur : CurrentStatus} {e : DbError}
      (ht : OrderStatus.ofName? req.status = some t)
      (hc : Store.currentStatus req.orderId s = .ok (some cur) s)
      (ha : authorize policy req.principal cur.ownerId (rule cur.event.status t) = true)
      (h : Store.recordsOf req.orderId s = .error e s) : Checked policy req s (.error (.db e))
  | notReady {t : OrderStatus} {cur : CurrentStatus} {recs : List EquipmentRecord} {i : Int}
      {is : List Int} (ht : OrderStatus.ofName? req.status = some t)
      (hc : Store.currentStatus req.orderId s = .ok (some cur) s)
      (ha : authorize policy req.principal cur.ownerId (rule cur.event.status t) = true)
      (hr : Store.recordsOf req.orderId s = .ok recs s) (hn : Equipment.notReady t recs = i :: is) :
      Checked policy req s (.error (.status (.equipmentNotReady .booked (i :: is))))
  | passed {t : OrderStatus} {cur : CurrentStatus} {recs : List EquipmentRecord}
      (ht : OrderStatus.ofName? req.status = some t)
      (hc : Store.currentStatus req.orderId s = .ok (some cur) s)
      (ha : authorize policy req.principal cur.ownerId (rule cur.event.status t) = true)
      (hr : Store.recordsOf req.orderId s = .ok recs s) (hn : Equipment.notReady t recs = []) :
      Checked policy req s (.ok (t, cur, recs))

theorem changeChecks_checked (policy : Policy) (req : StatusRequest) (s : Store) :
    Checked policy req s (changeChecks policy req s) := by
  cases hb : Text.blank req.status
  · cases hn : OrderStatus.ofName? req.status with
    | none =>
      simp only [changeChecks, parseTarget_of_unnamed hb hn, Except.mapError_error,
        Except.error_bind]
      exact .unnamed hb hn
    | some t =>
      -- the reads write nothing, so each is made on `s` itself
      rcases result_of_leaves (Store.leaves_currentStatus req.orderId s) with ⟨c, hc⟩ | ⟨e, hc⟩
      · cases c with
        | none =>
          simp only [changeChecks, parseTarget_of_named hn, hc, outcome, Except.mapError_ok,
            Except.ok_bind]
          exact .noEvent hn (Store.currentStatus_eq_ok_none.1 hc).1
        | some cur =>
          cases ha : authorize policy req.principal cur.ownerId (rule cur.event.status t) with
          | false =>
            simp only [changeChecks, parseTarget_of_named hn, hc, outcome, Except.mapError_ok,
              Except.ok_bind, Except.error_bind, Except.pure_eq, ha]
            exact .denied hn hc ha
          | true =>
            rcases result_of_leaves (Store.leaves_recordsOf req.orderId s) with
              ⟨recs, hr⟩ | ⟨e, hr⟩
            · cases hnr : Equipment.notReady t recs with
              | nil =>
                simp only [changeChecks, parseTarget_of_named hn, hc, outcome, Except.mapError_ok,
                  Except.ok_bind, Except.error_bind, Except.pure_eq, ha, hr, hnr]
                exact .passed hn hc ha hr hnr
              | cons i is =>
                simp only [changeChecks, parseTarget_of_named hn, hc, outcome, Except.mapError_ok,
                  Except.ok_bind, Except.error_bind, ha, hr, hnr]
                exact .notReady hn hc ha hr hnr
            · simp only [changeChecks, parseTarget_of_named hn, hc, outcome, Except.mapError_ok,
                Except.mapError_error, Except.ok_bind, Except.error_bind, ha, hr]
              exact .recordsFail hn hc ha hr
      · simp only [changeChecks, parseTarget_of_named hn, hc, outcome, Except.mapError_ok,
          Except.mapError_error, Except.ok_bind, Except.error_bind]
        exact .currentFails hn hc
  · simp only [changeChecks, parseTarget_of_blank hb, Except.mapError_error, Except.error_bind]
    exact .blank hb

/-- A status change makes its checks on the store it starts from, and writes only when they all
pass. -/
theorem addStatus_eq_checks (policy : Policy) (now : Instant) (req : StatusRequest) (s : Store) :
    addStatus policy now req s =
      match changeChecks policy req s with
      | .error e => .error e s
      | .ok (t, cur, recs) => atomically (commitChange now req t cur recs) s := by
  have hch := changeChecks_checked policy req s
  generalize changeChecks policy req s = c at hch
  unfold addStatus
  cases hch with
  | blank h =>
    apply atomically_of_error s
    simp only [parseTarget_of_blank h, requireOk_error, refuse_bind, refuse_apply]
  | unnamed hb h =>
    apply atomically_of_error s
    simp only [parseTarget_of_unnamed hb h, requireOk_error, refuse_bind, refuse_apply]
  | currentFails ht h =>
    apply atomically_of_error s
    simp only [parseTarget_of_named ht, requireOk_ok, pure_bind, bind_of_error (db_of_error h)]
  | noEvent ht h =>
    have hc : Store.currentStatus req.orderId s = .ok none s :=
      Store.currentStatus_eq_ok_none.2 ⟨h, rfl⟩
    apply atomically_of_error s
    simp only [parseTarget_of_named ht, requireOk_ok, pure_bind, bind_of_ok (db_of_ok hc),
      refuse_apply]
  | denied ht hc ha =>
    apply atomically_of_error s
    simp only [parseTarget_of_named ht, requireOk_ok, pure_bind, bind_of_ok (db_of_ok hc), ha,
      Bool.not_false, reduceIte, refuse_bind, refuse_apply]
  | recordsFail ht hc ha h =>
    apply atomically_of_error s
    simp only [parseTarget_of_named ht, requireOk_ok, pure_bind, bind_of_ok (db_of_ok hc), ha,
      Bool.not_true, Bool.false_eq_true, reduceIte, bind_of_error (db_of_error h)]
  | notReady ht hc ha hr hn =>
    apply atomically_of_error s
    simp only [parseTarget_of_named ht, requireOk_ok, pure_bind, bind_of_ok (db_of_ok hc), ha,
      Bool.not_true, Bool.false_eq_true, reduceIte, bind_of_ok (db_of_ok hr), hn, refuse_bind,
      refuse_apply]
  | passed ht hc ha hr hn =>
    apply atomically_congr
    simp only [parseTarget_of_named ht, requireOk_ok, pure_bind, bind_of_ok (db_of_ok hc), ha,
      Bool.not_true, Bool.false_eq_true, reduceIte, bind_of_ok (db_of_ok hr), hn]
    -- what is left of the change is the body of `commitChange`
    rfl

theorem changeChecks_of_currentStatus_error {policy : Policy} {req : StatusRequest} {s : Store}
    {t : OrderStatus} {e : DbError} (ht : OrderStatus.ofName? req.status = some t)
    (h : Store.currentStatus req.orderId s = .error e s) :
    changeChecks policy req s = .error (.db e) := by
  simp [changeChecks, parseTarget_of_named ht, h, outcome]

theorem changeChecks_of_recordsOf_error {policy : Policy} {req : StatusRequest} {s : Store}
    {t : OrderStatus} {cur : CurrentStatus} {e : DbError}
    (ht : OrderStatus.ofName? req.status = some t)
    (hc : Store.currentStatus req.orderId s = .ok (some cur) s)
    (ha : authorize policy req.principal cur.ownerId (rule cur.event.status t) = true)
    (h : Store.recordsOf req.orderId s = .error e s) :
    changeChecks policy req s = .error (.db e) := by
  simp [changeChecks, parseTarget_of_named ht, hc, ha, h, outcome]

theorem changeChecks_of_passed {policy : Policy} {req : StatusRequest} {s : Store}
    {t : OrderStatus} {cur : CurrentStatus} {recs : List EquipmentRecord}
    (ht : OrderStatus.ofName? req.status = some t)
    (hc : Store.currentStatus req.orderId s = .ok (some cur) s)
    (ha : authorize policy req.principal cur.ownerId (rule cur.event.status t) = true)
    (hr : Store.recordsOf req.orderId s = .ok recs s) (hn : Equipment.notReady t recs = []) :
    changeChecks policy req s = .ok (t, cur, recs) := by
  simp [changeChecks, parseTarget_of_named ht, hc, ha, hr, hn, outcome]

namespace Store

variable {s s' : Store}

theorem forIn_updateRecord_error {us : List RecordUpdate} {e : EngineError}
    (h : (forIn us PUnit.unit fun u _ => do
        discard (EngineOp.db (updateRecord u))
        pure (ForInStep.yield PUnit.unit)) s = .error e s') : ∃ d, e = .db d := by
  induction us generalizing s with
  | nil => cases h
  | cons u us ih =>
    rw [List.forIn_cons, bind_eq_error] at h
    rcases h with h | ⟨step, s₁, hstep, h⟩
    · -- the rewrite of `u` itself failed
      rcases bind_eq_error.1 h with h | ⟨_, _, _, h⟩
      · obtain ⟨d, rfl, -⟩ := EngineOp.db_eq_error.1 (discard_eq_error.1 h)
        exact ⟨d, rfl⟩
      · cases h
    · obtain ⟨_, _, _, hyield⟩ := bind_eq_ok.1 hstep
      obtain ⟨rfl, rfl⟩ := pure_eq_ok.1 hyield
      exact ih h

theorem append_ne_stale {o : Int} {cur : CurrentStatus} (hc : currentStatus o s = .ok (some cur) s)
    {p : AppendRequest} (ho : p.orderId = o) (hv : p.expectedVersion = cur.statusVersion) :
    append p s ≠ .ok none s' := by
  intro happ
  obtain ⟨-, ⟨-, hnone⟩ | ⟨r, ord, ev, -, hord, -, hcur⟩⟩ := currentStatus_eq_ok hc
  · cases hnone
  obtain rfl := Option.some.inj hcur
  have h := appended_append s p
  rw [happ] at h
  cases h with
  | stale hst =>
    exact hst ord (List.mem_of_find?_eq_some hord) (by simpa [ho] using List.find?_some hord) hv.symm

end Store

/-- The writes of a change that passed its checks end with the event, or fail in the store; they
never meet a version conflict, since the append is made at the version just read. -/
theorem commitChange_result {now : Instant} {req : StatusRequest} {t : OrderStatus}
    {cur : CurrentStatus} {recs : List EquipmentRecord} {s : Store}
    (hc : Store.currentStatus req.orderId s = .ok (some cur) s) :
    (∃ e s', atomically (commitChange now req t cur recs) s = .ok e s') ∨
      ∃ d, atomically (commitChange now req t cur recs) s = .error (.db d) s := by
  cases h : commitChange now req t cur recs s with
  | ok e s' => exact .inl ⟨e, s', atomically_eq_ok.2 h⟩
  | error err s' =>
    refine .inr ?_
    rw [atomically_of_error s' h]
    -- every way the writes can fail is a failure of the store
    unfold commitChange at h
    rcases bind_eq_error.1 h with h | ⟨ev, s₁, happ, h⟩
    · obtain ⟨d, rfl, -⟩ := db_eq_error.1 h
      exact ⟨d, rfl⟩
    · cases ev with
      | none => exact absurd (db_eq_ok.1 happ) (Store.append_ne_stale hc rfl rfl)
      | some ev =>
        rcases bind_eq_error.1 h with h | ⟨_, _, _, h⟩
        · obtain ⟨d, rfl⟩ := Store.forIn_updateRecord_error h
          exact ⟨d, rfl⟩
        · cases h

/-- The refusals a status change can meet, each with the checks before it passed. The refusal is
an index, so that a case split on a given refusal leaves its own case only. -/
inductive Refused (policy : Policy) (req : StatusRequest) (s : Store) : OrderStatusError → Prop
  | blank (h : Text.blank req.status = true) : Refused policy req s .emptyStatus
  | unnamed (hb : Text.blank req.status = false) (h : OrderStatus.ofName? req.status = none) :
      Refused policy req s (.unknownStatus req.status)
  | noEvent {t : OrderStatus} (ht : OrderStatus.ofName? req.status = some t)
      (h : s.eventsOf req.orderId = []) : Refused policy req s (.orderNotFound req.orderId)
  | denied {t : OrderStatus} {cur : CurrentStatus} (ht : OrderStatus.ofName? req.status = some t)
      (hc : Store.currentStatus req.orderId s = .ok (some cur) s)
      (ha : authorize policy req.principal cur.ownerId (rule cur.event.status t) = false) :
      Refused policy req s (.transitionDenied req.principal.id req.orderId cur.event.status t)
  | notReady {t : OrderStatus} {cur : CurrentStatus} {recs : List EquipmentRecord} {i : Int}
      {is : List Int} (ht : OrderStatus.ofName? req.status = some t)
      (hc : Store.currentStatus req.orderId s = .ok (some cur) s)
      (ha : authorize policy req.principal cur.ownerId (rule cur.event.status t) = true)
      (hr : Store.recordsOf req.orderId s = .ok recs s) (hn : Equipment.notReady t recs = i :: is) :
      Refused policy req s (.equipmentNotReady .booked (i :: is))

variable {policy : Policy} {now : Instant} {req : StatusRequest} {s : Store}

theorem changeChecks_of_refused {e : OrderStatusError} (h : Refused policy req s e) :
    changeChecks policy req s = .error (.status e) := by
  cases h with
  | blank h => simp [changeChecks, parseTarget_of_blank h]
  | unnamed hb h =>
    simp [changeChecks, parseTarget_of_unnamed hb h]
  | noEvent ht h =>
    have hc : Store.currentStatus req.orderId s = .ok none s :=
      Store.currentStatus_eq_ok_none.2 ⟨h, rfl⟩
    simp [changeChecks, parseTarget_of_named ht, hc, outcome]
  | denied ht hc ha =>
    simp [changeChecks, parseTarget_of_named ht, hc, ha, outcome]
  | notReady ht hc ha hr hn =>
    simp [changeChecks, parseTarget_of_named ht, hc, ha, hr, hn, outcome]

/-- A status change is refused exactly when one of its checks refuses it, with the checks
before that one passed; a refused change writes nothing. -/
theorem addStatus_refused_iff {e : OrderStatusError} {s' : Store} :
    addStatus policy now req s = .error (.status e) s' ↔ s' = s ∧ Refused policy req s e := by
  constructor
  · intro h
    rw [addStatus_eq_checks] at h
    have hch := changeChecks_checked policy req s
    generalize changeChecks policy req s = c at hch h
    cases hch with
    | blank hb => cases h; exact ⟨rfl, .blank hb⟩
    | unnamed hb hn => cases h; exact ⟨rfl, .unnamed hb hn⟩
    | currentFails => cases h
    | noEvent ht hn => cases h; exact ⟨rfl, .noEvent ht hn⟩
    | denied ht hc ha => cases h; exact ⟨rfl, .denied ht hc ha⟩
    | recordsFail => cases h
    | notReady ht hc ha hr hn => cases h; exact ⟨rfl, .notReady ht hc ha hr hn⟩
    | passed ht hc =>
      dsimp only at h
      rcases @commitChange_result now _ _ _ _ _ hc with ⟨ev, s'', hok⟩ | ⟨d, herr⟩
      · rw [hok] at h
        cases h
      · rw [herr] at h
        cases h
  · rintro ⟨rfl, h⟩
    rw [addStatus_eq_checks, changeChecks_of_refused h]

theorem blank_of_named {x : String} {t : OrderStatus} (h : OrderStatus.ofName? x = some t) :
    Text.blank x = false := by
  rw [← OrderStatus.name_ofName? h]
  exact OrderStatus.blank_name t

theorem refused_denied {u o : Int} {c t : OrderStatus}
    (h : Refused policy req s (.transitionDenied u o c t)) :
    ∃ cur, OrderStatus.ofName? req.status = some t ∧
      Store.currentStatus req.orderId s = .ok (some cur) s ∧ cur.event.status = c ∧
      authorize policy req.principal cur.ownerId (rule c t) = false := by
  cases h with
  | denied ht hc ha => exact ⟨_, ht, hc, rfl, ha⟩

theorem refused_notReady {required : EquipmentStatus} {ids : List Int}
    (h : Refused policy req s (.equipmentNotReady required ids)) :
    required = .booked ∧ ∃ t cur recs, OrderStatus.ofName? req.status = some t ∧
      Store.currentStatus req.orderId s = .ok (some cur) s ∧
      authorize policy req.principal cur.ownerId (rule cur.event.status t) = true ∧
      Store.recordsOf req.orderId s = .ok recs s ∧ Equipment.notReady t recs = ids ∧ ids ≠ [] := by
  cases h with
  | notReady ht hc ha hr hn => exact ⟨rfl, _, _, _, ht, hc, ha, hr, hn, List.cons_ne_nil _ _⟩

theorem nodup_eraseDups {α : Type} [BEq α] [LawfulBEq α] : ∀ l : List α, l.eraseDups.Nodup
  | [] => List.nodup_nil
  | a :: as => by
    rw [List.eraseDups_cons]
    refine List.nodup_cons.2 ⟨?_, nodup_eraseDups _⟩
    simp [List.mem_eraseDups]
termination_by l => l.length
decreasing_by exact Nat.lt_succ_of_le (List.length_filter_le _ _)

theorem EquipmentStatus.name_inj {a b : EquipmentStatus} : a.name = b.name ↔ a = b := by
  cases a <;> cases b <;> decide

theorem RecordRow.fields_of_read {x : RecordRow} {rec : EquipmentRecord} (h : x.read = .ok rec) :
    rec.equipmentId = x.equipmentId ∧ rec.status.name = x.status := by
  unfold RecordRow.read at h
  split at h
  · cases h
  · split at h
    · rename_i st hst
      cases h
      exact ⟨rfl, EquipmentStatus.name_ofName? hst⟩
    · cases h

namespace Equipment

theorem mem_ascendingSet {xs : List Int} {i : Int} : i ∈ ascendingSet xs ↔ i ∈ xs := by
  simp [ascendingSet, List.mem_mergeSort]

theorem ascendingSet_sorted (xs : List Int) : (ascendingSet xs).Pairwise (· < ·) :=
  pairwise_lt_mergeSort (nodup_eraseDups xs)

theorem mem_notReady {t : OrderStatus} {recs : List EquipmentRecord} {i : Int} :
    i ∈ notReady t recs ↔ (t = .prepared ∨ t = .inProgress) ∧
      ∃ rec ∈ recs, rec.equipmentId = i ∧ rec.status ≠ .booked := by
  unfold notReady
  cases t <;> simp only [Rule.preconditionFor, mem_ascendingSet, List.mem_map, List.mem_filter,
    bne_iff_ne, reduceCtorEq, or_self, or_false, or_true, false_and, true_and,
    List.not_mem_nil] <;>
    exact ⟨fun ⟨rec, ⟨hrec, hst⟩, hid⟩ => ⟨rec, hrec, hid, hst⟩,
      fun ⟨rec, hrec, hid, hst⟩ => ⟨rec, ⟨hrec, hst⟩, hid⟩⟩

theorem notReady_sorted (t : OrderStatus) (recs : List EquipmentRecord) :
    (notReady t recs).Pairwise (· < ·) := by
  unfold notReady
  split
  · exact List.Pairwise.nil
  · exact ascendingSet_sorted _

end Equipment

theorem exists_unready_iff {rows : List RecordRow} {recs : List EquipmentRecord}
    (h : List.Forall₂ (fun x rec => x.read = .ok rec) rows recs) (i : Int) :
    (∃ rec ∈ recs, rec.equipmentId = i ∧ rec.status ≠ .booked) ↔
      ∃ x ∈ rows, x.equipmentId = i ∧ x.status ≠ EquipmentStatus.booked.name := by
  induction h with
  | nil => simp
  | cons hx _ ih =>
    obtain ⟨hid, hst⟩ := RecordRow.fields_of_read hx
    simp only [List.mem_cons, exists_eq_or_imp, ih, hid, ← hst, ne_eq, EquipmentStatus.name_inj]

/-- How a status change `req` on `s` is answered, check by check in the order the change makes
them: each refusal comes exactly when its check is the first to fail, the items that block a
change are all those with a record that is not booked, and a change that passes every check is
made. -/
structure DecidedInOrder (policy : Policy) (now : Instant) (req : StatusRequest) (s : Store) :
    Prop where
  blank : addStatus policy now req s = .error (.status .emptyStatus) s ↔
    Text.blank req.status = true
  unnamed : Text.blank req.status = false →
    (addStatus policy now req s = .error (.status (.unknownStatus req.status)) s ↔
      OrderStatus.ofName? req.status = none)
  noEvent : ∀ t, OrderStatus.ofName? req.status = some t →
    (addStatus policy now req s = .error (.status (.orderNotFound req.orderId)) s ↔
      s.eventsOf req.orderId = [])
  denied : ∀ t r ord, OrderStatus.ofName? req.status = some t →
    s.currentRow req.orderId = some r → s.order? req.orderId = some ord →
    ∃ c : OrderStatus, r.status = c.name ∧
      (addStatus policy now req s =
          .error (.status (.transitionDenied req.principal.id req.orderId c t)) s ↔
        authorize policy req.principal ord.userId (rule c t) = false)
  notReady : ∀ t r ord (c : OrderStatus), OrderStatus.ofName? req.status = some t →
    s.currentRow req.orderId = some r → s.order? req.orderId = some ord → r.status = c.name →
    authorize policy req.principal ord.userId (rule c t) = true →
    ((∃ ids, addStatus policy now req s = .error (.status (.equipmentNotReady .booked ids)) s) ↔
      (t = .prepared ∨ t = .inProgress) ∧
        ∃ x ∈ s.recordRowsOf req.orderId, x.status ≠ EquipmentStatus.booked.name)
  offenders : ∀ required ids s', addStatus policy now req s =
      .error (.status (.equipmentNotReady required ids)) s' →
    required = .booked ∧ ids.Pairwise (· < ·) ∧ ∀ i, i ∈ ids ↔
      ∃ x ∈ s.recordRowsOf req.orderId, x.equipmentId = i ∧ x.status ≠ EquipmentStatus.booked.name
  made : ∀ t r ord (c : OrderStatus), OrderStatus.ofName? req.status = some t →
    s.currentRow req.orderId = some r → s.order? req.orderId = some ord → r.status = c.name →
    authorize policy req.principal ord.userId (rule c t) = true →
    ¬((t = .prepared ∨ t = .inProgress) ∧
        ∃ x ∈ s.recordRowsOf req.orderId, x.status ≠ EquipmentStatus.booked.name) →
    ∃ e s', addStatus policy now req s = .ok e s'
  noConflict : ∀ s', addStatus policy now req s ≠ .error (.status (.versionConflict req.orderId)) s'

section NoStorageFailure

variable (hdb : ∀ e s', addStatus policy now req s ≠ .error (.db e) s')
include hdb

theorem currentStatus_of_no_storage_failure {t : OrderStatus} {r : EventRow} {ord : OrderRow}
    (ht : OrderStatus.ofName? req.status = some t) (hr : s.currentRow req.orderId = some r)
    (hord : s.order? req.orderId = some ord) :
    ∃ cur, Store.currentStatus req.orderId s = .ok (some cur) s ∧ cur.event.status.name = r.status ∧
      cur.ownerId = ord.userId := by
  rcases result_of_leaves (Store.leaves_currentStatus req.orderId s) with ⟨c, hc⟩ | ⟨e, hc⟩
  · obtain ⟨-, ⟨hnone, -⟩ | ⟨r', ord', ev, hr', hord', hread, rfl⟩⟩ := Store.currentStatus_eq_ok hc
    · rw [hr] at hnone
      cases hnone
    · rw [hr] at hr'
      rw [hord] at hord'
      obtain rfl := Option.some.inj hr'
      obtain rfl := Option.some.inj hord'
      refine ⟨_, hc, ?_, rfl⟩
      rw [← EventRow.row_of_read hread]
      rfl
  · have h := addStatus_eq_checks policy now req s
    rw [changeChecks_of_currentStatus_error ht hc] at h
    exact absurd h (hdb e s)

theorem recordsOf_of_no_storage_failure {t : OrderStatus} {cur : CurrentStatus}
    (ht : OrderStatus.ofName? req.status = some t)
    (hc : Store.currentStatus req.orderId s = .ok (some cur) s)
    (ha : authorize policy req.principal cur.ownerId (rule cur.event.status t) = true) :
    ∃ recs, Store.recordsOf req.orderId s = .ok recs s := by
  rcases result_of_leaves (Store.leaves_recordsOf req.orderId s) with ⟨recs, hr⟩ | ⟨e, hr⟩
  · exact ⟨recs, hr⟩
  · have h := addStatus_eq_checks policy now req s
    rw [changeChecks_of_recordsOf_error ht hc ha hr] at h
    exact absurd h (hdb e s)

end NoStorageFailure

theorem addStatus_offenders {required : EquipmentStatus} {ids : List Int} {s' : Store}
    (h : addStatus policy now req s = .error (.status (.equipmentNotReady required ids)) s') :
    required = .booked ∧ ids.Pairwise (· < ·) ∧ ∀ i, i ∈ ids ↔
      ∃ x ∈ s.recordRowsOf req.orderId,
        x.equipmentId = i ∧ x.status ≠ EquipmentStatus.booked.name := by
  obtain ⟨rfl, t, cur, recs, -, -, -, hr, hn, hne⟩ := refused_notReady (addStatus_refused_iff.1 h).2
  have hrows := (Store.recordsOf_eq_ok hr).2
  refine ⟨rfl, hn ▸ Equipment.notReady_sorted t recs, fun i => ?_⟩
  rw [← hn, Equipment.mem_notReady, ← exists_unready_iff hrows]
  -- a refusal lists some item, so the target is one that needs the records booked
  obtain ⟨j, hj⟩ := List.exists_mem_of_ne_nil ids hne
  rw [← hn, Equipment.mem_notReady] at hj
  exact and_iff_right hj.1

/-- A status change, when the store does not fail, is answered by the first of its checks that
fails, in the order: a blank status, a text that is no status name, an order without events,
the guard on the rule from the order's current status to the target, and the records, which must
all be booked before an order is prepared or handed out. A change that passes every check is
made, and none meets a version conflict. -/
theorem addStatus_decided_in_order (hdb : ∀ e s', addStatus policy now req s ≠ .error (.db e) s') :
    DecidedInOrder policy now req s where
  blank := by
    rw [addStatus_refused_iff]
    constructor
    · rintro ⟨-, h⟩
      cases h with
      | blank h => exact h
    · exact fun h => ⟨rfl, .blank h⟩
  unnamed hb := by
    rw [addStatus_refused_iff]
    constructor
    · rintro ⟨-, h⟩
      cases h with
      | unnamed _ h => exact h
    · exact fun h => ⟨rfl, .unnamed hb h⟩
  noEvent t ht := by
    rw [addStatus_refused_iff]
    constructor
    · rintro ⟨-, h⟩
      cases h with
      | noEvent _ h => exact h
    · exact fun h => ⟨rfl, .noEvent ht h⟩
  denied t r ord ht hr hord := by
    obtain ⟨cur, hc, hname, hown⟩ := currentStatus_of_no_storage_failure hdb ht hr hord
    refine ⟨cur.event.status, hname.symm, ?_⟩
    rw [addStatus_refused_iff, ← hown]
    constructor
    · rintro ⟨-, h⟩
      obtain ⟨cur', -, hc', hst, ha⟩ := refused_denied h
      rw [hc] at hc'
      cases hc'
      exact ha
    · exact fun ha => ⟨rfl, .denied ht hc ha⟩
  notReady t r ord c ht hr hord hrc ha := by
    obtain ⟨cur, hc, hname, hown⟩ := currentStatus_of_no_storage_failure hdb ht hr hord
    obtain rfl : cur.event.status = c := OrderStatus.name_injective (hname.trans hrc)
    rw [← hown] at ha
    obtain ⟨recs, hrecs⟩ := recordsOf_of_no_storage_failure hdb ht hc ha
    have hrows := (Store.recordsOf_eq_ok hrecs).2
    constructor
    · rintro ⟨ids, h⟩
      obtain ⟨-, -, hall⟩ := addStatus_offenders h
      obtain ⟨-, t', cur', recs', ht', -, -, -, hn,
        hne⟩ := refused_notReady (addStatus_refused_iff.1 h).2
      rw [ht] at ht'
      cases ht'
      obtain ⟨i, hi⟩ := List.exists_mem_of_ne_nil ids hne
      obtain ⟨x, hx, -, hst⟩ := (hall i).1 hi
      exact ⟨(Equipment.mem_notReady.1 (hn ▸ hi)).1, x, hx, hst⟩
    · rintro ⟨htarget, x, hx, hst⟩
      -- a record that is not booked blocks a target that needs them booked
      have hmem : x.equipmentId ∈ Equipment.notReady t recs :=
        Equipment.mem_notReady.2 ⟨htarget, (exists_unready_iff hrows _).2 ⟨x, hx, rfl, hst⟩⟩
      obtain ⟨i, is, hn⟩ := List.exists_cons_of_ne_nil (List.ne_nil_of_mem hmem)
      exact ⟨i :: is, addStatus_refused_iff.2 ⟨rfl, .notReady ht hc ha hrecs hn⟩⟩
  offenders _ _ _ h := addStatus_offenders h
  made t r ord c ht hr hord hrc ha hready := by
    obtain ⟨cur, hc, hname, hown⟩ := currentStatus_of_no_storage_failure hdb ht hr hord
    obtain rfl : cur.event.status = c := OrderStatus.name_injective (hname.trans hrc)
    rw [← hown] at ha
    cases h : addStatus policy now req s with
    | ok e s' => exact ⟨e, s', rfl⟩
    | error err s' =>
      cases err with
      | db d => exact absurd h (hdb d s')
      | status e =>
        -- every refusal contradicts a check the change passes
        obtain ⟨-, hrf⟩ := addStatus_refused_iff.1 h
        cases hrf with
        | blank hb =>
          rw [blank_of_named ht] at hb
          cases hb
        | unnamed _ hn =>
          rw [ht] at hn
          cases hn
        | noEvent _ hnil =>
          rw [Store.currentRow_eq_none.2 hnil] at hr
          cases hr
        | denied ht' hc' ha' =>
          rw [ht] at ht'
          cases ht'
          rw [hc] at hc'
          cases hc'
          rw [ha] at ha'
          cases ha'
        | notReady ht' hc' _ hr' hn =>
          rw [ht] at ht'
          cases ht'
          rw [hc] at hc'
          cases hc'
          obtain ⟨htarget, hunready⟩ := Equipment.mem_notReady.1 (hn ▸ List.mem_cons_self)
          obtain ⟨x, hx, -, hst⟩ := (exists_unready_iff (Store.recordsOf_eq_ok hr').2 _).1 hunready
          exact absurd ⟨htarget, x, hx, hst⟩ hready
  noConflict s' h := by
    obtain ⟨-, h⟩ := addStatus_refused_iff.1 h
    cases h

theorem addStatus_decided_in_order_denied_first :
    (∀ e s', addStatus .strict ⟨1675598400, 0⟩ ⟨10, "Prepared", none, ⟨2, .operator⟩⟩ rentalStore ≠
      .error (.db e) s') ∧
    addStatus .strict ⟨1675598400, 0⟩ ⟨10, "Prepared", none, ⟨2, .operator⟩⟩ rentalStore =
      .error (.status (.transitionDenied 2 10 .inProgress .prepared)) rentalStore ∧
    DecidedInOrder .strict ⟨1675598400, 0⟩ ⟨10, "Prepared", none, ⟨2, .operator⟩⟩ rentalStore := by
  have h : addStatus .strict ⟨1675598400, 0⟩ ⟨10, "Prepared", none, ⟨2, .operator⟩⟩ rentalStore =
      .error (.status (.transitionDenied 2 10 .inProgress .prepared)) rentalStore := rfl
  have hdb : ∀ e s', addStatus .strict ⟨1675598400, 0⟩ ⟨10, "Prepared", none, ⟨2, .operator⟩⟩
      rentalStore ≠ .error (.db e) s' := by
    intro e s' he
    rw [h] at he
    cases he
  exact ⟨hdb, h, addStatus_decided_in_order hdb⟩

end RentalStatus
