import RentalStatus.Proofs.Checks

namespace RentalStatus

open EngineOp

namespace Store

variable {o : Int} {s t : Store}

theorem outcome_currentStatus_of_frozen (hf : Frozen s o t) :
    (outcome (currentStatus o t)).1 = (outcome (currentStatus o s)).1 := by
  simp only [currentStatus, hf.currentRow, hf.order]
  split
  · rfl
  · split
    · rfl
    · split
      · rfl
      · split <;> rfl

theorem outcome_recordsOf_of_frozen (hf : Frozen s o t) :
    (outcome (recordsOf o t)).1 = (outcome (recordsOf o s)).1 := by
  simp only [recordsOf, hf.records]
  split <;> rfl

end Store

theorem changeChecks_of_frozen {policy : Policy} {req : StatusRequest} {s t : Store}
    (hf : Frozen s req.orderId t) : changeChecks policy req t = changeChecks policy req s := by
  simp only [changeChecks, Store.outcome_currentStatus_of_frozen hf,
    Store.outcome_recordsOf_of_frozen hf]

/-- The reads of an overdue mark of `o` on `s`, in the order the mark makes them: the failure,
none when there is nothing to mark, or the current status and the end of the earliest booking
that ended before `now`. -/
def markChecks (now : Instant) (o : Int) (s : Store) :
    Except EngineError (Option (CurrentStatus × Instant)) := do
  let some cur ← (outcome (Store.currentStatus o s)).1.mapError .db | pure none
  if cur.event.status != .inProgress then return none
  let records ← (outcome (Store.recordsOf o s)).1.mapError .db
  let some ended := earliest ((records.map (·.endDate)).filter (· < now)) | return none
  return some (cur, ended)

/-- The write of a mark that found a booking ended: the append of the overdue event at the
version read. -/
def commitMark (now : Instant) (o : Int) (cur : CurrentStatus) (ended : Instant) :
    EngineOp (Option Event) := do
  let some ev ← db (Store.append {
      orderId := o, expectedVersion := cur.statusVersion, status := .overdue,
      comment := some (overdueComment ended), createdAt := now, changedBy := none })
    | refuse (.versionConflict o)
  return some ev

/-- How the reads of a mark end: one way for each read that can fail or find nothing to mark,
in the order the reads are made, and one for a mark that finds an ended booking. -/
inductive MarkChecked (now : Instant) (o : Int) (s : Store) :
    Except EngineError (Option (CurrentStatus × Instant)) → Prop
  | currentFails {e : DbError} (h : Store.currentStatus o s = .error e s) :
      MarkChecked now o s (.error (.db e))
  | noEvent (h : Store.currentStatus o s = .ok none s) : MarkChecked now o s (.ok none)
  | notRunning {cur : CurrentStatus} (hc : Store.currentStatus o s = .ok (some cur) s)
      (hrun : cur.event.status ≠ .inProgress) : MarkChecked now o s (.ok none)
  | recordsFail {cur : CurrentStatus} {e : DbError}
      (hc : Store.currentStatus o s = .ok (some cur) s) (hrun : cur.event.status = .inProgress)
      (h : Store.recordsOf o s = .error e s) :
      MarkChecked now o s (.error (.db e))
  | noneEnded {cur : CurrentStatus} {recs : List EquipmentRecord}
      (hc : Store.currentStatus o s = .ok (some cur) s) (hrun : cur.event.status = .inProgress)
      (hr : Store.recordsOf o s = .ok recs s)
      (hend : earliest ((recs.map (·.endDate)).filter (· < now)) = none) :
      MarkChecked now o s (.ok none)
  | ended {cur : CurrentStatus} {recs : List EquipmentRecord} {ended : Instant}
      (hc : Store.currentStatus o s = .ok (some cur) s) (hrun : cur.event.status = .inProgress)
      (hr : Store.recordsOf o s = .ok recs s)
      (hend : earliest ((recs.map (·.endDate)).filter (· < now)) = some ended) :
      MarkChecked now o s (.ok (some (cur, ended)))

theorem markChecks_checked (now : Instant) (o : Int) (s : Store) :
    MarkChecked now o s (markChecks now o s) := by
  -- the reads write nothing, so each is made on `s` itself
  rcases result_of_leaves (Store.leaves_currentStatus o s) with ⟨c, hc⟩ | ⟨e, hc⟩
  · cases c with
    | none =>
      simp only [markChecks, hc, outcome, Except.mapError_ok, Except.ok_bind, Except.pure_eq]
      exact .noEvent hc
    | some cur =>
      by_cases hrun : cur.event.status = .inProgress
      · rcases result_of_leaves (Store.leaves_recordsOf o s) with ⟨recs, hr⟩ | ⟨e, hr⟩
        · cases hend : earliest ((recs.map (·.endDate)).filter (· < now)) with
          | none =>
            simp only [markChecks, hc, hr, hrun, hend, outcome, bne_self_eq_false,
              Bool.false_eq_true, reduceIte, Except.mapError_ok, Except.ok_bind, Except.pure_eq]
            exact .noneEnded hc hrun hr hend
          | some ended =>
            simp only [markChecks, hc, hr, hrun, hend, outcome, bne_self_eq_false,
              Bool.false_eq_true, reduceIte, Except.mapError_ok, Except.ok_bind, Except.pure_eq]
            exact .ended hc hrun hr hend
        · simp only [markChecks, hc, hr, hrun, outcome, bne_self_eq_false, Bool.false_eq_true,
            reduceIte, Except.mapError_ok, Except.mapError_error, Except.ok_bind,
            Except.error_bind]
          exact .recordsFail hc hrun hr
      · simp only [markChecks, hc, outcome, bne_iff_ne, ne_eq, hrun, not_false_eq_true, reduceIte,
          Except.mapError_ok, Except.ok_bind, Except.pure_eq]
        exact .notRunning hc hrun
  · simp only [markChecks, hc, outcome, Except.mapError_error, Except.error_bind]
    exact .currentFails hc

theorem markOverdue_eq_checks (now : Instant) (o : Int) (s : Store) :
    markOverdue now o s =
      match markChecks now o s with
      | .error e => .error e s
      | .ok none => .ok none s
      | .ok (some (cur, ended)) => atomically (commitMark now o cur ended) s := by
  have hch := markChecks_checked now o s
  generalize markChecks now o s = c at hch
  unfold markOverdue
  cases hch with
  | currentFails h =>
    apply atomically_of_error s
    simp only [bind_of_error (db_of_error h)]
  | noEvent h =>
    apply atomically_of_ok
    simp only [bind_of_ok (db_of_ok h), pure_apply]
  | notRunning hc hrun =>
    apply atomically_of_ok
    simp only [bind_of_ok (db_of_ok hc), bne_iff_ne, ne_eq, hrun, not_false_eq_true, reduceIte,
      pure_apply]
  | recordsFail hc hrun h =>
    apply atomically_of_error s
    simp only [bind_of_ok (db_of_ok hc), hrun, bne_self_eq_false, Bool.false_eq_true, reduceIte,
      bind_of_error (db_of_error h)]
  | noneEnded hc hrun hr hend =>
    apply atomically_of_ok
    simp only [bind_of_ok (db_of_ok hc), hrun, bne_self_eq_false, Bool.false_eq_true, reduceIte,
      bind_of_ok (db_of_ok hr), hend, pure_apply]
  | ended hc hrun hr hend =>
    apply atomically_congr
    simp only [bind_of_ok (db_of_ok hc), hrun, bne_self_eq_false, Bool.false_eq_true, reduceIte,
      bind_of_ok (db_of_ok hr), hend]
    -- what is left of the mark is the body of `commitMark`
    rfl

theorem markChecks_of_frozen {now : Instant} {o : Int} {s t : Store} (hf : Frozen s o t) :
    markChecks now o t = markChecks now o s := by
  simp only [markChecks, Store.outcome_currentStatus_of_frozen hf,
    Store.outcome_recordsOf_of_frozen hf]

theorem RecordRow.read_apply {x : RecordRow} {rec : EquipmentRecord} (h : x.read = .ok rec)
    (u : RecordUpdate) : ∃ rec', (x.apply u).read = .ok rec' := by
  cases hfit : Store.fitsId x.id
  · simp [RecordRow.read, hfit] at h
  · cases hst : u.status with
    | some st => simp [RecordRow.read, RecordRow.apply, hfit, hst, EquipmentStatus.ofName?_name]
    | none =>
      cases hx : EquipmentStatus.ofName? x.status with
      | none => simp [RecordRow.read, hfit, hx] at h
      | some st => simp [RecordRow.read, RecordRow.apply, hfit, hst, hx]

theorem exists_row_of_read {rows : List RecordRow} {recs : List EquipmentRecord}
    (h : List.Forall₂ (fun x rec => x.read = .ok rec) rows recs) {rec : EquipmentRecord}
    (hrec : rec ∈ recs) : ∃ x ∈ rows, x.read = .ok rec := by
  induction h with
  | nil => cases hrec
  | cons hx _ ih =>
    rcases List.mem_cons.1 hrec with rfl | hrec
    · exact ⟨_, List.mem_cons_self, hx⟩
    · obtain ⟨x, hmem, hread⟩ := ih hrec
      exact ⟨x, List.mem_cons_of_mem _ hmem, hread⟩

theorem Equipment.id_of_mem_updates {target current : OrderStatus} {role : Role}
    {recs : List EquipmentRecord} {u : RecordUpdate}
    (hu : u ∈ Equipment.updates target current role recs) : ∃ rec ∈ recs, u.id = rec.id := by
  unfold Equipment.updates at hu
  split at hu
  · cases hu
  · obtain ⟨rec, hrec, rfl⟩ := List.mem_map.1 hu
    exact ⟨rec, hrec, rfl⟩
  · obtain ⟨rec, hrec, rfl⟩ := List.mem_map.1 hu
    exact ⟨rec, hrec, rfl⟩

namespace Store

variable {s : Store}

/-- Each update of `us` finds a record with its id in `s`, and every record with that id reads. -/
def Rewritable (s : Store) (us : List RecordUpdate) : Prop :=
  ∀ u ∈ us, (∃ x ∈ s.records, x.id = u.id) ∧ ∀ x ∈ s.records, x.id = u.id → ∃ rec, x.read = .ok rec

theorem rewritable_updates (hk : (s.records.map (·.id)).Nodup) {o : Int}
    {recs : List EquipmentRecord}
    (hrecs : List.Forall₂ (fun x rec => x.read = .ok rec) (s.recordRowsOf o) recs)
    (target current : OrderStatus) (role : Role) :
    s.Rewritable (Equipment.updates target current role recs) := by
  intro u hu
  obtain ⟨rec, hrec, hid⟩ := Equipment.id_of_mem_updates hu
  obtain ⟨x, hx, hread⟩ := exists_row_of_read hrecs hrec
  have hxid : rec.id = x.id := (RecordRow.id_of_read hread).1
  have hxs : x ∈ s.records := (List.mem_filter.1 hx).1
  -- record ids are unique, so the record read is the only one with the update's id
  refine ⟨⟨x, hxs, by rw [hid, hxid]⟩, fun z hz hzid => ⟨rec, ?_⟩⟩
  rw [List.inj_on_of_nodup_map hk hz hxs (by rw [hzid, hid, hxid])]
  exact hread

theorem updateRecord_of_rewritable {u : RecordUpdate} {us : List RecordUpdate}
    (h : s.Rewritable (u :: us)) : ∃ rec s', updateRecord u s = .ok rec s' ∧ s'.Rewritable us := by
  obtain ⟨⟨x, hx, hxid⟩, hread⟩ := h u List.mem_cons_self
  obtain ⟨y, hy⟩ := Option.isSome_iff_exists.1
    (List.find?_isSome.2 ⟨x, hx, by simp [hxid]⟩ : (s.records.find? (·.id == u.id)).isSome)
  have hymem := List.mem_of_find?_eq_some hy
  have hyid : y.id = u.id := by simpa using List.find?_some hy
  obtain ⟨recy, hrecy⟩ := hread y hymem hyid
  obtain ⟨rec', hrec'⟩ := RecordRow.read_apply hrecy u
  refine ⟨rec', { s with records := s.records.map fun x => if x.id = u.id then y.apply u else x },
    by simp [updateRecord, hy, hrec'], fun u' hu' => ?_⟩
  obtain ⟨⟨x', hx', hx'id⟩, hread'⟩ := h u' (List.mem_cons_of_mem _ hu')
  constructor
  · refine ⟨if x'.id = u.id then y.apply u else x', List.mem_map_of_mem hx', ?_⟩
    by_cases hsame : x'.id = u.id
    · simp [hsame, hyid, ← hx'id]
    · rw [if_neg hsame]
      exact hx'id
  · intro z hz hzid
    obtain ⟨w, hw, rfl⟩ := List.mem_map.1 hz
    by_cases hsame : w.id = u.id
    · simp only [hsame, if_true]
      exact ⟨rec', hrec'⟩
    · simp only [hsame, if_false] at hzid ⊢
      exact hread' w hw hzid

theorem forIn_updateRecord_ok {us : List RecordUpdate} (h : s.Rewritable us) :
    ∃ s', (forIn us PUnit.unit fun u _ => do
        discard (EngineOp.db (updateRecord u))
        pure (ForInStep.yield PUnit.unit)) s = .ok PUnit.unit s' := by
  induction us generalizing s with
  | nil => exact ⟨s, rfl⟩
  | cons u us ih =>
    obtain ⟨rec, s₁, hupd, h₁⟩ := updateRecord_of_rewritable h
    obtain ⟨s', hloop⟩ := ih h₁
    refine ⟨s', ?_⟩
    rw [List.forIn_cons]
    exact bind_eq_ok.2 ⟨.yield PUnit.unit, s₁, bind_eq_ok.2 ⟨(), s₁,
      discard_eq_ok.2 ⟨rec, EngineOp.db_eq_ok.2 hupd⟩, pure_eq_ok.2 ⟨rfl, rfl⟩⟩, hloop⟩

end Store

/-- The writes of a change that passed its checks, on a store whose record ids are unique and
whose next event id fits in 32 bits: they go through when the principal is a known user, and
otherwise fail on the unknown user, writing nothing. -/
theorem commitChange_of_fits {now : Instant} {req : StatusRequest} {t : OrderStatus}
    {cur : CurrentStatus} {recs : List EquipmentRecord} {s : Store}
    (hc : Store.currentStatus req.orderId s = .ok (some cur) s)
    (hrecs : Store.recordsOf req.orderId s = .ok recs s) (hk : (s.records.map (·.id)).Nodup)
    (hfit : Store.fitsId (Store.nextId (s.events.map (·.id))) = true) :
    (s.hasUser req.principal.id = true →
      ∃ e s', atomically (commitChange now req t cur recs) s = .ok e s') ∧
    (s.hasUser req.principal.id = false →
      atomically (commitChange now req t cur recs) s = .error (.db .foreignKey) s) := by
  have hrw := Store.rewritable_updates hk (Store.recordsOf_eq_ok hrecs).2 t cur.event.status
    req.principal.role
  have h := Store.appended_append s ⟨req.orderId, cur.statusVersion, t, req.comment, now,
    some req.principal.id⟩
  generalize hr : (outcome (Store.append ⟨req.orderId, cur.statusVersion, t, req.comment, now,
    some req.principal.id⟩ s)).1 = r at h
  generalize hs₁ : leaves (Store.append ⟨req.orderId, cur.statusVersion, t, req.comment, now,
    some req.principal.id⟩ s) = s₁ at h
  cases h with
  | stale => exact absurd (eq_of_outcome_ok hr) (Store.append_ne_stale hc rfl rfl)
  | inserted _ hby =>
    have hin : s.hasUser req.principal.id = true := by simpa using hby
    refine ⟨fun _ => ?_, fun hno => (Bool.false_ne_true (hno.symm.trans hin)).elim⟩
    have happ := eq_of_outcome_ok hr
    rw [hs₁] at happ
    -- the append leaves the records as they were, so the rewrites all go through
    obtain ⟨s', hloop⟩ := Store.forIn_updateRecord_ok (s := { s with
      orders := s.bumped _
      events := s.events ++ [_] }) hrw
    exact ⟨_, s', atomically_eq_ok.2 (bind_eq_ok.2 ⟨_, _, EngineOp.db_eq_ok.2 happ,
      bind_eq_ok.2 ⟨(), s', hloop, pure_eq_ok.2 ⟨rfl, rfl⟩⟩⟩)⟩
  | refused _ hby =>
    have hno : s.hasUser req.principal.id = false := by simpa using hby
    refine ⟨fun hin => (Bool.false_ne_true (hno.symm.trans hin)).elim, fun _ => ?_⟩
    have happ := eq_of_outcome_error hr
    rw [hs₁] at happ
    exact atomically_of_error _ (bind_of_error (db_of_error happ))
  | unreadable _ _ hfit' =>
    rw [hfit] at hfit'
    cases hfit'

section Reads

variable {policy : Policy} {now : Instant} {req : StatusRequest} {o : Int} {s : Store}

theorem changeChecks_eq_ok {t : OrderStatus} {cur : CurrentStatus} {recs : List EquipmentRecord}
    (h : changeChecks policy req s = .ok (t, cur, recs)) :
    OrderStatus.ofName? req.status = some t ∧ Store.currentStatus req.orderId s = .ok (some cur) s ∧
      Store.recordsOf req.orderId s = .ok recs s := by
  have hch := changeChecks_checked policy req s
  rw [h] at hch
  cases hch with
  | passed ht hc _ hr => exact ⟨ht, hc, hr⟩

theorem markChecks_eq_ok_some {cur : CurrentStatus} {ended : Instant}
    (h : markChecks now o s = .ok (some (cur, ended))) :
    ∃ recs, Store.currentStatus o s = .ok (some cur) s ∧ cur.event.status = .inProgress ∧
      Store.recordsOf o s = .ok recs s ∧
      earliest ((recs.map (·.endDate)).filter (· < now)) = some ended := by
  have hch := markChecks_checked now o s
  rw [h] at hch
  cases hch with
  | ended hc hrun hr hend => exact ⟨_, hc, hrun, hr, hend⟩

end Reads

namespace Store

def commit (p : AppendRequest) (n : Int) (g : RecordRow → RecordRow) (s : Store) : Store :=
  { s with
    orders := s.bumped p
    events := s.events ++ [(p.event n).row]
    records := s.records.map fun x => if x.orderId = some p.orderId then g x else x }

/-- Order `o` stands in `t` as in `s`, and so do the users, the one table every request on `o`
reads whole. -/
structure Alike (s : Store) (o : Int) (t : Store) : Prop where
  frozen : Frozen s o t
  users : t.users = s.users

theorem Alike.refl (s : Store) (o : Int) : Alike s o s := ⟨⟨rfl, rfl, rfl⟩, rfl⟩

end Store

/-- What a request on order `o` does apart from the id its event gets: it answers without
writing, or it makes the append `p` to `o` and rewrites the records of `o` by `g`, which keeps
each record's id and order. -/
inductive OrderEffect (o : Int) where
  | answer (r : Except EngineError (Option Event))
  | write (p : AppendRequest) (ho : p.orderId = o) (g : RecordRow → RecordRow)
      (hid : ∀ x, (g x).id = x.id) (horder : ∀ x, (g x).orderId = x.orderId)

namespace OrderEffect

variable {o : Int}

def apply (n : Int) (s : Store) : OrderEffect o → Except EngineError (Option Event) × Store
  | answer r => (r, s)
  | write p _ g _ _ => (.ok (some (p.event n)), s.commit p n g)

theorem alike_apply {o' : Int} (eff : OrderEffect o) (hne : o ≠ o') (n : Int) (s : Store) :
    Store.Alike s o' (eff.apply n s).2 := by
  cases eff with
  | answer r => exact Store.Alike.refl s o'
  | write p ho g hid horder =>
    have hne' : p.orderId ≠ o' := ho ▸ hne
    refine ⟨⟨?_, ?_, ?_⟩, rfl⟩
    · exact Store.eventsOf_append_of_ne hne' rfl
    · exact Store.order?_map_of_ne hne' (fun x => { x with statusVersion := p.expectedVersion + 1 })
        (fun _ => rfl) rfl
    · exact Store.recordRowsOf_map_of_ne hne' g horder rfl

theorem nodup_apply (eff : OrderEffect o) (n : Int) {s : Store}
    (hk : (s.records.map (·.id)).Nodup) : ((eff.apply n s).2.records.map (·.id)).Nodup := by
  cases eff with
  | answer r => exact hk
  | write p ho g hid horder =>
    have hids : (s.records.map fun x => if x.orderId = some p.orderId then g x else x).map (·.id) =
        s.records.map (·.id) := by
      rw [List.map_map]
      refine List.map_congr_left fun x _ => ?_
      by_cases hx : x.orderId = some p.orderId <;> simp [hx, hid]
    simpa [apply, Store.commit, hids] using hk

end OrderEffect

/-- A request on one order: a status change, or an overdue mark. -/
inductive OrderRequest where
  | change (policy : Policy) (now : Instant) (req : StatusRequest)
  | mark (now : Instant) (o : Int)

namespace OrderRequest

def orderId : OrderRequest → Int
  | change _ _ req => req.orderId
  | mark _ o => o

def serve : OrderRequest → Store → Except EngineError (Option Event) × Store
  | change policy now req, s =>
    let r := outcome (addStatus policy now req s)
    (r.1.map some, r.2)
  | mark now o, s => outcome (markOverdue now o s)

def effect : (r : OrderRequest) → Store → OrderEffect r.orderId
  | change policy now req, s =>
    match changeChecks policy req s with
    | .error e => .answer (.error e)
    | .ok (t, cur, _) =>
      if s.hasUser req.principal.id then
        .write ⟨req.orderId, cur.statusVersion, t, req.comment, now, some req.principal.id⟩ rfl
          (RecordRow.afterChange t cur.event.status req.principal.role)
          (fun _ => RecordRow.afterChange_id) (fun _ => RecordRow.afterChange_orderId)
      else .answer (.error (.db .foreignKey))
  | mark now o, s =>
    match markChecks now o s with
    | .error e => .answer (.error e)
    | .ok none => .answer (.ok none)
    | .ok (some (cur, ended)) =>
      .write ⟨o, cur.statusVersion, .overdue, some (overdueComment ended), now, none⟩ rfl id
        (fun _ => rfl) (fun _ => rfl)

/-- A request reads nothing of its store beyond its own order and the users: two stores in
which they stand alike give it one effect. -/
theorem effect_of_alike (r : OrderRequest) {s t : Store} (ha : Store.Alike s r.orderId t) :
    r.effect t = r.effect s := by
  cases r with
  | change policy now req =>
    have hu : t.hasUser = s.hasUser := by
      funext i
      simp only [Store.hasUser, ha.users]
    simp only [effect, changeChecks_of_frozen ha.frozen, hu]
  | mark now o =>
    have hf : Frozen s o t := ha.frozen
    simp only [effect, markChecks_of_frozen hf]

theorem serve_eq (r : OrderRequest) {s : Store} (hk : (s.records.map (·.id)).Nodup)
    (hfit : Store.fitsId (Store.nextId (s.events.map (·.id))) = true) :
    r.serve s = (r.effect s).apply (Store.nextId (s.events.map (·.id))) s := by
  cases r with
  | change policy now req =>
    cases hc : changeChecks policy req s with
    | error e =>
      simp [serve, effect, hc, addStatus_eq_checks, outcome, OrderEffect.apply, Except.map]
    | ok v =>
      obtain ⟨t, cur, recs⟩ := v
      obtain ⟨ht, hcur, hrecs⟩ := changeChecks_eq_ok hc
      have hcommit := @commitChange_of_fits now _ t _ _ _ hcur hrecs hk hfit
      cases hu : s.hasUser req.principal.id
      · simp [serve, effect, hc, hu, addStatus_eq_checks, hcommit.2 hu, outcome,
          OrderEffect.apply, Except.map]
      · -- the change goes through; its event and its store are those of the effect
        obtain ⟨e, s', hok⟩ := hcommit.1 hu
        have hadd : addStatus policy now req s = .ok e s' := by
          rw [addStatus_eq_checks, hc]
          exact hok
        obtain ⟨t', cur', ht', hcur', -, he, hs'⟩ := addStatus_ok_store hk hadd
        obtain rfl : t' = t := Option.some.inj (ht'.symm.trans ht)
        obtain rfl : cur' = cur := by
          rw [hcur] at hcur'
          cases hcur'
          rfl
        simp only [serve, effect, hc, hu, if_true, hadd, outcome, OrderEffect.apply, he, hs',
          Except.map]
        rfl
  | mark now o =>
    cases hm : markChecks now o s with
    | error e => simp [serve, effect, hm, markOverdue_eq_checks, outcome, OrderEffect.apply]
    | ok v =>
      cases v with
      | none => simp [serve, effect, hm, markOverdue_eq_checks, outcome, OrderEffect.apply]
      | some ce =>
        obtain ⟨cur, ended⟩ := ce
        obtain ⟨recs, hcur, hrun, hrecs, hend⟩ := markChecks_eq_ok_some hm
        obtain ⟨e, s', happ⟩ := Store.append_of_currentStatus hcur hfit .overdue
          (some (overdueComment ended)) now
        have hmark := markOverdue_of_append hcur hrun hrecs hend happ
        obtain ⟨-, rfl, -, rfl⟩ := Store.append_eq_ok_some happ
        simp [serve, effect, hm, hmark, outcome, OrderEffect.apply, Store.commit, Store.bumped]

end OrderRequest

end RentalStatus
