import RentalStatus.Proofs.Succession

namespace RentalStatus

open EngineOp

section Outcomes

variable {ε σ α : Type}

/-- What an operation returned, as a value, with the store it leaves. -/
def outcome : EStateM.Result ε σ α → Except ε α × σ
  | .ok a s => (.ok a, s)
  | .error e s => (.error e, s)

/-- The store an operation leaves, whether it returns a value or fails. -/
def leaves (r : EStateM.Result ε σ α) : σ := (outcome r).2

@[simp] theorem leaves_ok (a : α) (s : σ) : leaves (.ok a s : EStateM.Result ε σ α) = s := rfl

@[simp] theorem leaves_error (e : ε) (s : σ) : leaves (.error e s : EStateM.Result ε σ α) = s :=
  rfl

theorem result_of_leaves {ε α : Type} {r : EStateM.Result ε Store α} {s : Store}
    (h : leaves r = s) : (∃ a, r = .ok a s) ∨ ∃ e, r = .error e s := by
  subst h
  cases r with
  | ok a t => exact .inl ⟨a, rfl⟩
  | error e t => exact .inr ⟨e, rfl⟩

end Outcomes

/-- A call the status engine serves, made at the clock value it carries: a status change, an
overdue mark of one order, or a sweep of the running rentals. -/
inductive Call where
  | change (now : Instant) (req : StatusRequest)
  | mark (now : Instant) (orderId : Int)
  | sweep (now : Instant)

def Call.after (policy : Policy) : Call → Store → Store
  | .change now req, s => leaves (addStatus policy now req s)
  | .mark now o, s => leaves (markOverdue now o s)
  | .sweep now, s => leaves (sweepOverdue now s)

/-- `Run policy permits s cs s'`: the calls `cs`, made one after another from `s`, each allowed
by `permits` at the store it is made on, leave `s'`. -/
inductive Run (policy : Policy) (permits : Call → Store → Prop) : Store → List Call → Store → Prop
  | nil (s : Store) : Run policy permits s [] s
  | cons {c : Call} {cs : List Call} {s s' : Store} (hc : permits c s)
      (rest : Run policy permits (c.after policy s) cs s') : Run policy permits s (c :: cs) s'

theorem Run.preserves {policy : Policy} {permits : Call → Store → Prop} (P : Store → Prop)
    (step : ∀ c s, permits c s → P s → P (c.after policy s)) {s s' : Store} {cs : List Call}
    (h : Run policy permits s cs s') (hP : P s) : P s' := by
  induction h with
  | nil => exact hP
  | cons hc _ ih => exact ih (step _ _ hc hP)

def Marked : Except EngineError (Option Event) → Bool
  | .ok (some _) => true
  | _ => false

/-- Marks the orders `os` overdue at `now` one after another from `s`: each order with what its
mark returned, and the store left at the end. -/
def marks (now : Instant) : List Int → Store → List (Int × Except EngineError (Option Event)) × Store
  | [], s => ([], s)
  | o :: os, s =>
    let first := outcome (markOverdue now o s)
    let rest := marks now os first.2
    ((o, first.1) :: rest.1, rest.2)

theorem markEach_eq (now : Instant) : ∀ (os : List Int) (n : Nat) (s : Store),
    markEach now os n s = .ok (n + ((marks now os s).1.countP fun p => Marked p.2)) (marks now os s).2
  | [], n, s => rfl
  | o :: os, n, s => by
    unfold markEach
    cases h : markOverdue now o s with
    | ok r s₁ =>
      cases r with
      | none =>
        simp only [h, markEach_eq now os n s₁, marks, outcome, List.countP_cons, Marked]
        rfl
      | some e =>
        simp only [h, markEach_eq now os (n + 1) s₁, marks, outcome, List.countP_cons, Marked]
        simp only [if_true, EStateM.Result.ok.injEq, and_true]
        omega
    | error err s₁ =>
      simp only [h, markEach_eq now os n s₁, marks, outcome, List.countP_cons, Marked]
      rfl

/-- A sweep lists the running rentals and marks each in turn, whatever the marks before it
returned; it counts the marks that returned an event. -/
theorem sweepOverdue_eq (now : Instant) (s : Store) :
    sweepOverdue now s =
      .ok ((marks now (s.orderIdsWithStatus OrderStatus.inProgress.name) s).1.countP fun p => Marked p.2)
        (marks now (s.orderIdsWithStatus OrderStatus.inProgress.name) s).2 := by
  rw [sweepOverdue]
  refine bind_eq_ok.2 ⟨_, s, rfl, ?_⟩
  rw [markEach_eq, Nat.zero_add]

theorem marks_preserves {now : Instant} (P : Store → Prop) {os : List Int}
    (step : ∀ o ∈ os, ∀ s, P s → P (leaves (markOverdue now o s))) :
    ∀ {s : Store}, P s → P (marks now os s).2 := by
  induction os with
  | nil => exact fun hP => hP
  | cons o os ih =>
    intro s hP
    exact ih (fun o' ho' => step o' (List.mem_cons_of_mem o ho')) (step o List.mem_cons_self s hP)

variable {policy : Policy} {now : Instant} {req : StatusRequest} {o : Int} {s s' : Store}

theorem addStatus_leaves (policy : Policy) (now : Instant) (req : StatusRequest) (s : Store) :
    leaves (addStatus policy now req s) = s ∨
      ∃ e, addStatus policy now req s = .ok e (leaves (addStatus policy now req s)) := by
  cases h : addStatus policy now req s with
  | ok e s' => exact .inr ⟨e, rfl⟩
  | error err s' => exact .inl (addStatus_error_keeps_store h)

theorem markOverdue_leaves (now : Instant) (o : Int) (s : Store) :
    leaves (markOverdue now o s) = s ∨
      ∃ e, markOverdue now o s = .ok (some e) (leaves (markOverdue now o s)) := by
  cases h : markOverdue now o s with
  | ok r s' =>
    cases r with
    | none => exact .inl (markOverdue_eq_ok_none h)
    | some e => exact .inr ⟨e, rfl⟩
  | error err s' => exact .inl (atomically_error h)

/-- A successful status change of an order read its current status, which the guard let it
leave for the target; it appended the event under the next id, dated `now` and made by the
principal; it moved the order's version on and rewrote the records of the order as the rule's
effect says. -/
theorem addStatus_ok_store {e : Event} (hk : (s.records.map (·.id)).Nodup)
    (h : addStatus policy now req s = .ok e s') :
    ∃ t cur, OrderStatus.ofName? req.status = some t ∧
      Store.currentStatus req.orderId s = .ok (some cur) s ∧
      authorize policy req.principal cur.ownerId (rule cur.event.status t) = true ∧
      e = ⟨Store.nextId (s.events.map (·.id)), req.orderId, t, req.comment, now,
        some req.principal.id⟩ ∧
      s' = { s with
        orders := s.orders.map fun x =>
          if x.id = req.orderId then { x with statusVersion := cur.statusVersion + 1 } else x
        events := s.events ++ [e.row]
        records := s.records.map fun x =>
          if x.orderId = some req.orderId then
            x.afterChange t cur.event.status req.principal.role
          else x } := by
  obtain ⟨t, cur, recs, s₁, ht, hcur, hauth, hrecs, -, happ, hloop⟩ := addStatus_eq_ok h
  obtain ⟨-, rfl, -, rfl⟩ := Store.append_eq_ok_some happ
  have hs' := Store.forIn_updateRecord hloop hk
  rw [Store.rewriteRecords_updates hk (Store.recordsOf_eq_ok hrecs).2] at hs'
  exact ⟨t, cur, ofName?_of_parseTarget ht, hcur, hauth, rfl, hs'⟩

/-- A mark that returns an event found the order running and appended an `Overdue` event
under the next id, dated `now` and made by no one; it moved the order's version on and left
the records as they were. -/
theorem markOverdue_ok_store {e : Event} (h : markOverdue now o s = .ok (some e) s') :
    ∃ cur, Store.currentStatus o s = .ok (some cur) s ∧ cur.event.status = .inProgress ∧
      e.id = Store.nextId (s.events.map (·.id)) ∧ e.orderId = o ∧ e.status = .overdue ∧
      e.createdAt = now ∧ e.changedBy = none ∧
      s' = { s with
        orders := s.orders.map fun x =>
          if x.id = o then { x with statusVersion := cur.statusVersion + 1 } else x
        events := s.events ++ [e.row] } := by
  obtain ⟨cur, recs, ended, hcur, hst, -, -, happ⟩ := markOverdue_eq_ok_some h
  obtain ⟨-, rfl, -, rfl⟩ := Store.append_eq_ok_some happ
  exact ⟨cur, hcur, hst, rfl, rfl, rfl, rfl, rfl, rfl⟩

theorem markOverdue_of_not_running {cur : CurrentStatus}
    (hcur : Store.currentStatus o s = .ok (some cur) s) (hst : cur.event.status ≠ .inProgress) :
    markOverdue now o s = .ok none s := by
  rw [markOverdue, atomically_eq_ok, bind_eq_ok]
  refine ⟨some cur, s, db_eq_ok.2 hcur, ?_⟩
  simp [hst]

theorem markOverdue_of_currentStatus_error {err : DbError}
    (hcur : Store.currentStatus o s = .error err s) : markOverdue now o s = .error (.db err) s := by
  unfold markOverdue
  exact atomically_of_error s (bind_of_error (db_of_error hcur))

namespace Store

theorem eventsOf_append_of_ne {r : EventRow} (hr : r.orderId ≠ o)
    (he : s'.events = s.events ++ [r]) : s'.eventsOf o = s.eventsOf o := by
  simp [eventsOf, he, List.filter_append, hr]

theorem eventsOf_append_self {r : EventRow} (hr : r.orderId = o)
    (he : s'.events = s.events ++ [r]) : s'.eventsOf o = s.eventsOf o ++ [r] := by
  simp [eventsOf, he, List.filter_append, hr]

theorem order?_map {o' : Int} (f : OrderRow → OrderRow) (hf : ∀ x, (f x).id = x.id)
    (ho : s'.orders = s.orders.map fun x => if x.id = o' then f x else x) :
    s'.order? o = (s.order? o).map fun x => if x.id = o' then f x else x := by
  rw [order?, order?, ho, List.find?_map]
  have hsame : ((fun x : OrderRow => x.id == o) ∘ fun x => if x.id = o' then f x else x) =
      fun x => x.id == o := by
    funext x
    by_cases hx : x.id = o' <;> simp [hx, hf]
  rw [hsame]

theorem order?_map_of_ne {o' : Int} (hne : o' ≠ o) (f : OrderRow → OrderRow)
    (hf : ∀ x, (f x).id = x.id)
    (ho : s'.orders = s.orders.map fun x => if x.id = o' then f x else x) :
    s'.order? o = s.order? o := by
  rw [order?_map f hf ho]
  cases hfind : s.order? o with
  | none => rfl
  | some x =>
    have hx : x.id = o := by simpa using List.find?_some hfind
    simp [hx, Ne.symm hne]

theorem order?_map_self {ord : OrderRow} (f : OrderRow → OrderRow) (hf : ∀ x, (f x).id = x.id)
    (ho : s'.orders = s.orders.map fun x => if x.id = o then f x else x)
    (hord : s.order? o = some ord) : s'.order? o = some (f ord) := by
  have hid : ord.id = o := by simpa using List.find?_some hord
  rw [order?_map f hf ho, hord]
  simp [hid]

theorem recordRowsOf_map {o' : Int} (g : RecordRow → RecordRow)
    (hg : ∀ x, (g x).orderId = x.orderId)
    (hr : s'.records = s.records.map fun x => if x.orderId = some o' then g x else x) :
    s'.recordRowsOf o =
      (s.recordRowsOf o).map fun x => if x.orderId = some o' then g x else x := by
  rw [recordRowsOf, recordRowsOf, hr, List.filter_map]
  congr 2
  funext x
  by_cases hx : x.orderId = some o' <;> simp [hx, hg]

theorem recordRowsOf_map_self (g : RecordRow → RecordRow) (hg : ∀ x, (g x).orderId = x.orderId)
    (hr : s'.records = s.records.map fun x => if x.orderId = some o then g x else x) :
    s'.recordRowsOf o = (s.recordRowsOf o).map g := by
  rw [recordRowsOf_map g hg hr]
  refine List.map_congr_left fun x hx => ?_
  have hxo : x.orderId = some o := by simpa using (List.mem_filter.1 hx).2
  rw [if_pos hxo]

theorem recordRowsOf_map_of_ne {o' : Int} (hne : o' ≠ o) (g : RecordRow → RecordRow)
    (hg : ∀ x, (g x).orderId = x.orderId)
    (hr : s'.records = s.records.map fun x => if x.orderId = some o' then g x else x) :
    s'.recordRowsOf o = s.recordRowsOf o := by
  rw [recordRowsOf_map g hg hr]
  -- the records of `o` are not records of `o'`, so the rewrite keeps each of them
  have hfix : ∀ x ∈ s.recordRowsOf o, (if x.orderId = some o' then g x else x) = id x := by
    intro x hx
    have hxo : x.orderId = some o := by simpa using (List.mem_filter.1 hx).2
    have hxo' : x.orderId ≠ some o' := by
      rw [hxo]
      exact fun h => hne (Option.some.inj h).symm
    rw [if_neg hxo', id]
  rw [List.map_congr_left hfix, List.map_id]

end Store

theorem notBehind_markOverdue {o' : Int} (h : s.NotBehind o' now) :
    (leaves (markOverdue now o s)).NotBehind o' now := by
  rcases markOverdue_leaves now o s with hs | ⟨e, he⟩
  · rw [hs]
    exact h
  · obtain ⟨cur, -, -, -, -, -, hat, -, hs'⟩ := markOverdue_ok_store he
    intro x hx
    obtain ⟨hx, hxo⟩ := Store.mem_eventsOf.1 hx
    rw [hs', List.mem_append, List.mem_singleton] at hx
    rcases hx with hx | rfl
    · exact h x (Store.mem_eventsOf.2 ⟨hx, hxo⟩)
    · show e.createdAt.storedText ≤ now.storedText
      rw [hat]

namespace Store

@[simp] theorem acceptsEventStatus_name (s : Store) (st : OrderStatus) :
    s.acceptsEventStatus st.name = true := by
  cases h : s.schema <;> simp [acceptsEventStatus, h, OrderStatus.ofName?_name]

def bumped (s : Store) (p : AppendRequest) : List OrderRow :=
  s.orders.map fun x => if x.id = p.orderId then { x with statusVersion := p.expectedVersion + 1 } else x

/-- What an append returns and leaves when nothing rolls it back, as on the connection. The
version check and the insert are two writes: once the check has passed the version has moved on,
and an insert that fails after it does not move it back. -/
inductive Appended (s : Store) (p : AppendRequest) : Except DbError (Option Event) → Store → Prop
  | stale (h : ∀ x ∈ s.orders, x.id = p.orderId → x.statusVersion ≠ p.expectedVersion) :
      Appended s p (.ok none) s
  | inserted (h : ∃ x ∈ s.orders, x.id = p.orderId ∧ x.statusVersion = p.expectedVersion)
      (hby : p.changedBy.all s.hasUser = true) (hfit : fitsId (nextId (s.events.map (·.id))) = true) :
      Appended s p (.ok (some (p.event (nextId (s.events.map (·.id))))))
        { s with orders := s.bumped p
                 events := s.events ++ [(p.event (nextId (s.events.map (·.id)))).row] }
  | refused (h : ∃ x ∈ s.orders, x.id = p.orderId ∧ x.statusVersion = p.expectedVersion)
      (hby : p.changedBy.all s.hasUser = false) :
      Appended s p (.error .foreignKey) { s with orders := s.bumped p }
  | unreadable (h : ∃ x ∈ s.orders, x.id = p.orderId ∧ x.statusVersion = p.expectedVersion)
      (hby : p.changedBy.all s.hasUser = true)
      (hfit : fitsId (nextId (s.events.map (·.id))) = false) :
      Appended s p (.error (.idTooLarge "id"))
        { s with orders := s.bumped p
                 events := s.events ++ [(p.event (nextId (s.events.map (·.id)))).row] }

theorem bumpVersion_of_at {s : Store} {p : AppendRequest}
    (h : ∃ x ∈ s.orders, x.id = p.orderId ∧ x.statusVersion = p.expectedVersion) :
    bumpVersion p.orderId p.expectedVersion s = .ok true { s with orders := s.bumped p } := by
  obtain ⟨x, hx, hid, hv⟩ := h
  have hbump : s.orders.any (fun x => x.id == p.orderId && x.statusVersion == p.expectedVersion) =
      true :=
    List.any_eq_true.2 ⟨x, hx, by simp [hid, hv]⟩
  simp [bumpVersion, hbump, bumped]

theorem bumpVersion_of_moved {s : Store} {p : AppendRequest}
    (h : ∀ x ∈ s.orders, x.id = p.orderId → x.statusVersion ≠ p.expectedVersion) :
    bumpVersion p.orderId p.expectedVersion s = .ok false s := by
  have hbump : s.orders.any (fun x => x.id == p.orderId && x.statusVersion == p.expectedVersion) =
      false :=
    List.any_eq_false.2 fun x hx hxv => by
      simp only [Bool.and_eq_true, beq_iff_eq] at hxv
      exact h x hx hxv.1 hxv.2
  simp [bumpVersion, hbump]

theorem readBack_of_fits {α : Type} {id : Int} {row : α} {s : Store} (h : fitsId id = true) :
    readBack id row s = .ok row s := by
  simp [readBack, h]

theorem readBack_of_wide {α : Type} {id : Int} {row : α} {s : Store} (h : fitsId id = false) :
    readBack id row s = .error (.idTooLarge "id") s := by
  simp [readBack, h]

theorem appended_append (s : Store) (p : AppendRequest) :
    Appended s p (outcome (append p s)).1 (leaves (append p s)) := by
  by_cases hat : ∃ x ∈ s.orders, x.id = p.orderId ∧ x.statusVersion = p.expectedVersion
  · -- the check passes; what the insert after it finds decides the rest
    have hb := bumpVersion_of_at hat
    have hfresh : (s.events.any fun y => y.id == nextId (s.events.map (·.id))) = false :=
      List.any_eq_false.2 fun y hy => by simpa using (lt_nextId (List.mem_map_of_mem hy)).ne
    -- after the bump the order is still there, and the users are those of `s`
    have hkept : ({ s with orders := s.bumped p } : Store).hasOrder p.orderId = true := by
      obtain ⟨x, hx, hid, -⟩ := hat
      exact hasOrder_iff.2 ⟨_, List.mem_map_of_mem hx, by simp [hid]⟩
    have husers : ∀ t : Store, t.users = s.users → t.hasUser = s.hasUser :=
      fun t ht => by funext i; simp only [hasUser, ht]
    -- the row the insert builds, under an id above every other, goes last
    have hlast : insertBy (·.id) (⟨nextId (s.events.map (·.id)), p.orderId, p.status.name,
        p.comment, p.createdAt, p.changedBy⟩ : EventRow) s.events =
        s.events ++ [(p.event (nextId (s.events.map (·.id)))).row] :=
      insertBy_of_le fun y hy => Int.le_of_lt (lt_nextId (List.mem_map_of_mem hy))
    cases hby : p.changedBy.all s.hasUser
    · have hins : insertEvent none p.orderId p.status.name p.comment p.createdAt p.changedBy
          { s with orders := s.bumped p } = .error .foreignKey { s with orders := s.bumped p } := by
        simp [insertEvent, hfresh, hkept, husers, hby]
      have h : append p s = .error .foreignKey { s with orders := s.bumped p } := by
        simp only [append, bind_of_ok hb, Bool.not_true, Bool.false_eq_true, reduceIte,
          bind_of_error hins]
      rw [h]
      exact .refused hat hby
    · have hins : insertEvent none p.orderId p.status.name p.comment p.createdAt p.changedBy
          { s with orders := s.bumped p } =
          readBack (nextId (s.events.map (·.id))) (p.event (nextId (s.events.map (·.id)))).row
            { s with orders := s.bumped p
                     events := s.events ++ [(p.event (nextId (s.events.map (·.id)))).row] } := by
        simp [insertEvent, hfresh, hkept, husers, hby, hlast]
        rfl
      cases hfit : fitsId (nextId (s.events.map (·.id)))
      · have h : append p s = .error (.idTooLarge "id") { s with
            orders := s.bumped p
            events := s.events ++ [(p.event (nextId (s.events.map (·.id)))).row] } := by
          simp only [append, bind_of_ok hb, Bool.not_true, Bool.false_eq_true, reduceIte,
            bind_of_error (hins.trans (readBack_of_wide hfit))]
        rw [h]
        exact .unreadable hat hby hfit
      · have hread : (p.event (nextId (s.events.map (·.id)))).row.read =
            .ok (p.event (nextId (s.events.map (·.id)))) :=
          EventRow.read_row
            (show fitsId (p.event (nextId (s.events.map (·.id)))).id = true from hfit)
        have h : append p s = .ok (some (p.event (nextId (s.events.map (·.id))))) { s with
            orders := s.bumped p
            events := s.events ++ [(p.event (nextId (s.events.map (·.id)))).row] } := by
          simp only [append, bind_of_ok hb, Bool.not_true, Bool.false_eq_true, reduceIte,
            bind_of_ok (hins.trans (readBack_of_fits hfit))]
          exact map_eq_ok.2 ⟨_, Op.ofExcept_eq_ok.2 ⟨hread, rfl⟩, rfl⟩
        rw [h]
        exact .inserted hat hby hfit
  · -- no row with the id is at the expected version, and the check writes nothing
    have hat' : ∀ x ∈ s.orders, x.id = p.orderId → x.statusVersion ≠ p.expectedVersion :=
      fun x hx hid hv => hat ⟨x, hx, hid, hv⟩
    have h : append p s = .ok none s := by
      simp only [append, bind_of_ok (bumpVersion_of_moved hat'), Bool.not_false, reduceIte,
        pure_apply]
    rw [h]
    exact .stale hat'

end Store

end RentalStatus
