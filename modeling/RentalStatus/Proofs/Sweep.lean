import RentalStatus.Proofs.Terminal

namespace RentalStatus

open EngineOp

section Outcomes

variable {ε σ α : Type} {x : EStateM.Result ε σ α}

theorem eq_of_outcome_ok {a : α} (h : (outcome x).1 = .ok a) : x = .ok a (leaves x) := by
  cases x with
  | ok b t =>
    simp only [outcome, Except.ok.injEq] at h
    rw [h, leaves_ok]
  | error e t => cases h

end Outcomes

namespace Store

variable {s t u : Store} {o : Int}

theorem nextId_le_append (xs ys : List Int) : nextId xs ≤ nextId (xs ++ ys) := by
  rw [nextId, nextId, List.foldl_append]
  exact Int.add_le_add_right (le_foldl_max ys _).1 1

theorem one_le_nextId (xs : List Int) : 1 ≤ nextId xs := by
  have h := (le_foldl_max xs 0).1
  rw [nextId]
  omega

theorem fitsId_nextId_of_prefix (hp : t.events <+: u.events)
    (h : fitsId (nextId (t.events.map (·.id))) = false) :
    fitsId (nextId (u.events.map (·.id))) = false := by
  obtain ⟨rest, hrest⟩ := hp
  have hle : nextId (t.events.map (·.id)) ≤ nextId (u.events.map (·.id)) := by
    rw [← hrest, List.map_append]
    exact nextId_le_append _ _
  have hone := one_le_nextId (t.events.map (·.id))
  simp only [fitsId, decide_eq_false_iff_not, not_and, not_le] at h ⊢
  omega

theorem currentStatus_of_frozen {c : Option CurrentStatus} (hf : Frozen t o u)
    (h : currentStatus o t = .ok c t) : currentStatus o u = .ok c u := by
  obtain ⟨-, ⟨hnone, rfl⟩ | ⟨r, ord, ev, hr, hord, hread, rfl⟩⟩ := currentStatus_eq_ok h
  · exact currentStatus_eq_ok_none.2 ⟨by rw [hf.events]; exact currentRow_eq_none.1 hnone, rfl⟩
  · rw [← hf.currentRow] at hr
    rw [← hf.order] at hord
    exact currentStatus_of_currentRow hr hread hord

theorem recordsOf_of_frozen {recs : List EquipmentRecord} (hf : Frozen t o u)
    (h : recordsOf o t = .ok recs t) : recordsOf o u = .ok recs u := by
  unfold recordsOf at h ⊢
  rw [hf.records]
  dsimp only at h ⊢
  split at h
  · rename_i rs hrs
    cases h
    rfl
  · cases h

theorem append_of_currentStatus {cur : CurrentStatus} (hcur : currentStatus o s = .ok (some cur) s)
    (hfit : fitsId (nextId (s.events.map (·.id))) = true) (st : OrderStatus) (c : Option String)
    (createdAt : Instant) :
    ∃ e s', append ⟨o, cur.statusVersion, st, c, createdAt, none⟩ s = .ok (some e) s' := by
  obtain ⟨-, ⟨-, hnone⟩ | ⟨r, ord, ev, -, hord, -, hc⟩⟩ := currentStatus_eq_ok hcur
  · cases hnone
  obtain rfl := Option.some.inj hc
  have hmem := List.mem_of_find?_eq_some hord
  have hid : ord.id = o := by simpa using List.find?_some hord
  -- the order is at the version just read, an append by no one names no unknown user, and the
  -- next id fits: of the ways an append ends only the insert is left
  have h := appended_append s ⟨o, ord.statusVersion, st, c, createdAt, none⟩
  generalize hr : (outcome (append ⟨o, ord.statusVersion, st, c, createdAt, none⟩ s)).1 = r at h
  generalize leaves (append ⟨o, ord.statusVersion, st, c, createdAt, none⟩ s) = s' at h
  cases h with
  | stale hst => exact absurd rfl (hst ord hmem hid)
  | inserted => exact ⟨_, _, eq_of_outcome_ok hr⟩
  | refused _ hby => cases hby
  | unreadable _ _ hfit' =>
    rw [hfit] at hfit'
    cases hfit'

end Store

/-- The reads of a mark of `o` at `now` find the order running and a record ended before `now`,
so the mark goes on to append. -/
def Due (now : Instant) (o : Int) (s : Store) : Prop :=
  ∃ cur recs ended, Store.currentStatus o s = .ok (some cur) s ∧ cur.event.status = .inProgress ∧
    Store.recordsOf o s = .ok recs s ∧ earliest ((recs.map (·.endDate)).filter (· < now)) = some ended

/-- A mark of `o` at `now` writes nothing: it finds nothing to do, or it fails. -/
def Idle (now : Instant) (o : Int) (s : Store) : Prop :=
  markOverdue now o s = .ok none s ∨ ∃ err, markOverdue now o s = .error err s

variable {now : Instant} {o : Int} {s t u s' : Store}

theorem Due.frozen (hd : Due now o t) (hf : Frozen t o u) : Due now o u := by
  obtain ⟨cur, recs, ended, hcur, hrun, hrecs, hend⟩ := hd
  exact ⟨cur, recs, ended, Store.currentStatus_of_frozen hf hcur, hrun,
    Store.recordsOf_of_frozen hf hrecs, hend⟩

theorem markOverdue_none_reads (h : markOverdue now o s = .ok none s') :
    Store.currentStatus o s = .ok none s ∨ ∃ cur, Store.currentStatus o s = .ok (some cur) s ∧
      (cur.event.status ≠ .inProgress ∨ ∃ recs, Store.recordsOf o s = .ok recs s ∧
        earliest ((recs.map (·.endDate)).filter (· < now)) = none) := by
  rw [markOverdue, atomically_eq_ok, bind_eq_ok] at h
  obtain ⟨c, s₁, hdb, h⟩ := h
  have hc := db_eq_ok.1 hdb
  obtain rfl := Store.currentStatus_store hc
  cases c with
  | none => exact .inl hc
  | some cur =>
    dsimp only at h
    split at h
    · rename_i hst
      exact .inr ⟨cur, hc, .inl (by simpa using hst)⟩
    · rw [bind_eq_ok] at h
      obtain ⟨recs, s₂, hdbr, h⟩ := h
      have hr := db_eq_ok.1 hdbr
      obtain rfl := (Store.recordsOf_eq_ok hr).1
      cases hend : earliest ((recs.map (·.endDate)).filter (· < now)) with
      | none => exact .inr ⟨cur, hc, .inr ⟨recs, hr, hend⟩⟩
      | some ended =>
        simp only [hend, bind_eq_ok] at h
        obtain ⟨ev, s₃, -, h⟩ := h
        cases ev with
        | none => exact absurd h refuse_ne_ok
        | some e => cases (pure_eq_ok.1 h).1

theorem markOverdue_of_append {cur : CurrentStatus} {recs : List EquipmentRecord} {ended : Instant}
    {e : Event} (hcur : Store.currentStatus o s = .ok (some cur) s)
    (hrun : cur.event.status = .inProgress) (hrecs : Store.recordsOf o s = .ok recs s)
    (hend : earliest ((recs.map (·.endDate)).filter (· < now)) = some ended)
    (happ : Store.append ⟨o, cur.statusVersion, .overdue, some (overdueComment ended), now, none⟩ s =
      .ok (some e) s') :
    markOverdue now o s = .ok (some e) s' := by
  rw [markOverdue, atomically_eq_ok, bind_eq_ok]
  refine ⟨some cur, s, db_eq_ok.2 hcur, ?_⟩
  simp only [hrun, bne_self_eq_false, Bool.false_eq_true, if_false]
  refine bind_eq_ok.2 ⟨recs, s, db_eq_ok.2 hrecs, ?_⟩
  simp only [hend]
  exact bind_eq_ok.2 ⟨some e, s', db_eq_ok.2 happ, pure_eq_ok.2 ⟨rfl, rfl⟩⟩

namespace Due

theorem marks_iff (hd : Due now o s) :
    (∃ e s', markOverdue now o s = .ok (some e) s') ↔
      Store.fitsId (Store.nextId (s.events.map (·.id))) = true := by
  obtain ⟨cur, recs, ended, hcur, hrun, hrecs, hend⟩ := hd
  constructor
  · rintro ⟨e, s', h⟩
    obtain ⟨cur', recs', ended', -, -, -, -, happ⟩ := markOverdue_eq_ok_some h
    obtain ⟨-, rfl, hfit, -⟩ := Store.append_eq_ok_some happ
    exact hfit
  · intro hfit
    obtain ⟨e, s', happ⟩ := Store.append_of_currentStatus hcur hfit .overdue
      (some (overdueComment ended)) now
    exact ⟨e, s', markOverdue_of_append hcur hrun hrecs hend happ⟩

end Due

theorem Idle.of_no_event (h : ∀ e s', markOverdue now o s ≠ .ok (some e) s') : Idle now o s := by
  unfold Idle
  cases hm : markOverdue now o s with
  | ok v s' =>
    cases v with
    | none => exact .inl (by rw [markOverdue_eq_ok_none hm])
    | some e => exact absurd hm (h e s')
  | error err s' => exact .inr ⟨err, by rw [atomically_error hm]⟩

theorem Idle.of_not_due (hd : ¬Due now o s) : Idle now o s :=
  Idle.of_no_event fun e s' h => by
    obtain ⟨cur, recs, ended, hcur, hrun, hrecs, hend, -⟩ := markOverdue_eq_ok_some h
    exact hd ⟨cur, recs, ended, hcur, hrun, hrecs, hend⟩

theorem Idle.of_due (hd : Due now o s)
    (hfit : Store.fitsId (Store.nextId (s.events.map (·.id))) = false) : Idle now o s :=
  Idle.of_no_event fun e s' h => by
    rw [← Bool.not_eq_true, ← hd.marks_iff] at hfit
    exact hfit ⟨e, s', h⟩

theorem Idle.leaves (hi : Idle now o s) : leaves (markOverdue now o s) = s := by
  rcases hi with h | ⟨err, h⟩ <;> rw [h] <;> rfl

theorem marked_iff {r : Except EngineError (Option Event)} :
    Marked r = true ↔ ∃ e, r = .ok (some e) := by
  constructor
  · intro h
    match r, h with
    | .ok (some e), _ => exact ⟨e, rfl⟩
  · rintro ⟨e, rfl⟩
    rfl

theorem Idle.of_outcome {r : Except EngineError (Option Event)}
    (h : (outcome (markOverdue now o s)).1 = r) (hr : Marked r = false) : Idle now o s :=
  Idle.of_no_event fun e s' hm => by
    rw [hm] at h
    rw [← h] at hr
    cases hr

theorem markOverdue_records (now : Instant) (o : Int) (s : Store) :
    (leaves (markOverdue now o s)).records = s.records := by
  rcases markOverdue_leaves now o s with h | ⟨e, h⟩
  · rw [h]
  · obtain ⟨cur, -, -, -, -, -, -, -, hs'⟩ := markOverdue_ok_store h
    rw [hs']

/-- Between `t` and `u` order `o` was left alone: it stands as it stood, and events were only
added. -/
structure Spared (t : Store) (o : Int) (u : Store) : Prop where
  frozen : Frozen t o u
  grown : t.events <+: u.events

namespace Spared

theorem refl (t : Store) (o : Int) : Spared t o t := ⟨⟨rfl, rfl, rfl⟩, List.prefix_refl _⟩

theorem trans (h : Spared s o t) (h' : Spared t o u) : Spared s o u :=
  ⟨h.frozen.trans h'.frozen, h.grown.trans h'.grown⟩

theorem of_markOverdue {o' : Int} (hne : o' ≠ o) : Spared s o (leaves (markOverdue now o' s)) := by
  refine ⟨Frozen.of_markOverdue hne, ?_⟩
  rcases markOverdue_leaves now o' s with h | ⟨e, h⟩
  · simp only [h, List.prefix_refl]
  · obtain ⟨cur, -, -, -, -, -, -, -, hs'⟩ := markOverdue_ok_store h
    rw [hs']
    exact List.prefix_append _ _

end Spared

theorem Idle.spared (hi : Idle now o t) (hs : Spared t o u) : Idle now o u := by
  by_cases hd : Due now o t
  · -- the mark read what leads to an append and still wrote nothing: the next id did not fit
    have hfit : Store.fitsId (Store.nextId (t.events.map (·.id))) = false := by
      rw [← Bool.not_eq_true, ← hd.marks_iff]
      rintro ⟨e, t', h⟩
      rcases hi with h' | ⟨err, h'⟩ <;> rw [h'] at h <;> cases h
    exact Idle.of_due (hd.frozen hs.frozen) (Store.fitsId_nextId_of_prefix hs.grown hfit)
  · exact Idle.of_not_due fun hu => hd (hu.frozen hs.frozen.symm)

/-- Marking `os` in turn from `t`: each order of the list is marked once, on a store where it
stands as in `t`, and the run leaves it as that mark did; the orders off the list are left
alone. -/
theorem marks_each (now : Instant) {os : List Int} (hnodup : os.Nodup) (t : Store) :
    (marks now os t).1.map Prod.fst = os ∧ (∀ o ∉ os, Spared t o (marks now os t).2) ∧
      ∀ o r, (o, r) ∈ (marks now os t).1 → ∃ tᵢ, Spared t o tᵢ ∧
        (outcome (markOverdue now o tᵢ)).1 = r ∧
        Spared (leaves (markOverdue now o tᵢ)) o (marks now os t).2 := by
  induction os generalizing t with
  | nil => exact ⟨rfl, fun o _ => Spared.refl t o, fun o r h => absurd h List.not_mem_nil⟩
  | cons o₁ os ih =>
    obtain ⟨hnot, hnodup⟩ := List.nodup_cons.1 hnodup
    -- the rest of the list is marked from the store the first mark leaves
    obtain ⟨hfst, hoff, heach⟩ := ih hnodup (leaves (markOverdue now o₁ t))
    refine ⟨congrArg (o₁ :: ·) hfst, fun o ho => ?_, fun o r hr => ?_⟩
    · rw [List.mem_cons, not_or] at ho
      obtain ⟨hne, ho⟩ := ho
      exact (Spared.of_markOverdue (Ne.symm hne)).trans (hoff o ho)
    · rcases List.mem_cons.1 hr with hfirst | hr
      · obtain ⟨rfl, rfl⟩ := Prod.mk.inj hfirst
        exact ⟨t, Spared.refl t o, rfl, hoff o hnot⟩
      · obtain ⟨tᵢ, hsp, hout, hafter⟩ := heach o r hr
        have ho : o ∈ os := hfst ▸ List.mem_map_of_mem (f := Prod.fst) hr
        have hne : o₁ ≠ o := fun h => hnot (h ▸ ho)
        exact ⟨tᵢ, (Spared.of_markOverdue hne).trans hsp, hout, hafter⟩

theorem marks_idle {os : List Int} (hidle : ∀ o ∈ os, Idle now o t) :
    (marks now os t).2 = t ∧ ((marks now os t).1.countP fun p => Marked p.2) = 0 := by
  induction os with
  | nil => exact ⟨rfl, rfl⟩
  | cons o os ih =>
    obtain ⟨hrest, hcount⟩ := ih fun o' ho' => hidle o' (List.mem_cons_of_mem o ho')
    rcases hidle o List.mem_cons_self with h | ⟨err, h⟩ <;>
    · simp only [marks, h, outcome, List.countP_cons]
      exact ⟨hrest, by rw [hcount]; rfl⟩

theorem exists_ended_iff {rows : List RecordRow} {recs : List EquipmentRecord}
    (h : List.Forall₂ (fun x rec => x.read = .ok rec) rows recs) :
    (∃ x ∈ rows, x.endDate < now) ↔ ∃ rec ∈ recs, rec.endDate < now := by
  induction h with
  | nil => simp
  | cons hx _ ih => simp [(RecordRow.id_of_read hx).2, ih]

theorem earliest_ended_eq_none {recs : List EquipmentRecord} :
    earliest ((recs.map (·.endDate)).filter (· < now)) = none ↔
      ¬∃ rec ∈ recs, rec.endDate < now := by
  cases h : (recs.map (·.endDate)).filter (· < now) with
  | nil =>
    simp only [earliest, true_iff]
    rintro ⟨rec, hrec, hlt⟩
    have hmem : rec.endDate ∈ (recs.map (·.endDate)).filter (· < now) :=
      List.mem_filter.2 ⟨List.mem_map_of_mem hrec, by simpa using hlt⟩
    rw [h] at hmem
    cases hmem
  | cons d ds =>
    simp only [earliest, reduceCtorEq, false_iff, not_not]
    have hmem : d ∈ (recs.map (·.endDate)).filter (· < now) := by
      rw [h]
      exact List.mem_cons_self
    obtain ⟨hd, hlt⟩ := List.mem_filter.1 hmem
    obtain ⟨rec, hrec, rfl⟩ := List.mem_map.1 hd
    exact ⟨rec, hrec, by simpa using hlt⟩

theorem ended_of_marked {e : Event} (h : markOverdue now o t = .ok (some e) u) :
    ∃ x ∈ t.recordRowsOf o, x.endDate < now := by
  obtain ⟨cur, recs, ended, -, -, hrecs, hend, -⟩ := markOverdue_eq_ok_some h
  have hsome : ∃ rec ∈ recs, rec.endDate < now := by
    by_contra hnone
    rw [← earliest_ended_eq_none, hend] at hnone
    cases hnone
  exact (exists_ended_iff (Store.recordsOf_eq_ok hrecs).2).2 hsome

theorem not_ended_of_none (h : markOverdue now o t = .ok none u) {x₀ : EventRow}
    (hcur : t.currentRow o = some x₀) (hrun : x₀.status = OrderStatus.inProgress.name) :
    ¬∃ x ∈ t.recordRowsOf o, x.endDate < now := by
  rcases markOverdue_none_reads h with hnone | ⟨cur, hc, hst | ⟨recs, hrecs, hend⟩⟩
  · rw [Store.currentRow_eq_none.2 (Store.currentStatus_eq_ok_none.1 hnone).1] at hcur
    cases hcur
  · -- the status read is that of the current event, which is running
    have hstatus := Store.statusOf_of_currentStatus hc
    rw [Store.statusOf, hcur, Option.bind_some, hrun, OrderStatus.ofName?_name] at hstatus
    exact absurd (Option.some.inj hstatus).symm hst
  · exact fun hx => earliest_ended_eq_none.1 hend ((exists_ended_iff (Store.recordsOf_eq_ok hrecs).2).1 hx)

section Marks

variable {os : List Int}

theorem exists_mem_marks (now : Instant) (hnodup : os.Nodup) (ho : o ∈ os) :
    ∃ r, (o, r) ∈ (marks now os s).1 := by
  rw [← (marks_each now hnodup s).1] at ho
  obtain ⟨p, hp, rfl⟩ := List.mem_map.1 ho
  exact ⟨p.2, hp⟩

theorem marks_marked (hnodup : os.Nodup) {e : Event} (he : (o, .ok (some e)) ∈ (marks now os s).1) :
    e.status = .overdue ∧ e.createdAt = now ∧ e.changedBy = none ∧
      (marks now os s).2.eventsOf o = s.eventsOf o ++ [e.row] ∧ ∀ x ∈ s.eventsOf o, x.id < e.id := by
  obtain ⟨tᵢ, hsp, hout, hafter⟩ := (marks_each now hnodup s).2.2 o _ he
  obtain ⟨cur, -, -, hid, horder, hst, hat, hby, hs'⟩ := markOverdue_ok_store (eq_of_outcome_ok hout)
  have hev : (leaves (markOverdue now o tᵢ)).eventsOf o = tᵢ.eventsOf o ++ [e.row] :=
    Store.eventsOf_append_self horder (by rw [hs'])
  refine ⟨hst, hat, hby, by rw [hafter.frozen.events, hev, hsp.frozen.events], fun x hx => ?_⟩
  rw [← hsp.frozen.events] at hx
  rw [hid]
  exact Store.lt_nextId (List.mem_map_of_mem (Store.mem_eventsOf.1 hx).1)

theorem marks_unmarked (hnodup : os.Nodup) (hno : ∀ e, (o, .ok (some e)) ∉ (marks now os s).1) :
    (marks now os s).2.eventsOf o = s.eventsOf o := by
  by_cases ho : o ∈ os
  · obtain ⟨r, hr⟩ := exists_mem_marks now hnodup ho
    obtain ⟨tᵢ, hsp, hout, hafter⟩ := (marks_each now hnodup s).2.2 o r hr
    have hm : Marked r = false := Bool.eq_false_iff.2 fun hm => by
      obtain ⟨e, rfl⟩ := marked_iff.1 hm
      exact hno e hr
    rw [hafter.frozen.events, (Idle.of_outcome hout hm).leaves, hsp.frozen.events]
  · exact ((marks_each now hnodup s).2.1 o ho).frozen.events

theorem marks_records : (marks now os s).2.records = s.records :=
  marks_preserves (fun t => t.records = s.records) (fun o _ t ht => (markOverdue_records now o t).trans ht)
    rfl

theorem marks_exact (hk : (s.events.map (·.id)).Nodup) (hnodup : os.Nodup)
    (hok : ∀ p ∈ (marks now os s).1, ∃ r, p.2 = .ok r) {x₀ : EventRow} (hlast : s.LatestEvent o x₀)
    (hrun : x₀.status = OrderStatus.inProgress.name) (ho : o ∈ os) :
    (∃ e, (o, .ok (some e)) ∈ (marks now os s).1) ↔ ∃ x ∈ s.recordRowsOf o, x.endDate < now := by
  constructor
  · rintro ⟨e, he⟩
    obtain ⟨tᵢ, hsp, hout, -⟩ := (marks_each now hnodup s).2.2 o _ he
    rw [← hsp.frozen.records]
    exact ended_of_marked (eq_of_outcome_ok hout)
  · intro hx
    obtain ⟨r, hr⟩ := exists_mem_marks now hnodup ho
    obtain ⟨tᵢ, hsp, hout, -⟩ := (marks_each now hnodup s).2.2 o r hr
    obtain ⟨v, hv⟩ := hok _ hr
    cases hv
    cases v with
    | some e => exact ⟨e, hr⟩
    | none =>
      have hcur : tᵢ.currentRow o = some x₀ := by
        rw [hsp.frozen.currentRow]
        exact (Store.currentRow_eq_some hk).2 hlast
      rw [← hsp.frozen.records] at hx
      exact absurd hx (not_ended_of_none (eq_of_outcome_ok hout) hcur hrun)

theorem marks_again (hnodup : os.Nodup)
    (hlisted : ∀ o x, s.LatestEvent o x → x.status = OrderStatus.inProgress.name → o ∈ os)
    (hnow : ∀ o e, (o, .ok (some e)) ∈ (marks now os s).1 → s.NotBehind o now) {o : Int}
    (ho : o ∈ (marks now os s).2.orderIdsWithStatus OrderStatus.inProgress.name) :
    Idle now o (marks now os s).2 := by
  obtain ⟨x₁, hlast, hname⟩ := Store.mem_orderIdsWithStatus.1 ho
  by_cases hin : o ∈ os
  · obtain ⟨r, hr⟩ := exists_mem_marks now hnodup hin
    obtain ⟨tᵢ, hsp, hout, hafter⟩ := (marks_each now hnodup s).2.2 o r hr
    cases hm : Marked r
    · -- unmarked: its mark wrote nothing, and the marks after it left the order alone
      have hidle := Idle.of_outcome hout hm
      rw [hidle.leaves] at hafter
      exact hidle.spared hafter
    · -- marked: its `Overdue` event is now its newest, so the order is no longer running
      obtain ⟨e, rfl⟩ := marked_iff.1 hm
      obtain ⟨hst, hat, -, hev, hid⟩ := marks_marked hnodup hr
      have hnew : (marks now os s).2.Newest o e.row :=
        Store.newest_of_eventsOf (by rw [show e.row.createdAt = now from hat]; exact hnow o e hr)
          hid hev
      rw [hnew.latestEvent_iff] at hlast
      rw [hlast, show e.row.status = e.status.name from rfl, hst] at hname
      exact absurd hname (by decide)
  · -- an order off the list kept its events, so it was not running before either
    have hev := ((marks_each now hnodup s).2.1 o hin).frozen.events
    have hlast₀ : s.LatestEvent o x₁ := by
      rw [Store.LatestEvent, ← hev]
      exact hlast
    exact absurd (hlisted o x₁ hlast₀ hname) hin

end Marks

/-- What a sweep from `s` at `now` that counted `n` and left `s'` did, with `rs` each order it
marked and what the mark returned. -/
structure Swept (now : Instant) (s : Store) (n : Nat) (s' : Store)
    (rs : List (Int × Except EngineError (Option Event))) : Prop where
  orders : rs.map Prod.fst = s.orderIdsWithStatus OrderStatus.inProgress.name
  made : ∀ o r, (o, r) ∈ rs → ∃ t, Spared s o t ∧ (outcome (markOverdue now o t)).1 = r
  count : n = rs.countP fun p => Marked p.2
  marked : ∀ o e, (o, .ok (some e)) ∈ rs → e.status = .overdue ∧ e.createdAt = now ∧
    e.changedBy = none ∧ s'.eventsOf o = s.eventsOf o ++ [e.row]
  unmarked : ∀ o, (∀ e, (o, .ok (some e)) ∉ rs) → s'.eventsOf o = s.eventsOf o
  records : s'.records = s.records
  exact : (∀ p ∈ rs, ∃ r, p.2 = .ok r) →
    ∀ o ∈ s.orderIdsWithStatus OrderStatus.inProgress.name,
      (∃ e, (o, .ok (some e)) ∈ rs) ↔ ∃ x ∈ s.recordRowsOf o, x.endDate < now
  again : (∀ o e, (o, .ok (some e)) ∈ rs → s.NotBehind o now) → sweepOverdue now s' = .ok 0 s'

/-- A sweep marks each running order once, on a store where it stands as at the start, and goes
on past a failed mark; it counts the orders marked, each of which gains exactly one `Overdue`
event, while every other order keeps its events and no record changes. With no failed mark, the
marked orders are exactly the running orders with a record ended before `now`. A second sweep at
the same clock writes nothing and counts none, provided the clock was not behind any order the
first marked. -/
theorem sweep_marks_running_orders_once {n : Nat} (hk : (s.events.map (·.id)).Nodup)
    (h : sweepOverdue now s = .ok n s') : ∃ rs, Swept now s n s' rs := by
  have hnodup := ((Store.orderIdsWithStatus_sorted hk OrderStatus.inProgress.name).imp
    fun hlt => Int.ne_of_lt hlt : (s.orderIdsWithStatus OrderStatus.inProgress.name).Nodup)
  rw [sweepOverdue_eq] at h
  obtain ⟨rfl, rfl⟩ := EStateM.Result.ok.inj h
  refine ⟨_, (marks_each now hnodup s).1, fun o r hr => ?_, rfl, fun o e he => ?_,
    fun o hno => marks_unmarked hnodup hno, marks_records, fun hok o ho => ?_, fun hnow => ?_⟩
  · obtain ⟨t, hsp, hout, -⟩ := (marks_each now hnodup s).2.2 o r hr
    exact ⟨t, hsp, hout⟩
  · obtain ⟨hst, hat, hby, hev, -⟩ := marks_marked hnodup he
    exact ⟨hst, hat, hby, hev⟩
  · obtain ⟨x₀, hlast, hrun⟩ := Store.mem_orderIdsWithStatus.1 ho
    exact marks_exact hk hnodup hok hlast hrun ho
  · -- every mark of the second sweep writes nothing
    have hidle := fun o (ho : o ∈ _) => marks_again hnodup
      (fun o x hx hst => Store.mem_orderIdsWithStatus.2 ⟨x, hx, hst⟩) hnow ho
    obtain ⟨hsame, hcount⟩ := marks_idle hidle
    rw [sweepOverdue_eq, hcount, hsame]

theorem sweep_marks_running_orders_once_rental :
    (rentalStore.events.map (·.id)).Nodup ∧ ∃ s', sweepOverdue ⟨1676116800, 0⟩ rentalStore = .ok 1 s' ∧
      ∃ rs, Swept ⟨1676116800, 0⟩ rentalStore 1 s' rs := by
  have hids : rentalStore.orderIdsWithStatus OrderStatus.inProgress.name = [10] := by decide +kernel
  have h : sweepOverdue ⟨1676116800, 0⟩ rentalStore =
      .ok 1 (marks ⟨1676116800, 0⟩ [10] rentalStore).2 := by
    rw [sweepOverdue_eq, hids]
    rfl
  exact ⟨by decide, _, h, sweep_marks_running_orders_once (by decide) h⟩

def lateStore : Store where
  schema := .migrations
  users := [⟨1, "user1", "User"⟩]
  equipment := [{ id := 100 }]
  orders := [{ id := 10, userId := 1 }]
  events := [⟨1, 10, "InProgress", none, ⟨1677661200, 0⟩, none⟩]
  records := [⟨1, 100, "InUse", ⟨1675252800, 0⟩, ⟨1676030400, 0⟩, some 10⟩]

/-- With the clock behind the order's history the `Overdue` event of the first sweep is not the
order's newest, the order is still listed as running, and a second sweep marks it again. -/
theorem sweep_behind_clock_marks_again :
    ¬lateStore.NotBehind 10 ⟨1676462400, 0⟩ ∧
    ∃ s₁ s₂, sweepOverdue ⟨1676462400, 0⟩ lateStore = .ok 1 s₁ ∧
      sweepOverdue ⟨1676462400, 0⟩ s₁ = .ok 1 s₂ ∧ s₂.events.length = 3 := by
  have hids : lateStore.orderIdsWithStatus OrderStatus.inProgress.name = [10] := by decide +kernel
  have hids₁ : (marks ⟨1676462400, 0⟩ [10] lateStore).2.orderIdsWithStatus
      OrderStatus.inProgress.name = [10] := by decide +kernel
  have h : sweepOverdue ⟨1676462400, 0⟩ lateStore =
      .ok 1 (marks ⟨1676462400, 0⟩ [10] lateStore).2 := by
    rw [sweepOverdue_eq, hids]
    rfl
  have h₁ : sweepOverdue ⟨1676462400, 0⟩ (marks ⟨1676462400, 0⟩ [10] lateStore).2 =
      .ok 1 (marks ⟨1676462400, 0⟩ [10] (marks ⟨1676462400, 0⟩ [10] lateStore).2).2 := by
    rw [sweepOverdue_eq, hids₁]
    rfl
  exact ⟨by decide, _, _, h, h₁, rfl⟩

end RentalStatus
