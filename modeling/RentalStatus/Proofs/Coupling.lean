import RentalStatus.Proofs.Runs

namespace RentalStatus

/-- The status the records of an order hold while the order is in a status: booked until the
rental starts, in use while it runs or is overdue, available once it is rejected or closed.
A blocked order has none. -/
def heldFor : OrderStatus → Option EquipmentStatus
  | .inReview | .approved | .prepared => some .booked
  | .inProgress | .overdue => some .inUse
  | .rejected | .closed => some .available
  | .blocked => none

def EquipmentEffect.statusAfter : EquipmentEffect → EquipmentStatus → EquipmentStatus
  | .unchanged, e => e
  | .setAll e, _ => e
  | .release, _ => .available

namespace Rule

/-- Whether the strict policy lets anyone change an order from `source` to `target`: its owner
as a cancellation, or a role the table lists. -/
def opens (source target : OrderStatus) : Bool :=
  ownerCancels source target || !(roles source target).isEmpty

theorem opens_of_authorize {p : Principal} {owner : Int} {source target : OrderStatus}
    (h : authorize .strict p owner (rule source target) = true) : opens source target = true := by
  by_contra hshut
  simp only [opens, Bool.or_eq_true, Bool.not_eq_true', not_or, Bool.not_eq_false] at hshut
  -- neither the owner path nor a listed role is open, and the strict policy refuses the rest
  simp [authorize, rule, hasListedRoles, hshut.1, hshut.2] at h

theorem not_opens_rejected (t : OrderStatus) : opens .rejected t = false := by
  cases t <;> rfl

theorem not_opens_closed (t : OrderStatus) : opens .closed t = false := by
  cases t <;> rfl

theorem heldFor_opens (source target : OrderStatus) (h : opens source target = true) :
    heldFor source = none ∨
      (heldFor source).map (effectFor target).statusAfter = heldFor target := by
  revert h
  cases source <;> cases target <;> decide

/-- Each change the strict policy opens takes the records of an order from the status its
source holds them in to the one its target holds them in. -/
theorem heldFor_of_opens {source target : OrderStatus} (h : opens source target = true)
    {e : EquipmentStatus} (he : heldFor source = some e) :
    heldFor target = some ((effectFor target).statusAfter e) := by
  rcases heldFor_opens source target h with hnone | hmap
  · rw [hnone] at he
    cases he
  · rw [← hmap, he]
    rfl

end Rule

namespace RecordRow

variable {x : RecordRow} {t c : OrderStatus} {role : Role}

@[simp] theorem afterChange_id : (x.afterChange t c role).id = x.id := by
  unfold afterChange
  split <;> rfl

@[simp] theorem afterChange_orderId : (x.afterChange t c role).orderId = x.orderId := by
  unfold afterChange
  split <;> rfl

@[simp] theorem afterChange_startDate : (x.afterChange t c role).startDate = x.startDate := by
  unfold afterChange
  split <;> rfl

theorem afterChange_status {e : EquipmentStatus} (h : x.status = e.name) :
    (x.afterChange t c role).status = ((Rule.effectFor t).statusAfter e).name := by
  unfold afterChange
  cases Rule.effectFor t <;> simp [EquipmentEffect.statusAfter, h]

theorem afterChange_endDate :
    (x.afterChange t c role).endDate = x.endDate ∨
      t = .closed ∧ (x.afterChange t c role).endDate = x.endDate.addDay := by
  unfold afterChange
  cases heff : Rule.effectFor t with
  | unchanged => exact .inl rfl
  | setAll st => exact .inl rfl
  | release =>
    have ht : t = .closed := by cases t <;> simp_all [Rule.effectFor]
    by_cases hext : Equipment.extendsBooking c role = true <;> simp [hext, ht]

end RecordRow

namespace Store

variable {s t : Store} {o : Int}

/-- The status of an order's current event, when its stored text names one. -/
def statusOf (s : Store) (o : Int) : Option OrderStatus :=
  (s.currentRow o).bind fun r => OrderStatus.ofName? r.status

theorem statusOf_of_currentStatus {cur : CurrentStatus}
    (h : currentStatus o s = .ok (some cur) s) : s.statusOf o = some cur.event.status := by
  obtain ⟨r, hr, hread⟩ := currentRow_of_currentStatus h
  rw [statusOf, hr, Option.bind_some, ← EventRow.row_of_read hread]
  exact OrderStatus.ofName?_name _

theorem statusOf_congr (h : t.eventsOf o = s.eventsOf o) : t.statusOf o = s.statusOf o := by
  simp only [statusOf, currentRow, h]

theorem Newest.statusOf_eq {r : EventRow} (h : s.Newest o r) {st : OrderStatus}
    (hst : r.status = st.name) : s.statusOf o = some st := by
  rw [statusOf, h.currentRow_eq, Option.bind_some, hst, OrderStatus.ofName?_name]

/-- Record `x` of store `s` is record `x₀` as the strict policy keeps it: the same row of the
same order from the same start date, ending when it ended or, once the order is closed, one day
later. -/
structure KeptRecord (s : Store) (x₀ x : RecordRow) : Prop where
  id : x.id = x₀.id
  orderId : x.orderId = x₀.orderId
  startDate : x.startDate = x₀.startDate
  endDate : x.endDate = x₀.endDate ∨
    ∃ o, x₀.orderId = some o ∧ s.statusOf o = some .closed ∧ x.endDate = x₀.endDate.addDay

theorem KeptRecord.append {s' : Store} {x₀ x y : RecordRow} (hx : s.KeptRecord x₀ x)
    {st st' : OrderStatus} (hst : s.statusOf o = some st) (hopen : st ≠ .closed)
    (hnew : s'.statusOf o = some st') (hothers : ∀ o', o' ≠ o → s'.eventsOf o' = s.eventsOf o')
    (hy : y.id = x.id ∧ y.orderId = x.orderId ∧ y.startDate = x.startDate ∧
      (y.endDate = x.endDate ∨ st' = .closed ∧ y.endDate = x.endDate.addDay)) :
    s'.KeptRecord x₀ (if x.orderId = some o then y else x) := by
  by_cases hxo : x.orderId = some o
  · rw [if_pos hxo]
    obtain ⟨hid, hord, hstart, hend⟩ := hy
    -- the order was not closed, so the record still ends when it did at the start
    have hend₀ : x.endDate = x₀.endDate := by
      rcases hx.endDate with h | ⟨o', ho', hclosed, -⟩
      · exact h
      · rw [← hx.orderId, hxo, Option.some.injEq] at ho'
        subst ho'
        exact absurd (Option.some.inj (hst.symm.trans hclosed)) hopen
    refine ⟨hid.trans hx.id, hord.trans hx.orderId, hstart.trans hx.startDate, ?_⟩
    rcases hend with h | ⟨rfl, h⟩
    · exact .inl (h.trans hend₀)
    · exact .inr ⟨o, hx.orderId.symm.trans hxo, hnew, by rw [h, hend₀]⟩
  · rw [if_neg hxo]
    refine ⟨hx.id, hx.orderId, hx.startDate, ?_⟩
    rcases hx.endDate with h | ⟨o', ho', hclosed, h⟩
    · exact .inl h
    · have hne : o' ≠ o := fun h' => hxo (by rw [hx.orderId, ho', h'])
      exact .inr ⟨o', ho', (statusOf_congr (hothers o' hne)).trans hclosed, h⟩

end Store

/-- Store `s`, reached from `s₀`, couples orders and equipment as the strict policy does: every
order of `s₀` is in a status that is not Blocked and whose `heldFor` its records all hold, and
every record of `s₀` is kept. -/
structure Coupled (s₀ s : Store) : Prop where
  status : ∀ o, s₀.hasOrder o = true → ∃ st e, s.statusOf o = some st ∧ heldFor st = some e ∧
    ∀ x ∈ s.recordRowsOf o, x.status = e.name
  records : List.Forall₂ s.KeptRecord s₀.records s.records

/-- A store in which every order has just been placed: its history is one event in review, and
its records are booked. -/
structure Placed (s : Store) : Prop where
  history : ∀ o, s.hasOrder o = true →
    ∃ r, s.eventsOf o = [r] ∧ r.status = OrderStatus.inReview.name
  booked : ∀ o, s.hasOrder o = true →
    ∀ x ∈ s.recordRowsOf o, x.status = EquipmentStatus.booked.name

def Call.Clocked : Call → Store → Prop
  | .change now req, s => s.NotBehind req.orderId now
  | .mark now o, s => s.NotBehind o now
  | .sweep now, s => ∀ o ∈ s.orderIdsWithStatus OrderStatus.inProgress.name, s.NotBehind o now

instance : (c : Call) → (s : Store) → Decidable (c.Clocked s)
  | .change now req, s => inferInstanceAs (Decidable (s.NotBehind req.orderId now))
  | .mark now o, s => inferInstanceAs (Decidable (s.NotBehind o now))
  | .sweep now, s => inferInstanceAs
      (Decidable (∀ o ∈ s.orderIdsWithStatus OrderStatus.inProgress.name, s.NotBehind o now))

theorem map_eq_of_forall₂ {α β γ : Type} {f : α → γ} {g : β → γ} {R : α → β → Prop}
    (hR : ∀ a b, R a b → g b = f a) :
    ∀ {l₁ : List α} {l₂ : List β}, List.Forall₂ R l₁ l₂ → l₂.map g = l₁.map f
  | _, _, .nil => rfl
  | _, _, .cons hab hrest => by
    rw [List.map_cons, List.map_cons, hR _ _ hab, map_eq_of_forall₂ hR hrest]

theorem Placed.coupled {s : Store} (h : Placed s) : Coupled s s := by
  refine ⟨fun o ho => ?_, List.forall₂_same.2 fun x _ => ⟨rfl, rfl, rfl, .inl rfl⟩⟩
  obtain ⟨r, hr, hst⟩ := h.history o ho
  refine ⟨.inReview, .booked, ?_, rfl, h.booked o ho⟩
  rw [Store.statusOf, Store.currentRow, hr]
  show OrderStatus.ofName? r.status = _
  rw [hst, OrderStatus.ofName?_name]

namespace Coupled

variable {s₀ s s' : Store} {now : Instant}

theorem recordIds (hc : Coupled s₀ s) : s.records.map (·.id) = s₀.records.map (·.id) :=
  map_eq_of_forall₂ (fun _ _ h => h.id) hc.records

theorem append (hc : Coupled s₀ s) {o : Int} {st t : OrderStatus}
    (hst : s.statusOf o = some st) (hopen : st ≠ .closed) (hnew : s'.statusOf o = some t)
    (hothers : ∀ o', o' ≠ o → s'.eventsOf o' = s.eventsOf o') (g : RecordRow → RecordRow)
    (hrecords : s'.records = s.records.map fun x => if x.orderId = some o then g x else x)
    (hkeep : ∀ x, (g x).id = x.id ∧ (g x).orderId = x.orderId ∧ (g x).startDate = x.startDate ∧
      ((g x).endDate = x.endDate ∨ t = .closed ∧ (g x).endDate = x.endDate.addDay))
    (hheld : ∀ e, heldFor st = some e →
      ∃ e', heldFor t = some e' ∧ ∀ x, x.status = e.name → (g x).status = e'.name) :
    Coupled s₀ s' := by
  have hg : ∀ x, (g x).orderId = x.orderId := fun x => (hkeep x).2.1
  constructor
  · intro o' ho'
    obtain ⟨st', e, hst', he, hrows⟩ := hc.status o' ho'
    by_cases hoo : o' = o
    · subst hoo
      obtain rfl : st' = st := Option.some.inj (hst'.symm.trans hst)
      obtain ⟨e', he', hge⟩ := hheld e he
      refine ⟨t, e', hnew, he', fun x hx => ?_⟩
      rw [Store.recordRowsOf_map_self g hg hrecords] at hx
      obtain ⟨y, hy, rfl⟩ := List.mem_map.1 hx
      exact hge y (hrows y hy)
    · refine ⟨st', e, (Store.statusOf_congr (hothers o' hoo)).trans hst', he, ?_⟩
      rw [Store.recordRowsOf_map_of_ne (Ne.symm hoo) g hg hrecords]
      exact hrows
  · rw [hrecords, List.forall₂_map_right_iff]
    exact hc.records.imp fun {_ x} hx => hx.append hst hopen hnew hothers (hkeep x)

theorem change {req : StatusRequest} (hk : (s₀.records.map (·.id)).Nodup) (hc : Coupled s₀ s)
    (hnow : s.NotBehind req.orderId now) : Coupled s₀ (leaves (addStatus .strict now req s)) := by
  rcases addStatus_leaves .strict now req s with h | ⟨e, h⟩
  · rw [h]
    exact hc
  · obtain ⟨t, cur, -, hcur, hauth, he, hs'⟩ := addStatus_ok_store (hc.recordIds ▸ hk) h
    have hopen := Rule.opens_of_authorize hauth
    have hevents : (leaves (addStatus .strict now req s)).events = s.events ++ [e.row] := by
      rw [hs']
    have horder : e.row.orderId = req.orderId := by rw [he]; rfl
    have hnew := Store.newest_of_append (by rw [horder, he]; exact hnow)
      (fun x hx => by rw [he]; exact Store.lt_nextId (List.mem_map_of_mem hx)) hevents
    rw [horder] at hnew
    refine hc.append (Store.statusOf_of_currentStatus hcur) (fun hcl => ?_)
      (hnew.statusOf_eq (by rw [he]; rfl))
      (fun o' ho' => Store.eventsOf_append_of_ne (horder.trans_ne (Ne.symm ho')) hevents)
      (fun x => x.afterChange t cur.event.status req.principal.role) (by rw [hs'])
      (fun x => ⟨by simp, by simp, by simp, RecordRow.afterChange_endDate⟩)
      (fun e he => ⟨_, Rule.heldFor_of_opens hopen he, fun x hx => RecordRow.afterChange_status hx⟩)
    rw [hcl, Rule.not_opens_closed] at hopen
    cases hopen

theorem mark {o : Int} (hc : Coupled s₀ s) (hnow : s.NotBehind o now) :
    Coupled s₀ (leaves (markOverdue now o s)) := by
  rcases markOverdue_leaves now o s with h | ⟨e, h⟩
  · rw [h]
    exact hc
  · obtain ⟨cur, hcur, hrun, hid, rfl, hover, hat, -, hs'⟩ := markOverdue_ok_store h
    have hevents : (leaves (markOverdue now e.orderId s)).events = s.events ++ [e.row] := by
      rw [hs']
    have hnew : (leaves (markOverdue now e.orderId s)).Newest e.row.orderId e.row :=
      Store.newest_of_append (by rw [← hat] at hnow; exact hnow)
        (fun x hx => by
          show x.id < e.id
          rw [hid]
          exact Store.lt_nextId (List.mem_map_of_mem hx)) hevents
    -- an overdue rental keeps its equipment in use, as the running one did
    refine hc.append (Store.statusOf_of_currentStatus hcur) (by rw [hrun]; decide)
      (hnew.statusOf_eq (show e.status.name = _ by rw [hover]))
      (fun o' ho' => Store.eventsOf_append_of_ne (Ne.symm ho') hevents) id (by rw [hs']; simp)
      (fun x => ⟨rfl, rfl, rfl, .inl rfl⟩) (fun e' he' => ⟨e', ?_, fun x hx => hx⟩)
    rw [hrun] at he'
    rw [← he']
    rfl

theorem sweep (hc : Coupled s₀ s)
    (hnow : ∀ o ∈ s.orderIdsWithStatus OrderStatus.inProgress.name, s.NotBehind o now) :
    Coupled s₀ (leaves (sweepOverdue now s)) := by
  rw [sweepOverdue_eq, leaves_ok]
  -- each mark dates its event `now`, so the clock stays not behind the orders still to mark
  have hmarks : Coupled s₀ (marks now (s.orderIdsWithStatus OrderStatus.inProgress.name) s).2 ∧
      ∀ o ∈ s.orderIdsWithStatus OrderStatus.inProgress.name,
        (marks now (s.orderIdsWithStatus OrderStatus.inProgress.name) s).2.NotBehind o now :=
    marks_preserves
      (fun t => Coupled s₀ t ∧ ∀ o ∈ s.orderIdsWithStatus OrderStatus.inProgress.name,
        t.NotBehind o now)
      (fun o ho t ht => ⟨ht.1.mark (ht.2 o ho), fun o' ho' => notBehind_markOverdue (ht.2 o' ho')⟩)
      ⟨hc, hnow⟩
  exact hmarks.1

theorem call (hk : (s₀.records.map (·.id)).Nodup) (hc : Coupled s₀ s) {c : Call}
    (hcl : c.Clocked s) : Coupled s₀ (c.after .strict s) := by
  cases c with
  | change now req => exact hc.change hk hcl
  | mark now o => exact hc.mark hcl
  | sweep now => exact hc.sweep hcl

end Coupled

/-- Under the strict policy, from a store where every order has just been placed, every run of
status changes, overdue marks and sweeps, made by any principals with clocks never behind the
orders they append to, keeps each order coupled with its equipment: booked records before the
rental starts, records in use while it runs or is overdue, available records once it is
rejected or closed, never a blocked order, and record dates as they were but for one buffer day
after a closure. -/
theorem strict_runs_keep_equipment_coupled {s₀ s : Store} {cs : List Call} (hk : s₀.Keyed)
    (hplaced : Placed s₀) (hrun : Run .strict Call.Clocked s₀ cs s) : Coupled s₀ s :=
  hrun.preserves (Coupled s₀) (fun _ _ hcl hc => hc.call hk.recordIds hcl) hplaced.coupled

def placedStore : Store where
  schema := .migrations
  users := [⟨1, "user1", "User"⟩, ⟨2, "user2", "Manager"⟩]
  equipment := [{ id := 100 }, { id := 101 }]
  orders := [{ id := 10, userId := 1 }]
  events := [⟨1, 10, "InReview", none, ⟨1673773200, 0⟩, some 1⟩]
  records := [⟨1, 100, "Booked", ⟨1675252800, 0⟩, ⟨1676030400, 0⟩, some 10⟩,
    ⟨2, 101, "Booked", ⟨1675252800, 0⟩, ⟨1676030400, 0⟩, some 10⟩]

theorem placedStore_keyed : placedStore.Keyed := ⟨by decide, by decide, by decide, by decide⟩

theorem placedStore_placed : Placed placedStore := by
  have hten : ∀ o, placedStore.hasOrder o = true → o = 10 := fun o ho => by
    have h10 : (10 : Int) = o := by simpa [Store.hasOrder, placedStore] using ho
    exact h10.symm
  refine ⟨fun o ho => ?_, fun o ho => ?_⟩
  · obtain rfl := hten o ho
    exact ⟨_, rfl, rfl⟩
  · obtain rfl := hten o ho
    intro x hx
    have hrows : placedStore.recordRowsOf 10 = placedStore.records := rfl
    rw [hrows] at hx
    simp only [placedStore, List.mem_cons, List.not_mem_nil, or_false] at hx
    rcases hx with rfl | rfl <;> rfl

theorem strict_runs_keep_equipment_coupled_closing :
    placedStore.Keyed ∧ Placed placedStore ∧
    ∃ s, Run .strict Call.Clocked placedStore
        [.change ⟨1675598400, 0⟩ ⟨10, "Approved", none, ⟨2, .manager⟩⟩,
          .change ⟨1675602000, 0⟩ ⟨10, "Closed", some "returned", ⟨2, .manager⟩⟩] s ∧
      s.records = [⟨1, 100, "Available", ⟨1675252800, 0⟩, ⟨1676116800, 0⟩, some 10⟩,
        ⟨2, 101, "Available", ⟨1675252800, 0⟩, ⟨1676116800, 0⟩, some 10⟩] ∧
      Coupled placedStore s := by
  have hrun : Run .strict Call.Clocked placedStore
      [.change ⟨1675598400, 0⟩ ⟨10, "Approved", none, ⟨2, .manager⟩⟩,
        .change ⟨1675602000, 0⟩ ⟨10, "Closed", some "returned", ⟨2, .manager⟩⟩] _ :=
    .cons (by decide) (.cons (by decide) (.nil _))
  exact ⟨placedStore_keyed, placedStore_placed, _, hrun, rfl,
    strict_runs_keep_equipment_coupled placedStore_keyed placedStore_placed hrun⟩

/-- A clock past the year 9999, later than every event of the order, is stored as `+10000-…`,
which sorts before the event in review: a manager's rejection frees the records while the order
still reads as in review, and the coupling is lost. -/
theorem rejection_past_year_9999_uncoupled :
    placedStore.Keyed ∧ Placed placedStore ∧
    (∀ r ∈ placedStore.eventsOf 10, r.createdAt < ⟨253402380000, 0⟩) ∧
    ∃ e s, addStatus .strict ⟨253402380000, 0⟩ ⟨10, "Rejected", none, ⟨2, .manager⟩⟩ placedStore =
        .ok e s ∧ s.statusOf 10 = some .inReview ∧ ¬Coupled placedStore s := by
  have h : addStatus .strict ⟨253402380000, 0⟩ ⟨10, "Rejected", none, ⟨2, .manager⟩⟩ placedStore =
      .ok ⟨2, 10, .rejected, none, ⟨253402380000, 0⟩, some 2⟩
        { placedStore with
          orders := [{ id := 10, userId := 1, statusVersion := 1 }]
          events := placedStore.events ++ [⟨2, 10, "Rejected", none, ⟨253402380000, 0⟩, some 2⟩]
          records := [⟨1, 100, "Available", ⟨1675252800, 0⟩, ⟨1676030400, 0⟩, some 10⟩,
            ⟨2, 101, "Available", ⟨1675252800, 0⟩, ⟨1676030400, 0⟩, some 10⟩] } := rfl
  refine ⟨placedStore_keyed, placedStore_placed, by decide, _, _, h, by decide, fun hc => ?_⟩
  obtain ⟨st, e, hst, he, hrows⟩ := hc.status 10 rfl
  obtain rfl : st = .inReview := Option.some.inj (hst.symm.trans (by decide))
  obtain rfl : e = .booked := (Option.some.inj he).symm
  exact absurd (hrows _ (List.mem_cons_self)) (by decide)

end RentalStatus
