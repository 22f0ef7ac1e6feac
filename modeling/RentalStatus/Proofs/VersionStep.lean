import RentalStatus.Proofs.Versioning

namespace RentalStatus

theorem Int32.toInt_add_one_of_toInt (v : Int32) :
    (v + 1).toInt = if v.toInt = 2147483647 then -2147483648 else v.toInt + 1 := by
  have hmax : v = Int32.maxValue ↔ v.toInt = 2147483647 := by
    rw [← Int32.toInt_inj, Int32.toInt_maxValue]
    rfl
  rw [Int32.toInt_add_one, Int32.toInt_minValue]
  by_cases hv : v = Int32.maxValue
  · rw [if_pos hv, if_pos (hmax.1 hv)]
    rfl
  · rw [if_neg hv, if_neg (mt hmax.2 hv)]

namespace Store

variable {s s' s₁ : Store} {o : Int}

/-- Order `o` moved from its version in `s` to the next 32-bit version in `s'`: one more, except
that the largest version is followed by the smallest. -/
def NextVersion (s s' : Store) (o : Int) : Prop :=
  ∀ x ∈ s.orders, x.id = o → ∀ y ∈ s'.orders, y.id = o →
    y.statusVersion.toInt =
      if x.statusVersion.toInt = 2147483647 then -2147483648 else x.statusVersion.toInt + 1

theorem NextVersion.of_orders_eq (h : s.NextVersion s₁ o) (he : s'.orders = s₁.orders) :
    s.NextVersion s' o := by
  intro x hx hid y hy hyid
  rw [he] at hy
  exact h x hx hid y hy hyid

theorem version_of_mem_bumped {orders : List OrderRow} {v : Int32} {y : OrderRow}
    (hy : y ∈ orders.map fun x => if x.id = o then { x with statusVersion := v } else x)
    (hid : y.id = o) : y.statusVersion = v := by
  obtain ⟨x, -, rfl⟩ := List.mem_map.1 hy
  by_cases hx : x.id = o
  · simp [hx]
  · simp [hx] at hid

/-- A successful append moved its order from the version it expected to the next one. -/
theorem append_nextVersion (hk : (s.orders.map (·.id)).Nodup) {p : AppendRequest} {e : Event}
    (h : append p s = .ok (some e) s') : s.NextVersion s' p.orderId := by
  obtain ⟨⟨x₀, hx₀, hid₀, hv₀⟩, -, -, rfl⟩ := append_eq_ok_some h
  intro x hx hid y hy hyid
  -- ids are unique, so the order at the expected version is the order asked about
  obtain rfl := List.inj_on_of_nodup_map hk hx hx₀ (hid.trans hid₀.symm)
  rw [version_of_mem_bumped hy hyid, ← hv₀, Int32.toInt_add_one_of_toInt]

end Store

/-- Every append that succeeds moves its order to the next version in the 32 bits versions are
kept in, whether it is made directly, by a status change or by an overdue mark at the version
they read: one more than the version the order had, except that the largest version,
2147483647, is followed by -2147483648. -/
theorem appended_version_is_next_32_bit {s s' : Store} (hk : (s.orders.map (·.id)).Nodup) :
    (∀ (p : AppendRequest) (e : Event),
      Store.append p s = .ok (some e) s' → s.NextVersion s' p.orderId) ∧
    (∀ (policy : Policy) (now : Instant) (req : StatusRequest) (e : Event),
      addStatus policy now req s = .ok e s' → s.NextVersion s' req.orderId) ∧
    (∀ (now : Instant) (o : Int) (e : Event),
      markOverdue now o s = .ok (some e) s' → s.NextVersion s' o) := by
  refine ⟨fun p e h => Store.append_nextVersion hk h, ?_, ?_⟩
  · -- the record rewrites after the append leave the orders as the append left them
    intro policy now req e h
    obtain ⟨t, cur, recs, s₁, -, -, -, -, -, happ, hloop⟩ := addStatus_eq_ok h
    exact (Store.append_nextVersion hk happ).of_orders_eq (Store.forIn_updateRecord_frame hloop).1
  · intro now o e h
    obtain ⟨cur, recs, ended, -, -, -, -, happ⟩ := markOverdue_eq_ok_some h
    exact Store.append_nextVersion hk happ

def topVersionStore : Store :=
  { reviewStore with orders := [{ id := 10, userId := 1, statusVersion := 2147483647 }] }

theorem appended_version_wraps_at_top :
    (topVersionStore.orders.map (·.id)).Nodup ∧
    ∃ e s', Store.append ⟨10, 2147483647, .approved, none, ⟨1675598400, 0⟩, some 1⟩
        topVersionStore = .ok (some e) s' ∧
      s'.orders = [{ id := 10, userId := 1, statusVersion := -2147483648 }] ∧
      topVersionStore.NextVersion s' 10 := by
  have hk : (topVersionStore.orders.map (·.id)).Nodup := by decide
  have h : Store.append ⟨10, 2147483647, .approved, none, ⟨1675598400, 0⟩, some 1⟩ topVersionStore =
      .ok (some ⟨2, 10, .approved, none, ⟨1675598400, 0⟩, some 1⟩)
        { topVersionStore with
          orders := [{ id := 10, userId := 1, statusVersion := -2147483648 }]
          events := topVersionStore.events ++
            [⟨2, 10, "Approved", none, ⟨1675598400, 0⟩, some 1⟩] } := rfl
  exact ⟨hk, _, _, h, rfl, (appended_version_is_next_32_bit hk).1 _ _ h⟩

end RentalStatus
