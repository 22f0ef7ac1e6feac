import RentalStatus.Proofs.AddStatus

namespace RentalStatus

open EngineOp

variable {now : Instant} {o : Int} {s s' : Store}

theorem markOverdue_eq_ok {r : Option Event} (h : markOverdue now o s = .ok r s') :
    (r = none ∧ s' = s) ∨
      ∃ cur recs ended e, Store.currentStatus o s = .ok (some cur) s ∧
        cur.event.status = .inProgress ∧ Store.recordsOf o s = .ok recs s ∧
        earliest ((recs.map (·.endDate)).filter (· < now)) = some ended ∧
        Store.append ⟨o, cur.statusVersion, .overdue, some (overdueComment ended), now, none⟩ s =
          .ok (some e) s' ∧ r = some e := by
  rw [markOverdue, atomically_eq_ok, bind_eq_ok] at h
  obtain ⟨c, s₁, hdb, h⟩ := h
  have hc := db_eq_ok.1 hdb
  obtain rfl := Store.currentStatus_store hc
  cases c with
  | none => exact .inl ⟨(pure_eq_ok.1 h).1.symm, (pure_eq_ok.1 h).2.symm⟩
  | some cur =>
    dsimp only at h
    split at h
    · exact .inl ⟨(pure_eq_ok.1 h).1.symm, (pure_eq_ok.1 h).2.symm⟩
    · rename_i hst
      rw [bind_eq_ok] at h
      obtain ⟨recs, s₂, hdbr, h⟩ := h
      have hr := db_eq_ok.1 hdbr
      obtain rfl := (Store.recordsOf_eq_ok hr).1
      cases hend : earliest ((recs.map (·.endDate)).filter (· < now)) with
      | none =>
        simp only [hend] at h
        exact .inl ⟨(pure_eq_ok.1 h).1.symm, (pure_eq_ok.1 h).2.symm⟩
      | some ended =>
        simp only [hend, bind_eq_ok] at h
        obtain ⟨ev, s₃, hev, h⟩ := h
        cases ev with
        | none => exact absurd h refuse_ne_ok
        | some e =>
          obtain ⟨he, rfl⟩ := pure_eq_ok.1 h
          exact .inr ⟨cur, recs, ended, e, hc, by simpa using hst, hr, hend, db_eq_ok.1 hev, he.symm⟩

theorem markOverdue_eq_ok_some {e : Event} (h : markOverdue now o s = .ok (some e) s') :
    ∃ cur recs ended, Store.currentStatus o s = .ok (some cur) s ∧
      cur.event.status = .inProgress ∧ Store.recordsOf o s = .ok recs s ∧
      earliest ((recs.map (·.endDate)).filter (· < now)) = some ended ∧
      Store.append ⟨o, cur.statusVersion, .overdue, some (overdueComment ended), now, none⟩ s =
        .ok (some e) s' := by
  rcases markOverdue_eq_ok h with ⟨hnone, -⟩ | ⟨cur, recs, ended, e', hc, hst, hr, hend, happ, he⟩
  · cases hnone
  · obtain rfl := Option.some.inj he
    exact ⟨cur, recs, ended, hc, hst, hr, hend, happ⟩

theorem markOverdue_eq_ok_none (h : markOverdue now o s = .ok none s') : s' = s := by
  rcases markOverdue_eq_ok h with ⟨-, rfl⟩ | ⟨_, _, _, _, _, _, _, _, _, he⟩
  · rfl
  · cases he

end RentalStatus
