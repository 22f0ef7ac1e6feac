import RentalStatus.Proofs.AddStatus

namespace RentalStatus

namespace RecordRow

variable {r : RecordRow}

theorem read_of_named (hfit : Store.fitsId r.id = true) {st : EquipmentStatus}
    (hst : EquipmentStatus.ofName? r.status = some st) :
    r.read = .ok ⟨r.id, r.equipmentId, st, r.startDate, r.endDate, r.orderId⟩ := by
  simp [read, hfit, hst]

theorem read_of_unnamed (hfit : Store.fitsId r.id = true)
    (hst : EquipmentStatus.ofName? r.status = none) :
    r.read = .error (.custom ("Invalid equipment status '" ++ r.status ++ "' stored for record " ++
      toString r.id)) := by
  simp [read, hfit, hst]

theorem apply_status_unnamed {u : RecordUpdate}
    (h : EquipmentStatus.ofName? (r.apply u).status = none) :
    u.status = none ∧ EquipmentStatus.ofName? r.status = none := by
  cases hu : u.status with
  | some st =>
    simp [apply, hu, EquipmentStatus.ofName?_name] at h
  | none =>
    simp only [apply, hu, Option.map_none, Option.getD_none] at h
    exact ⟨rfl, h⟩

end RecordRow

namespace Store

variable {s : Store} {u : RecordUpdate}

theorem find?_record_id (hk : (s.records.map (·.id)).Nodup) {x : RecordRow} (hx : x ∈ s.records)
    (hid : x.id = u.id) : s.records.find? (·.id == u.id) = some x := by
  cases hf : s.records.find? (·.id == u.id) with
  | none => exact absurd (by simpa using hid) (List.find?_eq_none.1 hf x hx)
  | some y =>
    have hy := List.mem_of_find?_eq_some hf
    have hyid : y.id = u.id := by simpa using List.find?_some hf
    rw [List.inj_on_of_nodup_map hk hy hx (hyid.trans hid.symm)]

section Found

variable (hk : (s.records.map (·.id)).Nodup) {x : RecordRow} (hx : x ∈ s.records)
  (hid : x.id = u.id)
include hk hx hid

theorem updateRecord_of_read_ok {rec : EquipmentRecord} (hread : (x.apply u).read = .ok rec) :
    updateRecord u s =
      .ok rec { s with records := s.records.map fun y => if y.id == u.id then x.apply u else y } := by
  simp only [updateRecord, find?_record_id hk hx hid, hread]

theorem updateRecord_of_read_error {e : DbError} (hread : (x.apply u).read = .error e) :
    updateRecord u s =
      .error e { s with records := s.records.map fun y => if y.id == u.id then x.apply u else y } := by
  simp only [updateRecord, find?_record_id hk hx hid, hread]

end Found

theorem updateRecord_of_missing (h : ∀ x ∈ s.records, x.id ≠ u.id) :
    updateRecord u s =
      .error (.recordNotFound ("Equipment status record " ++ toString u.id ++ " not found")) s := by
  have hf : s.records.find? (·.id == u.id) = none :=
    List.find?_eq_none.2 fun x hx hxid => h x hx (by simpa using hxid)
  simp only [updateRecord, hf]

end Store

namespace Op

variable {α : Type} {op : Op α} {s s' : Store}

theorem atomically_of_ok {a : α} (h : op s = .ok a s') : op.atomically s = .ok a s' := by
  simp only [atomically, h]

theorem atomically_of_error {e : DbError} (h : op s = .error e s') :
    op.atomically s = .error e s := by
  simp only [atomically, h]

theorem atomically_error_state {e : DbError} (h : op.atomically s = .error e s') : s' = s := by
  unfold atomically at h
  split at h
  · cases h
  · cases h
    rfl

end Op

/-- An update of an equipment record on a store whose record ids are unique, for an id of 32
bits. Without a record of that id it fails as not found and writes nothing. Otherwise it writes
the record with the status, start and end the update gives and every other field as it was, and
changes no other row; it returns the record as written when its status is a name. Otherwise (the
update gives no status and the stored one names none) the call fails after its write, which
stays; only a transaction around the call puts the row back. -/
theorem updateRecord_overwrites_given_fields {s : Store} (hk : (s.records.map (·.id)).Nodup)
    (u : RecordUpdate) (hu : Store.fitsId u.id = true) :
    ((∀ x ∈ s.records, x.id ≠ u.id) → Store.updateRecord u s =
      .error (.recordNotFound ("Equipment status record " ++ toString u.id ++ " not found")) s) ∧
    (∀ x ∈ s.records, x.id = u.id →
      let written : RecordRow := ⟨x.id, x.equipmentId, (u.status.map (·.name)).getD x.status,
        u.startDate.getD x.startDate, u.endDate.getD x.endDate, x.orderId⟩
      let s' := { s with records := s.records.map fun y => if y.id == u.id then written else y }
      let unnamed := DbError.custom ("Invalid equipment status '" ++ x.status ++
        "' stored for record " ++ toString x.id)
      (∀ st, EquipmentStatus.ofName? written.status = some st →
        Store.updateRecord u s =
          .ok ⟨x.id, x.equipmentId, st, written.startDate, written.endDate, x.orderId⟩ s') ∧
      (EquipmentStatus.ofName? written.status = none →
        u.status = none ∧ EquipmentStatus.ofName? x.status = none ∧
          Store.updateRecord u s = .error unnamed s' ∧
          Op.atomically (Store.updateRecord u) s = .error unnamed s)) := by
  refine ⟨Store.updateRecord_of_missing, fun x hx hid => ?_⟩
  have hfit : Store.fitsId (x.apply u).id = true := by rw [RecordRow.apply_id, hid]; exact hu
  -- the row written is the record rewritten by the update
  have hwritten : x.apply u = ⟨x.id, x.equipmentId, (u.status.map (·.name)).getD x.status,
      u.startDate.getD x.startDate, u.endDate.getD x.endDate, x.orderId⟩ := rfl
  rw [← hwritten]
  refine ⟨fun st hst => Store.updateRecord_of_read_ok hk hx hid (RecordRow.read_of_named hfit hst),
    fun hst => ?_⟩
  obtain ⟨hnone, hx₀⟩ := RecordRow.apply_status_unnamed hst
  -- the stored status is kept, so the error names the record's own status and id
  have herr : Store.updateRecord u s = .error (.custom ("Invalid equipment status '" ++
      x.status ++ "' stored for record " ++ toString x.id))
      { s with records := s.records.map fun y => if y.id == u.id then x.apply u else y } := by
    rw [Store.updateRecord_of_read_error hk hx hid (RecordRow.read_of_unnamed hfit hst)]
    simp [RecordRow.apply, hnone]
  exact ⟨hnone, hx₀, herr, Op.atomically_of_error herr⟩

example : Store.updateRecord ⟨1, some .available, none, some ⟨1676116800, 0⟩⟩ rentalStore =
    .ok ⟨1, 100, .available, ⟨1675252800, 0⟩, ⟨1676116800, 0⟩, some 10⟩
      { rentalStore with records :=
        [⟨1, 100, "Available", ⟨1675252800, 0⟩, ⟨1676116800, 0⟩, some 10⟩,
          ⟨2, 101, "InUse", ⟨1675252800, 0⟩, ⟨1676030400, 0⟩, some 10⟩,
          ⟨3, 102, "Booked", ⟨1675252800, 0⟩, ⟨1676030400, 0⟩, some 11⟩] } := rfl

def brokenRecordStore : Store where
  schema := .entities
  equipment := [{ id := 100 }]
  records := [⟨1, 100, "Broken", ⟨1675252800, 0⟩, ⟨1676030400, 0⟩, none⟩]

theorem updateRecord_overwrites_given_fields_broken :
    (brokenRecordStore.records.map (·.id)).Nodup ∧ Store.fitsId 1 = true ∧
    Store.updateRecord ⟨1, none, none, some ⟨1677672000, 0⟩⟩ brokenRecordStore =
      .error (.custom "Invalid equipment status 'Broken' stored for record 1")
        { brokenRecordStore with
          records := [⟨1, 100, "Broken", ⟨1675252800, 0⟩, ⟨1677672000, 0⟩, none⟩] } ∧
    Op.atomically (Store.updateRecord ⟨1, none, none, some ⟨1677672000, 0⟩⟩) brokenRecordStore =
      .error (.custom "Invalid equipment status 'Broken' stored for record 1") brokenRecordStore := by
  have hk : (brokenRecordStore.records.map (·.id)).Nodup := by decide
  have hfit : Store.fitsId 1 = true := by decide
  have hx : (⟨1, 100, "Broken", ⟨1675252800, 0⟩, ⟨1676030400, 0⟩, none⟩ : RecordRow) ∈
      brokenRecordStore.records := List.mem_singleton_self _
  obtain ⟨-, -, hbare, htx⟩ := ((updateRecord_overwrites_given_fields hk
    ⟨1, none, none, some ⟨1677672000, 0⟩⟩ hfit).2 _ hx rfl).2 rfl
  exact ⟨hk, hfit, hbare, htx⟩

/-- Called on its own, the same update fails and yet has changed the record. -/
theorem updateRecord_error_keeps_write :
    ∃ e s', Store.updateRecord ⟨1, none, none, some ⟨1677672000, 0⟩⟩ brokenRecordStore =
      .error e s' ∧ s'.records ≠ brokenRecordStore.records :=
  ⟨_, _, rfl, by decide⟩

end RentalStatus
