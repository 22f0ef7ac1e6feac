import RentalStatus.Proofs.Checks

namespace RentalStatus

open EngineOp

theorem Rule.user_not_listed (source target : OrderStatus) :
    Role.user ∉ (rule source target).allowedRoles := by
  cases source <;> cases target <;> decide

section Guard

variable {p : Principal} {owner : Int} {r : Rule}

theorem ownerPath_eq_false (h : ¬(r.ownerMayCancel = true ∧ p.id = owner)) :
    (r.ownerMayCancel && p.id == owner) = false := by
  cases hm : r.ownerMayCancel <;> simp_all

theorem authorize_of_listed (policy : Policy) (hpath : (r.ownerMayCancel && p.id == owner) = false)
    (hroles : r.allowedRoles ≠ []) :
    authorize policy p owner r = r.allowedRoles.contains p.role := by
  simp [authorize, Rule.hasListedRoles, hpath, hroles]

theorem authorize_strict_of_unlisted (hpath : (r.ownerMayCancel && p.id == owner) = false)
    (hroles : r.allowedRoles = []) : authorize .strict p owner r = false := by
  simp [authorize, Rule.hasListedRoles, hpath, hroles]

theorem authorize_override_of_unlisted (hpath : (r.ownerMayCancel && p.id == owner) = false)
    (hroles : r.allowedRoles = []) : authorize .staffOverride p owner r = p.role.isStaff := by
  simp [authorize, Rule.hasListedRoles, hpath, hroles]

/-- The two policies disagree on a change exactly when the rule lists no role, the owner path
does not open it and the principal is staff. -/
theorem authorize_ne_iff :
    authorize .strict p owner r ≠ authorize .staffOverride p owner r ↔
      r.allowedRoles = [] ∧ ¬(r.ownerMayCancel = true ∧ p.id = owner) ∧ p.role.isStaff = true := by
  by_cases hopen : r.ownerMayCancel = true ∧ p.id = owner
  · simp [authorize, hopen.1, hopen.2]
  · have hpath := ownerPath_eq_false hopen
    by_cases hroles : r.allowedRoles = []
    · rw [authorize_strict_of_unlisted hpath hroles, authorize_override_of_unlisted hpath hroles]
      cases p.role.isStaff <;> simp [hroles, hopen]
    · simp [authorize_of_listed _ hpath hroles, hroles]

theorem authorize_user_not_owner (policy : Policy) (hrole : p.role = .user) (hown : p.id ≠ owner)
    (source target : OrderStatus) : authorize policy p owner (rule source target) = false := by
  cases policy <;> simp [authorize, hown, hrole, Role.isStaff, Rule.user_not_listed]

end Guard

variable {now : Instant} {req : StatusRequest} {s : Store}

theorem changeChecks_eq_of_authorize {p₁ p₂ : Policy}
    (h : ∀ t cur, OrderStatus.ofName? req.status = some t →
      Store.currentStatus req.orderId s = .ok (some cur) s →
      authorize p₁ req.principal cur.ownerId (rule cur.event.status t) =
        authorize p₂ req.principal cur.ownerId (rule cur.event.status t)) :
    changeChecks p₁ req s = changeChecks p₂ req s := by
  have hch := changeChecks_checked p₁ req s
  generalize hc₁ : changeChecks p₁ req s = c at hch
  cases hch with
  | blank hb => exact (changeChecks_of_refused (.blank hb)).symm
  | unnamed hb hn => exact (changeChecks_of_refused (.unnamed hb hn)).symm
  | currentFails ht hc => exact (changeChecks_of_currentStatus_error ht hc).symm
  | noEvent ht hn => exact (changeChecks_of_refused (.noEvent ht hn)).symm
  | denied ht hc ha => exact (changeChecks_of_refused (.denied ht hc (h _ _ ht hc ▸ ha))).symm
  | recordsFail ht hc ha hr =>
    exact (changeChecks_of_recordsOf_error ht hc (h _ _ ht hc ▸ ha) hr).symm
  | notReady ht hc ha hr hn =>
    exact (changeChecks_of_refused (.notReady ht hc (h _ _ ht hc ▸ ha) hr hn)).symm
  | passed ht hc ha hr hn => exact (changeChecks_of_passed ht hc (h _ _ ht hc ▸ ha) hr hn).symm

/-- A change the staff override lets through and the strict policy refuses: the target reads as
`t`, the order's current status as `cur`, the rule between them lists no role, the owner path
does not open it, and the principal is staff. -/
def OverrideOpens (req : StatusRequest) (s : Store) (t : OrderStatus) (cur : CurrentStatus) :
    Prop :=
  OrderStatus.ofName? req.status = some t ∧ Store.currentStatus req.orderId s = .ok (some cur) s ∧
    (rule cur.event.status t).allowedRoles = [] ∧
    ¬((rule cur.event.status t).ownerMayCancel = true ∧ req.principal.id = cur.ownerId) ∧
    req.principal.role.isStaff = true

theorem addStatus_strict_of_overrideOpens {t : OrderStatus} {cur : CurrentStatus}
    (h : OverrideOpens req s t cur) :
    addStatus .strict now req s =
      .error (.status (.transitionDenied req.principal.id req.orderId cur.event.status t)) s := by
  obtain ⟨ht, hc, hroles, hpath, -⟩ := h
  have ha := authorize_strict_of_unlisted (ownerPath_eq_false hpath) hroles
  exact addStatus_refused_iff.2 ⟨rfl, .denied ht hc ha⟩

theorem addStatus_override_of_overrideOpens {t : OrderStatus} {cur : CurrentStatus}
    (h : OverrideOpens req s t cur) :
    addStatus .staffOverride now req s ≠
      .error (.status (.transitionDenied req.principal.id req.orderId cur.event.status t)) s := by
  intro heq
  obtain ⟨-, hc, hroles, hpath, hstaff⟩ := h
  obtain ⟨-, hrf⟩ := addStatus_refused_iff.1 heq
  obtain ⟨cur', -, hc', -, ha⟩ := refused_denied hrf
  rw [hc] at hc'
  cases hc'
  rw [authorize_override_of_unlisted (ownerPath_eq_false hpath) hroles, hstaff] at ha
  cases ha

theorem addStatus_eq_of_not_overrideOpens (h : ¬∃ t cur, OverrideOpens req s t cur) :
    addStatus .strict now req s = addStatus .staffOverride now req s := by
  have hchecks : changeChecks .strict req s = changeChecks .staffOverride req s := by
    refine changeChecks_eq_of_authorize fun t cur ht hc => ?_
    by_contra hne
    exact h ⟨t, cur, ht, hc, authorize_ne_iff.1 hne⟩
  rw [addStatus_eq_checks, addStatus_eq_checks, hchecks]

def changes (policy : Policy) : List (Instant × StatusRequest) → Store →
    List (Except EngineError Event) × Store
  | [], s => ([], s)
  | (now, req) :: rest, s =>
    let first := outcome (addStatus policy now req s)
    let later := changes policy rest first.2
    (first.1 :: later.1, later.2)

/-- Under the staff override a status change returns what it returns under the strict policy and
leaves the same store, except exactly when the strict policy refuses a change whose rule lists
no role, which the owner path does not open and which staff ask for. So a run of changes the
strict policy accepts is run identically under the override, and under either policy a user
who does not own an order may not change it. -/
theorem staffOverride_widens_strict :
    (∀ now req s, addStatus .strict now req s ≠ addStatus .staffOverride now req s ↔
      ∃ t cur, OverrideOpens req s t cur) ∧
    (∀ now req s t cur, OverrideOpens req s t cur →
      addStatus .strict now req s =
        .error (.status (.transitionDenied req.principal.id req.orderId cur.event.status t)) s) ∧
    (∀ calls s, (∀ r ∈ (changes .strict calls s).1, ∃ e, r = .ok e) →
      changes .staffOverride calls s = changes .strict calls s) ∧
    (∀ policy now req s t cur, OrderStatus.ofName? req.status = some t →
      Store.currentStatus req.orderId s = .ok (some cur) s → req.principal.role = .user →
      req.principal.id ≠ cur.ownerId →
      addStatus policy now req s =
        .error (.status (.transitionDenied req.principal.id req.orderId cur.event.status t)) s) := by
  refine ⟨fun now req s => ⟨fun hne => ?_, fun ⟨t, cur, h⟩ => ?_⟩,
    fun now req s t cur h => addStatus_strict_of_overrideOpens h, fun calls s hok => ?_,
    fun policy now req s t cur ht hc hrole hown => ?_⟩
  · by_contra hno
    exact hne (addStatus_eq_of_not_overrideOpens hno)
  · rw [addStatus_strict_of_overrideOpens h]
    exact fun heq => addStatus_override_of_overrideOpens h heq.symm
  · induction calls generalizing s with
    | nil => rfl
    | cons call calls ih =>
      obtain ⟨now, req⟩ := call
      -- the first change is accepted under the strict policy, so the override answers it alike
      have hfirst : addStatus .strict now req s = addStatus .staffOverride now req s := by
        refine addStatus_eq_of_not_overrideOpens fun ⟨t, cur, h⟩ => ?_
        obtain ⟨e, he⟩ := hok _ List.mem_cons_self
        simp [addStatus_strict_of_overrideOpens h, outcome] at he
      have hrest := ih (outcome (addStatus .strict now req s)).2
        (fun r hr => hok r (List.mem_cons_of_mem _ hr))
      simp only [changes, ← hfirst, hrest]
  · have ha := authorize_user_not_owner policy hrole hown cur.event.status t
    exact addStatus_refused_iff.2 ⟨rfl, .denied ht hc ha⟩

theorem staffOverride_widens_strict_rental :
    addStatus .strict ⟨1675598400, 0⟩ ⟨10, "Blocked", none, ⟨2, .manager⟩⟩ rentalStore ≠
      addStatus .staffOverride ⟨1675598400, 0⟩ ⟨10, "Blocked", none, ⟨2, .manager⟩⟩ rentalStore ∧
    changes .staffOverride [(⟨1675598400, 0⟩, ⟨11, "Approved", none, ⟨2, .manager⟩⟩),
        (⟨1675598400, 0⟩, ⟨10, "Closed", some "returned", ⟨2, .manager⟩⟩)] rentalStore =
      changes .strict [(⟨1675598400, 0⟩, ⟨11, "Approved", none, ⟨2, .manager⟩⟩),
        (⟨1675598400, 0⟩, ⟨10, "Closed", some "returned", ⟨2, .manager⟩⟩)] rentalStore ∧
    addStatus .staffOverride ⟨1675598400, 0⟩ ⟨11, "Approved", none, ⟨3, .user⟩⟩ rentalStore =
      .error (.status (.transitionDenied 3 11 .inReview .approved)) rentalStore := by
  have hc₁₀ : Store.currentStatus 10 rentalStore =
      .ok (some ⟨⟨1, 10, .inProgress, none, ⟨1673773200, 0⟩, none⟩, 1, 0⟩) rentalStore := rfl
  have hc₁₁ : Store.currentStatus 11 rentalStore =
      .ok (some ⟨⟨2, 11, .inReview, none, ⟨1673773200, 0⟩, some 1⟩, 1, 0⟩) rentalStore := rfl
  have hok : ∀ r ∈ (changes .strict [(⟨1675598400, 0⟩, ⟨11, "Approved", none, ⟨2, .manager⟩⟩),
      (⟨1675598400, 0⟩, ⟨10, "Closed", some "returned", ⟨2, .manager⟩⟩)] rentalStore).1,
      ∃ e, r = .ok e := by
    have hall : (changes .strict [(⟨1675598400, 0⟩, ⟨11, "Approved", none, ⟨2, .manager⟩⟩),
        (⟨1675598400, 0⟩, ⟨10, "Closed", some "returned", ⟨2, .manager⟩⟩)] rentalStore).1.all
        Except.isOk = true := by decide
    intro r hr
    cases r with
    | ok e => exact ⟨e, rfl⟩
    | error e => cases List.all_eq_true.1 hall _ hr
  obtain ⟨hdiffer, -, hrun, huser⟩ := staffOverride_widens_strict
  exact ⟨(hdiffer _ _ _).2 ⟨.blocked, _, rfl, hc₁₀, by decide, by decide, rfl⟩,
    hrun _ _ hok, huser _ _ ⟨11, "Approved", none, ⟨3, .user⟩⟩ _ .approved _ rfl hc₁₁ rfl (by decide)⟩

end RentalStatus
