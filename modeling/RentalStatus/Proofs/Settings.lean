import RentalStatus.Config
import RentalStatus.Proofs.Transaction

namespace RentalStatus

namespace Config

/-- The variables whose values are checked: all but the database URL, which is only required,
and the sweep schedule, which is taken as it is. -/
inductive CheckedVar where
  | bindAddress
  | policy
  | requestTimeout
  deriving DecidableEq, Repr

namespace CheckedVar

def name : CheckedVar → String
  | bindAddress => "BIND_ADDRESS"
  | policy => "STATUS_TRANSITION_POLICY"
  | requestTimeout => "REQUEST_TIMEOUT_SECS"

def order : List CheckedVar := [bindAddress, policy, requestTimeout]

end CheckedVar

/-- `Rejects x v r`: the checked variable `x` cannot be set to `v`, for the reason `r`. -/
inductive Rejects : CheckedVar → String → String → Prop
  | address {v : String} : SocketAddr.read? v = none →
      Rejects .bindAddress v "invalid socket address syntax"
  | policy {v : String} : v ≠ "strict" → v ≠ "staff-override" →
      Rejects .policy v ("expected 'strict' or 'staff-override', got '" ++ v ++ "'")
  | timeoutZero {v : String} : Numeral.readU64 v = .ok 0 →
      Rejects .requestTimeout v "must be greater than zero"
  | timeoutUnread {v : String} {e : NumeralError} : Numeral.readU64 v = .error e →
      Rejects .requestTimeout v e.message

variable (lookup : String → Option String)

/-- A checked variable can be used: it is unset, or set to a value it does not reject. -/
def Usable (x : CheckedVar) : Prop := ∀ v r, lookup x.name = some v → ¬ Rejects x v r

/-- The error reported when the variables `xs` are checked in turn: the first of them that is
set to a value it rejects, with that value and the reason, every one before it usable. -/
def FirstError (xs : List CheckedVar) (e : ConfigError) : Prop :=
  ∃ pre x post v r, xs = pre ++ x :: post ∧ (∀ y ∈ pre, Usable lookup y) ∧
    lookup x.name = some v ∧ Rejects x v r ∧ e = .invalidEnvVar x.name v r

/-- What each setting of `c` is, read from `lookup`: the database URL as given; the address,
the policy and the timeout read from their variables, or their defaults when unset; the sweep
schedule as given, off for exactly `off`, or every five minutes when unset. -/
structure Gives (c : Config) : Prop where
  databaseUrl : lookup "DATABASE_URL" = some c.databaseUrl
  bindUnset : lookup "BIND_ADDRESS" = none → c.bindAddress = .v4 ⟨[0, 0, 0, 0]⟩ 8080
  bindSet : ∀ v, lookup "BIND_ADDRESS" = some v → SocketAddr.read? v = some c.bindAddress
  policyUnset : lookup "STATUS_TRANSITION_POLICY" = none → c.policy = .strict
  policySet : ∀ v, lookup "STATUS_TRANSITION_POLICY" = some v →
    v = "strict" ∧ c.policy = .strict ∨ v = "staff-override" ∧ c.policy = .staffOverride
  scheduleOff : lookup "OVERDUE_SWEEP_SCHEDULE" = some "off" → c.sweepSchedule = none
  scheduleUnset : lookup "OVERDUE_SWEEP_SCHEDULE" = none →
    c.sweepSchedule = some "0 */5 * * * *"
  scheduleSet : ∀ v, v ≠ "off" → lookup "OVERDUE_SWEEP_SCHEDULE" = some v →
    c.sweepSchedule = some v
  timeoutUnset : lookup "REQUEST_TIMEOUT_SECS" = none → c.requestTimeoutSecs = 30
  timeoutSet : ∀ v, lookup "REQUEST_TIMEOUT_SECS" = some v →
    Numeral.readU64 v = .ok c.requestTimeoutSecs ∧ 0 < c.requestTimeoutSecs

section Readers

variable {α : Type} {name v r : String} {read : String → Except String α}

theorem readVar_eq_ok {a : α} : readVar name v read = .ok a ↔ read v = .ok a := by
  unfold readVar
  split <;> simp_all

theorem readVar_eq_error {e : ConfigError} :
    readVar name v read = .error e ↔ ∃ r, read v = .error r ∧ e = .invalidEnvVar name v r := by
  unfold readVar
  split <;> simp_all [eq_comm]

theorem readAddress_eq_ok {a : SocketAddr} : readAddress v = .ok a ↔ SocketAddr.read? v = some a := by
  unfold readAddress
  split <;> simp_all

theorem readAddress_eq_error : readAddress v = .error r ↔ Rejects .bindAddress v r := by
  constructor
  · intro h
    unfold readAddress at h
    split at h
    · cases h
    · cases h
      exact .address ‹_›
  · rintro ⟨h⟩
    unfold readAddress
    rw [h]

theorem readAddress_defaultBind : readAddress defaultBind = .ok SocketAddr.defaultBind := by
  have h : SocketAddr.read? defaultBind = some SocketAddr.defaultBind := by decide
  unfold readAddress
  rw [h]

theorem ofName_eq_ok {p : Policy} :
    Policy.ofName v = .ok p ↔ v = "strict" ∧ p = .strict ∨ v = "staff-override" ∧ p = .staffOverride := by
  unfold Policy.ofName
  by_cases hs : v = "strict"
  · subst hs
    cases p <;> simp
  · by_cases hso : v = "staff-override"
    · subst hso
      cases p <;> simp
    · simp [hs, hso]

theorem ofName_eq_error : Policy.ofName v = .error r ↔ Rejects .policy v r := by
  constructor
  · intro h
    unfold Policy.ofName at h
    split at h
    · cases h
    · split at h
      · cases h
      · cases h
        exact .policy ‹_› ‹_›
  · intro h
    cases h with
    | policy hs hso => simp [Policy.ofName, hs, hso]

theorem readTimeout_eq_ok {n : Nat} : readTimeout v = .ok n ↔ Numeral.readU64 v = .ok n ∧ 0 < n := by
  unfold readTimeout
  cases Numeral.readU64 v with
  | error e => simp
  | ok m =>
    cases m with
    | zero => simp; omega
    | succ m => simp; omega

theorem readTimeout_eq_error : readTimeout v = .error r ↔ Rejects .requestTimeout v r := by
  constructor
  · intro h
    unfold readTimeout at h
    split at h
    · cases h
      exact .timeoutZero ‹_›
    · cases h
    · cases h
      exact .timeoutUnread ‹_›
  · intro h
    cases h with
    | timeoutZero h => simp [readTimeout, h]
    | timeoutUnread h => simp [readTimeout, h]

end Readers

section Setting

variable {α β : Type} {x : CheckedVar} {d : α} {read : String → Except String α}

/-- A checked setting: its default when the variable is unset, else the variable's value as
`read` reads it, or the error naming the variable and its raw value. -/
def setting (x : CheckedVar) (d : α) (read : String → Except String α) : Except ConfigError α :=
  match lookup x.name with
  | some v => readVar x.name v read
  | none => pure d

theorem setting_eq_ok {a : α} : setting lookup x d read = .ok a ↔
    (lookup x.name = none → a = d) ∧ ∀ v, lookup x.name = some v → read v = .ok a := by
  unfold setting
  cases lookup x.name with
  | none => simp [eq_comm]
  | some v => simp [readVar_eq_ok]

theorem setting_eq_error (hread : ∀ v r, read v = .error r ↔ Rejects x v r) {e : ConfigError} :
    setting lookup x d read = .error e ↔
      ∃ v r, lookup x.name = some v ∧ Rejects x v r ∧ e = .invalidEnvVar x.name v r := by
  unfold setting
  cases lookup x.name <;> simp [readVar_eq_error, hread]

theorem setting_ok_iff_usable (hread : ∀ v r, read v = .error r ↔ Rejects x v r) :
    (∃ a, setting lookup x d read = .ok a) ↔ Usable lookup x := by
  have herr : (∃ e, setting lookup x d read = .error e) ↔ ¬ Usable lookup x := by
    simp only [setting_eq_error lookup hread, Usable]
    grind
  cases h : setting lookup x d read with
  | ok a => simpa [h] using herr
  | error e => simpa [h] using herr

theorem firstError_nil {e : ConfigError} : ¬ FirstError lookup [] e := by
  rintro ⟨pre, x, post, -, -, h, -⟩
  simp at h

theorem firstError_cons {xs : List CheckedVar} {e : ConfigError} :
    FirstError lookup (x :: xs) e ↔
      (∃ v r, lookup x.name = some v ∧ Rejects x v r ∧ e = .invalidEnvVar x.name v r) ∨
        Usable lookup x ∧ FirstError lookup xs e := by
  constructor
  · rintro ⟨pre, y, post, v, r, horder, hpre, hv, hr, rfl⟩
    cases pre with
    | nil =>
      obtain ⟨rfl, -⟩ := List.cons_eq_cons.1 (by simpa using horder)
      exact .inl ⟨v, r, hv, hr, rfl⟩
    | cons z pre =>
      obtain ⟨rfl, rfl⟩ := List.cons_eq_cons.1 (by simpa using horder)
      exact .inr ⟨hpre x (by simp), pre, y, post, v, r, rfl, fun w hw => hpre w (by simp [hw]),
        hv, hr, rfl⟩
  · rintro (⟨v, r, hv, hr, rfl⟩ | ⟨hx, pre, y, post, v, r, rfl, hpre, hv, hr, rfl⟩)
    · exact ⟨[], x, xs, v, r, rfl, by simp, hv, hr, rfl⟩
    · refine ⟨x :: pre, y, post, v, r, rfl, ?_, hv, hr, rfl⟩
      rintro w (_ | ⟨_, hw⟩)
      · exact hx
      · exact hpre w hw

theorem setting_bind_eq_error (d : α) (hread : ∀ v r, read v = .error r ↔ Rejects x v r)
    {k : α → Except ConfigError β} {xs : List CheckedVar}
    (hk : ∀ a e, k a = .error e ↔ FirstError lookup xs e) :
    ∀ e, (setting lookup x d read >>= k) = .error e ↔ FirstError lookup (x :: xs) e := by
  intro e
  rw [Except.bind_eq_error_iff, firstError_cons, setting_eq_error lookup hread]
  simp only [hk, exists_and_right, setting_ok_iff_usable lookup hread]

end Setting

theorem readVar_bindAddress :
    readVar "BIND_ADDRESS" ((lookup "BIND_ADDRESS").getD defaultBind) readAddress =
      setting lookup .bindAddress SocketAddr.defaultBind readAddress := by
  simp only [setting, CheckedVar.name]
  cases lookup "BIND_ADDRESS" with
  | none => simp [readVar, readAddress_defaultBind]
  | some v => rfl

def scheduleOf : Option String → Option String
  | some "off" => none
  | some v => some v
  | none => some defaultSchedule

theorem scheduleOf_eq {w s : Option String} : scheduleOf w = s ↔
    (w = some "off" → s = none) ∧ (w = none → s = some "0 */5 * * * *") ∧
      ∀ v, v ≠ "off" → w = some v → s = some v := by
  constructor
  · rintro rfl
    refine ⟨fun h => by simp [h, scheduleOf], fun h => by simp [h, scheduleOf, defaultSchedule],
      fun v hv h => by simp [h, scheduleOf]⟩
  · rintro ⟨hoff, hunset, hset⟩
    rcases w with _ | v
    · simp [scheduleOf, defaultSchedule, hunset rfl]
    · by_cases hv : v = "off"
      · subst hv
        simp [scheduleOf, hoff rfl]
      · simp [scheduleOf, hset v hv rfl]

theorem ofLookup_eq : ofLookup lookup =
    match lookup "DATABASE_URL" with
    | none => .error (.missingEnvVar "DATABASE_URL")
    | some url => (do
      let a ← setting lookup .bindAddress SocketAddr.defaultBind readAddress
      let p ← setting lookup .policy .strict Policy.ofName
      let t ← setting lookup .requestTimeout defaultTimeout readTimeout
      pure ⟨url, a, p, scheduleOf (lookup "OVERDUE_SWEEP_SCHEDULE"), t⟩) := by
  unfold ofLookup
  rw [readVar_bindAddress]
  simp only [setting, CheckedVar.name]
  -- `ofLookup` reads the policy and the timeout inside a match on each variable, with what
  -- follows copied into both arms; one case per variable makes the two forms meet
  cases lookup "DATABASE_URL" <;> cases lookup "STATUS_TRANSITION_POLICY" <;>
    cases lookup "REQUEST_TIMEOUT_SECS" <;> rfl

theorem ofLookup_eq_error {e : ConfigError} : ofLookup lookup = .error e ↔
    lookup "DATABASE_URL" = none ∧ e = .missingEnvVar "DATABASE_URL" ∨
      lookup "DATABASE_URL" ≠ none ∧ FirstError lookup CheckedVar.order e := by
  rw [ofLookup_eq]
  cases lookup "DATABASE_URL" with
  | none => simp [eq_comm]
  | some url =>
    -- the three settings are checked one after the other, the last one before a result that
    -- cannot fail
    have hdone : ∀ (a : SocketAddr) (p : Policy) (t : Nat) e,
        (pure ⟨url, a, p, scheduleOf (lookup "OVERDUE_SWEEP_SCHEDULE"), t⟩ :
          Except ConfigError Config) = .error e ↔ FirstError lookup [] e := by
      simp [firstError_nil]
    have htimeout := fun a p =>
      setting_bind_eq_error lookup defaultTimeout (fun _ _ => readTimeout_eq_error) (hdone a p)
    have hpolicy := fun a =>
      setting_bind_eq_error lookup Policy.strict (fun _ _ => ofName_eq_error) (htimeout a)
    have haddress :=
      setting_bind_eq_error lookup SocketAddr.defaultBind (fun _ _ => readAddress_eq_error) hpolicy
    simp only [reduceCtorEq, false_and, ne_eq, not_false_eq_true, true_and, false_or]
    exact haddress e

theorem gives_iff {c : Config} : Gives lookup c ↔
    lookup "DATABASE_URL" = some c.databaseUrl ∧
      setting lookup .bindAddress SocketAddr.defaultBind readAddress = .ok c.bindAddress ∧
      setting lookup .policy .strict Policy.ofName = .ok c.policy ∧
      setting lookup .requestTimeout defaultTimeout readTimeout = .ok c.requestTimeoutSecs ∧
      scheduleOf (lookup "OVERDUE_SWEEP_SCHEDULE") = c.sweepSchedule := by
  simp only [setting_eq_ok, readAddress_eq_ok, ofName_eq_ok, readTimeout_eq_ok, scheduleOf_eq,
    CheckedVar.name, SocketAddr.defaultBind, defaultTimeout]
  constructor
  · intro h
    exact ⟨h.databaseUrl, ⟨h.bindUnset, h.bindSet⟩, ⟨h.policyUnset, h.policySet⟩,
      ⟨h.timeoutUnset, h.timeoutSet⟩, h.scheduleOff, h.scheduleUnset, h.scheduleSet⟩
  · rintro ⟨hdb, ⟨hbu, hbs⟩, ⟨hpu, hps⟩, ⟨htu, hts⟩, hso, hsu, hss⟩
    exact ⟨hdb, hbu, hbs, hpu, hps, hso, hsu, hss, htu, hts⟩

theorem ofLookup_eq_ok {c : Config} : ofLookup lookup = .ok c ↔ Gives lookup c := by
  rw [ofLookup_eq, gives_iff]
  cases lookup "DATABASE_URL" with
  | none => simp
  | some url =>
    simp only [Except.bind_eq_ok_iff, Except.pure_eq, Except.ok.injEq, Option.some.injEq]
    constructor
    · rintro ⟨a, ha, p, hp, t, ht, rfl⟩
      exact ⟨rfl, ha, hp, ht, rfl⟩
    · rintro ⟨rfl, ha, hp, ht, hs⟩
      exact ⟨_, ha, _, hp, _, ht, by rw [hs]⟩

theorem ofLookup_ok_of_usable (hdb : lookup "DATABASE_URL" ≠ none)
    (husable : ∀ x ∈ CheckedVar.order, Usable lookup x) : ∃ c, ofLookup lookup = .ok c := by
  cases h : ofLookup lookup with
  | ok c => exact ⟨c, rfl⟩
  | error e =>
    -- an error is either the missing URL or a variable of the order that is not usable
    rcases (ofLookup_eq_error lookup).1 h with
      ⟨hnone, -⟩ | ⟨-, pre, x, post, v, r, horder, -, hv, hr, -⟩
    · exact absurd hnone hdb
    · exact absurd hr (husable x (by simp [horder]) v r hv)

/-- Reading the settings: a missing database URL is reported as such; otherwise the first of
the address, the policy and the timeout that is set to a value it rejects is reported, with
its name, its raw value and the reason; when none is, the reading succeeds, and it succeeds
with exactly the settings the variables give. -/
theorem ofLookup_reads_variables_in_order (lookup : String → Option String) :
    (∀ e, ofLookup lookup = .error e ↔
      lookup "DATABASE_URL" = none ∧ e = .missingEnvVar "DATABASE_URL" ∨
        lookup "DATABASE_URL" ≠ none ∧ FirstError lookup CheckedVar.order e) ∧
    (lookup "DATABASE_URL" ≠ none → (∀ x ∈ CheckedVar.order, Usable lookup x) →
      ∃ c, ofLookup lookup = .ok c) ∧
    (∀ c, ofLookup lookup = .ok c ↔ Gives lookup c) :=
  ⟨fun _ => ofLookup_eq_error lookup, ofLookup_ok_of_usable lookup,
    fun _ => ofLookup_eq_ok lookup⟩

example : ofLookup (fun n => [("DATABASE_URL", "sqlite::memory:"),
      ("STATUS_TRANSITION_POLICY", "permissive"), ("REQUEST_TIMEOUT_SECS", "soon")].lookup n) =
    .error (.invalidEnvVar "STATUS_TRANSITION_POLICY" "permissive"
      "expected 'strict' or 'staff-override', got 'permissive'") := by
  rfl

def overrides (name : String) : Option String :=
  [("DATABASE_URL", "sqlite::memory:"), ("BIND_ADDRESS", "127.0.0.1:3000"),
    ("STATUS_TRANSITION_POLICY", "staff-override"), ("OVERDUE_SWEEP_SCHEDULE", "off"),
    ("REQUEST_TIMEOUT_SECS", "5")].lookup name

theorem ofLookup_reads_overrides :
    overrides "DATABASE_URL" ≠ none ∧ (∀ x ∈ CheckedVar.order, Usable overrides x) ∧
      ∃ c, ofLookup overrides = .ok c ∧ c.policy = .staffOverride ∧ c.sweepSchedule = none := by
  have hdb : overrides "DATABASE_URL" ≠ none := by decide
  have husable : ∀ x ∈ CheckedVar.order, Usable overrides x := by
    intro x hx v r hv hr
    simp only [CheckedVar.order, List.mem_cons, List.not_mem_nil, or_false] at hx
    rcases hx with rfl | rfl | rfl
    · have hv' : some "127.0.0.1:3000" = some v := hv
      cases hv'
      cases hr with
      | address h => exact absurd h (by decide)
    · have hv' : some "staff-override" = some v := hv
      cases hv'
      cases hr with
      | policy _ h => exact h rfl
    · have hv' : some "5" = some v := hv
      cases hv'
      have h5 : Numeral.readU64 "5" = .ok 5 := by rfl
      cases hr with
      | timeoutZero h => simp [h5] at h
      | timeoutUnread h => simp [h5] at h
  obtain ⟨-, hok, hgives⟩ := ofLookup_reads_variables_in_order overrides
  obtain ⟨c, hc⟩ := hok hdb husable
  have hg := (hgives c).1 hc
  refine ⟨hdb, husable, c, hc, ?_, hg.scheduleOff (by decide)⟩
  rcases hg.policySet "staff-override" (by decide) with ⟨h, -⟩ | ⟨-, h⟩
  · exact absurd h (by decide)
  · exact h

end Config

end RentalStatus
