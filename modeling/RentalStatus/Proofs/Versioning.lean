import RentalStatus.Proofs.Sweep

namespace RentalStatus

open EngineOp

namespace Store

/-- Whether an append got past the version check: it returned an event, or it failed after the
check. -/
def Passed : Except DbError (Option Event) → Bool
  | .ok none => false
  | _ => true

variable {s s' : Store} {p : AppendRequest} {r : Except DbError (Option Event)}

theorem Appended.orders (h : Appended s p r s') :
    (Passed r = false ∧ s' = s) ∨
      (Passed r = true ∧ (∃ x ∈ s.orders, x.id = p.orderId ∧ x.statusVersion = p.expectedVersion) ∧
        s'.orders = s.bumped p) := by
  cases h with
  | stale => exact .inl ⟨rfl, rfl⟩
  | inserted hat => exact .inr ⟨rfl, hat, rfl⟩
  | refused hat => exact .inr ⟨rfl, hat, rfl⟩
  | unreadable hat => exact .inr ⟨rfl, hat, rfl⟩

theorem bumped_ids (s : Store) (p : AppendRequest) :
    (s.bumped p).map (·.id) = s.orders.map (·.id) := by
  rw [bumped, List.map_map]
  congr 1
  funext x
  by_cases hx : x.id = p.orderId <;> simp [hx]

theorem leaves_currentStatus (o : Int) (s : Store) : leaves (currentStatus o s) = s := by
  unfold currentStatus
  split
  · rfl
  · split
    · rfl
    · split
      · rfl
      · split <;> rfl

theorem append_step {o : Int} {ord : OrderRow} (hk : (s.orders.map (·.id)).Nodup)
    (ho : s.order? o = some ord) (p : AppendRequest) :
    ((leaves (append p s)).orders.map (·.id)).Nodup ∧
      if p.orderId = o ∧ Passed (outcome (append p s)).1 = true then
        p.expectedVersion = ord.statusVersion ∧
          (leaves (append p s)).order? o = some { ord with statusVersion := p.expectedVersion + 1 }
      else (leaves (append p s)).order? o = some ord := by
  rcases (appended_append s p).orders with ⟨hpass, hs⟩ | ⟨hpass, ⟨x, hx, hid, hv⟩, hs⟩
  · -- the check failed and nothing was written
    rw [hs, hpass]
    exact ⟨hk, by simp [ho]⟩
  · have hk₁ : ((leaves (append p s)).orders.map (·.id)).Nodup := by
      rw [hs, bumped_ids]
      exact hk
    refine ⟨hk₁, ?_⟩
    by_cases hpo : p.orderId = o
    · -- the check passed on `o`, so the row at the expected version is the row of `o`
      have hordid : ord.id = o := by simpa using List.find?_some ho
      have hord : x = ord := List.inj_on_of_nodup_map hk hx (List.mem_of_find?_eq_some ho)
        (hid.trans (hpo.trans hordid.symm))
      subst hord
      rw [if_pos ⟨hpo, hpass⟩]
      exact ⟨hv.symm, order?_map_self (fun x => { x with statusVersion := p.expectedVersion + 1 })
        (fun _ => rfl) (by rw [hs, bumped, hpo]) ho⟩
    · rw [if_neg fun h => hpo h.1]
      exact (order?_map_of_ne hpo (fun x => { x with statusVersion := p.expectedVersion + 1 })
        (fun _ => rfl) (by rw [hs, bumped])).trans ho

end Store

/-- A whole call a client makes on the pooled connection: a read of an order's current status, or
an append at the version the client read. -/
inductive StoreCall where
  | current (orderId : Int)
  | append (p : AppendRequest)

def serve : List StoreCall → Store → List (AppendRequest × Except DbError (Option Event)) × Store
  | [], s => ([], s)
  | .current o :: cs, s => serve cs (leaves (Store.currentStatus o s))
  | .append p :: cs, s =>
    let first := outcome (Store.append p s)
    let rest := serve cs first.2
    ((p, first.1) :: rest.1, rest.2)

def passedVersions (o : Int) (rs : List (AppendRequest × Except DbError (Option Event))) :
    List Int32 :=
  (rs.filter fun a => a.1.orderId == o && Store.Passed a.2).map (·.1.expectedVersion)

/-- Versions `vs` that appends were made against one after another, from `v₀` to `v`: each
against the version the one before it left. -/
def Chain (v₀ : Int32) (vs : List Int32) (v : Int32) : Prop :=
  vs ++ [v] = v₀ :: vs.map (· + 1)

theorem Chain.consecutive {v₀ v : Int32} {vs : List Int32} (h : Chain v₀ vs v)
    (hmax : ∀ x ∈ vs, x ≠ Int32.maxValue) :
    vs.map Int32.toInt = (List.range vs.length).map (fun i : Nat => v₀.toInt + i) ∧
      v.toInt = v₀.toInt + vs.length := by
  induction vs generalizing v₀ with
  | nil =>
    obtain rfl : v = v₀ := by simpa [Chain] using h
    simp
  | cons x xs ih =>
    -- the first was made against `v₀`, and the rest chain on from `x + 1`
    obtain ⟨rfl, htail⟩ : x = v₀ ∧ Chain (x + 1) xs v := by simpa [Chain] using h
    have hx : (x + 1).toInt = x.toInt + 1 := by
      rw [Int32.toInt_add_one, if_neg (hmax x List.mem_cons_self)]
    obtain ⟨hxs, hv⟩ := ih htail fun y hy => hmax y (List.mem_cons_of_mem x hy)
    rw [hx] at hxs hv
    refine ⟨?_, by rw [hv, List.length_cons]; omega⟩
    rw [List.map_cons, hxs, List.length_cons, List.range_succ_eq_map, List.map_cons, List.map_map,
      List.cons.injEq]
    refine ⟨by simp, List.map_congr_left fun i _ => ?_⟩
    simp only [Function.comp]
    omega

theorem Chain.nodup {v₀ v : Int32} {vs : List Int32} (h : Chain v₀ vs v)
    (hmax : ∀ x ∈ vs, x ≠ Int32.maxValue) : vs.Nodup := by
  have hrange : ((List.range vs.length).map (fun i : Nat => v₀.toInt + i)).Nodup :=
    (List.nodup_range).map fun i j hij => by omega
  rw [← (h.consecutive hmax).1] at hrange
  exact hrange.of_map _

theorem passedVersions_cons (o : Int) (p : AppendRequest) (r : Except DbError (Option Event))
    (rs : List (AppendRequest × Except DbError (Option Event))) :
    passedVersions o ((p, r) :: rs) =
      if p.orderId = o ∧ Store.Passed r = true then p.expectedVersion :: passedVersions o rs
      else passedVersions o rs := by
  by_cases h : p.orderId = o ∧ Store.Passed r = true <;> simp_all [passedVersions]

/-- Over any calls, the appends to an existing order that got past the check form a chain from
the version it started at to the version it ends at. -/
theorem serve_chain (cs : List StoreCall) {s : Store} (hk : (s.orders.map (·.id)).Nodup) {o : Int}
    {ord : OrderRow} (ho : s.order? o = some ord) :
    ∃ ord', (serve cs s).2.order? o = some ord' ∧
      Chain ord.statusVersion (passedVersions o (serve cs s).1) ord'.statusVersion := by
  induction cs generalizing s ord with
  | nil => exact ⟨ord, ho, rfl⟩
  | cons c cs ih =>
    cases c with
    | current o' =>
      show ∃ ord', (serve cs (leaves (Store.currentStatus o' s))).2.order? o = some ord' ∧
        Chain ord.statusVersion (passedVersions o (serve cs (leaves (Store.currentStatus o' s))).1)
          ord'.statusVersion
      rw [Store.leaves_currentStatus]
      exact ih hk ho
    | append p =>
      show ∃ ord', (serve cs (leaves (Store.append p s))).2.order? o = some ord' ∧
        Chain ord.statusVersion (passedVersions o ((p, (outcome (Store.append p s)).1) ::
          (serve cs (leaves (Store.append p s))).1)) ord'.statusVersion
      obtain ⟨hk₁, hstep⟩ := Store.append_step hk ho p
      rw [passedVersions_cons]
      by_cases hpass : p.orderId = o ∧ Store.Passed (outcome (Store.append p s)).1 = true
      · -- the append got past the check on `o`: its version heads the chain, which goes on from
        -- the next one
        rw [if_pos hpass] at hstep ⊢
        obtain ⟨hv, ho₁⟩ := hstep
        obtain ⟨ord', ho', hchain⟩ := ih hk₁ ho₁
        refine ⟨ord', ho', ?_⟩
        rw [Chain, List.cons_append, hchain, hv]
        rfl
      · rw [if_neg hpass] at hstep ⊢
        exact ih hk₁ hstep

/-- Appends on the pooled connection compare and swap the order's version, over any interleaving
of whole calls. An append returns `Ok(None)` and writes nothing exactly when no row of the order
is at the expected version; otherwise the version moves on by one at once and the event goes in
after it, and is returned, or refused when its author names no user, or written but unreadable
when its id is beyond 32 bits: a failure keeps the moved version. Over any calls, the appends to
an order that got past the check were made against the version it started at and each next one;
below the largest 32-bit version, no two of them against the same version, and the order ends at
its first version plus their number. -/
theorem connection_appends_compare_and_swap :
    (∀ s p, Store.Appended s p (outcome (Store.append p s)).1 (leaves (Store.append p s))) ∧
    ∀ (s : Store) (cs : List StoreCall) (o : Int) (ord : OrderRow),
      (s.orders.map (·.id)).Nodup → s.order? o = some ord →
      ∃ ord', (serve cs s).2.order? o = some ord' ∧
        Chain ord.statusVersion (passedVersions o (serve cs s).1) ord'.statusVersion ∧
        ((∀ v ∈ passedVersions o (serve cs s).1, v ≠ Int32.maxValue) →
          (passedVersions o (serve cs s).1).Nodup ∧
          ord'.statusVersion.toInt =
            ord.statusVersion.toInt + (passedVersions o (serve cs s).1).length) := by
  refine ⟨Store.appended_append, fun s cs o ord hk ho => ?_⟩
  obtain ⟨ord', ho', hchain⟩ := serve_chain cs hk ho
  exact ⟨ord', ho', hchain, fun hmax => ⟨hchain.nodup hmax, (hchain.consecutive hmax).2⟩⟩

def raceCalls : List StoreCall :=
  [.current 10, .current 10,
   .append ⟨10, 0, .approved, none, ⟨1675598400, 0⟩, some 1⟩,
   .append ⟨10, 0, .rejected, none, ⟨1675598400, 0⟩, some 1⟩,
   .append ⟨10, 1, .closed, none, ⟨1675602000, 0⟩, some 7⟩]

theorem connection_appends_compare_and_swap_race :
    (reviewStore.orders.map (·.id)).Nodup ∧ reviewStore.order? 10 = some { id := 10, userId := 1 } ∧
      passedVersions 10 (serve raceCalls reviewStore).1 = [0, 1] ∧
      ∃ ord', (serve raceCalls reviewStore).2.order? 10 = some ord' ∧
        Chain 0 (passedVersions 10 (serve raceCalls reviewStore).1) ord'.statusVersion ∧
        ((∀ v ∈ passedVersions 10 (serve raceCalls reviewStore).1, v ≠ Int32.maxValue) →
          (passedVersions 10 (serve raceCalls reviewStore).1).Nodup ∧
          ord'.statusVersion.toInt = (0 : Int32).toInt +
            (passedVersions 10 (serve raceCalls reviewStore).1).length) :=
  ⟨by decide, rfl, by decide,
    connection_appends_compare_and_swap.2 reviewStore raceCalls 10 _ (by decide) rfl⟩

/-- An append by an author who names no user fails after its check moved the order's version on,
and the moved version stays. -/
theorem append_unknown_author_keeps_bump :
    ∃ s₁, Store.append ⟨10, 0, .approved, none, ⟨1675598400, 0⟩, some 7⟩ reviewStore =
        .error .foreignKey s₁ ∧
      (reviewStore.order? 10).map (·.statusVersion) = some 0 ∧
      (s₁.order? 10).map (·.statusVersion) = some 1 :=
  ⟨_, rfl, rfl, rfl⟩

end RentalStatus
