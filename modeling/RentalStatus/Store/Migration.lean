import RentalStatus.Status

namespace RentalStatus

structure Migration where
  name : String
  tables : List String
  rows : List (String × Nat)
  deriving DecidableEq, Repr

namespace Migration

def all : List Migration :=
  [⟨"m20250301_000001_create_user_table", ["user"], []⟩,
   ⟨"m20250301_000002_create_equipment_table", ["equipment"], []⟩,
   ⟨"m20250301_000003_create_order_table", ["orders"], []⟩,
   ⟨"m20250301_000004_create_order_equipment_table", ["order_equipment"], []⟩,
   ⟨"m20250301_000005_create_status_name_tables", ["order_status_name", "equipment_status_name"],
     [("order_status_name", OrderStatus.all.length),
      ("equipment_status_name", EquipmentStatus.all.length)]⟩,
   ⟨"m20250301_000006_create_order_status_table", ["order_status"], []⟩,
   ⟨"m20250301_000007_create_equipment_status_table", ["equipment_status"], []⟩]

def ledger : String := "seaql_migrations"

end Migration

inductive MigrationCommand where
  | up (count : Option Nat)
  | down (count : Option Nat)
  | fresh
  | refresh
  | reset
  deriving DecidableEq, Repr

/-- A database as the migrator sees it: how many migrations are applied, and whether the ledger
exists. -/
structure MigrationState where
  applied : Nat := 0
  hasLedger : Bool := false
  deriving DecidableEq, Repr

namespace MigrationState

def up (s : MigrationState) (count : Option Nat) : MigrationState :=
  let pending := Migration.all.length - s.applied
  { s with applied := s.applied + min pending (count.getD pending) }

def down (s : MigrationState) (count : Option Nat) : MigrationState :=
  { s with applied := s.applied - min s.applied (count.getD s.applied) }

/-- Runs a command. -/
def run (s : MigrationState) : MigrationCommand → MigrationState
  | .up n => { s with hasLedger := true }.up n
  | .down n => { s with hasLedger := true }.down n
  | .fresh => ({ applied := 0, hasLedger := true } : MigrationState).up none
  | .refresh => ({ s with hasLedger := true }.down none).up none
  | .reset => { s with hasLedger := true }.down none

def appliedMigrations (s : MigrationState) : List Migration := Migration.all.take s.applied

def tables (s : MigrationState) : List String :=
  sortNames ((if s.hasLedger then [Migration.ledger] else []) ++
    (s.appliedMigrations.map (·.tables)).flatten)

def rows (s : MigrationState) : List (String × Nat) :=
  (s.appliedMigrations.map (·.rows)).flatten

end MigrationState

end RentalStatus
