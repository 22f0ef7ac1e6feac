import RentalStatus.Text.Blank

namespace RentalStatus

inductive Occurrence where
  | every
  | nth (k : Nat)
  | last
  deriving DecidableEq, Repr

inductive CronPart where
  | values (lo hi step : Nat) (occurrence : Occurrence)
  | last
  | nearestWeekday (day : Nat)
  deriving DecidableEq, Repr

/-- A parsed cron schedule: the parts of each field, and whether both day fields must match. -/
structure Schedule where
  seconds : List CronPart
  minutes : List CronPart
  hours : List CronPart
  days : List CronPart
  months : List CronPart
  weekdays : List CronPart
  years : List CronPart
  bothDays : Bool
  deriving DecidableEq, Repr

namespace Schedule

inductive Field where
  | second | minute | hour | day | month | weekday | year
  deriving DecidableEq, Repr

def Field.bounds : Field → Nat × Nat
  | .second => (0, 59)
  | .minute => (0, 59)
  | .hour => (0, 23)
  | .day => (1, 31)
  | .month => (1, 12)
  | .weekday => (0, 7)
  | .year => (1, 5000)

def Field.takesLast (f : Field) : Bool := f == .day || f == .weekday

def Field.takesNth (f : Field) : Bool := f == .weekday

def Field.takes (f : Field) : Occurrence → Bool
  | .every => true
  | .nth _ => f.takesNth
  | .last => f.takesLast

def Field.allows (f : Field) (c : Char) : Bool :=
  c.isDigit || ['*', '/', '-', ','].contains c ||
    match f with
    | .day => "LW?".contains c
    | .weekday => "L#?".contains c
    | _ => false

def wordMax : Nat := 65535

def digits? (cs : List Char) : Option Nat :=
  if !cs.isEmpty && cs.all Char.isDigit then
    some (cs.foldl (fun n c => 10 * n + (c.toNat - '0'.toNat)) 0)
  else none

def number? (cs : List Char) : Option Nat := do
  let n ← digits? cs
  if n ≤ wordMax then some n else none

def value? (f : Field) (cs : List Char) : Option Nat := do
  let n ← number? cs
  if f.bounds.1 ≤ n ∧ n ≤ f.bounds.2 then some n else none

def occurrence? (cs : List Char) : Option Occurrence :=
  if cs.getLast? == some 'L' then some .last
  else if cs.contains '#' then do
    let k ← digits? (cs.dropWhile (· ≠ '#')).tail
    if 1 ≤ k ∧ k ≤ 5 then some (.nth k) else none
  else some .every

def base (cs : List Char) : List Char := cs.takeWhile (· ≠ '#')

def range? (f : Field) (cs : List Char) : Option (Nat × Nat) :=
  match cs.splitOn '-' with
  | [a, b] => do
    let lo ← number? a
    let hi ← number? b
    if lo ≤ hi ∧ f.bounds.1 ≤ lo ∧ hi ≤ f.bounds.2 then some (lo, hi) else none
  | _ => none

def marked (f : Field) (lo hi step : Nat) (o : Occurrence) : Option CronPart :=
  if f.takes o then some (.values lo hi step o) else none

def stepped (f : Field) (cs : List Char) : Option CronPart := do
  let o ← occurrence? cs
  match (base cs).splitOn '/' with
  | [r, s] =>
    let k ← number? s
    if k = 0 then none
    let (lo, hi) ← if r = ['*'] ∨ r = ['?'] then some f.bounds
      else if r.contains '-' then range? f r
      else (value? f r).map fun v => (v, f.bounds.2)
    if lo + k > wordMax then none
    marked f lo hi k o
  | _ => none

def ranged (f : Field) (cs : List Char) : Option CronPart := do
  let o ← occurrence? cs
  let (lo, hi) ← range? f (base cs)
  marked f lo hi 1 o

def nearest (f : Field) (cs : List Char) : Option CronPart := do
  let d ← value? f (cs.takeWhile (· ≠ 'W'))
  if f = .day then some (.nearestWeekday d) else none

def single (f : Field) (cs : List Char) : Option CronPart := do
  let cs := if cs.getLast? == some 'L' ∧ !cs.contains '#' then
      cs.flatMap fun c => if c = 'L' then ['#', 'L'] else [c]
    else cs
  if (cs.contains '#' || cs.contains 'L') && !f.takesNth then none
  let o ← occurrence? cs
  let v ← value? f (base cs)
  marked f v v 1 o

def part (f : Field) (cs : List Char) : Option CronPart :=
  if cs.contains '/' then stepped f cs
  else if cs.contains '-' then ranged f cs
  else if cs.contains 'W' then nearest f cs
  else if cs = ['L'] then (if f.takesLast then some .last else none)
  else single f cs

def field (f : Field) (s : String) : Option (List CronPart) :=
  if !s.toList.all f.allows then none
  else if s = "*" ∨ s = "?" then some [.values f.bounds.1 f.bounds.2 1 .every]
  else ((s.toList.splitOn ',').filter (!·.isEmpty)).mapM (part f)

def upperChars (c : Char) : List Char :=
  match c.toNat with
  | 0x017F => ['S']
  | 0x0131 => ['I']
  | 0x00DF => ['S', 'S']
  | 0xFB00 => ['F', 'F']
  | 0xFB01 => ['F', 'I']
  | 0xFB02 => ['F', 'L']
  | 0xFB03 => ['F', 'F', 'I']
  | 0xFB04 => ['F', 'F', 'L']
  | 0xFB05 => ['S', 'T']
  | 0xFB06 => ['S', 'T']
  | _ => [c.toUpper]

def names : List (String × String) :=
  [("-SUN", "-7"), ("SUN", "0"), ("MON", "1"), ("TUE", "2"), ("WED", "3"), ("THU", "4"),
   ("FRI", "5"), ("SAT", "6"),
   ("JAN", "1"), ("FEB", "2"), ("MAR", "3"), ("APR", "4"), ("MAY", "5"), ("JUN", "6"),
   ("JUL", "7"), ("AUG", "8"), ("SEP", "9"), ("OCT", "10"), ("NOV", "11"), ("DEC", "12")]

def upper (s : String) : String := String.ofList (s.toList.flatMap upperChars)

def unname (s : String) : String := names.foldl (fun acc (n, v) => acc.replace n v) s

def trim (s : String) : String :=
  String.ofList ((s.toList.dropWhile Text.isBlank).reverse.dropWhile Text.isBlank).reverse

def nickname (s : String) : String :=
  match trim s with
  | "@YEARLY" | "@ANNUALLY" => "0 0 0 1 1 *"
  | "@MONTHLY" => "0 0 0 1 * *"
  | "@WEEKLY" => "0 0 0 * * 0"
  | "@DAILY" => "0 0 0 * * *"
  | "@HOURLY" => "0 0 * * * *"
  | s => s

def words (s : String) : List String :=
  (s.toList.splitOnP Text.isBlank).filter (!·.isEmpty) |>.map String.ofList

/-- Reads a cron pattern with seconds and an optional year. -/
def parse? (pattern : String) : Option Schedule :=
  let pattern := upper pattern
  if Text.blank pattern then none
  else
    let text := if pattern.toList.contains '@' then nickname pattern else pattern
    match words (unname text) with
    | [s, mi, h, d, mo, w] => build s mi h d mo w "*"
    | [s, mi, h, d, mo, w, y] => build s mi h d mo w y
    | _ => none
where
  build (s mi h d mo w y : String) : Option Schedule := do
    let both := w.startsWith "+"
    let w := if both then String.ofList w.toList.tail else w
    return { seconds := ← field .second s, minutes := ← field .minute mi, hours := ← field .hour h,
             days := ← field .day d, months := ← field .month mo, weekdays := ← field .weekday w,
             years := ← field .year y, bothDays := both }

end Schedule

end RentalStatus
