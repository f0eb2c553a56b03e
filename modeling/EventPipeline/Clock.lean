/-! A clock in nanoseconds that never goes back.

Time passes while somebody waits, and a little of it may pass before each reading and before a timer
rings. How much is given in advance, so that every non-decreasing sequence of readings is that of some
clock. -/

namespace EventPipeline

structure Clock where
  now : Nat
  /-- What passes before each of the next readings; nothing passes before later ones. -/
  pauses : List Nat
deriving DecidableEq, Repr, Inhabited

namespace Clock

def start : Clock := ⟨0, []⟩

/-- The clock after the next reading; the reading is its `now`. -/
def read : Clock → Clock
  | ⟨now, []⟩ => ⟨now, []⟩
  | ⟨now, pause :: rest⟩ => ⟨now + pause, rest⟩

def pass (clock : Clock) (duration : Nat) : Clock := { clock with now := clock.now + duration }

def reach (clock : Clock) (moment : Nat) : Clock := { clock with now := max clock.now moment }

theorem now_le_read (clock : Clock) : clock.now ≤ clock.read.now := by
  obtain ⟨now, _ | ⟨pause, rest⟩⟩ := clock <;> simp [read]

theorem now_le_pass (clock : Clock) (duration : Nat) : clock.now ≤ (clock.pass duration).now := by
  simp [pass]

theorem now_le_reach (clock : Clock) (moment : Nat) : clock.now ≤ (clock.reach moment).now :=
  Nat.le_max_left ..

end Clock

end EventPipeline
