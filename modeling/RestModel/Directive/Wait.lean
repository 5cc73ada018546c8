import RestModel.Text.Blank

/-! # Waiting for asynchronous methods -/

namespace RestModel

/-- How long a caller waits for an asynchronous method. -/
structure Wait where
  literal : String
  seconds : Nat
  deriving Repr, DecidableEq, Inhabited

namespace Wait

/-- The waits that an option can name. -/
def supported : List Wait :=
  [⟨"30s", 30⟩, ⟨"1m", 60⟩, ⟨"2m", 120⟩, ⟨"5m", 300⟩, ⟨"10m", 600⟩, ⟨"15m", 900⟩,
    ⟨"20m", 1200⟩, ⟨"30m", 1800⟩, ⟨"1h", 3600⟩, ⟨"2h", 7200⟩]

def ofLiteral? (literal : String) : Option Wait :=
  supported.find? fun wait => wait.literal == Text.trim literal

def standard : Wait := ⟨"5m", 300⟩

end Wait

end RestModel
