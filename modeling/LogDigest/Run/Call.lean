import LogDigest.Event

/-!
# Calls

What a call of a replaceable part of a run does: it returns, fails, or unwinds with a message. On
the way it may ask to cancel the run, and it may log.
-/

namespace LogDigest

/-- How a call ends. -/
inductive CallEnd (ε α : Type) where
  | returned (a : α)
  | failed (e : ε)
  /-- By unwinding, with a message. -/
  | unwound (message : String)
deriving DecidableEq, Repr

/-- What a call does. -/
structure Call (ε α : Type) where
  result : CallEnd ε α
  /-- Whether it asks to cancel the run. -/
  cancels : Bool := false
  events : List Event := []
deriving DecidableEq, Repr

namespace Call

/-- A call that returns and does nothing else. -/
def pure {ε α : Type} (a : α) : Call ε α := { result := .returned a }

/-- A call that returns or fails and does nothing else. -/
def ofExcept {ε α : Type} : Except ε α → Call ε α
  | .ok a => { result := .returned a }
  | .error e => { result := .failed e }

end Call

end LogDigest
