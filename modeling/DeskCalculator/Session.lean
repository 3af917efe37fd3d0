import DeskCalculator.Calculator

/-!
# Sessions

A session is a list of calculators that grows.  Each step concerns the calculator at one
place: it answers a message, forgets its last result, or is copied to the end of the list.
A step at a place without a calculator does nothing.
-/

namespace DeskCalculator

/-- A list of calculators. -/
abbrev Session := List Calculator

namespace Session

/-- What is done with the calculator at a place. -/
inductive Step where
  | respond (place : Nat) (message : String)
  | clear (place : Nat)
  | copy (place : Nat)
deriving DecidableEq, Repr

/-- The place that a step concerns. -/
def Step.place : Step → Nat
  | respond place _ => place
  | clear place => place
  | copy place => place

/-- The reply to a step, if it has one, and the session after the step. -/
def step (session : Session) : Step → Option Reply × Session
  | .respond place message =>
    match session[place]? with
    | none => (none, session)
    | some calculator =>
      let (reply, calculator) := calculator.respond message
      (some reply, session.set place calculator)
  | .clear place => (none, session.modify place Calculator.clear)
  | .copy place => (none, session ++ session[place]?.toList)

/-- The replies to several steps in a row, and the session after them. -/
def run (session : Session) : List Step → List (Option Reply) × Session
  | [] => ([], session)
  | step :: rest =>
    let (reply, session) := session.step step
    let (replies, session) := run session rest
    (reply :: replies, session)

end Session

end DeskCalculator
