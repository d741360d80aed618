import Ranging.Session.Exchange

/-!
# Serving

An anchor answers Polls one after the other for as long as it lives. It counts
its replies and its failures in 32 bits and logs them; that no Poll came in
time is to be expected and is neither counted nor logged. A program is finite,
so the number of rounds is a parameter.
-/

namespace Ranging

namespace Session

/-- Answer Polls for a number of rounds, after the given counts. -/
def serveFrom {F ε : Type} : Nat → UInt32 → UInt32 → SessionProgram F ε Unit
  | 0, _, _ => pure ()
  | rounds + 1, replies, failures => do
      match ← respond.run with
      | .ok reply =>
          Program.log (.answered reply.peer (replies + 1) failures)
          serveFrom rounds (replies + 1) failures
      | .error .timeout => serveFrom rounds replies failures
      | .error error =>
          Program.log (.exchangeFailed error.kind)
          serveFrom rounds replies (failures + 1)

/-- Answer Polls for a number of rounds. -/
def serve {F ε : Type} (rounds : Nat) : SessionProgram F ε Unit :=
  serveFrom rounds 0 0

end Session

end Ranging
