import SessionHub.Proofs.Session.Operation

/-!
# Operations that fail

An operation of the session manager that fails has run commands at most: it has changed no
entry, and nobody was told anything.
-/

namespace SessionHub
namespace Job

variable {First Result : Type}

/-- Nobody notices the job if it fails, whatever the commands answer. -/
def FailsUnnoticed (job : Job (Except SessionError Result)) : Prop :=
  ∀ (Runner : Type) (runner : CommandRunner Runner) (world : World Runner)
    (failure : SessionError), (job.run runner world).1 = .error failure →
      world.Unnoticed (job.run runner world).2

theorem FailsUnnoticed.ite
    {condition : Prop}
    [Decidable condition]
    {first second : Job (Except SessionError Result)}
    (failsFirst : first.FailsUnnoticed)
    (failsSecond : second.FailsUnnoticed) :
    (if condition then first else second).FailsUnnoticed := by
  split
  · exact failsFirst
  · exact failsSecond

end Job

namespace SessionManager

variable (manager : SessionManager)

end SessionManager
end SessionHub
