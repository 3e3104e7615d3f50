/-! Checkpoints and errors shared by the lifecycle reducer and the operation boundary. -/
namespace Darling.Boundary

inductive Checkpoint where
  | afterMkdirBeforeBind
  | afterBindBeforePublish
  | afterStageMkdirBeforeBind
  | afterStageBindBeforeMove
  | afterMoveBeforeVerify
  | afterQuarantineMoveBeforeVerify
  | afterQuarantineVerifyBeforeGc
  | beforeExactMutation
  | afterExactMutation
  deriving DecidableEq, Repr

/-- `errno` is the raw operating-system error retained by `io::Error`. -/
inductive BoundaryError where
  | io (operation : String) (errno : Nat)
  | invalidComponent (component : String)
  | notAbsolutePath
  | identityMismatch
  | wrongCapability (operation : String)
  | capabilityClosed
  | budgetExceeded (operation : String)
  | quarantineRequired
  | injected (checkpoint : Checkpoint)
  | unsupported (operation : String)
  deriving DecidableEq, Repr

def ENOENT : Nat := 2

def BoundaryError.isNotFound : BoundaryError → Bool
  | io _ errno => errno = ENOENT
  | _ => false

end Darling.Boundary
