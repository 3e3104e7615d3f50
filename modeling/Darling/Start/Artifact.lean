import Mathlib.Data.List.Nodup
import Mathlib.Data.List.Dedup
import Darling.Library.Checks

/-! The artifact of a `west dev start` transaction: what its journal records, the checks every record
passes, and the states one record may follow another in. -/
namespace Darling.Start

/-- The paths an artifact may claim. -/
inductive Place where
  | destination
  | staging
  | quarantine
  deriving DecidableEq, Repr

inductive State where
  | planned
  | active
  | committed
  | rolledBack
  | failed
  deriving DecidableEq, Repr

inductive NextAction where
  | executeStart
  | recoverStart
  | useDestination
  | buildNewPlan
  | inspectOwnership
  deriving DecidableEq, Repr

/-- `texts` stands for the paths, refs and names, which the checks read and nothing changes. -/
structure Inputs where
  destinationParent : Nat
  evidenceParent : Nat
  repositories : List Nat
  texts : Nat
  deriving DecidableEq, Repr

inductive ResultName where
  | command (number : Nat)
  | startTransaction
  | recoverStart
  deriving DecidableEq, Repr

structure Artifact where
  transaction : Nat
  state : State := .planned
  inputs : Inputs
  results : List (ResultName × Int) := []
  createdPaths : List Place := []
  evidenceGeneration : Nat := 0
  evidenceIdentity : Option Nat := none
  quarantineIdentity : Option Nat := none
  returncode : Option Int := none
  destinationIdentity : Option Nat := none
  nextSafeAction : NextAction := .executeStart
  deriving DecidableEq, Repr

/-- Why a `StartError` was raised. -/
inductive Reason where
  | invalidArtifact
  | unreadableEvidence
  | evidenceIdentity
  | unrelatedUpdate
  | evidenceDisappeared
  | temporaryExists
  | nameExists
  | evidenceExists
  | firstPublication
  | substitutedEvidence
  | exchangeRestored
  | exchangeNotRestored
  | binChanged
  | noEvidence
  | otherTransaction
  | unverifiedExchange
  | displacedChanged
  | inconsistentGenerations
  | parentChanged
  | unrecordedQuarantine
  | quarantineMissing
  | quarantineChanged
  | noOwnership
  | foreignQuarantined
  | manyTrees
  | foreignRemains
  | quarantineAppeared
  | quarantinedTree
  | unexpectedPaths
  | markerChanged
  | notEmpty
  | notPlanned
  | pathsExist
  | stagingAppeared
  | sourcesChanged
  | closureDiffers
  | destinationAppeared
  | stagingChanged
  | destinationChanged
  | committedChanged
  deriving DecidableEq, Repr

/-- What a step may raise. -/
inductive Failure where
  | start (reason : Reason)
  | command (returncode : Int)
  | interrupt
  | fileNotFound
  | fileExists
  | os
  | assertion
  deriving DecidableEq, Repr

/-- `isinstance(error, (CommandFailure, StartError, KeyboardInterrupt))`. -/
def Failure.handled : Failure → Bool
  | start _ | command _ | interrupt => true
  | _ => false

/-- `_failure_returncode`. -/
def Failure.returncode : Failure → Int
  | interrupt => 130
  | command returncode => returncode
  | _ => 1

namespace Artifact

def Unclaimed (a : Artifact) : Prop :=
  a.createdPaths = [] ∧ a.destinationIdentity = none ∧ a.quarantineIdentity = none

def Reserved (a : Artifact) : Prop :=
  a.createdPaths = [.staging] ∧ a.destinationIdentity = none ∧ a.quarantineIdentity = none

def Claimed (a : Artifact) : Prop :=
  a.createdPaths ≠ [] ∧ a.destinationIdentity ≠ none ∧
    (.quarantine ∈ a.createdPaths ↔ a.quarantineIdentity ≠ none)

instance (a : Artifact) : Decidable a.Unclaimed := inferInstanceAs (Decidable (_ ∧ _))
instance (a : Artifact) : Decidable a.Reserved := inferInstanceAs (Decidable (_ ∧ _))
instance (a : Artifact) : Decidable a.Claimed := inferInstanceAs (Decidable (_ ∧ _))

/-- The ownership guards of each state. -/
def Guards (a : Artifact) : State → Prop
  | .planned | .rolledBack => a.Unclaimed
  | .committed => a.createdPaths = [.destination] ∧ a.destinationIdentity ≠ none ∧ a.quarantineIdentity = none
  | .active => a.Reserved ∨ a.Unclaimed ∨ a.Claimed
  | .failed => True

/-- Only a terminal artifact has a return code. -/
def Returns (a : Artifact) : State → Prop
  | .planned | .active => a.returncode = none
  | .committed | .rolledBack | .failed => a.returncode ≠ none

instance (a : Artifact) : (state : State) → Decidable (a.Guards state)
  | .planned | .rolledBack => inferInstanceAs (Decidable a.Unclaimed)
  | .committed => inferInstanceAs (Decidable (_ ∧ _))
  | .active => inferInstanceAs (Decidable (_ ∨ _))
  | .failed => inferInstanceAs (Decidable True)

instance (a : Artifact) : (state : State) → Decidable (a.Returns state)
  | .planned | .active => inferInstanceAs (Decidable (_ = _))
  | .committed | .rolledBack | .failed => inferInstanceAs (Decidable (_ ≠ _))

/-- `_validate_artifact`; `accepts` is its part that reads only the inputs. -/
def Valid (accepts : Inputs → Bool) (a : Artifact) : Prop :=
  accepts a.inputs = true ∧ a.createdPaths.Nodup ∧ a.Guards a.state ∧ a.Returns a.state

instance (accepts : Inputs → Bool) (a : Artifact) : Decidable (a.Valid accepts) :=
  inferInstanceAs (Decidable (_ ∧ _))

/-- The artifact as it is written to the inode. -/
def stamped (a : Artifact) (inode : Nat) : Artifact :=
  { a with evidenceIdentity := some inode, evidenceGeneration := a.evidenceGeneration + 1 }

/-- Something on the disk is still claimed. -/
def owns (a : Artifact) : Bool :=
  a.createdPaths ≠ [] || a.destinationIdentity.isSome || a.quarantineIdentity.isSome

def append (a : Artifact) (name : ResultName) (returncode : Int) : Artifact :=
  { a with results := a.results ++ [(name, returncode)] }

end Artifact

/-- `_valid_transition`. -/
def validTransition : State → State → Bool
  | .active, .active => true
  | .planned, .active => true
  | .planned, .rolledBack => true
  | .planned, .failed => true
  | .active, .committed => true
  | .active, .rolledBack => true
  | .active, .failed => true
  | .committed, .rolledBack => true
  | .committed, .failed => true
  | .failed, .rolledBack => true
  | _, _ => false

end Darling.Start
