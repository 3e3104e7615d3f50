import Darling.Fuzz.Classification

/-! Minimization drops operations and keeps the failure. -/
namespace Darling.Fuzz

variable {platform : Platform} {expected : FailureFingerprint} {program : ScenarioBytecode}

theorem keepsFailure_iff {trial : ScenarioBytecode} :
    keepsFailure platform expected trial = true ↔
      ∃ report, replayReducer platform trial false = .ok report ∧ report.failureFingerprint = expected := by
  have same : replayReducer platform trial false =
      replayWith platform.osError trial (fun _ => trial) >>= ensureOutputBound platform := rfl
  rw [same]
  unfold keepsFailure
  split
  · rename_i report ran
    simp [ran]
  · rename_i error ran
    simp [ran]

/-- Two replays of a program differ only in the program they report for its failure. -/
theorem replayWith_minimizing {osError : Nat → String} {minimizing other : FailureFingerprint → ScenarioBytecode}
    {report : ReplayReport} (ran : replayWith osError program minimizing = .ok report)
    (same : minimizing report.failureFingerprint = other report.failureFingerprint) :
    replayWith osError program other = .ok report := by
  simp only [replayWith, bind_ok] at ran ⊢
  obtain ⟨stable, initial, r, start, done⟩ := ran
  cases done
  refine ⟨stable, initial, r, start, ?_⟩
  have same : minimizing (failureFingerprint _ _) = other (failureFingerprint _ _) := same
  rw [← same]
  rfl

/-- The header of the program, some of its operations in their order, and the same failure. -/
structure Shrunk (platform : Platform) (program : ScenarioBytecode) (expected : FailureFingerprint)
    (candidate : ScenarioBytecode) : Prop where
  header : candidate = { program with ops := candidate.ops }
  ops : candidate.ops.Sublist program.ops
  failure : candidate = program ∨ keepsFailure platform expected candidate = true

/-- Each deletion is checked against the failure of the original program, not of the candidate before. -/
theorem minimizeFrom_shrunk (candidate : ScenarioBytecode) (index : Nat)
    (shrunk : Shrunk platform program expected candidate) :
    Shrunk platform program expected (minimizeFrom platform expected candidate index) := by
  fun_induction minimizeFrom platform expected candidate index with
  | case1 candidate index below keeps induction =>
    refine induction ⟨?_, ?_, .inr keeps⟩
    · rw [ScenarioBytecode.without, shrunk.header]
    · exact (List.eraseIdx_sublist candidate.ops index).trans shrunk.ops
  | case2 candidate index below fails induction => exact induction shrunk
  | case3 candidate index done => exact shrunk

/-- The minimized program replays to the failure of the original. -/
theorem minimize_keeps_failure (platform : Platform) (program : ScenarioBytecode) (minimizeFailures : Bool)
    (report : ReplayReport) (replayed : replayReducer platform program minimizeFailures = .ok report) :
    let minimized := minimizeReducerProgram platform program report.failureFingerprint
    (minimized.mode = program.mode ∧ minimized.seed = program.seed ∧ minimized.boundary = program.boundary ∧
        minimized.interleaving = program.interleaving ∧ minimized.initialStable = program.initialStable) ∧
      minimized.ops.Sublist program.ops ∧
      ∃ own, replayReducer platform minimized false = .ok own ∧ own.failureFingerprint = report.failureFingerprint := by
  intro minimized
  have shrunk : Shrunk platform program report.failureFingerprint minimized :=
    minimizeFrom_shrunk program 0 ⟨rfl, List.Sublist.refl _, .inl rfl⟩
  refine ⟨?_, shrunk.ops, ?_⟩
  · rw [shrunk.header]
    exact ⟨rfl, rfl, rfl, rfl, rfl⟩
  · rcases shrunk.failure with whole | keeps
    · refine ⟨report, ?_, rfl⟩
      rw [whole]
      simp only [replayReducer, bind_ok] at replayed ⊢
      obtain ⟨output, ran, bounded⟩ := replayed
      have kept : output = report := by
        unfold ensureOutputBound at bounded
        split at bounded
        · cases bounded
        · exact Except.ok.inj bounded
      subst kept
      refine ⟨output, replayWith_minimizing ran ?_, bounded⟩
      cases minimizeFailures
      · rfl
      · exact whole
    · exact keepsFailure_iff.mp keeps

/-- A signal to a capability that was never acquired. -/
def staleSignal : ScenarioBytecode :=
  ⟨.reducer, 0, 0, 0, 2, [.noop, .signal 0 0 1, .terminal 3]⟩

theorem minimize_keeps_failure_staleSignal :
    ∃ report own, replayReducer plainPlatform staleSignal false = .ok report ∧ report.errors.length = 1 ∧
      replayReducer plainPlatform (minimizeReducerProgram plainPlatform staleSignal report.failureFingerprint) false =
        .ok own ∧ own.failureFingerprint = report.failureFingerprint := by
  have failed : (replayReducer plainPlatform staleSignal false).map (·.errors.length) = .ok 1 := by decide +kernel
  cases replayed : replayReducer plainPlatform staleSignal false with
  | error error =>
    rw [replayed] at failed
    cases failed
  | ok report =>
    rw [replayed] at failed
    obtain ⟨-, -, own, ran, same⟩ := minimize_keeps_failure plainPlatform staleSignal false report replayed
    exact ⟨report, own, rfl, Except.ok.inj failed, ran, same⟩

end Darling.Fuzz
