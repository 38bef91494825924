import DualPhy.Controller
import DualPhy.Proofs.Act

/-!
# What discovery finds

A discovery document that can be fetched and decoded is surveyed: its blocks are listed, and
every role gets the block that the matchers say. A controller that connects is built from that
and has made no call.
-/

namespace DualPhy

/-- A loop over acts that always succeed and change nothing is one itself. -/
theorem Act.forEach_of_still
    {act : α → Act ε σ Unit}
    (still : ∀ item start, (act item start).outcome = .done () ∧ (act item start).state = start)
    (items : List α)
    (start : σ) :
    (forEach act items start).outcome = .done () ∧ (forEach act items start).state = start := by
  induction items with
  | nil => exact ⟨rfl, rfl⟩
  | cons item items inductionHypothesis =>
      obtain ⟨outcome, state⟩ := still item start
      simp only [forEach, outcome_bind, state_bind, outcome, state]
      exact inductionHypothesis

namespace Survey

theorem forEach_logAssignment (assigned : List (Role × Block)) (start : σ) :
    (Act.forEach (logAssignment : _ → Act ε σ Unit) assigned start).outcome = .done () ∧
      (Act.forEach (logAssignment : _ → Act ε σ Unit) assigned start).state = start :=
  Act.forEach_of_still (fun _ _ => ⟨rfl, rfl⟩) assigned start

theorem forEach_warnMissing (base : String) (missing : List Role) (start : σ) :
    (Act.forEach (warnMissing base : _ → Act ε σ Unit) missing start).outcome = .done () ∧
      (Act.forEach (warnMissing base : _ → Act ε σ Unit) missing start).state = start :=
  Act.forEach_of_still (fun _ _ => ⟨rfl, rfl⟩) missing start

/-- A discovery document that can be read is surveyed. -/
theorem discover_of_document
    [Transport τ]
    {transport : τ}
    {base : String}
    {document : Json}
    {blocks : List Block}
    (fetched : (Transport.get base transport).outcome = .done document)
    (decoded : decodeBlocks document = .ok blocks)
    (matchers : List Matcher) :
    (discover base matchers transport).outcome =
        .done ⟨blocks, Resolution.resolve blocks matchers⟩ ∧
      (discover base matchers transport).state = (Transport.get base transport).state := by
  have accepted : decode document = .ok blocks := by rw [decode, decoded]
  simp [discover, fetched, accepted, forEach_logAssignment, forEach_warnMissing]

end Survey

/-- With a discovery document that can be read, a controller connects. -/
theorem Controller.connect_of_document
    [Transport τ]
    {transport : τ}
    {base : String}
    {document : Json}
    {blocks : List Block}
    (fetched : (Transport.get base transport).outcome = .done document)
    (decoded : decodeBlocks document = .ok blocks)
    (matchers : List Matcher) :
    (connect base matchers transport).outcome =
      .done (fresh base (Resolution.resolve blocks matchers)
        (Transport.get base transport).state, blocks) := by
  obtain ⟨outcome, state⟩ := Survey.discover_of_document fetched decoded matchers
  simp [connect, outcome, state]

end DualPhy
