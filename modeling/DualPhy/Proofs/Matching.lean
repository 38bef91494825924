import DualPhy.Profile
import Mathlib.Data.List.Find

/-!
# Which block a role gets

A role gets the first block that is accepted by the first matcher for it that accepts any. So
only the order of the matchers for the same role counts, only blocks that some matcher accepts
count, and where no role has two matchers a block that is appended takes no role away from
another one.
-/

namespace DualPhy

namespace Matcher

/-- A block is the first of some blocks that a matcher accepts. -/
def Finds (matcher : Matcher) (blocks : List Block) (block : Block) : Prop :=
  matcher.accepts block ∧
    ∃ front back, blocks = front ++ block :: back ∧
      ∀ earlier ∈ front, ¬ matcher.accepts earlier

theorem finds_iff (matcher : Matcher) (blocks : List Block) (block : Block) :
    matcher.Finds blocks block ↔ blocks.find? matcher.accepts = some block := by
  rw [List.find?_eq_some_iff_append, Finds]
  simp

/-- The first matcher for a role that accepts any block finds a block for it. -/
def Award (blocks : List Block) (matchers : List Matcher) (role : Role) (block : Block) : Prop :=
  ∃ earlier matcher later, matchers = earlier ++ matcher :: later ∧ matcher.role = role ∧
    matcher.Finds blocks block ∧
      ∀ other ∈ earlier, other.role = role → ∀ refused ∈ blocks, ¬ other.accepts refused

/-- The matchers for each role are the same, in the same order. -/
def SameOrder (matchers others : List Matcher) : Prop :=
  ∀ role, (matchers.filter fun matcher => matcher.role = role) =
    others.filter fun matcher => matcher.role = role

/-- The blocks that some matcher accepts. -/
def wanted (matchers : List Matcher) (blocks : List Block) : List Block :=
  blocks.filter fun block => matchers.any fun matcher => matcher.accepts block

/-- The block that a matcher finds for a role. -/
def found? (blocks : List Block) (role : Role) (matcher : Matcher) : Option Block :=
  if matcher.role = role then blocks.find? matcher.accepts else none

theorem found?_eq_none_iff (blocks : List Block) (role : Role) (matcher : Matcher) :
    matcher.found? blocks role = none ↔
      (matcher.role = role → ∀ block ∈ blocks, ¬ matcher.accepts block) := by
  unfold found?
  split
  next same => simp [same]
  next other => simp [other]

theorem found?_eq_some_iff
    (blocks : List Block)
    (role : Role)
    (matcher : Matcher)
    (block : Block) :
    matcher.found? blocks role = some block ↔
      matcher.role = role ∧ matcher.Finds blocks block := by
  unfold found?
  split
  next same => simp [same, finds_iff]
  next other => simp [other]

theorem award_iff
    (blocks : List Block)
    (matchers : List Matcher)
    (role : Role)
    (block : Block) :
    Award blocks matchers role block ↔
      matchers.findSome? (found? blocks role) = some block := by
  simp only [List.findSome?_eq_some_iff, found?_eq_some_iff, found?_eq_none_iff, and_assoc]
  rfl

/-- A matcher for another role finds nothing for a role. -/
theorem findSome?_found?_filter (blocks : List Block) (role : Role) (matchers : List Matcher) :
    (matchers.filter fun matcher => matcher.role = role).findSome? (found? blocks role) =
      matchers.findSome? (found? blocks role) := by
  induction matchers with
  | nil => rfl
  | cons matcher matchers inductionHypothesis =>
      by_cases same : matcher.role = role
      · simp only [List.filter_cons, same, decide_true, if_true, List.findSome?_cons,
          inductionHypothesis]
      · have nothing : matcher.found? blocks role = none := if_neg same
        simp only [List.filter_cons, same, decide_false, Bool.false_eq_true, if_false,
          List.findSome?_cons, nothing, inductionHypothesis]

/-- Matchers never find a block that none of them accepts. -/
theorem findSome?_found?_wanted
    {matchers kept : List Matcher}
    (subset : kept ⊆ matchers)
    (blocks : List Block)
    (role : Role) :
    kept.findSome? (found? (wanted matchers blocks) role) =
      kept.findSome? (found? blocks role) := by
  induction kept with
  | nil => rfl
  | cons matcher kept inductionHypothesis =>
      obtain ⟨member, rest⟩ := List.cons_subset.mp subset
      have same : (wanted matchers blocks).find? matcher.accepts =
          blocks.find? matcher.accepts := by
        rw [wanted, List.find?_filter]
        apply List.find?_congr
        intro block _
        rw [Bool.eq_iff_iff, decide_eq_true_iff]
        exact ⟨And.right, fun accepts => ⟨List.any_eq_true.mpr ⟨matcher, member, accepts⟩, accepts⟩⟩
      rw [List.findSome?_cons, List.findSome?_cons, inductionHypothesis rest, found?, found?, same]

end Matcher

/-- The search for blocks gives a role what its matchers find. -/
theorem lookup_assignments
    (blocks : List Block)
    {taken : List Role}
    {role : Role}
    (free : role ∉ taken)
    (matchers : List Matcher) :
    (assignments blocks taken matchers).lookup role =
      matchers.findSome? (Matcher.found? blocks role) := by
  induction matchers generalizing taken with
  | nil => rfl
  | cons matcher matchers inductionHypothesis =>
      rw [assignments, List.findSome?_cons, Matcher.found?]
      split
      next used =>
        -- A matcher for a role that has its block is not one for this role.
        have other : matcher.role ≠ role := by
          rintro rfl
          exact free (by simpa using used)
        rw [if_neg other, inductionHypothesis free]
      next =>
        cases found : blocks.find? matcher.accepts with
        | none =>
            rw [ite_self, inductionHypothesis free]
        | some block =>
            by_cases same : matcher.role = role
            · rw [if_pos same, ← same, List.lookup_cons, beq_self_eq_true]
            · have stillFree : role ∉ matcher.role :: taken := by
                simp [free, Ne.symm same]
              have passed : (role == matcher.role) = false := by simpa using Ne.symm same
              rw [if_neg same, List.lookup_cons, passed]
              exact inductionHypothesis stillFree

namespace Resolution

open Matcher (Award SameOrder found? wanted)

theorem mem_missing_iff (resolution : Resolution) (role : Role) :
    role ∈ resolution.missing ↔ resolution.blockId? role = none := by
  simp [missing, Role.mem_all]

theorem blockId?_resolve (blocks : List Block) (matchers : List Matcher) (role : Role) :
    (resolve blocks matchers).blockId? role =
      (matchers.findSome? (found? blocks role)).map Block.id := by
  rw [resolve, ofAssignments, blockId?, PerRole.get_ofFn,
    lookup_assignments blocks List.not_mem_nil]

theorem blockId?_resolve_eq_some_iff
    (blocks : List Block)
    (matchers : List Matcher)
    (role : Role)
    (id : String) :
    (resolve blocks matchers).blockId? role = some id ↔
      ∃ block, Award blocks matchers role block ∧ block.id = id := by
  simp only [blockId?_resolve, Option.map_eq_some_iff, Matcher.award_iff]

/-- A role is missing if no matcher for it accepts a block. -/
theorem mem_missing_resolve_iff
    (blocks : List Block)
    (matchers : List Matcher)
    (role : Role) :
    role ∈ (resolve blocks matchers).missing ↔
      ∀ matcher ∈ matchers, matcher.role = role →
        ∀ block ∈ blocks, ¬ matcher.accepts block := by
  rw [mem_missing_iff, blockId?_resolve, Option.map_eq_none_iff, List.findSome?_eq_none_iff]
  simp only [Matcher.found?_eq_none_iff]

/-- Matchers that find the same for every role resolve in the same way. -/
theorem resolve_eq_of_findSome?_eq
    {blocks otherBlocks : List Block}
    {matchers otherMatchers : List Matcher}
    (same : ∀ role, matchers.findSome? (found? blocks role) =
      otherMatchers.findSome? (found? otherBlocks role)) :
    resolve blocks matchers = resolve otherBlocks otherMatchers := by
  unfold resolve ofAssignments
  congr 2
  funext role
  rw [lookup_assignments blocks List.not_mem_nil, lookup_assignments otherBlocks List.not_mem_nil,
    same]

/-- Only the order of the matchers for the same role counts. -/
theorem resolve_eq_of_sameOrder
    {matchers others : List Matcher}
    (sameOrder : SameOrder matchers others)
    (blocks : List Block) :
    resolve blocks matchers = resolve blocks others := by
  apply resolve_eq_of_findSome?_eq
  intro role
  rw [← Matcher.findSome?_found?_filter, sameOrder role, Matcher.findSome?_found?_filter]

/-- Only the blocks that some matcher accepts count. -/
theorem resolve_wanted (blocks : List Block) (matchers : List Matcher) :
    resolve (wanted matchers blocks) matchers = resolve blocks matchers :=
  resolve_eq_of_findSome?_eq (Matcher.findSome?_found?_wanted (List.Subset.refl matchers) blocks)

end Resolution

namespace Matcher

/-- Where no role has two matchers, a block that a role has been given stays with it when blocks
are appended. -/
theorem Award.append
    {blocks : List Block}
    {matchers : List Matcher}
    {role : Role}
    {block : Block}
    (award : Award blocks matchers role block)
    (single : (matchers.map Matcher.role).Nodup)
    (appended : List Block) :
    Award (blocks ++ appended) matchers role block := by
  obtain ⟨earlier, matcher, later, split, named, ⟨accepts, front, back, rfl, refuses⟩, -⟩ := award
  refine ⟨earlier, matcher, later, split, named, ⟨accepts, front, back ++ appended, by simp,
    refuses⟩, ?_⟩
  -- An earlier matcher for the role would be a second one.
  intro other member sameRole
  rw [split, List.map_append, List.map_cons, List.nodup_append] at single
  exact absurd (sameRole.trans named.symm)
    (single.2.2 other.role (List.mem_map_of_mem member) matcher.role List.mem_cons_self)

end Matcher

namespace Resolution

open Matcher (Award SameOrder found? wanted)

/-- A role gets the first block that is accepted by the first matcher for it that accepts any,
and the roles without a block are listed in their order, each once. Neither the order of
matchers for different roles nor a block that no matcher accepts makes a difference. Where no
role has two matchers, appended blocks take no block from a role. The matchers for the names of
the stock profile are the stock matchers. -/
theorem resolve_gives_first_match (blocks : List Block) (matchers : List Matcher) :
    (∀ role id, (resolve blocks matchers).blockId? role = some id ↔
        ∃ block, Award blocks matchers role block ∧ block.id = id) ∧
      ((resolve blocks matchers).missing.Sublist Role.all ∧
        (resolve blocks matchers).missing.Nodup ∧
        ∀ role, role ∈ (resolve blocks matchers).missing ↔
          (resolve blocks matchers).blockId? role = none) ∧
      (∀ others otherBlocks, SameOrder matchers others →
        wanted matchers otherBlocks = wanted matchers blocks →
        resolve otherBlocks others = resolve blocks matchers) ∧
      ((matchers.map Matcher.role).Nodup → ∀ appended role,
        (∀ id, (resolve blocks matchers).blockId? role = some id →
          (resolve (blocks ++ appended) matchers).blockId? role = some id) ∧
        (role ∈ (resolve (blocks ++ appended) matchers).missing →
          role ∈ (resolve blocks matchers).missing)) ∧
      resolve blocks Profile.initial.matchers = resolve blocks Matcher.stock := by
  refine ⟨blockId?_resolve_eq_some_iff blocks matchers, ⟨List.filter_sublist, ?_, ?_⟩, ?_, ?_, ?_⟩
  · have nodup : Role.all.Nodup := by decide
    exact nodup.sublist List.filter_sublist
  · exact mem_missing_iff _
  · intro others otherBlocks sameOrder sameWanted
    rw [← resolve_eq_of_sameOrder sameOrder, ← resolve_wanted otherBlocks, sameWanted,
      resolve_wanted]
  · intro single appended role
    have kept : ∀ id, (resolve blocks matchers).blockId? role = some id →
        (resolve (blocks ++ appended) matchers).blockId? role = some id := by
      intro id given
      obtain ⟨block, award, identified⟩ := (blockId?_resolve_eq_some_iff _ _ _ _).mp given
      exact (blockId?_resolve_eq_some_iff _ _ _ _).mpr
        ⟨block, award.append single appended, identified⟩
    refine ⟨kept, ?_⟩
    rw [mem_missing_iff, mem_missing_iff]
    intro missing
    cases given : (resolve blocks matchers).blockId? role with
    | none => rfl
    | some id => simp [kept id given] at missing
  · rfl

/-- A flowgraph with two sinks of the same name. -/
def twoSinks : List Block :=
  [⟨"7", "Decoder_0", none⟩, ⟨"2", "SoapySink_0", none⟩, ⟨"5", "SoapySink_0", none⟩]

/-- Matchers that would rather have a sink of another type than the stock one. -/
def preferring : List Matcher :=
  [⟨.rfSink, "type", fun block => block.typeName == some "UsrpSink"⟩,
    .instanceName .rfSource "SoapySource_0", .instanceName .rfSink "SoapySink_0"]

/-- The same with the source first. -/
def sourceFirst : List Matcher :=
  [.instanceName .rfSource "SoapySource_0",
    ⟨.rfSink, "type", fun block => block.typeName == some "UsrpSink"⟩,
    .instanceName .rfSink "SoapySink_0"]

/-- Both ways resolve alike, with the decoder and without it. By the stock matchers the first
sink stays the sink when another one is appended. -/
theorem resolve_gives_first_match_fallback :
    (SameOrder preferring sourceFirst ∧
      wanted preferring (twoSinks.drop 1) = wanted preferring twoSinks ∧
      resolve (twoSinks.drop 1) sourceFirst = resolve twoSinks preferring) ∧
      (Matcher.stock.map Matcher.role).Nodup ∧
      (resolve twoSinks Matcher.stock).blockId? .rfSink = some "2" ∧
      (resolve (twoSinks ++ [⟨"0", "SoapySink_0", none⟩]) Matcher.stock).blockId? .rfSink =
        some "2" := by
  have sameOrder : SameOrder preferring sourceFirst := by
    intro role
    cases role <;> rfl
  have sameWanted : wanted preferring (twoSinks.drop 1) = wanted preferring twoSinks := by
    decide +kernel
  have single : (Matcher.stock.map Matcher.role).Nodup := by decide
  have given : (resolve twoSinks Matcher.stock).blockId? .rfSink = some "2" := by
    decide +kernel
  exact ⟨⟨sameOrder, sameWanted,
      (resolve_gives_first_match twoSinks preferring).2.2.1 _ _ sameOrder sameWanted⟩,
    single, given,
    ((resolve_gives_first_match twoSinks Matcher.stock).2.2.2.1 single _ _).1 _ given⟩

end Resolution
end DualPhy
