import DualPhy.Proofs.Answers
import DualPhy.Proofs.Discovery
import DualPhy.Proofs.Flowgraph
import DualPhy.Proofs.Matching
import Mathlib.Data.List.Nodup

/-!
# Addresses tell handlers apart

The identifier of a block stands in an address as it is, whatever it contains. Still the
address gives identifier and number back: the number is what follows the last slash but one.
So two operations have the same address exactly if they call handlers of the same number on
blocks of the same identifier. Where the identifiers of all blocks and the names of all roles
are different, no two operations share a handler.
-/

namespace DualPhy

/-- The parts of a text in front of a last separator and behind it are determined by the text. -/
theorem eq_of_append_separator_eq
    {separator : α}
    {front other back rest : List α}
    (last : separator ∉ back)
    (otherLast : separator ∉ rest)
    (same : front ++ separator :: back = other ++ separator :: rest) :
    front = other ∧ back = rest := by
  rcases List.append_eq_append_iff.mp same with ⟨more, rfl, left⟩ | ⟨more, rfl, left⟩
  · cases more with
    | nil => exact ⟨by simp, (List.cons.inj left).2⟩
    | cons head more =>
        rw [(List.cons.inj left).2] at last
        simp at last
  · cases more with
    | nil => exact ⟨by simp, (List.cons.inj left).2.symm⟩
    | cons head more =>
        rw [(List.cons.inj left).2] at otherLast
        simp at otherLast

theorem dropSuffix?_append [DecidableEq α] (front back : List α) :
    (front ++ back).dropSuffix? back = some front :=
  List.dropSuffix?_eq_some_iff.mpr ⟨back, rfl, BEq.rfl⟩

/-- Only digits occur in the numeral of a number. -/
theorem not_mem_toDigits {letter : Char} (other : letter.isDigit = false) (number : Nat) :
    letter ∉ Nat.toDigits 10 number := by
  intro member
  rw [Nat.isDigit_of_mem_toDigits (by decide) (by decide) member] at other
  cases other

/-- A number is determined by its numeral. -/
theorem eq_of_toDigits_eq
    {first second : Nat}
    (digits : Nat.toDigits 10 first = Nat.toDigits 10 second) :
    first = second := by
  calc
    first = Nat.ofDigitChars 10 (Nat.toDigits 10 first) 0 :=
      Nat.ofDigitChars_ten_toDigits.symm
    _ = Nat.ofDigitChars 10 (Nat.toDigits 10 second) 0 := by rw [digits]
    _ = second := Nat.ofDigitChars_ten_toDigits

/-- Under the same base address, but for slashes at its end, an address determines the
identifier of the block and the number of the handler. -/
theorem callUrl_eq_iff
    {base other : String}
    (sameBase : withoutTrailingSlashes base.toList = withoutTrailingSlashes other.toList)
    (id otherId : String)
    (index otherIndex : UInt32) :
    callUrl base id index = callUrl other otherId otherIndex ↔
      id = otherId ∧ index = otherIndex := by
  constructor
  · intro same
    have chars : (id.toList ++ "/call".toList) ++ '/' :: Nat.toDigits 10 index.toNat =
        (otherId.toList ++ "/call".toList) ++ '/' :: Nat.toDigits 10 otherIndex.toNat := by
      refine List.append_cancel_right (?_ : _ ++ ['/'] = _ ++ ['/'])
      simpa [callUrlChars, sameBase] using String.ofList_injective same
    obtain ⟨ids, digits⟩ := eq_of_append_separator_eq
      (not_mem_toDigits (by decide) _) (not_mem_toDigits (by decide) _) chars
    constructor
    · apply String.toList_injective
      exact List.append_cancel_right ids
    · exact UInt32.toNat.inj (eq_of_toDigits_eq digits)
  · rintro ⟨rfl, rfl⟩
    simp only [callUrl, callUrlChars, sameBase]

/-- The handlers of one block have different numbers. -/
theorem Operation.eq_of_role_of_callIndex :
    ∀ first ∈ all, ∀ second ∈ all, first.role = second.role →
      first.callIndex = second.callIndex → first = second := by
  decide

namespace Resolution

/-- The block that plays a role under a record of names has the name for the role. -/
theorem exists_block_of_blockId?
    {blocks : List Block}
    {names : PerRole String}
    {role : Role}
    {id : String}
    (given : (resolve blocks (Matcher.ofNames names)).blockId? role = some id) :
    ∃ block ∈ blocks, block.instanceName = names.get role ∧ block.id = id := by
  obtain ⟨block, ⟨earlier, matcher, later, split, rfl, found, -⟩, identified⟩ :=
    (blockId?_resolve_eq_some_iff _ _ _ _).mp given
  obtain ⟨accepts, front, back, rfl, -⟩ := found
  have listed : matcher ∈ Matcher.ofNames names := by
    rw [split]
    exact List.mem_append_right _ List.mem_cons_self
  obtain ⟨role, -, rfl⟩ := List.mem_map.mp listed
  exact ⟨block, by simp, by simpa [Matcher.instanceName] using accepts, identified⟩

/-- With different identifiers and different names, different roles are played by different
blocks. -/
theorem role_eq_of_blockId?
    {blocks : List Block}
    (identified : (blocks.map Block.id).Nodup)
    {names : PerRole String}
    (named : Function.Injective names.get)
    {first second : Role}
    {id : String}
    (given : (resolve blocks (Matcher.ofNames names)).blockId? first = some id)
    (alsoGiven : (resolve blocks (Matcher.ofNames names)).blockId? second = some id) :
    first = second := by
  obtain ⟨block, member, name, rfl⟩ := exists_block_of_blockId? given
  obtain ⟨other, otherMember, otherName, sameId⟩ := exists_block_of_blockId? alsoGiven
  obtain rfl : other = block :=
    List.inj_on_of_nodup_map identified otherMember member sameId
  exact named (name.symm.trans otherName)

end Resolution

namespace EndpointTable

/-- Operations whose blocks are known have the same address exactly if the identifiers of the
blocks and the numbers of the handlers are the same. -/
theorem url?_build_eq_iff
    (base : String)
    {resolution : Resolution}
    {first second : Operation}
    {firstId secondId : String}
    (firstGiven : resolution.blockId? first.role = some firstId)
    (secondGiven : resolution.blockId? second.role = some secondId) :
    (build base resolution).url? first = (build base resolution).url? second ↔
      firstId = secondId ∧ first.callIndex = second.callIndex := by
  simp only [build, firstGiven, secondGiven, Option.map_some, Option.some.injEq]
  exact callUrl_eq_iff rfl firstId secondId first.callIndex second.callIndex

/-- With different identifiers and different names, all operations have different addresses. -/
theorem distinguishes_build
    (base : String)
    {blocks : List Block}
    (identified : (blocks.map Block.id).Nodup)
    {names : PerRole String}
    (named : Function.Injective names.get) :
    (build base (Resolution.resolve blocks (Matcher.ofNames names))).Distinguishes
      Operation.all := by
  intro first firstListed second secondListed addressed same
  have firstKnown := addressed
  have secondKnown := same ▸ addressed
  rw [build, Option.isSome_map] at firstKnown secondKnown
  obtain ⟨firstId, firstGiven⟩ := Option.isSome_iff_exists.mp firstKnown
  obtain ⟨secondId, secondGiven⟩ := Option.isSome_iff_exists.mp secondKnown
  obtain ⟨rfl, sameIndex⟩ := (url?_build_eq_iff base firstGiven secondGiven).mp same
  have sameRole := Resolution.role_eq_of_blockId? identified named firstGiven secondGiven
  exact Operation.eq_of_role_of_callIndex first firstListed second secondListed sameRole sameIndex

/-- Requests at the same address are for the same operation. -/
theorem Distinguishes.operation_eq
    {table : EndpointTable}
    (distinguishes : table.Distinguishes Operation.all)
    (calls : List Call) :
    ∀ first ∈ table.posts calls, ∀ second ∈ table.posts calls,
      first.url = second.url → first.operation = second.operation := by
  intro first firstMember second secondMember sameUrl
  obtain ⟨⟨url, call⟩, requested, rfl⟩ := List.mem_map.mp firstMember
  obtain ⟨⟨otherUrl, other⟩, alsoRequested, rfl⟩ := List.mem_map.mp secondMember
  obtain rfl : url = otherUrl := sameUrl
  have found := (mem_requests_iff.mp requested).2
  have alsoFound := (mem_requests_iff.mp alsoRequested).2
  exact distinguishes call.operation call.operation.mem_all other.operation
    other.operation.mem_all (by rw [found]; rfl) (found.trans alsoFound.symm)

end EndpointTable

namespace Controller

open Resolution (resolve)

/-- Two operations whose blocks are known have the same address exactly if the identifiers of
the blocks are the same text and the handlers have the same number. So a controller that connects
with names that are all different, to a flowgraph in whose document all blocks have different
identifiers, has no two operations at the same address, and whatever is done with it, no handler
is called by two operations. -/
theorem addresses_tell_handlers_apart
    [Transport σ]
    (base : String)
    (blocks : List Block)
    (matchers : List Matcher) :
    (∀ first second firstId secondId,
      (resolve blocks matchers).blockId? first.role = some firstId →
      (resolve blocks matchers).blockId? second.role = some secondId →
      ∃ firstUrl secondUrl,
        (EndpointTable.build base (resolve blocks matchers)).url? first = some firstUrl ∧
        (EndpointTable.build base (resolve blocks matchers)).url? second = some secondUrl ∧
        (firstUrl = secondUrl ↔
          firstId = secondId ∧ first.callIndex = second.callIndex)) ∧
      ∀ (transport : Recorded σ) document names,
        (Transport.get base transport).outcome = .done document →
        decodeBlocks document = .ok blocks → (blocks.map Block.id).Nodup →
        Function.Injective names.get →
        ∃ controller,
          (connect base (Matcher.ofNames names) transport).outcome = .done (controller, blocks) ∧
          controller.endpoints = .build base (resolve blocks (Matcher.ofNames names)) ∧
          controller.endpoints.Distinguishes Operation.all ∧
          ∀ uses, ∃ posts, (controller.afterUses uses).posted = controller.posted ++ posts ∧
            ∀ first ∈ posts, ∀ second ∈ posts,
              first.url = second.url → first.operation = second.operation := by
  constructor
  · intro first second firstId secondId firstGiven secondGiven
    have same := EndpointTable.url?_build_eq_iff base firstGiven secondGiven
    simp only [EndpointTable.build, firstGiven, secondGiven, Option.map_some,
      Option.some.injEq] at same ⊢
    exact ⟨_, _, rfl, rfl, same⟩
  · intro transport document names fetched decoded identified named
    let controller := fresh base (resolve blocks (Matcher.ofNames names))
      (Transport.get base transport).state
    have distinguishes := EndpointTable.distinguishes_build base identified named
    refine ⟨controller, connect_of_document fetched decoded _, rfl, distinguishes, ?_⟩
    intro uses
    obtain ⟨calls, reached⟩ := controller.exists_asked_afterUses uses
    refine ⟨controller.endpoints.posts calls, ?_, distinguishes.operation_eq calls⟩
    rw [← posted_asked, posted, reached]
    rfl

/-- The blocks of a flowgraph with identifiers that look like the ends of addresses. -/
def misleading : List Block :=
  [⟨"4", "SoapySource_0", none⟩, ⟨"4/call/1", "SoapySink_0", none⟩,
    ⟨"/", "Selector<2, 1>_0", none⟩, ⟨"", "Selector<1, 2>_0", none⟩]

/-- Its discovery document. The first identifier is a number. -/
def misleadingText : String :=
  "\x7b\"blocks\": [[4, \"SoapySource_0\"], " ++
    "\x7b\"instance_name\": \"SoapySink_0\", \"id\": \"4/call/1\"\x7d, " ++
    "[\"/\", \"Selector<2, 1>_0\", null], [\"\", \"Selector<1, 2>_0\"]]\x7d"

/-- The gain of the source and the frequency of the sink have different addresses all the same,
and in a session that selects a PHY and sends a gain no two operations call one handler. -/
theorem addresses_tell_handlers_apart_misleading :
    let transport : Recorded Scripted := .fresh ⟨.ok misleadingText, .none, 0⟩
    let matchers := Matcher.ofNames Profile.stockRoles
    let table := EndpointTable.build "http://radio/" (resolve misleading matchers)
    let uses : List Use := [.act (.selectPhy .phy1), .act (.send .rxGain (.ofNat 40) 0)]
    (∃ firstUrl secondUrl, table.url? .rfSourceGain = some firstUrl ∧
      table.url? .rfSinkFrequency = some secondUrl ∧ firstUrl ≠ secondUrl) ∧
      (misleading.map Block.id).Nodup ∧ Function.Injective Profile.stockRoles.get ∧
      ∃ document controller,
        (Transport.get "http://radio/" transport).outcome = .done document ∧
        decodeBlocks document = .ok misleading ∧
        (connect "http://radio/" matchers transport).outcome = .done (controller, misleading) ∧
        controller.endpoints.Distinguishes Operation.all ∧
        ∃ posts, (controller.afterUses uses).posted = controller.posted ++ posts ∧
          ∀ first ∈ posts, ∀ second ∈ posts,
            first.url = second.url → first.operation = second.operation := by
  intro transport matchers table uses
  have identified : (misleading.map Block.id).Nodup := by decide
  have named : Function.Injective Profile.stockRoles.get := by
    intro role other
    cases role <;> cases other <;> decide
  have answered : (Transport.get "http://radio/" transport).outcome.map
      (fun document => (decodeBlocks document).toOption) = .done (some misleading) := by
    decide +kernel
  obtain ⟨document, fetched, read⟩ := (Outcome.map_eq_done_iff _ _ _).mp answered
  have decoded : decodeBlocks document = .ok misleading := eq_ok_of_toOption read
  obtain ⟨addresses, controllers⟩ :=
    addresses_tell_handlers_apart (σ := Scripted) "http://radio/" misleading matchers
  obtain ⟨firstUrl, secondUrl, firstFound, secondFound, same⟩ :=
    addresses .rfSourceGain .rfSinkFrequency "4" "4/call/1" (by decide +kernel) (by decide +kernel)
  obtain ⟨controller, connects, -, distinguishes, sessions⟩ :=
    controllers transport document Profile.stockRoles fetched decoded identified named
  refine ⟨⟨firstUrl, secondUrl, firstFound, secondFound, ?_⟩, identified, named, document,
    controller, fetched, decoded, connects, distinguishes, sessions uses⟩
  rw [Ne, same]
  decide

end Controller
end DualPhy
