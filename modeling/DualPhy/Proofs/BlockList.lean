import DualPhy.Decimal.Whole
import DualPhy.Proofs.Discovery
import DualPhy.Proofs.LexemeGrammar
import DualPhy.Transport.Recorded
import DualPhy.Transport.Scripted
import Mathlib.Data.List.Forall2
import Mathlib.Tactic.Ring

/-!
# The block list of a discovery document

Which values are discovery documents, and which blocks they list, in the order of the document.
Decoding accepts exactly these, and refuses all others as a whole, so that no controller connects
to a flowgraph whose document has a single entry that is no block.
-/

namespace DualPhy

/-! ## Shortest numerals -/

namespace Decimal

/-- A text of digits that gives a number and is no longer than any other that does. -/
structure IsNumeral (value : Nat) (text : String) : Prop where
  /-- The digits give the number. -/
  reads : digits? text.toList = some value
  /-- No shorter text does. -/
  shortest : ∀ other : String, digits? other.toList = some value → text.length ≤ other.length

theorem digits?_eq_some_iff {text : List Char} {value : Nat} :
    digits? text = some value ↔
      text ≠ [] ∧ (∀ letter ∈ text, letter.isDigit = true) ∧ ofDigits text 0 = value := by
  rw [digits?]
  split
  case isTrue digits =>
    rw [List.all_eq_true] at digits
    rw [Option.some.injEq]
    exact ⟨fun number => ⟨digits.1, digits.2, number⟩, fun ⟨_, _, number⟩ => number⟩
  case isFalse others =>
    rw [List.all_eq_true] at others
    simp only [reduceCtorEq, false_iff]
    exact fun ⟨nonempty, digits, _⟩ => others ⟨nonempty, digits⟩

theorem digit_bounds {letter : Char} (digit : letter.isDigit = true) :
    '0'.toNat ≤ letter.toNat ∧ letter.toNat - '0'.toNat < 10 := by
  rw [Char.isDigit_iff_toNat] at digit
  obtain ⟨low, high⟩ := digit
  have nine : '9'.toNat = '0'.toNat + 9 := rfl
  exact ⟨low, by omega⟩

/-- Texts of digits of one length that give the same number are the same. -/
theorem ofDigits_inj
    {first second : List Char}
    (firstDigits : ∀ letter ∈ first, letter.isDigit = true)
    (secondDigits : ∀ letter ∈ second, letter.isDigit = true)
    (sameLength : first.length = second.length)
    {start otherStart : Nat}
    (same : ofDigits first start = ofDigits second otherStart) :
    start = otherStart ∧ first = second := by
  induction first generalizing second start otherStart with
  | nil =>
      obtain rfl : second = [] := List.length_eq_zero_iff.mp sameLength.symm
      exact ⟨same, rfl⟩
  | cons head first inductionHypothesis =>
      cases second with
      | nil => cases sameLength
      | cons otherHead second =>
          rw [List.forall_mem_cons] at firstDigits secondDigits
          obtain ⟨heads, rfl⟩ := inductionHypothesis firstDigits.2 secondDigits.2
            (Nat.succ.inj sameLength) same
          obtain ⟨low, small⟩ := digit_bounds firstDigits.1
          obtain ⟨otherLow, otherSmall⟩ := digit_bounds secondDigits.1
          have joined : 10 * start + (head.toNat - '0'.toNat) =
              10 * otherStart + (otherHead.toNat - '0'.toNat) := heads
          have sameHead : head = otherHead := Char.toNat_inj.mp (by omega)
          exact ⟨by omega, by rw [sameHead]⟩

theorem ofDigits_lt
    {text : List Char}
    (digits : ∀ letter ∈ text, letter.isDigit = true)
    (start : Nat) :
    ofDigits text start < (start + 1) * 10 ^ text.length := by
  induction text generalizing start with
  | nil => simp [ofDigits]
  | cons head text inductionHypothesis =>
      rw [List.forall_mem_cons] at digits
      have bound := inductionHypothesis digits.2 (10 * start + (head.toNat - '0'.toNat))
      obtain ⟨-, small⟩ := digit_bounds digits.1
      calc ofDigits (head :: text) start
          < (10 * start + (head.toNat - '0'.toNat) + 1) * 10 ^ text.length := bound
        _ ≤ ((start + 1) * 10) * 10 ^ text.length := Nat.mul_le_mul_right _ (by omega)
        _ = (start + 1) * 10 ^ (head :: text).length := by rw [List.length_cons]; ring

theorem toList_toString (value : Nat) : (toString value).toList = digitChars value :=
  Nat.toList_repr

theorem digits?_toString (value : Nat) : digits? (toString value).toList = some value := by
  rw [toList_toString, digits?_eq_some_iff]
  exact ⟨Nat.toDigits_ne_nil, fun _ => Json.isDigit_of_mem_digitChars,
    Json.ofDigits_digitChars value⟩

/-- No text of digits is shorter than the number's own. -/
theorem length_toString_le
    {value : Nat}
    {text : String}
    (reads : digits? text.toList = some value) :
    (toString value).length ≤ text.length := by
  obtain ⟨nonempty, digits, rfl⟩ := digits?_eq_some_iff.mp reads
  have bound := ofDigits_lt digits 0
  rw [Nat.zero_add, Nat.one_mul] at bound
  have positive : 0 < text.toList.length := List.length_pos_iff.mpr nonempty
  calc (toString (ofDigits text.toList 0)).length
      = (digitChars (ofDigits text.toList 0)).length := by
        rw [← toList_toString, String.length_toList]
    _ ≤ text.toList.length := (Nat.length_toDigits_le_iff (by decide) positive).mpr bound
    _ = text.length := String.length_toList

/-- A number has one shortest numeral. -/
theorem isNumeral_iff {value : Nat} {text : String} :
    IsNumeral value text ↔ text = toString value := by
  constructor
  · intro numeral
    obtain ⟨-, digits, number⟩ := digits?_eq_some_iff.mp numeral.reads
    obtain ⟨-, ownDigits, ownNumber⟩ := digits?_eq_some_iff.mp (digits?_toString value)
    have sameLength : text.toList.length = (toString value).toList.length :=
      le_antisymm (numeral.shortest _ (digits?_toString value)) (length_toString_le numeral.reads)
    obtain ⟨-, same⟩ := ofDigits_inj digits ownDigits sameLength (number.trans ownNumber.symm)
    exact String.toList_injective same
  · rintro rfl
    exact ⟨digits?_toString value, fun other reads => length_toString_le reads⟩

end Decimal

/-! ## Decoding the parts of a document -/

namespace Json

theorem asText_eq_ok_iff {value : Json} {text : String} :
    value.asText = .ok text ↔ value = .string text := by
  cases value <;> simp [asText]

theorem asItems_eq_ok_iff {value : Json} {items : List Json} :
    value.asItems = .ok items ↔ value = .array items := by
  cases value <;> simp [asItems]

theorem require_eq_ok_iff {key : String} {found? : Option α} {value : α} :
    require key found? = .ok value ↔ found? = some value := by
  cases found? <;> simp [require]

/-- The member under a key is the first pair of the association list. -/
theorem member?_eq_lookup (key : String) (members : List (String × Json)) :
    member? key members = members.lookup key := by
  induction members with
  | nil => rfl
  | cons pair members inductionHypothesis =>
      obtain ⟨found, value⟩ := pair
      by_cases same : found = key
      · subst same
        simp [member?]
      · have other : (key == found) = false := beq_false_of_ne (Ne.symm same)
        have skipped : member? key ((found, value) :: members) = member? key members := by
          simp [member?, same]
        rw [skipped, inductionHypothesis, List.lookup_cons, other]

theorem decodeMember_eq_none_iff
    {key : String}
    {members : List (String × Json)}
    {decode : Json → Except Error α} :
    decodeMember key members decode = .ok none ↔ members.lookup key = none := by
  rw [decodeMember, member?_eq_lookup]
  cases members.lookup key with
  | none => simp
  | some value => simp [map_eq_ok_iff]

theorem decodeMember_eq_some_iff
    {key : String}
    {members : List (String × Json)}
    {decode : Json → Except Error α}
    {result : α} :
    decodeMember key members decode = .ok (some result) ↔
      ∃ value, members.lookup key = some value ∧ decode value = .ok result := by
  rw [decodeMember, member?_eq_lookup]
  cases members.lookup key with
  | none => simp
  | some value => simp [map_eq_ok_iff]

end Json

namespace Block

/-- The texts that a value gives as an identifier: a whole number of sixty-four bits its
shortest numeral, and a string itself. -/
inductive IsId : Json → String → Prop
  /-- A number. -/
  | number
      {value : Nat}
      {text : String}
      (fits : value < 2 ^ 64)
      (numeral : Decimal.IsNumeral value text) :
      IsId (.number (.whole value)) text
  /-- A string. -/
  | string (text : String) : IsId (.string text) text

/-- The type names that a value gives: none if there is no value or `null`, and a string
itself. -/
inductive IsTypeName : Option Json → Option String → Prop
  /-- No value. -/
  | absent : IsTypeName none none
  /-- The value `null`. -/
  | null : IsTypeName (some .null) none
  /-- A string. -/
  | string (text : String) : IsTypeName (some (.string text)) (some text)

/-- The blocks that a value describes. Other members of an object mean nothing. -/
inductive Describes : Json → Block → Prop
  /-- An object with the parts as its members. -/
  | object
      {members : List (String × Json)}
      {idValue : Json}
      {block : Block}
      (idMember : members.lookup "id" = some idValue)
      (id : IsId idValue block.id)
      (nameMember : members.lookup "instance_name" = some (.string block.instanceName))
      (typeName : IsTypeName (members.lookup "type_name") block.typeName) :
      Describes (.object members) block
  /-- An array of the parts, of which the last may be left out. -/
  | array
      {idValue : Json}
      {typeValue? : Option Json}
      {block : Block}
      (id : IsId idValue block.id)
      (typeName : IsTypeName typeValue? block.typeName) :
      Describes (.array (idValue :: .string block.instanceName :: typeValue?.toList)) block

theorem decodeId_eq_ok_iff {value : Json} {text : String} :
    decodeId value = .ok text ↔ IsId value text := by
  constructor
  · intro decoded
    rw [decodeId.eq_def] at decoded
    split at decoded
    case h_1 =>
      cases decoded
      exact .string _
    case h_2 value =>
      split at decoded
      case isTrue bounds =>
        cases decoded
        obtain ⟨number, rfl⟩ := Int.eq_ofNat_of_zero_le bounds.1
        exact .number (by simpa [UInt64.size] using bounds.2) (Decimal.isNumeral_iff.mpr rfl)
      case isFalse => cases decoded
    case h_3 => cases decoded
  · rintro (⟨fits, numeral⟩ | _)
    · rw [Decimal.isNumeral_iff.mp numeral, decodeId,
        if_pos ⟨Int.natCast_nonneg _, by simpa [UInt64.size] using fits⟩, Int.toNat_natCast]
    · rfl

theorem asOptionalText_eq_ok_iff {value : Json} {typeName : Option String} :
    value.asOptionalText = .ok typeName ↔ IsTypeName (some value) typeName := by
  constructor
  · intro decoded
    rw [Json.asOptionalText.eq_def] at decoded
    split at decoded
    · cases decoded
      exact .null
    · obtain ⟨text, given, rfl⟩ := Json.map_eq_ok_iff.mp decoded
      rw [Json.asText_eq_ok_iff.mp given]
      exact .string text
  · rintro (_ | _ | _) <;> rfl

/-- An absent member and the value `null` are no type name alike. -/
theorem typeName_decoded_iff
    {members : List (String × Json)}
    {typeName : Option String} :
    (∃ result?, Json.decodeMember "type_name" members Json.asOptionalText = .ok result? ∧
        result?.join = typeName) ↔
      IsTypeName (members.lookup "type_name") typeName := by
  constructor
  · rintro ⟨_ | result, decoded, rfl⟩
    · rw [Json.decodeMember_eq_none_iff.mp decoded]
      exact .absent
    · obtain ⟨value, found, read⟩ := Json.decodeMember_eq_some_iff.mp decoded
      rw [found]
      exact asOptionalText_eq_ok_iff.mp read
  · intro named
    cases member : members.lookup "type_name" with
    | none =>
        rw [member] at named
        cases named
        exact ⟨none, Json.decodeMember_eq_none_iff.mpr member, rfl⟩
    | some value =>
        rw [member] at named
        exact ⟨some typeName, Json.decodeMember_eq_some_iff.mpr
          ⟨value, member, asOptionalText_eq_ok_iff.mpr named⟩, rfl⟩

theorem decode_object_eq_ok_iff {members : List (String × Json)} {block : Block} :
    decode (.object members) = .ok block ↔
      (∃ value, members.lookup "id" = some value ∧ IsId value block.id) ∧
        members.lookup "instance_name" = some (.string block.instanceName) ∧
        IsTypeName (members.lookup "type_name") block.typeName := by
  simp only [decode, Json.bind_eq_ok_iff, Json.require_eq_ok_iff]
  constructor
  · rintro ⟨_, idRead, _, nameRead, typeRead?, typeRead, id, rfl, instanceName, rfl, made⟩
    cases made
    obtain ⟨value, idMember, decoded⟩ := Json.decodeMember_eq_some_iff.mp idRead
    obtain ⟨nameValue, nameMember, nameText⟩ := Json.decodeMember_eq_some_iff.mp nameRead
    rw [Json.asText_eq_ok_iff.mp nameText] at nameMember
    exact ⟨⟨value, idMember, decodeId_eq_ok_iff.mp decoded⟩, nameMember,
      typeName_decoded_iff.mp ⟨typeRead?, typeRead, rfl⟩⟩
  · rintro ⟨⟨value, idMember, isId⟩, nameMember, named⟩
    obtain ⟨typeRead?, typeRead, joined⟩ := typeName_decoded_iff.mpr named
    refine ⟨some block.id, Json.decodeMember_eq_some_iff.mpr
      ⟨value, idMember, decodeId_eq_ok_iff.mpr isId⟩, some block.instanceName,
      Json.decodeMember_eq_some_iff.mpr ⟨_, nameMember, rfl⟩, typeRead?, typeRead,
      block.id, rfl, block.instanceName, rfl, ?_⟩
    rw [joined]
    rfl

theorem decode_array_eq_ok_iff {items : List Json} {block : Block} :
    decode (.array items) = .ok block ↔
      ∃ idValue typeValue?, IsId idValue block.id ∧ IsTypeName typeValue? block.typeName ∧
        items = idValue :: .string block.instanceName :: typeValue?.toList := by
  constructor
  · intro decoded
    match items with
    | [] => cases decoded
    | [idValue] =>
        obtain ⟨_, _, refused⟩ := Json.bind_eq_ok_iff.mp decoded
        cases refused
    | idValue :: nameValue :: rest =>
        obtain ⟨id, idRead, afterId⟩ := Json.bind_eq_ok_iff.mp decoded
        obtain ⟨instanceName, nameRead, afterName⟩ := Json.bind_eq_ok_iff.mp afterId
        rw [decodeId_eq_ok_iff] at idRead
        rw [Json.asText_eq_ok_iff] at nameRead
        subst nameRead
        match rest with
        | [] =>
            cases afterName
            exact ⟨idValue, none, idRead, .absent, rfl⟩
        | [typeValue] =>
            obtain ⟨typeName, typeRead, made⟩ := Json.bind_eq_ok_iff.mp afterName
            cases made
            exact ⟨idValue, some typeValue, idRead, asOptionalText_eq_ok_iff.mp typeRead, rfl⟩
        | typeValue :: _ :: _ =>
            obtain ⟨_, _, refused⟩ := Json.bind_eq_ok_iff.mp afterName
            cases refused
  · rintro ⟨idValue, typeValue?, isId, named, rfl⟩
    refine Json.bind_eq_ok_iff.mpr ⟨block.id, decodeId_eq_ok_iff.mpr isId,
      Json.bind_eq_ok_iff.mpr ⟨block.instanceName, rfl, ?_⟩⟩
    cases typeValue? with
    | none =>
        obtain ⟨id, instanceName, typeName⟩ := block
        cases named
        rfl
    | some typeValue =>
        exact Json.bind_eq_ok_iff.mpr
          ⟨block.typeName, asOptionalText_eq_ok_iff.mpr named, rfl⟩

/-- A value is decoded to the block that it describes, and to nothing if it describes none. -/
theorem decode_eq_ok_iff {value : Json} {block : Block} :
    decode value = .ok block ↔ Describes value block := by
  constructor
  · intro decoded
    cases value with
    | object members =>
        obtain ⟨⟨value, member, id⟩, name, typeName⟩ := decode_object_eq_ok_iff.mp decoded
        exact .object member id name typeName
    | array items =>
        obtain ⟨idValue, typeValue?, id, typeName, rfl⟩ := decode_array_eq_ok_iff.mp decoded
        exact .array id typeName
    | null => cases decoded
    | bool => cases decoded
    | number => cases decoded
    | string => cases decoded
  · rintro (⟨member, id, name, typeName⟩ | ⟨id, typeName⟩)
    · exact decode_object_eq_ok_iff.mpr ⟨⟨_, member, id⟩, name, typeName⟩
    · exact decode_array_eq_ok_iff.mpr ⟨_, _, id, typeName, rfl⟩

end Block

/-- The lists of blocks that a discovery document gives. -/
inductive Lists : Json → List Block → Prop
  /-- An object with the list as its member. -/
  | object
      {members : List (String × Json)}
      {items : List Json}
      {blocks : List Block}
      (member : members.lookup "blocks" = some (.array items))
      (each : List.Forall₂ Block.Describes items blocks) :
      Lists (.object members) blocks
  /-- An array of the list alone. -/
  | array
      {items : List Json}
      {blocks : List Block}
      (each : List.Forall₂ Block.Describes items blocks) :
      Lists (.array [.array items]) blocks

theorem mapM_eq_ok_iff
    {decode : α → Except ε β}
    {items : List α}
    {results : List β} :
    items.mapM decode = .ok results ↔
      List.Forall₂ (fun item result => decode item = .ok result) items results := by
  induction items generalizing results with
  | nil =>
      rw [List.forall₂_nil_left_iff]
      exact ⟨fun read => (Except.ok.inj read).symm, fun none => none ▸ rfl⟩
  | cons item items inductionHypothesis =>
      rw [List.mapM_cons, Json.bind_eq_ok_iff, List.forall₂_cons_left_iff]
      constructor
      · rintro ⟨first, read, rest⟩
        obtain ⟨others, readOthers, all⟩ := Json.bind_eq_ok_iff.mp rest
        cases all
        exact ⟨first, others, read, inductionHypothesis.mp readOthers, rfl⟩
      · rintro ⟨first, others, read, readOthers, rfl⟩
        exact ⟨first, read, Json.bind_eq_ok_iff.mpr
          ⟨others, inductionHypothesis.mpr readOthers, rfl⟩⟩

theorem mapM_decode_eq_ok_iff {items : List Json} {blocks : List Block} :
    items.mapM Block.decode = .ok blocks ↔ List.Forall₂ Block.Describes items blocks := by
  simp only [mapM_eq_ok_iff, Block.decode_eq_ok_iff]

theorem decodeBlocks_eq_ok_iff {document : Json} {blocks : List Block} :
    decodeBlocks document = .ok blocks ↔ Lists document blocks := by
  constructor
  · intro decoded
    match document with
    | .object members =>
        simp only [decodeBlocks, Json.bind_eq_ok_iff, Json.require_eq_ok_iff] at decoded
        obtain ⟨_, read, rfl⟩ := decoded
        obtain ⟨value, member, read⟩ := Json.decodeMember_eq_some_iff.mp read
        obtain ⟨items, isArray, read⟩ := Json.bind_eq_ok_iff.mp read
        rw [Json.asItems_eq_ok_iff.mp isArray] at member
        exact .object member (mapM_decode_eq_ok_iff.mp read)
    | .array [] => cases decoded
    | .array (value :: surplus) =>
        obtain ⟨items, isArray, afterItems⟩ := Json.bind_eq_ok_iff.mp decoded
        obtain ⟨listed, read, made⟩ := Json.bind_eq_ok_iff.mp afterItems
        rw [Json.asItems_eq_ok_iff] at isArray
        subst isArray
        match surplus with
        | [] =>
            cases made
            exact .array (mapM_decode_eq_ok_iff.mp read)
        | _ :: _ => cases made
    | .null => cases decoded
    | .bool _ => cases decoded
    | .number _ => cases decoded
    | .string _ => cases decoded
  · rintro (⟨member, each⟩ | each)
    · simp only [decodeBlocks, Json.bind_eq_ok_iff, Json.require_eq_ok_iff]
      exact ⟨_, Json.decodeMember_eq_some_iff.mpr ⟨_, member, Json.bind_eq_ok_iff.mpr
        ⟨_, rfl, mapM_decode_eq_ok_iff.mpr each⟩⟩, rfl⟩
    · exact Json.bind_eq_ok_iff.mpr
        ⟨_, rfl, Json.bind_eq_ok_iff.mpr ⟨_, mapM_decode_eq_ok_iff.mpr each, rfl⟩⟩

/-! ## Documents that are refused -/

namespace Survey

theorem decode_eq_ok_iff {document : Json} {blocks : List Block} :
    decode document = .ok blocks ↔ Lists document blocks := by
  rw [← decodeBlocks_eq_ok_iff, decode]
  cases decodeBlocks document <;> simp

/-- What is no discovery document cannot be decoded. -/
theorem exists_decode_eq_error
    {document : Json}
    (listless : ¬ ∃ blocks, Lists document blocks) :
    ∃ reason, decode document = .error (.decode reason) := by
  cases decoded : decodeBlocks document with
  | ok blocks => exact absurd ⟨blocks, decodeBlocks_eq_ok_iff.mp decoded⟩ listless
  | error problem => exact ⟨problem.message, by rw [decode, decoded]⟩

end Survey

namespace Controller

/-- With a document that cannot be decoded, connecting fails behind the fetch. -/
theorem connect_of_refused
    [Transport τ]
    {transport : τ}
    {base : String}
    {document : Json}
    {error : TransportError}
    (fetched : (Transport.get base transport).outcome = .done document)
    (refused : Survey.decode document = .error error)
    (matchers : List Matcher) :
    (connect base matchers transport).outcome = .failed (.discovery error) ∧
      (connect base matchers transport).state = (Transport.get base transport).state := by
  simp [connect, Survey.discover, fetched, refused]

/-- Decoding accepts the discovery documents, in each of their forms, and nothing else, and gives
the blocks that they list. Any other value is refused as a whole, and a controller that meets it
fails to connect without a call. -/
theorem documents_decode_to_their_lists (document : Json) :
    (∀ blocks, Survey.decode document = .ok blocks ↔ Lists document blocks) ∧
      ((¬ ∃ blocks, Lists document blocks) →
        ∃ reason, Survey.decode document = .error (.decode reason) ∧
          ∀ (σ : Type) [Transport σ] (transport : Recorded σ) base matchers,
            (Transport.get base transport).outcome = .done document →
            (connect base matchers transport).outcome = .failed (.discovery (.decode reason)) ∧
              (connect base matchers transport).state.calls = transport.calls) := by
  refine ⟨fun blocks => Survey.decode_eq_ok_iff, fun listless => ?_⟩
  obtain ⟨reason, refused⟩ := Survey.exists_decode_eq_error listless
  refine ⟨reason, refused, fun σ _ transport base matchers fetched => ?_⟩
  obtain ⟨outcome, state⟩ := connect_of_refused fetched refused matchers
  exact ⟨outcome, by rw [state]; rfl⟩

/-- A discovery document in which one identifier is too large by one. -/
def oversizedText : String :=
  "\x7b\"version\": [1], \"blocks\": [[4, \"SoapySource_0\"], " ++
    "\x7b\"instance_name\": \"SoapySink_0\", \"id\": \"4\", \"type_name\": null\x7d, " ++
    "[18446744073709551616, \"Selector<2, 1>_0\", \"Selector\"]]\x7d"

/-- One identifier that is too large keeps a controller from connecting. -/
theorem documents_decode_to_their_lists_oversized :
    let transport : Recorded Scripted := .fresh ⟨.ok oversizedText, .none, 0⟩
    ∃ document reason,
      (Transport.get "http://radio/" transport).outcome = .done document ∧
      (¬ ∃ blocks, Lists document blocks) ∧
      Survey.decode document = .error (.decode reason) ∧
      (connect "http://radio/" [] transport).outcome = .failed (.discovery (.decode reason)) ∧
      (connect "http://radio/" [] transport).state.calls = [] := by
  intro transport
  have answered : (Transport.get "http://radio/" transport).outcome.map
      (fun document => (decodeBlocks document).toOption) = .done none := by
    decide +kernel
  obtain ⟨document, fetched, unread⟩ := (Outcome.map_eq_done_iff _ _ _).mp answered
  have listless : ¬ ∃ blocks, Lists document blocks := by
    rintro ⟨blocks, listed⟩
    rw [decodeBlocks_eq_ok_iff.mpr listed] at unread
    cases unread
  obtain ⟨-, others⟩ := documents_decode_to_their_lists document
  obtain ⟨reason, refused, connecting⟩ := others listless
  obtain ⟨fails, calls⟩ := connecting Scripted transport "http://radio/" [] fetched
  exact ⟨document, reason, fetched, listless, refused, fails, calls⟩

end Controller
end DualPhy
