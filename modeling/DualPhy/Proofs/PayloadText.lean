import DualPhy.Decimal.Whole
import DualPhy.Proofs.Bodies
import DualPhy.Proofs.BlockList
import DualPhy.Proofs.CompactText

/-!
# The texts of a payload

The body of a call has one of three forms, in which numbers are whole and written without a
fraction and an exponent, however large they are. Reading the body gives the form, the number and
the channel of the payload, so that payloads that agree in these have the same body and others do
not. The text in messages gives the same number and the same channel.
-/

namespace DualPhy
namespace Payload

open Json (inQuotes inBraces inBrackets)

/-! ## Forms -/

/-- The forms of a payload. -/
inductive Kind
  /-- A frequency, gain or rate. -/
  | real
  /-- A selector index. -/
  | index
  /-- A frequency for one channel of the frontend. -/
  | channelReal
  deriving DecidableEq

/-- The form of a payload. -/
def kind : Payload → Kind
  | .real _ => .real
  | .index _ => .index
  | .channelReal _ _ => .channelReal

/-- What a body tells: its form, its number and its channel. -/
structure Reading where
  /-- The form. -/
  kind : Kind
  /-- The number. -/
  value : Int
  /-- The channel, where the form has one. -/
  channel : Option UInt32
  deriving DecidableEq

/-- What a payload says. -/
def reading (payload : Payload) : Reading := ⟨payload.kind, payload.wireValue, payload.channel?⟩

/-- A whole number in decimal digits, with a minus sign in front of a negative one. There is no
fraction and no exponent. -/
def IsWhole (text : List Char) (value : Int) : Prop :=
  ∃ digits, Json.Literal.Spells ⟨decide (value < 0), digits, [], none⟩ text ∧
    Decimal.ofDigits digits 0 = value.natAbs

/-- The text of an object with one member. -/
def inTag (tag : String) (text : List Char) : List Char :=
  inBraces (inQuotes tag.toList ++ ':' :: text)

/-- The forms of a body, and what each of them tells. -/
inductive IsBody : List Char → Reading → Prop
  /-- A number. -/
  | real
      {text : List Char}
      {value : Int}
      (written : IsWhole text value) :
      IsBody (inTag "F64" text) ⟨.real, value, none⟩
  /-- An index. -/
  | index
      {text : List Char}
      {value : UInt32}
      (written : IsWhole text value.toNat) :
      IsBody (inTag "U32" text) ⟨.index, value.toNat, none⟩
  /-- A number and a channel. -/
  | channelReal
      {text channelText : List Char}
      {value : Int}
      {channel : UInt32}
      (written : IsWhole text value)
      (channelWritten : IsWhole channelText channel.toNat) :
      IsBody
        (inTag "VecPmt" (inBrackets (inTag "F64" text ++ ',' :: inTag "U32" channelText)))
        ⟨.channelReal, value, some channel⟩

theorem isWhole_text (value : Int) : IsWhole (toString value).toList value :=
  ⟨_, Json.Literal.spells_ofInt value, Json.ofDigits_digitChars _⟩

/-- A body has the form of its payload. -/
theorem isBody_bodyText (payload : Payload) : IsBody payload.bodyText.toList payload.reading := by
  have natural : ∀ number : Nat, (number : Int).repr = number.repr := fun _ => rfl
  have written : payload.bodyText.toList =
      match payload with
      | .real value => inTag "F64" (toString value.truncate).toList
      | .index value => inTag "U32" (toString (value.toNat : Int)).toList
      | .channelReal value channel =>
          inTag "VecPmt" (inBrackets (inTag "F64" (toString value.truncate).toList ++
            ',' :: inTag "U32" (toString (channel.toNat : Int)).toList)) := by
    rw [toList_bodyText]
    cases payload <;>
      simp [sent, Sent.chars, Sent.opening, inTag, inBraces, inBrackets, inQuotes, natural]
  rw [written]
  cases payload with
  | real value => exact .real (isWhole_text _)
  | index value => exact .index (isWhole_text _)
  | channelReal value channel => exact .channelReal (isWhole_text _) (isWhole_text _)

/-! ## Reading a body -/

/-- The number under the tag of a type, if there is one. -/
def tagged? (tag : String) : Json → Option Int
  | .object [(key, .number (.whole value))] => if key = tag then some value else none
  | _ => none

/-- A number of thirty-two bits. -/
def word? (value : Int) : Option UInt32 :=
  if 0 ≤ value ∧ value < UInt32.size then some (.ofNat value.toNat) else none

/-- What a document tells that is a body. -/
def Reading.ofJson? : Json → Option Reading
  | .object [(key, .array [first, second])] =>
      if key = "VecPmt" then do
        let value ← tagged? "F64" first
        let channel ← (tagged? "U32" second).bind word?
        return ⟨.channelReal, value, some channel⟩
      else none
  | body =>
      match tagged? "F64" body, tagged? "U32" body with
      | some value, _ => some ⟨.real, value, none⟩
      | none, some value => (word? value).map fun index => ⟨.index, index.toNat, none⟩
      | none, none => none

/-- Read the text of a body. -/
def readBody? [Json.Conversion] (text : String) : Option Reading :=
  (Json.parse text).toOption.bind Reading.ofJson?

@[simp] theorem tagged?_tagged (tag other : String) (value : Int) :
    tagged? tag (tagged other value) = if other = tag then some value else none := rfl

theorem word?_toNat (value : UInt32) : word? value.toNat = some value := by
  have small : value.toNat < UInt32.size := value.toNat_lt
  rw [word?, if_pos ⟨Int.natCast_nonneg _, Int.ofNat_lt.mpr small⟩, Int.toNat_natCast,
    UInt32.ofNat_toNat]

/-- The body tells what the payload says. -/
theorem ofJson?_body (payload : Payload) :
    Reading.ofJson? payload.body = some payload.reading := by
  cases payload with
  | real value => rfl
  | index value =>
      change (word? value.toNat).map (fun index => (⟨.index, index.toNat, none⟩ : Reading)) = _
      rw [word?_toNat]
      rfl
  | channelReal value channel =>
      rw [body, Reading.ofJson?, if_pos rfl, tagged?_tagged, tagged?_tagged, if_pos rfl,
        if_pos rfl, Option.bind_some, word?_toNat]
      rfl

theorem bounds_truncate (value : Binary64) :
    -twoPow 63 ≤ value.truncate ∧ value.truncate < twoPow 63 := by
  have size : twoPow 63 = 9223372036854775808 := rfl
  unfold Binary64.truncate
  dsimp only
  generalize value.units / twoPow Binary64.unitExponent = whole
  split_ifs <;> omega

/-- The number of a payload is kept when the body is read. -/
theorem readsBack_tagged [Json.Conversion] (tag : String) (depth : Nat) {value : Int}
    (least : -twoPow 63 ≤ value) (greatest : value < UInt64.size) :
    Json.ReadsBack (depth + 1) (tagged tag value) :=
  .object rfl (List.forall_mem_singleton.mpr (.number (Json.Number.readsBack_whole least greatest)))

theorem readsBack_truncate [Json.Conversion] (depth : Nat) (value : Binary64) :
    Json.ReadsBack (depth + 1) (tagged "F64" value.truncate) := by
  obtain ⟨least, greatest⟩ := bounds_truncate value
  have size : UInt64.size = 2 * twoPow 63 := rfl
  exact readsBack_tagged "F64" depth least (by omega)

theorem readsBack_word [Json.Conversion] (depth : Nat) (value : UInt32) :
    Json.ReadsBack (depth + 1) (tagged "U32" value.toNat) := by
  have small : value.toNat < UInt32.size := value.toNat_lt
  have size : UInt32.size < UInt64.size := by decide
  exact readsBack_tagged "U32" depth (by omega) (by omega)

/-- The text of a body is read as the body. -/
theorem parse_bodyText [Json.Conversion] (payload : Payload) :
    Json.parse payload.bodyText = .ok payload.body := by
  apply Json.parse_compact
  cases payload with
  | real value => exact readsBack_truncate 126 value
  | index value => exact readsBack_word 126 value
  | channelReal value channel =>
      have items : ∀ item ∈ [tagged "F64" value.truncate, tagged "U32" channel.toNat],
          Json.ReadsBack 125 item :=
        List.forall_mem_cons.mpr ⟨readsBack_truncate 124 value,
          List.forall_mem_singleton.mpr (readsBack_word 124 channel)⟩
      exact .object rfl (List.forall_mem_singleton.mpr (.array items))

theorem readBody?_bodyText [Json.Conversion] (payload : Payload) :
    readBody? payload.bodyText = some payload.reading := by
  rw [readBody?, parse_bodyText]
  exact ofJson?_body payload

/-! ## Reading a message -/

/-- Read a whole number, and a channel behind it if there is more. -/
def readMessage? (text : List Char) : Option (Int × Option UInt32) :=
  match text.span (· != ' ') with
  | (number, []) => (Decimal.integer? number).map fun value => (value, none)
  | (number, ' ' :: '@' :: ' ' :: 'c' :: 'h' :: channel) => do
      let value ← Decimal.integer? number
      let channel ← Decimal.naturalBelow? UInt32.size channel
      return (value, some (.ofNat channel))
  | _ => none

theorem isDigit_of_mem_signed
    {negative : Bool}
    {number : Nat}
    {letter : Char}
    (member : letter ∈ Decimal.signed negative (Decimal.digitChars number)) :
    letter = '-' ∨ letter.isDigit = true := by
  cases negative with
  | false => exact .inr (Json.isDigit_of_mem_digitChars member)
  | true => exact (List.mem_cons.mp member).imp_right Json.isDigit_of_mem_digitChars

theorem digits?_digitChars (number : Nat) :
    Decimal.digits? (Decimal.digitChars number) = some number := by
  rw [← Decimal.toList_toString, Decimal.digits?_toString]

/-- Digits without a sign are read as a natural number. -/
theorem natural?_digitChars (number : Nat) :
    Decimal.natural? (Decimal.digitChars number) = some number := by
  unfold Decimal.natural?
  split
  case h_1 rest start =>
    have member : '+' ∈ Decimal.digitChars number := by
      rw [start]
      exact List.mem_cons_self
    exact absurd (Json.isDigit_of_mem_digitChars member) (by decide)
  case h_2 => exact digits?_digitChars number

/-- A number of thirty-two bits is read back from its digits. -/
theorem naturalBelow?_toNat (word : UInt32) :
    Decimal.naturalBelow? UInt32.size (Decimal.digitChars word.toNat) = some word.toNat := by
  rw [Decimal.naturalBelow?, natural?_digitChars, Option.filter_some, if_pos]
  exact decide_eq_true word.toNat_lt

/-- A whole number is read back from its digits. -/
theorem integer?_toString (value : Int) :
    Decimal.integer? (toString value).toList = some value := by
  rw [Json.toList_toString_int]
  unfold Decimal.integer? Decimal.signed
  by_cases below : value < 0
  · rw [decide_eq_true below, if_pos rfl]
    simp only [digits?_digitChars]
    have magnitude : -(value.natAbs : Int) = value := by omega
    exact congrArg some magnitude
  · rw [decide_eq_false below, if_neg Bool.false_ne_true]
    split
    case h_1 rest start =>
      have member : '-' ∈ Decimal.digitChars value.natAbs := by
        rw [start]
        exact List.mem_cons_self
      exact absurd (Json.isDigit_of_mem_digitChars member) (by decide)
    case h_2 =>
      rw [natural?_digitChars]
      exact congrArg some (Int.natAbs_of_nonneg (not_lt.mp below))

/-- The number in a message ends in front of the first space. -/
theorem span_message
    (value : Int)
    (rest : List Char)
    (space : ∀ letter ∈ rest.head?, letter = ' ') :
    ((toString value).toList ++ rest).span (· != ' ') = ((toString value).toList, rest) := by
  have number : ∀ letter ∈ (toString value).toList, (letter != ' ') = true := by
    intro letter member
    rw [Json.toList_toString_int] at member
    rw [bne_iff_ne]
    rintro rfl
    exact absurd (isDigit_of_mem_signed member) (by decide)
  rw [List.span_eq_takeWhile_dropWhile, List.takeWhile_append_of_pos number,
    List.dropWhile_append_of_pos number]
  cases rest with
  | nil => simp
  | cons letter rest =>
      obtain rfl : letter = ' ' := space letter rfl
      simp

/-- A message gives the number and the channel that the body has. -/
theorem readMessage?_text (payload : Payload) :
    readMessage? payload.text.toList = some (payload.wireValue, payload.channel?) := by
  unfold text
  cases payload.channel? with
  | none =>
      have split := span_message payload.wireValue [] nofun
      rw [List.append_nil] at split
      simp only [readMessage?, split, integer?_toString, Option.map_some]
  | some channel =>
      have split := span_message payload.wireValue
        (' ' :: '@' :: ' ' :: 'c' :: 'h' :: Decimal.digitChars channel.toNat)
        (by rintro _ ⟨⟩; rfl)
      have whole : (toString payload.wireValue ++ " @ ch" ++ toString channel.toNat).toList =
          (toString payload.wireValue).toList ++
            ' ' :: '@' :: ' ' :: 'c' :: 'h' :: Decimal.digitChars channel.toNat := by
        rw [String.toList_append, String.toList_append, Decimal.toList_toString, List.append_assoc]
        rfl
      simp only [whole, readMessage?, split, integer?_toString, naturalBelow?_toNat, bind,
        Option.bind, UInt32.ofNat_toNat]
      rfl

/-! ## Agreement -/

/-- Payloads say the same exactly if the same is sent for them. -/
theorem sent_eq_iff {first second : Payload} :
    first.sent = second.sent ↔ first.reading = second.reading := by
  cases first <;> cases second <;>
    simp [sent, reading, kind, wireValue, channel?, UInt32.toNat_inj]

/-- The body of a payload has one of the three forms, and reading it gives the form, the number
and the channel of the payload. So two payloads have the same body exactly if they agree in these.
The text in messages gives the same number and the same channel. -/
theorem texts_tell_payload [Json.Conversion] (payload : Payload) :
    IsBody payload.bodyText.toList ⟨payload.kind, payload.wireValue, payload.channel?⟩ ∧
      readBody? payload.bodyText =
        some ⟨payload.kind, payload.wireValue, payload.channel?⟩ ∧
      (∀ other : Payload, payload.bodyText = other.bodyText ↔
        payload.kind = other.kind ∧ payload.wireValue = other.wireValue ∧
          payload.channel? = other.channel?) ∧
      readMessage? payload.text.toList = some (payload.wireValue, payload.channel?) := by
  refine ⟨payload.isBody_bodyText, readBody?_bodyText payload, fun other => ?_,
    payload.readMessage?_text⟩
  rw [bodyText_inj, sent_eq_iff, reading, reading, Reading.mk.injEq]

end Payload
end DualPhy
