import DualPhy.Proofs.Act
import DualPhy.Proofs.NumberValue
import DualPhy.Proofs.ProfileText
import DualPhy.Proofs.Rearrangement
import DualPhy.Proofs.RecordReading

/-!
# The grammar of profiles

Which texts are profiles, part by part, and which profiles they stand for. What value a number
stands for is a rule that the grammar is given. With a correct conversion of numbers the reader
accepts exactly the texts that are profiles by the rule of the nearest value, with any white space
around them. The order of the members of their objects does not matter.
-/

namespace DualPhy

open Json (Blank Family Follows IsArray IsObject IsOptionalReal IsString IsUInt32 Layout Letters
  Offers Part Rearranged Slot Unordered)
open Json.Conversion (Gives)

/-! ## Tuning modes -/

namespace TuningMode

/-- A text stands for a tuning mode: it is the name as a string, or an object with the name as
its only key and `null` under it. -/
def Reading (text : List Char) (mode : TuningMode) : Prop :=
  IsString text mode.keyword ∨
    ∃ raw, Letters .keep raw mode.keyword.toList ∧
      IsObject [(raw, ['n', 'u', 'l', 'l'])] text

theorem ofName_eq_ok_iff {name : String} {mode : TuningMode} :
    ofName name = .ok mode ↔ name = mode.keyword := by
  constructor
  · intro known
    unfold ofName at known
    split at known
    case h_1 found =>
      cases known
      have same := List.find?_some (show List.find? _ _ = some mode from found)
      exact (beq_iff_eq.mp same).symm
    case h_2 => cases known
  · rintro rfl
    cases mode <;> rfl

theorem readName_eq_ok_iff {text rest : List Char} {mode : TuningMode} :
    readName text = .ok (mode, rest) ↔
      ∃ raw, Letters .keep raw mode.keyword.toList ∧ text = raw ++ '\x22' :: rest := by
  constructor
  · intro read
    obtain ⟨⟨name, after⟩, quoted, further⟩ := Json.bind_eq_ok_iff.mp read
    obtain ⟨found, known, made⟩ := Json.bind_eq_ok_iff.mp further
    cases made
    obtain rfl := ofName_eq_ok_iff.mp known
    exact Json.readString_eq_ok_iff.mp quoted
  · intro written
    have quoted : Json.readString .keep text = .ok (mode.keyword, rest) :=
      Json.readString_eq_ok_iff.mpr written
    have known : ofName mode.keyword = .ok mode := ofName_eq_ok_iff.mpr rfl
    simp only [readName, quoted, known, bind, Except.bind, pure, Except.pure]

theorem readKey_eq_ok_iff {text rest : List Char} {mode : TuningMode} :
    readKey text = .ok (mode, rest) ↔
      ∃ space raw, Blank space ∧ Letters .keep raw mode.keyword.toList ∧
        text = space ++ (Json.inQuotes raw ++ rest) := by
  constructor
  · intro read
    unfold readKey at read
    split at read
    case h_3 tail skipped =>
      obtain ⟨space, blank, rfl⟩ := Json.exists_blank_of_skipSpace skipped
      obtain ⟨raw, written, rfl⟩ := readName_eq_ok_iff.mp read
      exact ⟨space, raw, blank, written, by simp [Json.inQuotes]⟩
    all_goals cases read
  · rintro ⟨space, raw, blank, written, rfl⟩
    have name : readName (raw ++ '\x22' :: rest) = .ok (mode, rest) :=
      readName_eq_ok_iff.mpr ⟨raw, written, rfl⟩
    unfold readKey
    rw [Json.inQuotes, List.cons_append, List.append_assoc, Json.skipSpace_cons blank rfl]
    exact name

theorem readUnit_eq_ok_iff [Json.Conversion] {text rest : List Char} :
    readUnit text = .ok rest ↔
      ∃ space, Blank space ∧ text = space ++ (['n', 'u', 'l', 'l'] ++ rest) := by
  constructor
  · intro read
    unfold readUnit at read
    split at read
    case h_1 tail skipped =>
      obtain ⟨space, blank, rfl⟩ := Json.exists_blank_of_skipSpace skipped
      obtain rfl := Json.readWord_eq_ok_iff.mp read
      exact ⟨space, blank, rfl⟩
    case h_2 => cases read
  · rintro ⟨space, blank, rfl⟩
    unfold readUnit
    rw [List.cons_append, Json.skipSpace_cons blank rfl]
    exact Json.readWord_eq_ok_iff.mpr rfl

theorem follows_read [Json.Conversion] : Follows read Reading where
  sound := by
    intro text mode rest accepted
    unfold read at accepted
    split at accepted
    case h_1 => cases accepted
    case h_2 tail skipped =>
      obtain ⟨space, blank, rfl⟩ := Json.exists_blank_of_skipSpace skipped
      obtain ⟨raw, written, rfl⟩ := readName_eq_ok_iff.mp accepted
      exact ⟨space, Json.inQuotes raw, blank, .inl ⟨raw, written, rfl⟩, by simp [Json.inQuotes]⟩
    case h_3 tail skipped =>
      obtain ⟨space, blank, rfl⟩ := Json.exists_blank_of_skipSpace skipped
      obtain ⟨⟨found, behindKey⟩, key, further⟩ := Json.bind_eq_ok_iff.mp accepted
      obtain ⟨behindColon, colon, value⟩ := Json.bind_eq_ok_iff.mp further
      obtain ⟨behindUnit, unit, closes⟩ := Json.bind_eq_ok_iff.mp value
      obtain ⟨lead, raw, leads, written, rfl⟩ := readKey_eq_ok_iff.mp key
      obtain ⟨gap, gapBlank, rfl⟩ := Json.readColon_eq_ok_iff.mp colon
      obtain ⟨distance, distanceBlank, rfl⟩ := readUnit_eq_ok_iff.mp unit
      split at closes
      case h_2 last closed =>
        cases closes
        obtain ⟨ending, endingBlank, rfl⟩ := Json.exists_blank_of_skipSpace closed
        have members : Json.Members true [(raw, ['n', 'u', 'l', 'l'])] _ :=
          .cons leads gapBlank distanceBlank (.nil endingBlank)
        refine ⟨space, _, blank, .inr ⟨raw, written, ⟨_, members, rfl⟩, ?_⟩, ?_⟩
        · rintro _ (⟨⟩ | ⟨_, ⟨⟩⟩)
          exact ⟨written.skip, .null⟩
        · simp [Json.inBraces]
      all_goals cases closes
    case h_4 => cases accepted
  complete := by
    rintro text mode (⟨raw, written, rfl⟩ | ⟨raw, written, ⟨inner, members, rfl⟩, -⟩)
      space rest blank ends
    · have name : readName (raw ++ '\x22' :: rest) = .ok (mode, rest) :=
        readName_eq_ok_iff.mpr ⟨raw, written, rfl⟩
      unfold read
      rw [Json.inQuotes, List.cons_append, List.append_assoc, Json.skipSpace_cons blank rfl]
      exact name
    · cases members with
      | @cons _ lead _ gap distance _ ending _ leads gapBlank distanceBlank more =>
          cases more with
          | nil endingBlank =>
              have closed : Json.skipSpace (ending ++ '\x7d' :: rest) = '\x7d' :: rest :=
                Json.skipSpace_cons endingBlank rfl rest
              have unit : readUnit (distance ++ (['n', 'u', 'l', 'l'] ++
                  (ending ++ '\x7d' :: rest))) = .ok (ending ++ '\x7d' :: rest) :=
                readUnit_eq_ok_iff.mpr ⟨distance, distanceBlank, rfl⟩
              have colon : Json.readColon (gap ++ ':' :: (distance ++ (['n', 'u', 'l', 'l'] ++
                  (ending ++ '\x7d' :: rest)))) = .ok _ :=
                Json.readColon_eq_ok_iff.mpr ⟨gap, gapBlank, rfl⟩
              have key : readKey (lead ++ (Json.inQuotes raw ++ (gap ++ ':' ::
                  (distance ++ (['n', 'u', 'l', 'l'] ++ (ending ++ '\x7d' :: rest)))))) =
                .ok (mode, _) :=
                readKey_eq_ok_iff.mpr ⟨lead, raw, leads, written, rfl⟩
              have start : Json.inBraces (lead ++ (Json.inQuotes raw ++ (gap ++ ':' ::
                  (distance ++ (['n', 'u', 'l', 'l'] ++ ending))))) ++ rest =
                '\x7b' :: (lead ++ (Json.inQuotes raw ++ (gap ++ ':' ::
                  (distance ++ (['n', 'u', 'l', 'l'] ++ (ending ++ '\x7d' :: rest)))))) := by
                simp [Json.inBraces]
              unfold read
              rw [start, Json.skipSpace_cons blank rfl]
              simp only [key, colon, unit, closed, bind, Except.bind, pure, Except.pure]

theorem Reading.isValue {text : List Char} {mode : TuningMode} (reading : Reading text mode) :
    Json.IsValue text := by
  rcases reading with ⟨raw, written, rfl⟩ | ⟨raw, -, object⟩
  · exact .string written.skip
  · exact object.isValue

theorem unordered_reading : Unordered Reading := by
  intro text other mode rearranged reading
  rcases reading with name | ⟨raw, written, object⟩
  · exact .inl (Json.unordered_isString text other _ rearranged name)
  · refine .inr ⟨raw, written, ?_⟩
    cases rearranged with
    | object isObject alsoObject order =>
        obtain rfl := object.unique isObject
        rwa [List.singleton_perm.mp order]
    | item array => exact absurd object array.not_isObject
    | @member front back _ _ _ _ _ isObject _ within =>
        -- the only value inside is a word, and a word has no members
        have single := object.unique isObject
        rcases front with _ | ⟨first, front⟩
        · cases single
          rcases within.starts with bracket | brace
          · cases bracket
          · cases brace
        · simp at single

end TuningMode

/-! ## Channels -/

namespace Channels

/-- A text stands for channels: it is an object or array of both, each a whole number without
a sign. Other members of the object are passed over. -/
def Reading (text : List Char) (channels : Channels) : Prop :=
  ∃ parts, Offers ["rx", "tx"] false text parts ∧
    Part IsUInt32 none (parts.lookup "rx") channels.rx ∧
    Part IsUInt32 none (parts.lookup "tx") channels.tx

/-- The entries of channels. -/
def layout [Json.Conversion] : Layout Channels.schema where
  slots :=
    [ ⟨"rx", true, Json.readUInt32, IsUInt32, fun rx channels => { channels with rx }, rx⟩,
      ⟨"tx", true, Json.readUInt32, IsUInt32, fun tx channels => { channels with tx }, tx⟩ ]
  entries := rfl
  distinct := by simp
  get_store := by simp
  get_store_other := by simp
  ext := by
    rintro ⟨rx, tx⟩ ⟨otherRx, otherTx⟩ same
    simpa using same
  follows := by simp [Json.follows_readUInt32]
  isValue := by
    simp only [List.forall_mem_cons]
    exact ⟨fun number => number.isValue, fun number => number.isValue, List.forall_mem_nil _⟩

theorem isRecord_layout [Json.Conversion] : layout.IsRecord = Reading := by
  funext text channels
  simp [Layout.IsRecord, layout, Reading, Slot.default?, Json.Schema.keys, schema, Json.Entry.of]

theorem follows_read [Json.Conversion] : Follows schema.read Reading :=
  isRecord_layout ▸ layout.follows_read

theorem unordered_reading [Json.Conversion] : Unordered Reading := by
  rw [← isRecord_layout]
  apply layout.unordered
  simp [layout, Json.unordered_isUInt32]

theorem Reading.isValue
    {text : List Char}
    {channels : Channels}
    (reading : Reading text channels) :
    Json.IsValue text := by
  obtain ⟨parts, offers, -⟩ := reading
  exact offers.isValue

end Channels

/-! ## Parameters -/

namespace Overrides

/-- A text stands for the parameters that a profile sets: it is an object or array of some of
them, each a number or `null`, which sets nothing. -/
def Reading
    (stands : Json.Literal → Binary64 → Prop)
    (text : List Char)
    (overrides : Overrides) :
    Prop :=
  ∃ parts, Offers (Parameter.all.map Parameter.key) true text parts ∧
    ∀ parameter, Part (IsOptionalReal stands) (some Option.none) (parts.lookup parameter.key)
      (overrides.get parameter)

/-- The entries of the parameters that a profile sets. -/
def family [Json.Conversion] : Family Overrides.schema Parameter (Option Binary64) where
  all := Parameter.all
  mem_all := Parameter.mem_all
  key := Parameter.key
  distinct := by decide
  reader := Json.readOptionalReal
  form := IsOptionalReal Gives
  follows := Json.follows_readOptionalReal
  isValue := fun number? => number?.isValue
  get := PerParameter.get
  set := PerParameter.set
  get_set_self := by simp
  get_set_other := by
    intro overrides written read value different
    rw [PerParameter.get_set, if_neg different]
  ext := PerParameter.ext_get
  entries := rfl

theorem isRecord_family [Json.Conversion] : family.layout.IsRecord = Reading Gives := by
  funext text overrides
  apply propext
  rw [family.isRecord_layout_iff]
  simp only [family, schema, none, PerParameter.get_ofFn]
  rfl

theorem follows_read [Json.Conversion] : Follows schema.read (Reading Gives) :=
  isRecord_family ▸ family.layout.follows_read

theorem unordered_reading [Json.Conversion] : Unordered (Reading Gives) := by
  rw [← isRecord_family]
  apply family.layout.unordered
  exact List.forall_mem_map.mpr fun _ _ => Json.unordered_isOptionalReal Gives

/-- What stands for parameters by one rule does so by every rule that says the same of more
numbers. -/
theorem Reading.mono
    {stands others : Json.Literal → Binary64 → Prop}
    (wider : ∀ literal value, stands literal value → others literal value)
    {text : List Char}
    {overrides : Overrides}
    (reading : Reading stands text overrides) :
    Reading others text overrides := by
  obtain ⟨parts, offers, placed⟩ := reading
  refine ⟨parts, offers, fun parameter => (placed parameter).mono ?_⟩
  rintro written value? (⟨null, unset⟩ | ⟨value, set, literal, spells, valued⟩)
  · exact .inl ⟨null, unset⟩
  · exact .inr ⟨value, set, literal, spells, wider literal value valued⟩

theorem Reading.isValue
    {stands : Json.Literal → Binary64 → Prop}
    {text : List Char}
    {overrides : Overrides}
    (reading : Reading stands text overrides) :
    Json.IsValue text := by
  obtain ⟨parts, offers, -⟩ := reading
  exact offers.isValue

theorem Reading.isFinite
    [Json.Conversion]
    {text : List Char}
    {overrides : Overrides}
    (reading : Reading Gives text overrides) :
    overrides.All fun value => value.isFinite = true := by
  obtain ⟨parts, -, placed⟩ := reading
  intro parameter value set
  have part := placed parameter
  rw [set] at part
  cases offered : parts.lookup parameter.key with
  | none =>
      rw [offered] at part
      cases part
  | some written =>
      rw [offered] at part
      rcases part with ⟨-, nothing⟩ | ⟨number, same, literal, -, gives⟩
      · cases nothing
      · cases same
        exact gives.isFinite

end Overrides

namespace PerRole

/-- Two records with the same entries are equal. -/
theorem ext_get
    {first second : PerRole α}
    (same : ∀ role, first.get role = second.get role) :
    first = second := by
  cases first
  cases second
  rw [PerRole.mk.injEq]
  exact ⟨same .sourceSelector, same .sinkSelector, same .messageSelector, same .rfSource,
    same .rfSink⟩

end PerRole

namespace Profile

/-! ## Parameters of both PHYs -/

/-- A text stands for the parameters of both PHYs: it is an array of two entries. -/
def PairReading
    (stands : Json.Literal → Binary64 → Prop)
    (text : List Char)
    (overrides : PerPhy Overrides) :
    Prop :=
  ∃ first second, IsArray [first, second] text ∧
    Overrides.Reading stands first overrides.phy0 ∧
    Overrides.Reading stands second overrides.phy1

theorem item_of_readPairItem
    [Json.Conversion]
    {position : Nat}
    {text rest : List Char}
    {overrides : Overrides}
    (read : readPairItem position text = .ok (overrides, rest)) :
    ∃ lead body, Json.Lead (position == 0) lead ∧ Overrides.Reading Gives body overrides ∧
      text = lead ++ (body ++ rest) := by
  obtain ⟨⟨more, start⟩, separated, further⟩ := Json.bind_eq_ok_iff.mp read
  rcases Json.lead_of_nextItem separated with ⟨rfl, -⟩ | ⟨rfl, lead, leads, rfl⟩
  · cases further
  · obtain ⟨space, body, blank, reading, rfl⟩ := Overrides.follows_read.sound further
    exact ⟨lead ++ space, body, leads.append_blank blank, reading, by simp⟩

theorem readPairItem_of_reading
    [Json.Conversion]
    (position : Nat)
    {lead body : List Char}
    (leads : Json.Lead (position == 0) lead)
    {overrides : Overrides}
    (reading : Overrides.Reading Gives body overrides)
    {rest : List Char}
    (ends : Json.EndsNumber rest) :
    readPairItem position (lead ++ (body ++ rest)) = .ok (overrides, rest) := by
  have item := leads.nextItem_value reading.isValue .keep rest
  have read := Overrides.follows_read.complete reading [] rest (List.forall_mem_nil _) ends
  rw [List.nil_append] at read
  simp only [readPairItem, item, bind, Except.bind, if_true, read]

theorem follows_readPair [Json.Conversion] : Follows readPair (PairReading Gives) where
  sound := by
    intro text overrides rest read
    unfold readPair at read
    split at read
    case h_1 tail skipped =>
      obtain ⟨space, blank, rfl⟩ := Json.exists_blank_of_skipSpace skipped
      obtain ⟨⟨phy0, afterFirst⟩, firstRead, further⟩ := Json.bind_eq_ok_iff.mp read
      obtain ⟨⟨phy1, afterSecond⟩, secondRead, ending⟩ := Json.bind_eq_ok_iff.mp further
      obtain ⟨last, closed, made⟩ := Json.bind_eq_ok_iff.mp ending
      cases made
      obtain ⟨lead, first, leads, firstReading, rfl⟩ := item_of_readPairItem firstRead
      obtain ⟨comma, second, separates, secondReading, rfl⟩ := item_of_readPairItem secondRead
      obtain ⟨gap, gapBlank, rfl⟩ := Json.closeList_eq_ok_iff.mp closed
      have items : Json.Items true [first, second] _ :=
        .cons leads (.cons separates (.nil gapBlank))
      refine ⟨space, _, blank, ⟨first, second, ⟨⟨_, items, rfl⟩, ?_⟩, firstReading,
        secondReading⟩, by simp [Json.inBrackets]⟩
      simpa using ⟨firstReading.isValue, secondReading.isValue⟩
    case h_2 => cases read
  complete := by
    rintro text overrides ⟨first, second, ⟨⟨inner, items, rfl⟩, -⟩, firstReading, secondReading⟩
      space rest blank ends
    cases items with
    | @cons _ lead _ later _ leads others =>
        cases others with
        | @cons _ comma _ ending _ separates last =>
            cases last with
            | nil gapBlank =>
                have bracket : Json.EndsNumber (ending ++ ']' :: rest) :=
                  Json.endsNumber_blank_append gapBlank (Json.endsNumber_bracket rest)
                have firstRead := readPairItem_of_reading 0 leads firstReading
                  (separates.endsNumber (second ++ (ending ++ ']' :: rest)))
                have secondRead := readPairItem_of_reading 1 separates secondReading bracket
                have closed : Json.closeList (ending ++ ']' :: rest) = .ok rest :=
                  Json.closeList_eq_ok_iff.mpr ⟨ending, gapBlank, rfl⟩
                have start : Json.inBrackets (lead ++ (first ++ (comma ++ (second ++ ending)))) ++
                    rest =
                  '[' :: (lead ++ (first ++ (comma ++ (second ++ (ending ++ ']' :: rest))))) := by
                  simp [Json.inBrackets]
                unfold readPair
                rw [start, Json.skipSpace_cons blank rfl]
                simp only [firstRead, secondRead, closed, bind, Except.bind, pure, Except.pure]

theorem unordered_pairReading [Json.Conversion] : Unordered (PairReading Gives) := by
  rintro text other overrides rearranged ⟨first, second, array, firstReading, secondReading⟩
  cases rearranged with
  | object object => exact absurd object array.not_isObject
  | member object => exact absurd object array.not_isObject
  | @item front back item moved _ _ isArray alsoArray within =>
      have pair := array.unique isArray
      rcases front with _ | ⟨_, _ | ⟨_, front⟩⟩
      · cases pair
        exact ⟨moved, second, alsoArray,
          Overrides.unordered_reading _ _ _ within firstReading, secondReading⟩
      · cases pair
        exact ⟨first, moved, alsoArray, firstReading,
          Overrides.unordered_reading _ _ _ within secondReading⟩
      · simp at pair

theorem PairReading.mono
    {stands others : Json.Literal → Binary64 → Prop}
    (wider : ∀ literal value, stands literal value → others literal value)
    {text : List Char}
    {overrides : PerPhy Overrides}
    (reading : PairReading stands text overrides) :
    PairReading others text overrides := by
  obtain ⟨first, second, array, firstReading, secondReading⟩ := reading
  exact ⟨first, second, array, firstReading.mono wider, secondReading.mono wider⟩

theorem PairReading.isValue
    {stands : Json.Literal → Binary64 → Prop}
    {text : List Char}
    {overrides : PerPhy Overrides}
    (reading : PairReading stands text overrides) :
    Json.IsValue text := by
  obtain ⟨first, second, array, -⟩ := reading
  exact array.isValue

/-! ## Instance names -/

/-- A text stands for the instance names: it is an object or array of some of them, each a
string. -/
def RolesReading (text : List Char) (roles : PerRole String) : Prop :=
  ∃ parts, Offers (Role.all.map Role.key) true text parts ∧
    ∀ role, Part IsString (some role.stockInstance) (parts.lookup role.key) (roles.get role)

/-- The entries of the instance names. -/
def rolesFamily [Json.Conversion] : Family rolesSchema Role String where
  all := Role.all
  mem_all := Role.mem_all
  key := Role.key
  distinct := by decide
  reader := Json.readText
  form := IsString
  follows := Json.follows_readText
  isValue := fun string => string.isValue
  get := PerRole.get
  set := PerRole.set
  get_set_self := by simp
  get_set_other := by
    intro roles written read name different
    rw [PerRole.get_set, if_neg different]
  ext := PerRole.ext_get
  entries := rfl

theorem isRecord_rolesFamily [Json.Conversion] : rolesFamily.layout.IsRecord = RolesReading := by
  funext text roles
  apply propext
  rw [rolesFamily.isRecord_layout_iff]
  simp only [rolesFamily, rolesSchema, stockRoles, PerRole.get_ofFn]
  rfl

theorem follows_rolesSchema [Json.Conversion] : Follows rolesSchema.read RolesReading :=
  isRecord_rolesFamily ▸ rolesFamily.layout.follows_read

theorem unordered_rolesReading [Json.Conversion] : Unordered RolesReading := by
  rw [← isRecord_rolesFamily]
  apply rolesFamily.layout.unordered
  exact List.forall_mem_map.mpr fun _ _ => Json.unordered_isString

theorem RolesReading.isValue
    {text : List Char}
    {roles : PerRole String}
    (reading : RolesReading text roles) :
    Json.IsValue text := by
  obtain ⟨parts, offers, -⟩ := reading
  exact offers.isValue

/-! ## Whole profiles -/

/-- A text stands for a profile: it is an object or array of some of its four parts. What is
left out has its stock value. -/
def Reading
    (stands : Json.Literal → Binary64 → Prop)
    (text : List Char)
    (profile : Profile) :
    Prop :=
  ∃ parts, Offers ["tuning_mode", "channels", "phys", "roles"] true text parts ∧
    Part TuningMode.Reading (some .centerOffset) (parts.lookup "tuning_mode") profile.mode ∧
    Part Channels.Reading (some ⟨0, 0⟩) (parts.lookup "channels") profile.channels ∧
    Part (PairReading stands) (some ⟨.none, .none⟩) (parts.lookup "phys") profile.overrides ∧
    Part RolesReading (some stockRoles) (parts.lookup "roles") profile.roles

/-- The parts of a profile. -/
def layout [Json.Conversion] : Layout schema where
  slots :=
    [ ⟨"tuning_mode", false, TuningMode.read, TuningMode.Reading,
        fun mode profile => { profile with mode }, mode⟩,
      ⟨"channels", false, Channels.schema.read, Channels.Reading,
        fun channels profile => { profile with channels }, channels⟩,
      ⟨"phys", false, readPair, PairReading Gives,
        fun overrides profile => { profile with overrides }, overrides⟩,
      ⟨"roles", false, rolesSchema.read, RolesReading,
        fun roles profile => { profile with roles }, roles⟩ ]
  entries := rfl
  distinct := by simp
  get_store := by simp
  get_store_other := by simp
  ext := by
    rintro ⟨mode, channels, overrides, roles⟩ ⟨_, _, _, _⟩ same
    simpa using same
  follows := by
    simp [TuningMode.follows_read, Channels.follows_read, follows_readPair, follows_rolesSchema]
  isValue := by
    simp only [List.forall_mem_cons]
    exact ⟨fun reading => reading.isValue, fun reading => reading.isValue,
      fun reading => reading.isValue, fun reading => reading.isValue, List.forall_mem_nil _⟩

theorem isRecord_layout [Json.Conversion] : layout.IsRecord = Reading Gives := by
  funext text profile
  simp [Layout.IsRecord, layout, Reading, Slot.default?, Json.Schema.keys, schema, Json.Entry.of,
    initial, TuningMode.initial, Channels.initial, PerPhy.ofFn]

theorem follows_schema [Json.Conversion] : Follows schema.read (Reading Gives) :=
  isRecord_layout ▸ layout.follows_read

theorem unordered_reading [Json.Conversion] : Unordered (Reading Gives) := by
  rw [← isRecord_layout]
  apply layout.unordered
  simp [layout, TuningMode.unordered_reading, Channels.unordered_reading, unordered_pairReading,
    unordered_rolesReading]

theorem Reading.mono
    {stands others : Json.Literal → Binary64 → Prop}
    (wider : ∀ literal value, stands literal value → others literal value)
    {text : List Char}
    {profile : Profile}
    (reading : Reading stands text profile) :
    Reading others text profile := by
  obtain ⟨parts, offers, mode, channels, pair, roles⟩ := reading
  exact ⟨parts, offers, mode, channels, pair.mono fun _ _ => PairReading.mono wider, roles⟩

theorem Reading.isValue
    {stands : Json.Literal → Binary64 → Prop}
    {text : List Char}
    {profile : Profile}
    (reading : Reading stands text profile) :
    Json.IsValue text := by
  obtain ⟨parts, offers, -⟩ := reading
  exact offers.isValue

/-- No parameter of a profile that a text stands for is too large. -/
theorem Reading.isFinite
    [Json.Conversion]
    {text : List Char}
    {profile : Profile}
    (reading : Reading Gives text profile) :
    profile.IsFinite := by
  obtain ⟨parts, -, -, -, pair, -⟩ := reading
  cases offered : parts.lookup "phys" with
  | none =>
      rw [offered] at pair
      obtain same : (⟨.none, .none⟩ : PerPhy Overrides) = profile.overrides := Option.some.inj pair
      intro phy parameter value set
      rw [← same] at set
      cases phy <;> simp [PerPhy.get, Overrides.none] at set
  | some written =>
      rw [offered] at pair
      obtain ⟨first, second, -, firstReading, secondReading⟩ := pair
      intro phy
      cases phy with
      | phy0 => exact firstReading.isFinite
      | phy1 => exact secondReading.isFinite

/-- What is read as a profile always passes the check of its parameters. -/
theorem parse_eq_ok_iff [Json.Conversion] {text : String} {profile : Profile} :
    parse text = .ok profile ↔ ∃ body, Json.Document text body ∧ Reading Gives body profile := by
  rw [← follows_schema.readDocument_eq_ok_iff]
  unfold parse
  cases document : Json.readDocument schema.read text with
  | error problem => simp
  | ok found =>
      obtain ⟨body, -, reading⟩ := follows_schema.readDocument_eq_ok_iff.mp document
      have passed := checkFinite_of_finite reading.isFinite
      simp only [passed, bind, Except.bind, pure, Except.pure, Except.ok.injEq]

/-- With a correct conversion of numbers, a document is accepted as a profile exactly if it is the
text of one, up to white space around it: and what it stands for is the profile. The conversion
in use reads so at least the documents in which all numbers are short. With any conversion,
documents in which the members of an object stand in another order, wherever the object is, are
the same profile. -/
theorem parse_iff_reading [Json.Conversion] (text : String) (profile : Profile) :
    (Json.Conversion.Correct →
        (parse text = .ok profile ↔
          ∃ body, Json.Document text body ∧ Reading Json.Literal.Stands body profile)) ∧
      (∀ body, Json.Document text body →
        Reading (fun literal value => literal.exact.IsShort ∧ literal.Stands value) body profile →
          @parse Json.Conversion.scaled text = .ok profile) ∧
      ∀ other body moved, Json.Document text body → Json.Document other moved →
        Rearranged body moved → (parse text = .ok profile ↔ parse other = .ok profile) := by
  refine ⟨fun correct => ?_, fun body document reading => ?_, ?_⟩
  · rw [parse_eq_ok_iff, correct.gives_eq]
  · refine (@parse_eq_ok_iff Json.Conversion.scaled _ _).mpr ⟨body, document, reading.mono ?_⟩
    rintro literal value ⟨short, stands⟩
    exact (@Json.Conversion.gives_iff_stands Json.Conversion.scaled literal
      (Json.Conversion.real_scaled short) value).mpr stands
  · intro other body moved document otherDocument rearranged
    rw [parse_eq_ok_iff, parse_eq_ok_iff]
    constructor
    · rintro ⟨found, isDocument, reading⟩
      obtain rfl := isDocument.unique document reading.isValue rearranged.symm.isValue
      exact ⟨moved, otherDocument, unordered_reading _ _ _ rearranged reading⟩
    · rintro ⟨found, isDocument, reading⟩
      obtain rfl := isDocument.unique otherDocument reading.isValue rearranged.isValue
      exact ⟨body, document, unordered_reading _ _ _ rearranged.symm reading⟩

/-- A document with fractions, a power of ten, a negative zero and a `null`. -/
def fractionalText : String :=
  " \x7b\"phys\": [\x7b\"tx_gain\": -0, \"rx_gain\": 14.5\x7d, [null, 25e-1]]\x7d\n"

/-- The profile that it stands for. -/
def fractional : Profile :=
  { initial with
    overrides :=
      ⟨(Overrides.none.set .rxGain (some (.ofBits 0x402D000000000000))).set .txGain
          (some (.zero true)),
        Overrides.none.set .txFrequency (some (.ofBits 0x4004000000000000))⟩ }

/-- A document with a number that is too large. -/
def overflowingText : String := "\x7b\"phys\": [\x7b\"rx_gain\": 1e999\x7d, []]\x7d"

/-- The first document stands for the profile, and the other one for none. The conversion in use
agrees on both. -/
theorem parse_iff_reading_fractional :
    @Json.Conversion.Correct Json.Conversion.nearest ∧
      (∃ body, Json.Document fractionalText body ∧
        Reading Json.Literal.Stands body fractional) ∧
      (∀ profile, ¬ ∃ body, Json.Document overflowingText body ∧
        Reading Json.Literal.Stands body profile) ∧
      @parse Json.Conversion.scaled fractionalText = .ok fractional ∧
      ∀ profile, @parse Json.Conversion.scaled overflowingText ≠ .ok profile := by
  have correct := Json.Conversion.correct_nearest
  have accepted : @parse Json.Conversion.nearest fractionalText = .ok fractional :=
    eq_ok_of_toOption (by decide +kernel)
  have refused : ∀ conversion, (@parse conversion overflowingText).toOption = none →
      ∀ profile, @parse conversion overflowingText ≠ .ok profile := by
    intro conversion none profile same
    rw [same] at none
    cases none
  refine ⟨correct, ?_, fun profile read => ?_, eq_ok_of_toOption (by decide +kernel),
    refused Json.Conversion.scaled (by decide +kernel)⟩
  · exact ((@parse_iff_reading Json.Conversion.nearest fractionalText fractional).1 correct).mp
      accepted
  · exact refused Json.Conversion.nearest (by decide +kernel) profile
      (((@parse_iff_reading Json.Conversion.nearest overflowingText profile).1 correct).mpr read)

-- The parts may stand in any order, a mode may be the key of an object, and channels may be
-- an array.
example :
    (parse " \x7b\"channels\": [1, 2], \"tuning_mode\": \x7b\"direct\": null\x7d\x7d ").toOption =
      some { initial with mode := .direct, channels := ⟨1, 2⟩ } := by
  decide +kernel

end Profile

end DualPhy
