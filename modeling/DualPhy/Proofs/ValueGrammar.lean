import DualPhy.Proofs.LexemeGrammar

/-!
# The grammar of values

Which texts are arrays, objects, and values of any kind. A value that nobody asks for is
checked against this grammar and dropped, however deeply it is nested. A text is an array
or object in one way only.
-/

namespace DualPhy
namespace Json

/-! ## Arrays and objects -/

/-- What stands in front of an item or a member: white space, and a comma unless it is the
first one. -/
def Lead (first : Bool) (lead : List Char) : Prop :=
  match first with
  | true => Blank lead
  | false => ∃ before after, Blank before ∧ Blank after ∧ lead = before ++ ',' :: after

/-- The items of an array from somewhere on, up to its closing bracket. -/
inductive Items : (first : Bool) → List (List Char) → List Char → Prop
  /-- No further item. -/
  | nil
      {first : Bool}
      {space : List Char}
      (blank : Blank space) :
      Items first [] space
  /-- A further item. -/
  | cons
      {first : Bool}
      {lead item text : List Char}
      {items : List (List Char)}
      (leads : Lead first lead)
      (more : Items false items text) :
      Items first (item :: items) (lead ++ (item ++ text))

/-- The members of an object from somewhere on, up to its closing brace. The keys are given
as they are written. -/
inductive Members : (first : Bool) → List (List Char × List Char) → List Char → Prop
  /-- No further member. -/
  | nil
      {first : Bool}
      {space : List Char}
      (blank : Blank space) :
      Members first [] space
  /-- A further member. -/
  | cons
      {first : Bool}
      {lead key gap space value text : List Char}
      {members : List (List Char × List Char)}
      (leads : Lead first lead)
      (gapBlank : Blank gap)
      (blank : Blank space)
      (more : Members false members text) :
      Members first ((key, value) :: members)
        (lead ++ (inQuotes key ++ (gap ++ ':' :: (space ++ (value ++ text)))))

/-- The text of an array in its brackets. -/
def inBrackets (inner : List Char) : List Char := '[' :: (inner ++ [']'])

/-- The text of an object in its braces. -/
def inBraces (inner : List Char) : List Char := '\x7b' :: (inner ++ ['\x7d'])

/-- A key as it is written, whatever it says. -/
def IsKey (raw : List Char) : Prop := ∃ letters, Letters .skip raw letters

/-- The texts of values. -/
inductive IsValue : List Char → Prop
  /-- The word for nothing. -/
  | null : IsValue ['n', 'u', 'l', 'l']
  /-- The word for what is so. -/
  | yes : IsValue ['t', 'r', 'u', 'e']
  /-- The word for what is not so. -/
  | no : IsValue ['f', 'a', 'l', 's', 'e']
  /-- A number. -/
  | number
      {literal : Literal}
      {text : List Char}
      (spells : literal.Spells text) :
      IsValue text
  /-- A string. -/
  | string
      {raw : List Char}
      (key : IsKey raw) :
      IsValue (inQuotes raw)
  /-- An array. -/
  | array
      {items : List (List Char)}
      {inner : List Char}
      (written : Items true items inner)
      (values : ∀ item ∈ items, IsValue item) :
      IsValue (inBrackets inner)
  /-- An object. -/
  | object
      {members : List (List Char × List Char)}
      {inner : List Char}
      (written : Members true members inner)
      (keys : ∀ member ∈ members, IsKey member.1)
      (values : ∀ member ∈ members, IsValue member.2) :
      IsValue (inBraces inner)

/-- The text of an array of these items. -/
def IsArray (items : List (List Char)) (text : List Char) : Prop :=
  (∃ inner, Items true items inner ∧ text = inBrackets inner) ∧ ∀ item ∈ items, IsValue item

/-- The text of an object of these members. -/
def IsObject (members : List (List Char × List Char)) (text : List Char) : Prop :=
  (∃ inner, Members true members inner ∧ text = inBraces inner) ∧
    ∀ member ∈ members, IsKey member.1 ∧ IsValue member.2

theorem IsArray.isValue {items : List (List Char)} {text : List Char} (array : IsArray items text) :
    IsValue text := by
  obtain ⟨⟨inner, written, rfl⟩, values⟩ := array
  exact .array written values

theorem IsObject.isValue
    {members : List (List Char × List Char)}
    {text : List Char}
    (object : IsObject members text) :
    IsValue text := by
  obtain ⟨⟨inner, written, rfl⟩, parts⟩ := object
  exact .object written (fun member present => (parts member present).1)
    fun member present => (parts member present).2

theorem IsString.isValue {text : List Char} {value : String} (string : IsString text value) :
    IsValue text := by
  obtain ⟨raw, written, rfl⟩ := string
  exact .string written.skip

theorem IsUInt32.isValue {text : List Char} {value : UInt32} (number : IsUInt32 text value) :
    IsValue text := by
  obtain ⟨digits, spells, -⟩ := number
  exact .number spells

theorem IsOptionalReal.isValue
    {stands : Literal → Binary64 → Prop}
    {text : List Char}
    {value? : Option Binary64}
    (number? : IsOptionalReal stands text value?) :
    IsValue text := by
  rcases number? with ⟨rfl, -⟩ | ⟨value, -, literal, spells, -⟩
  · exact .null
  · exact .number spells

/-- A letter with which something starts that is neither white space nor the end of an
array. -/
def Opens (letter : Char) : Prop := isSpace letter = false ∧ letter ≠ ']'

theorem IsValue.opens {text : List Char} (value : IsValue text) :
    ∃ letter tail, text = letter :: tail ∧ Opens letter := by
  cases value with
  | null => exact ⟨_, _, rfl, rfl, by decide⟩
  | yes => exact ⟨_, _, rfl, rfl, by decide⟩
  | no => exact ⟨_, _, rfl, rfl, by decide⟩
  | string => exact ⟨_, _, rfl, rfl, by decide⟩
  | array => exact ⟨_, _, rfl, rfl, by decide⟩
  | object => exact ⟨_, _, rfl, rfl, by decide⟩
  | number spells =>
      obtain ⟨letter, tail, rfl, starts⟩ := spells.starts
      refine ⟨letter, tail, rfl, isSpace_of_startsNumber starts, ?_⟩
      rintro rfl
      exact absurd starts (by decide)

theorem Lead.append_blank
    {first : Bool}
    {lead space : List Char}
    (leads : Lead first lead)
    (blank : Blank space) :
    Lead first (lead ++ space) := by
  cases first with
  | true => exact List.forall_mem_append.mpr ⟨leads, blank⟩
  | false =>
      obtain ⟨before, after, blankBefore, blankAfter, rfl⟩ := leads
      exact ⟨before, after ++ space, blankBefore, List.forall_mem_append.mpr ⟨blankAfter, blank⟩,
        by simp⟩

/-! ## Separators -/

/-- What stands in front of the next item, if there is one. -/
theorem lead_of_nextItem
    {purpose : Purpose}
    {first more : Bool}
    {text rest : List Char}
    (read : nextItem purpose first text = .ok (more, rest)) :
    more = false ∧ (∃ space tail, Blank space ∧ text = space ++ ']' :: tail ∧ rest = ']' :: tail) ∨
      more = true ∧ ∃ lead, Lead first lead ∧ text = lead ++ rest := by
  unfold nextItem at read
  split at read
  case h_1 => cases read
  case h_2 tail skipped =>
    obtain ⟨space, blank, rfl⟩ := exists_blank_of_skipSpace skipped
    cases read
    exact .inl ⟨rfl, space, tail, blank, rfl, rfl⟩
  case h_3 =>
    cases read
    exact .inr ⟨rfl, exists_blank_skipSpace text⟩
  case h_4 tail skipped =>
    obtain ⟨before, blankBefore, rfl⟩ := exists_blank_of_skipSpace skipped
    obtain ⟨after, blankAfter, whole⟩ := exists_blank_skipSpace tail
    obtain ⟨text, comma, made⟩ := map_eq_ok_iff.mp read
    cases made
    have behind : skipSpace tail = rest := by
      unfold afterItemComma at comma
      split at comma <;> cases comma <;> rfl
    rw [behind] at whole
    exact .inr ⟨rfl, before ++ ',' :: after, ⟨before, after, blankBefore, blankAfter, rfl⟩,
      by simp [← whole]⟩
  case h_5 => cases read

theorem nextItem_end
    (purpose : Purpose)
    (first : Bool)
    {space : List Char}
    (blank : Blank space)
    (rest : List Char) :
    nextItem purpose first (space ++ ']' :: rest) = .ok (false, ']' :: rest) := by
  have bracket : skipSpace (space ++ ']' :: rest) = ']' :: rest := skipSpace_cons blank rfl rest
  unfold nextItem
  cases first <;> simp only [bracket]

theorem Lead.nextItem
    {first : Bool}
    {lead : List Char}
    (leads : Lead first lead)
    (purpose : Purpose)
    {letter : Char}
    (opens : Opens letter)
    (text : List Char) :
    nextItem purpose first (lead ++ letter :: text) = .ok (true, letter :: text) := by
  obtain ⟨visible, noBracket⟩ := opens
  cases first with
  | true =>
      have start : skipSpace (lead ++ letter :: text) = letter :: text :=
        skipSpace_cons leads visible text
      simp [Json.nextItem, start, noBracket]
  | false =>
      obtain ⟨before, after, blankBefore, blankAfter, rfl⟩ := leads
      have start : skipSpace (before ++ ',' :: (after ++ letter :: text)) =
          ',' :: (after ++ letter :: text) :=
        skipSpace_cons blankBefore rfl _
      have item : skipSpace (after ++ letter :: text) = letter :: text :=
        skipSpace_cons blankAfter visible text
      rw [List.append_assoc, List.cons_append]
      cases purpose <;> simp [Json.nextItem, start, afterItemComma, item, noBracket, Except.map]

/-- A value is the next item behind what stands in front of it. -/
theorem Lead.nextItem_value
    {first : Bool}
    {lead item : List Char}
    (leads : Lead first lead)
    (value : IsValue item)
    (purpose : Purpose)
    (rest : List Char) :
    Json.nextItem purpose first (lead ++ (item ++ rest)) = .ok (true, item ++ rest) := by
  obtain ⟨letter, tail, rfl, opens⟩ := value.opens
  exact leads.nextItem purpose opens (tail ++ rest)

theorem closeList_eq_ok_iff {text rest : List Char} :
    closeList text = .ok rest ↔ ∃ space, Blank space ∧ text = space ++ ']' :: rest := by
  constructor
  · intro read
    unfold closeList at read
    split at read
    case h_2 tail skipped =>
      cases read
      exact exists_blank_of_skipSpace skipped
    case h_3 => split at read <;> cases read
    all_goals cases read
  · rintro ⟨space, blank, rfl⟩
    have bracket : skipSpace (space ++ ']' :: rest) = ']' :: rest := skipSpace_cons blank rfl rest
    simp only [closeList, bracket]

/-- What stands in front of the next member, and its key, if there is one. -/
theorem lead_of_nextKey
    {purpose : Purpose}
    {first : Bool}
    {key? : Option String}
    {text rest : List Char}
    (read : nextKey purpose first text = .ok (key?, rest)) :
    key? = none ∧
        (∃ space tail, Blank space ∧ text = space ++ '\x7d' :: tail ∧ rest = '\x7d' :: tail) ∨
      ∃ key lead raw, key? = some key ∧ Lead first lead ∧ Letters purpose raw key.toList ∧
        text = lead ++ (inQuotes raw ++ rest) := by
  unfold nextKey at read
  split at read
  case h_1 => cases read
  case h_2 tail skipped =>
    obtain ⟨space, blank, rfl⟩ := exists_blank_of_skipSpace skipped
    cases read
    exact .inl ⟨rfl, space, tail, blank, rfl, rfl⟩
  case h_3 tail skipped =>
    obtain ⟨space, blank, rfl⟩ := exists_blank_of_skipSpace skipped
    obtain ⟨⟨key, after⟩, quoted, made⟩ := bind_eq_ok_iff.mp read
    cases made
    obtain ⟨raw, written, rfl⟩ := readString_eq_ok_iff.mp quoted
    exact .inr ⟨key, space, raw, rfl, blank, written, by simp [inQuotes]⟩
  case h_4 => cases read
  case h_5 tail skipped =>
    obtain ⟨before, blankBefore, rfl⟩ := exists_blank_of_skipSpace skipped
    split at read
    case h_1 behind skippedBehind =>
      obtain ⟨after, blankAfter, rfl⟩ := exists_blank_of_skipSpace skippedBehind
      obtain ⟨⟨key, behindKey⟩, quoted, made⟩ := bind_eq_ok_iff.mp read
      cases made
      obtain ⟨raw, written, rfl⟩ := readString_eq_ok_iff.mp quoted
      exact .inr ⟨key, before ++ ',' :: after, raw, rfl,
        ⟨before, after, blankBefore, blankAfter, rfl⟩, written, by simp [inQuotes]⟩
    case h_2 => cases read
  case h_6 => cases read

theorem Lead.nextKey
    {first : Bool}
    {lead : List Char}
    (leads : Lead first lead)
    {purpose : Purpose}
    {raw : List Char}
    {key : String}
    (written : Letters purpose raw key.toList)
    (rest : List Char) :
    nextKey purpose first (lead ++ (inQuotes raw ++ rest)) = .ok (some key, rest) := by
  have quoted : readString purpose (raw ++ '\x22' :: rest) = .ok (key, rest) :=
    readString_eq_ok_iff.mpr ⟨raw, written, rfl⟩
  have text : inQuotes raw ++ rest = '\x22' :: (raw ++ '\x22' :: rest) := by
    simp [inQuotes]
  rw [text]
  cases first with
  | true =>
      have start : skipSpace (lead ++ '\x22' :: (raw ++ '\x22' :: rest)) =
          '\x22' :: (raw ++ '\x22' :: rest) :=
        skipSpace_cons leads rfl _
      simp only [Json.nextKey, start, quoted, bind, Except.bind, pure, Except.pure]
  | false =>
      obtain ⟨before, after, blankBefore, blankAfter, rfl⟩ := leads
      have comma : skipSpace (before ++ ',' :: (after ++ '\x22' :: (raw ++ '\x22' :: rest))) =
          ',' :: (after ++ '\x22' :: (raw ++ '\x22' :: rest)) :=
        skipSpace_cons blankBefore rfl _
      have start : skipSpace (after ++ '\x22' :: (raw ++ '\x22' :: rest)) =
          '\x22' :: (raw ++ '\x22' :: rest) :=
        skipSpace_cons blankAfter rfl _
      rw [List.append_assoc, List.cons_append]
      simp only [Json.nextKey, comma, start, quoted, bind, Except.bind, pure, Except.pure]

theorem readColon_eq_ok_iff {text rest : List Char} :
    readColon text = .ok rest ↔ ∃ gap, Blank gap ∧ text = gap ++ ':' :: rest := by
  constructor
  · intro read
    unfold readColon at read
    split at read
    case h_2 tail skipped =>
      cases read
      exact exists_blank_of_skipSpace skipped
    all_goals cases read
  · rintro ⟨gap, blank, rfl⟩
    have colon : skipSpace (gap ++ ':' :: rest) = ':' :: rest := skipSpace_cons blank rfl rest
    simp only [readColon, colon]

theorem closeObject_eq_ok_iff {text rest : List Char} :
    closeObject text = .ok rest ↔ ∃ space, Blank space ∧ text = space ++ '\x7d' :: rest := by
  constructor
  · intro read
    unfold closeObject at read
    split at read
    case h_2 tail skipped =>
      cases read
      exact exists_blank_of_skipSpace skipped
    all_goals cases read
  · rintro ⟨space, blank, rfl⟩
    have brace : skipSpace (space ++ '\x7d' :: rest) = '\x7d' :: rest :=
      skipSpace_cons blank rfl rest
    simp only [closeObject, brace]

/-! ## Items and members -/

theorem endsNumber_of_isSpace
    {letter : Char}
    (space : isSpace letter = true)
    (text : List Char) :
    EndsNumber (letter :: text) := by
  rintro _ ⟨⟩
  simp only [isSpace, Bool.or_eq_true, beq_iff_eq] at space
  rcases space with ((rfl | rfl) | rfl) | rfl <;> decide

/-- No number goes on in white space or in what stands behind it. -/
theorem endsNumber_blank_append
    {space : List Char}
    (blank : Blank space)
    {text : List Char}
    (ends : EndsNumber text) :
    EndsNumber (space ++ text) := by
  cases space with
  | nil => exact ends
  | cons letter space => exact endsNumber_of_isSpace (blank letter List.mem_cons_self) _

theorem Lead.endsNumber
    {lead : List Char}
    (leads : Lead false lead)
    (text : List Char) :
    EndsNumber (lead ++ text) := by
  obtain ⟨before, after, blankBefore, -, rfl⟩ := leads
  rw [List.append_assoc]
  exact endsNumber_blank_append blankBefore (endsNumber_comma _)

theorem endsNumber_bracket (text : List Char) : EndsNumber (']' :: text) := by
  rintro _ ⟨⟩
  decide

theorem endsNumber_brace (text : List Char) : EndsNumber ('\x7d' :: text) := by
  rintro _ ⟨⟩
  decide

theorem Items.endsNumber
    {items : List (List Char)}
    {text : List Char}
    (written : Items false items text)
    (rest : List Char) :
    EndsNumber (text ++ ']' :: rest) := by
  cases written with
  | nil blank => exact endsNumber_blank_append blank (endsNumber_bracket rest)
  | cons leads =>
      rw [List.append_assoc]
      exact leads.endsNumber _

theorem Members.endsNumber
    {members : List (List Char × List Char)}
    {text : List Char}
    (written : Members false members text)
    (rest : List Char) :
    EndsNumber (text ++ '\x7d' :: rest) := by
  cases written with
  | nil blank => exact endsNumber_blank_append blank (endsNumber_brace rest)
  | cons leads =>
      rw [List.append_assoc]
      exact leads.endsNumber _

/-- The items of an array are parts of its text. -/
theorem Items.length_le
    {first : Bool}
    {items : List (List Char)}
    {text : List Char}
    (written : Items first items text) :
    items.length ≤ text.length + (if first then 1 else 0) ∧
      ∀ item ∈ items, item.length ≤ text.length := by
  induction written with
  | nil => simp
  | @cons first lead item text items leads more inductionHypothesis =>
      obtain ⟨count, parts⟩ := inductionHypothesis
      have comma : (if first then 0 else 1) ≤ lead.length := by
        cases first with
        | true => exact Nat.zero_le _
        | false =>
            obtain ⟨before, after, -, -, rfl⟩ := leads
            simp
            omega
      simp only [List.length_append, List.length_cons, List.forall_mem_cons]
      refine ⟨?_, by omega, ?_⟩
      · cases first <;> simp at comma count ⊢ <;> omega
      · intro other member
        have bound := parts other member
        omega

/-- The members of an object are parts of its text. -/
theorem Members.length_le
    {first : Bool}
    {members : List (List Char × List Char)}
    {text : List Char}
    (written : Members first members text) :
    members.length ≤ text.length ∧ ∀ member ∈ members, member.2.length ≤ text.length := by
  induction written with
  | nil => simp
  | cons leads gapBlank blank more inductionHypothesis =>
      obtain ⟨count, parts⟩ := inductionHypothesis
      simp only [List.length_append, List.length_cons, List.forall_mem_cons, inQuotes]
      refine ⟨by omega, by omega, ?_⟩
      intro other member
      have bound := parts other member
      omega

/-- A reader accepts only texts with a property. -/
def Finds (reader : Reader α) (property : List Char → Prop) : Prop :=
  ∀ {text value rest}, reader text = .ok (value, rest) →
    ∃ space body, Blank space ∧ property body ∧ text = space ++ (body ++ rest)

/-- What is read as the items of an array is an array of what the reader of the items
finds. -/
theorem items_of_readItems
    {item : Reader α}
    {property : List Char → Prop}
    (finds : Finds item property)
    {purpose : Purpose}
    {fuel : Nat}
    {first : Bool}
    {text rest : List Char}
    {values : List α}
    (read : readItems purpose item fuel first text = .ok (values, rest)) :
    ∃ items inner, Items first items inner ∧ (∀ part ∈ items, property part) ∧
      text = inner ++ ']' :: rest := by
  induction fuel generalizing first text values with
  | zero => cases read
  | succ fuel inductionHypothesis =>
      obtain ⟨⟨more, after⟩, separated, further⟩ := bind_eq_ok_iff.mp read
      dsimp only at further
      rcases lead_of_nextItem separated with
        ⟨rfl, space, tail, blank, rfl, rfl⟩ | ⟨rfl, lead, leads, rfl⟩
      · obtain ⟨behind, closed, made⟩ := bind_eq_ok_iff.mp further
        cases made
        obtain ⟨gap, gapBlank, split⟩ := closeList_eq_ok_iff.mp closed
        rw [split]
        exact ⟨[], space ++ gap, .nil (List.forall_mem_append.mpr ⟨blank, gapBlank⟩),
          List.forall_mem_nil _, by simp⟩
      · obtain ⟨⟨value, behind⟩, itemRead, later⟩ := bind_eq_ok_iff.mp further
        obtain ⟨⟨values, last⟩, others, made⟩ := bind_eq_ok_iff.mp later
        cases made
        obtain ⟨space, body, blank, holds, rfl⟩ := finds itemRead
        obtain ⟨items, inner, written, all, rfl⟩ := inductionHypothesis others
        exact ⟨body :: items, (lead ++ space) ++ (body ++ inner),
          .cons (leads.append_blank blank) written, List.forall_mem_cons.mpr ⟨holds, all⟩,
          by simp⟩

/-- What is read as the members of an object is an object of what the reader of the values
finds. -/
theorem members_of_readMembers
    {reader : Reader α}
    {property : List Char → Prop}
    (finds : Finds reader property)
    {fuel : Nat}
    {first : Bool}
    {text rest : List Char}
    {values : List (String × α)}
    (read : readMembers .skip reader fuel first text = .ok (values, rest)) :
    ∃ members inner, Members first members inner ∧
      (∀ member ∈ members, IsKey member.1 ∧ property member.2) ∧
      text = inner ++ '\x7d' :: rest := by
  induction fuel generalizing first text values with
  | zero => cases read
  | succ fuel inductionHypothesis =>
      obtain ⟨⟨key?, after⟩, separated, further⟩ := bind_eq_ok_iff.mp read
      rcases lead_of_nextKey separated with
        ⟨rfl, space, tail, blank, rfl, rfl⟩ | ⟨key, lead, raw, rfl, leads, written, rfl⟩
      · obtain ⟨behind, closed, made⟩ := bind_eq_ok_iff.mp further
        cases made
        obtain ⟨gap, gapBlank, split⟩ := closeObject_eq_ok_iff.mp closed
        rw [split]
        exact ⟨[], space ++ gap, .nil (List.forall_mem_append.mpr ⟨blank, gapBlank⟩),
          List.forall_mem_nil _, by simp⟩
      · obtain ⟨behindColon, colon, value⟩ := bind_eq_ok_iff.mp further
        obtain ⟨⟨content, behind⟩, valueRead, later⟩ := bind_eq_ok_iff.mp value
        obtain ⟨⟨values, last⟩, others, made⟩ := bind_eq_ok_iff.mp later
        cases made
        obtain ⟨gap, gapBlank, rfl⟩ := readColon_eq_ok_iff.mp colon
        obtain ⟨space, body, blank, holds, rfl⟩ := finds valueRead
        obtain ⟨members, inner, writtenLater, all, rfl⟩ := inductionHypothesis others
        exact ⟨(raw, body) :: members, _, .cons leads gapBlank blank writtenLater,
          List.forall_mem_cons.mpr ⟨⟨⟨_, written⟩, holds⟩, all⟩, by simp⟩

/-- The items of an array are read as what the reader gives for each of them. -/
theorem Items.readItems_eq
    {item : Reader α}
    {first : Bool}
    {items : List (List Char)}
    {inner : List Char}
    {contents : List α}
    (written : Items first items inner)
    (opens : ∀ part ∈ items, ∃ letter tail, part = letter :: tail ∧ Opens letter)
    (reads : List.Forall₂ (Reads item) items contents)
    (purpose : Purpose)
    {fuel : Nat}
    (enough : items.length < fuel)
    (rest : List Char) :
    readItems purpose item fuel first (inner ++ ']' :: rest) = .ok (contents, rest) := by
  induction written generalizing fuel contents with
  | @nil first space blank =>
      cases reads
      obtain ⟨fuel, rfl⟩ := Nat.exists_eq_add_one_of_ne_zero (Nat.ne_of_gt enough)
      have ending := nextItem_end purpose first blank rest
      have closed : closeList (']' :: rest) = .ok rest :=
        closeList_eq_ok_iff.mpr ⟨[], List.forall_mem_nil _, rfl⟩
      simp [Json.readItems, ending, closed, bind, Except.bind, pure, Except.pure]
  | @cons first lead part text items leads more inductionHypothesis =>
      obtain ⟨fuel, rfl⟩ :=
        Nat.exists_eq_add_one_of_ne_zero (Nat.ne_of_gt (Nat.zero_lt_of_lt enough))
      obtain ⟨⟨letter, tail, start, opensHere⟩, opensLater⟩ := List.forall_mem_cons.mp opens
      cases reads with
      | cons here others =>
          have later := inductionHypothesis opensLater others (Nat.lt_of_succ_lt_succ enough)
          have partRead := here [] _ (List.forall_mem_nil _) (more.endsNumber rest)
          have separated := leads.nextItem purpose opensHere (tail ++ (text ++ ']' :: rest))
          rw [← List.cons_append, ← start] at separated
          rw [List.nil_append] at partRead
          simp [Json.readItems, separated, partRead, later, bind, Except.bind, pure, Except.pure]

/-- The members of an object are read as their keys with what the reader gives for their
values. -/
theorem Members.readMembers_eq
    {reader : Reader α}
    {purpose : Purpose}
    {first : Bool}
    {members : List (List Char × List Char)}
    {inner : List Char}
    {contents : List (String × α)}
    (written : Members first members inner)
    (reads : List.Forall₂ (fun member content => Letters purpose member.1 content.1.toList ∧
      Reads reader member.2 content.2) members contents)
    {fuel : Nat}
    (enough : members.length < fuel)
    (rest : List Char) :
    readMembers purpose reader fuel first (inner ++ '\x7d' :: rest) = .ok (contents, rest) := by
  induction written generalizing fuel contents with
  | @nil first space blank =>
      cases reads
      obtain ⟨fuel, rfl⟩ := Nat.exists_eq_add_one_of_ne_zero (Nat.ne_of_gt enough)
      have ending := nextKey_end purpose first blank rest
      have closed : closeObject ('\x7d' :: rest) = .ok rest :=
        closeObject_eq_ok_iff.mpr ⟨[], List.forall_mem_nil _, rfl⟩
      simp [Json.readMembers, ending, closed, bind, Except.bind, pure, Except.pure]
  | @cons first lead raw gap space part text members leads gapBlank blank more
      inductionHypothesis =>
      obtain ⟨fuel, rfl⟩ :=
        Nat.exists_eq_add_one_of_ne_zero (Nat.ne_of_gt (Nat.zero_lt_of_lt enough))
      cases reads with
      | cons here others =>
          obtain ⟨named, valueReads⟩ := here
          have later := inductionHypothesis others (Nat.lt_of_succ_lt_succ enough)
          have separated := leads.nextKey named
            (gap ++ ':' :: (space ++ (part ++ (text ++ '\x7d' :: rest))))
          have colon : readColon (gap ++ ':' :: (space ++ (part ++ (text ++ '\x7d' :: rest)))) =
              .ok (space ++ (part ++ (text ++ '\x7d' :: rest))) :=
            readColon_eq_ok_iff.mpr ⟨gap, gapBlank, rfl⟩
          have partRead := valueReads space _ blank (more.endsNumber rest)
          simp [Json.readMembers, separated, colon, partRead, later, bind, Except.bind, pure,
            Except.pure]

/-! ## Values that are skipped -/

/-- What is skipped is a value. -/
theorem finds_skipNested (depth : Nat) : Finds (skipNested depth) IsValue := by
  induction depth with
  | zero => exact nofun
  | succ depth inductionHypothesis =>
      intro text value rest read
      unfold skipNested at read
      split at read
      case h_1 => cases read
      case h_2 tail skipped =>
        obtain ⟨space, blank, rfl⟩ := exists_blank_of_skipSpace skipped
        obtain ⟨-, rfl⟩ := map_readWord_eq_ok_iff.mp read
        exact ⟨space, _, blank, .null, rfl⟩
      case h_3 tail skipped =>
        obtain ⟨space, blank, rfl⟩ := exists_blank_of_skipSpace skipped
        obtain ⟨-, rfl⟩ := map_readWord_eq_ok_iff.mp read
        exact ⟨space, _, blank, .yes, rfl⟩
      case h_4 tail skipped =>
        obtain ⟨space, blank, rfl⟩ := exists_blank_of_skipSpace skipped
        obtain ⟨-, rfl⟩ := map_readWord_eq_ok_iff.mp read
        exact ⟨space, _, blank, .no, rfl⟩
      case h_5 tail skipped =>
        obtain ⟨space, blank, rfl⟩ := exists_blank_of_skipSpace skipped
        obtain ⟨⟨content, after⟩, quoted, made⟩ := bind_eq_ok_iff.mp read
        cases made
        obtain ⟨raw, written, rfl⟩ := readString_eq_ok_iff.mp quoted
        exact ⟨space, inQuotes raw, blank, .string ⟨_, written⟩, by simp [inQuotes]⟩
      case h_6 tail skipped =>
        obtain ⟨space, blank, rfl⟩ := exists_blank_of_skipSpace skipped
        obtain ⟨⟨contents, after⟩, itemsRead, made⟩ := bind_eq_ok_iff.mp read
        cases made
        obtain ⟨items, inner, written, values, rfl⟩ :=
          items_of_readItems inductionHypothesis itemsRead
        exact ⟨space, inBrackets inner, blank, .array written values, by simp [inBrackets]⟩
      case h_7 tail skipped =>
        obtain ⟨space, blank, rfl⟩ := exists_blank_of_skipSpace skipped
        obtain ⟨⟨contents, after⟩, membersRead, made⟩ := bind_eq_ok_iff.mp read
        cases made
        obtain ⟨members, inner, written, parts, rfl⟩ :=
          members_of_readMembers inductionHypothesis membersRead
        exact ⟨space, inBraces inner, blank,
          .object written (fun member present => (parts member present).1)
            (fun member present => (parts member present).2), by simp [inBraces]⟩
      case h_8 letter tail _ _ _ _ _ _ skipped =>
        obtain ⟨space, blank, rfl⟩ := exists_blank_of_skipSpace skipped
        split at read
        case isFalse => cases read
        case isTrue =>
          obtain ⟨⟨literal, after⟩, literalRead, made⟩ := bind_eq_ok_iff.mp read
          cases made
          obtain ⟨body, spells, split⟩ := spells_of_readLiteral literalRead
          rw [split]
          exact ⟨space, body, blank, .number spells, rfl⟩

theorem Literal.Spells.reads_skipNested
    {literal : Literal}
    {text : List Char}
    (spells : literal.Spells text)
    (depth : Nat) :
    Reads (skipNested (depth + 1)) text () := by
  intro space rest blank ends
  have read := spells.readLiteral .skip ends
  obtain ⟨letter, tail, rfl, starts⟩ := spells.starts
  rw [List.cons_append] at read
  have number : ∀ special : Char, ¬ (special = '-' ∨ special.isDigit = true) →
      letter ≠ special := by
    rintro special other rfl
    exact other starts
  rw [List.cons_append, skipNested, skipSpace_cons blank (isSpace_of_startsNumber starts)]
  simp [number 'n' (by decide), number 't' (by decide), number 'f' (by decide),
    number '\x22' (by decide), number '[' (by decide), number '\x7b' (by decide), starts, read,
    bind, Except.bind, pure, Except.pure]

theorem IsKey.reads_skipNested {raw : List Char} (key : IsKey raw) (depth : Nat) :
    Reads (skipNested (depth + 1)) (inQuotes raw) () := by
  intro space rest blank ends
  obtain ⟨letters, written⟩ := key
  have read : readString .skip (raw ++ '\x22' :: rest) = .ok (String.ofList letters, rest) :=
    readString_eq_ok_iff.mpr ⟨raw, by rwa [String.toList_ofList], rfl⟩
  rw [inQuotes, List.cons_append, List.append_assoc, skipNested, skipSpace_cons blank rfl]
  simp [read, bind, Except.bind, pure, Except.pure]

/-- What every item has a partner for, a list has a list of partners for. -/
theorem exists_forall₂
    {items : List α}
    {relation : α → β → Prop}
    (each : ∀ item ∈ items, ∃ partner, relation item partner) :
    ∃ partners, List.Forall₂ relation items partners := by
  induction items with
  | nil => exact ⟨[], .nil⟩
  | cons item items inductionHypothesis =>
      obtain ⟨⟨partner, related⟩, others⟩ := List.forall_mem_cons.mp each
      obtain ⟨partners, relatedOthers⟩ := inductionHypothesis others
      exact ⟨partner :: partners, .cons related relatedOthers⟩

/-- An array is skipped one level above its items. -/
theorem Items.reads_skipNested
    {items : List (List Char)}
    {inner : List Char}
    (written : Items true items inner)
    (values : ∀ item ∈ items, IsValue item)
    {depth : Nat}
    (reads : ∀ item ∈ items, Reads (skipNested depth) item ()) :
    Reads (skipNested (depth + 1)) (inBrackets inner) () := by
  intro space rest blank ends
  have count := written.length_le.1
  have fuel : items.length < (inner ++ ']' :: rest).length + 1 := by
    simp only [List.length_cons, List.length_append, if_true] at count ⊢
    omega
  obtain ⟨contents, each⟩ := exists_forall₂ fun item member => ⟨(), reads item member⟩
  have read := written.readItems_eq (fun item member => (values item member).opens) each .skip
    fuel rest
  rw [inBrackets, List.cons_append, List.append_assoc, List.singleton_append, skipNested,
    skipSpace_cons blank rfl]
  simp only [read, bind, Except.bind, pure, Except.pure]

/-- An object is skipped one level above its values. -/
theorem Members.reads_skipNested
    {members : List (List Char × List Char)}
    {inner : List Char}
    (written : Members true members inner)
    (keys : ∀ member ∈ members, IsKey member.1)
    {depth : Nat}
    (reads : ∀ member ∈ members, Reads (skipNested depth) member.2 ()) :
    Reads (skipNested (depth + 1)) (inBraces inner) () := by
  intro space rest blank ends
  have count := written.length_le.1
  have fuel : members.length < (inner ++ '\x7d' :: rest).length + 1 := by
    simp only [List.length_cons, List.length_append]
    omega
  obtain ⟨contents, each⟩ : ∃ contents : List (String × Unit), List.Forall₂
      (fun member content => Letters .skip member.1 content.1.toList ∧
        Reads (skipNested depth) member.2 content.2) members contents := by
    refine exists_forall₂ fun member present => ?_
    obtain ⟨letters, named⟩ := keys member present
    exact ⟨(String.ofList letters, ()), by rwa [String.toList_ofList], reads member present⟩
  have read := written.readMembers_eq each fuel rest
  rw [inBraces, List.cons_append, List.append_assoc, List.singleton_append, skipNested,
    skipSpace_cons blank rfl]
  simp only [read, bind, Except.bind, pure, Except.pure]

/-- Every value is skipped, if the depth is no less than its length. -/
theorem IsValue.reads_skipNested
    {text : List Char}
    (value : IsValue text)
    {depth : Nat}
    (enough : text.length ≤ depth + 1) :
    Reads (skipNested (depth + 1)) text () := by
  induction value generalizing depth with
  | null =>
      intro space rest blank ends
      rw [List.cons_append, skipNested, skipSpace_cons blank rfl]
      exact map_readWord_eq_ok_iff.mpr ⟨rfl, rfl⟩
  | yes =>
      intro space rest blank ends
      rw [List.cons_append, skipNested, skipSpace_cons blank rfl]
      exact map_readWord_eq_ok_iff.mpr ⟨rfl, rfl⟩
  | no =>
      intro space rest blank ends
      rw [List.cons_append, skipNested, skipSpace_cons blank rfl]
      exact map_readWord_eq_ok_iff.mpr ⟨rfl, rfl⟩
  | number spells => exact spells.reads_skipNested depth
  | string key => exact key.reads_skipNested depth
  | @array items inner written values inductionHypothesis =>
      simp only [inBrackets, List.length_cons, List.length_append, List.length_nil] at enough
      obtain ⟨depth, rfl⟩ := Nat.exists_eq_add_one_of_ne_zero (show depth ≠ 0 by omega)
      refine written.reads_skipNested values fun item member => inductionHypothesis item member ?_
      have bound := written.length_le.2 item member
      omega
  | @object members inner written keys values inductionHypothesis =>
      simp only [inBraces, List.length_cons, List.length_append, List.length_nil] at enough
      obtain ⟨depth, rfl⟩ := Nat.exists_eq_add_one_of_ne_zero (show depth ≠ 0 by omega)
      refine written.reads_skipNested keys fun member present =>
        inductionHypothesis member present ?_
      have bound := written.length_le.2 member present
      omega

/-- A reader accepts exactly the values and drops them. -/
theorem follows_skipValue : Follows skipValue fun text _ => IsValue text where
  sound := finds_skipNested _
  complete := by
    intro body _ value space rest blank ends
    exact value.reads_skipNested (by simp; omega) space rest blank ends

/-! ## A text has a form in one way only -/

/-- Of what a reader follows there is at most one at the front of a text. -/
theorem Follows.unique
    {reader : Reader α}
    {form : List Char → α → Prop}
    (follows : Follows reader form)
    {body other rest behind : List Char}
    {value content : α}
    (has : form body value)
    (alsoHas : form other content)
    (ends : EndsNumber rest)
    (alsoEnds : EndsNumber behind)
    (same : body ++ rest = other ++ behind) :
    body = other ∧ rest = behind ∧ value = content := by
  have read := follows.complete has [] rest (List.forall_mem_nil _) ends
  have again := follows.complete alsoHas [] behind (List.forall_mem_nil _) alsoEnds
  rw [List.nil_append, same] at read
  rw [List.nil_append, read] at again
  cases again
  exact ⟨List.append_cancel_right same, rfl, rfl⟩

/-- At most one value stands at the front of a text. -/
theorem IsValue.unique
    {body other rest behind : List Char}
    (value : IsValue body)
    (alsoValue : IsValue other)
    (ends : EndsNumber rest)
    (alsoEnds : EndsNumber behind)
    (same : body ++ rest = other ++ behind) :
    body = other ∧ rest = behind := by
  have both : body = other ∧ rest = behind ∧ () = () :=
    follows_skipValue.unique value alsoValue ends alsoEnds same
  exact ⟨both.1, both.2.1⟩

theorem IsKey.unique
    {raw other rest behind : List Char}
    (key : IsKey raw)
    (alsoKey : IsKey other)
    (same : inQuotes raw ++ rest = inQuotes other ++ behind) :
    raw = other ∧ rest = behind := by
  obtain ⟨letters, written⟩ := key
  obtain ⟨others, alsoWritten⟩ := alsoKey
  have texts : raw ++ '\x22' :: rest = other ++ '\x22' :: behind := by
    simpa [inQuotes] using same
  have enough := Nat.lt_succ_of_le (Nat.le_max_left raw.length other.length)
  have alsoEnough := Nat.lt_succ_of_le (Nat.le_max_right raw.length other.length)
  have read := written.readCharacters enough rest
  have again := alsoWritten.readCharacters alsoEnough behind
  rw [texts, again] at read
  cases read
  exact ⟨List.append_cancel_right texts, rfl⟩

/-- A text starts with something other than white space. -/
def Dark (text : List Char) : Prop := ∀ letter ∈ text.head?, isSpace letter = false

theorem IsValue.dark {body : List Char} (value : IsValue body) (rest : List Char) :
    Dark (body ++ rest) := by
  obtain ⟨letter, tail, rfl, opens⟩ := value.opens
  rintro _ ⟨⟩
  exact opens.1

theorem dark_cons {letter : Char} (visible : isSpace letter = false) (text : List Char) :
    Dark (letter :: text) := by
  rintro _ ⟨⟩
  exact visible

/-- White space in front of the same text can be taken off. -/
theorem Blank.unique
    {space gap text other : List Char}
    (blank : Blank space)
    (gapBlank : Blank gap)
    (dark : Dark text)
    (alsoDark : Dark other)
    (same : space ++ text = gap ++ other) :
    text = other := by
  rw [← skipSpace_append blank dark, same, skipSpace_append gapBlank alsoDark]

theorem Lead.unique
    {first : Bool}
    {lead front text other : List Char}
    (leads : Lead first lead)
    (alsoLeads : Lead first front)
    (dark : Dark text)
    (alsoDark : Dark other)
    (same : lead ++ text = front ++ other) :
    text = other := by
  cases first with
  | true => exact Blank.unique leads alsoLeads dark alsoDark same
  | false =>
      obtain ⟨before, after, blankBefore, blankAfter, rfl⟩ := leads
      obtain ⟨left, right, blankLeft, blankRight, rfl⟩ := alsoLeads
      rw [List.append_assoc, List.append_assoc] at same
      have commas := Blank.unique blankBefore blankLeft (dark_cons rfl _) (dark_cons rfl _) same
      exact Blank.unique blankAfter blankRight dark alsoDark (List.cons.inj commas).2

theorem Items.unique
    {first : Bool}
    {items others : List (List Char)}
    {text other rest behind : List Char}
    (written : Items first items text)
    (alsoWritten : Items first others other)
    (values : ∀ item ∈ items, IsValue item)
    (otherValues : ∀ item ∈ others, IsValue item)
    (same : text ++ ']' :: rest = other ++ ']' :: behind) :
    items = others := by
  induction written generalizing others other with
  | @nil first space blank =>
      cases alsoWritten with
      | nil => rfl
      | @cons _ lead item text items leads more =>
          have ending := nextItem_end .skip first blank rest
          rw [same, List.append_assoc, List.append_assoc,
            leads.nextItem_value (otherValues item List.mem_cons_self)] at ending
          cases ending
  | @cons first lead item text items leads more inductionHypothesis =>
      obtain ⟨value, laterValues⟩ := List.forall_mem_cons.mp values
      rw [List.append_assoc, List.append_assoc] at same
      have separated := leads.nextItem_value value .skip (text ++ ']' :: rest)
      cases alsoWritten with
      | @nil _ space blank =>
          rw [same, nextItem_end .skip first blank behind] at separated
          cases separated
      | @cons _ front part other others alsoLeads alsoMore =>
          obtain ⟨otherValue, laterOthers⟩ := List.forall_mem_cons.mp otherValues
          rw [same, List.append_assoc, List.append_assoc,
            alsoLeads.nextItem_value otherValue] at separated
          obtain ⟨-, heads⟩ := Prod.mk.inj (Except.ok.inj separated)
          obtain ⟨rfl, tails⟩ := otherValue.unique value (alsoMore.endsNumber behind)
            (more.endsNumber rest) heads
          rw [inductionHypothesis alsoMore laterValues laterOthers tails.symm]

theorem Members.unique
    {first : Bool}
    {members others : List (List Char × List Char)}
    {text other rest behind : List Char}
    (written : Members first members text)
    (alsoWritten : Members first others other)
    (parts : ∀ member ∈ members, IsKey member.1 ∧ IsValue member.2)
    (otherParts : ∀ member ∈ others, IsKey member.1 ∧ IsValue member.2)
    (same : text ++ '\x7d' :: rest = other ++ '\x7d' :: behind) :
    members = others := by
  have opened : ∀ {first : Bool} {lead raw : List Char}, Lead first lead → IsKey raw →
      ∀ rest, ∃ key, nextKey .skip first (lead ++ (inQuotes raw ++ rest)) = .ok (some key, rest) := by
    rintro first lead raw leads ⟨letters, written⟩ rest
    exact ⟨String.ofList letters, leads.nextKey (by rwa [String.toList_ofList]) rest⟩
  induction written generalizing others other with
  | @nil first space blank =>
      cases alsoWritten with
      | nil => rfl
      | cons leads gapBlank blankBehind more =>
          have ending := nextKey_end .skip first blank rest
          obtain ⟨key, found⟩ := opened leads (otherParts _ List.mem_cons_self).1 _
          rw [same, List.append_assoc, List.append_assoc, found] at ending
          cases ending
  | @cons first lead raw gap space value text members leads gapBlank blank more
      inductionHypothesis =>
      obtain ⟨⟨key, isValue⟩, laterParts⟩ := List.forall_mem_cons.mp parts
      cases alsoWritten with
      | nil alsoBlank =>
          obtain ⟨name, found⟩ := opened leads key
            (gap ++ ':' :: (space ++ (value ++ (text ++ '\x7d' :: rest))))
          have texts : lead ++ (inQuotes raw ++
              (gap ++ ':' :: (space ++ (value ++ (text ++ '\x7d' :: rest))))) =
                other ++ '\x7d' :: behind := by
            simpa using same
          rw [texts, nextKey_end .skip first alsoBlank behind] at found
          cases found
      | @cons _ front word hole distance content other others alsoLeads holeBlank distanceBlank
          alsoMore =>
          obtain ⟨⟨otherKey, otherValue⟩, laterOthers⟩ := List.forall_mem_cons.mp otherParts
          have texts : lead ++ (inQuotes raw ++
              (gap ++ ':' :: (space ++ (value ++ (text ++ '\x7d' :: rest))))) =
                front ++ (inQuotes word ++
                  (hole ++ ':' :: (distance ++ (content ++ (other ++ '\x7d' :: behind))))) := by
            simpa using same
          have keys := Lead.unique leads alsoLeads (dark_cons rfl _) (dark_cons rfl _) texts
          obtain ⟨rfl, colons⟩ := key.unique otherKey keys
          have values := Blank.unique gapBlank holeBlank (dark_cons rfl _) (dark_cons rfl _) colons
          have heads := Blank.unique blank distanceBlank (isValue.dark _) (otherValue.dark _)
            (List.cons.inj values).2
          obtain ⟨rfl, tails⟩ := isValue.unique otherValue (more.endsNumber rest)
            (alsoMore.endsNumber behind) heads
          rw [inductionHypothesis alsoMore laterParts laterOthers tails]

theorem IsArray.unique
    {items others : List (List Char)}
    {text : List Char}
    (array : IsArray items text)
    (alsoArray : IsArray others text) :
    items = others := by
  obtain ⟨⟨inner, written, rfl⟩, values⟩ := array
  obtain ⟨⟨other, alsoWritten, same⟩, otherValues⟩ := alsoArray
  exact written.unique alsoWritten values otherValues (List.cons.inj same).2

theorem IsObject.unique
    {members others : List (List Char × List Char)}
    {text : List Char}
    (object : IsObject members text)
    (alsoObject : IsObject others text) :
    members = others := by
  obtain ⟨⟨inner, written, rfl⟩, parts⟩ := object
  obtain ⟨⟨other, alsoWritten, same⟩, otherParts⟩ := alsoObject
  exact written.unique alsoWritten parts otherParts (List.cons.inj same).2

theorem IsArray.not_isObject
    {items : List (List Char)}
    {members : List (List Char × List Char)}
    {text : List Char}
    (array : IsArray items text) :
    ¬ IsObject members text := by
  obtain ⟨⟨inner, -, rfl⟩, -⟩ := array
  rintro ⟨⟨other, -, same⟩, -⟩
  cases same

/-! ## Whole documents -/

/-- A document holds a text, with white space around it. -/
def Document (document : String) (body : List Char) : Prop :=
  ∃ before after, Blank before ∧ Blank after ∧ document.toList = before ++ (body ++ after)

theorem endsNumber_blank {space : List Char} (blank : Blank space) : EndsNumber space := by
  have ends := endsNumber_blank_append blank endsNumber_nil
  rwa [List.append_nil] at ends

/-- A document holds at most one value. -/
theorem Document.unique
    {document : String}
    {body other : List Char}
    (holds : Document document body)
    (alsoHolds : Document document other)
    (value : IsValue body)
    (alsoValue : IsValue other) :
    body = other := by
  obtain ⟨before, after, blankBefore, blankAfter, split⟩ := holds
  obtain ⟨front, back, blankFront, blankBack, alsoSplit⟩ := alsoHolds
  have same := Blank.unique blankBefore blankFront (value.dark after) (alsoValue.dark back)
    (split.symm.trans alsoSplit)
  exact (value.unique alsoValue (endsNumber_blank blankAfter) (endsNumber_blank blankBack) same).1

/-- A document is accepted exactly if it holds a text of the form. -/
theorem Follows.readDocument_eq_ok_iff
    {reader : Reader α}
    {form : List Char → α → Prop}
    (follows : Follows reader form)
    {document : String}
    {value : α} :
    readDocument reader document = .ok value ↔
      ∃ body, Document document body ∧ form body value := by
  constructor
  · intro accepted
    obtain ⟨⟨found, rest⟩, read, ending⟩ := bind_eq_ok_iff.mp accepted
    dsimp only at ending
    split at ending
    case h_1 nothing =>
      cases ending
      obtain ⟨space, body, blank, has, split⟩ := follows.sound read
      obtain ⟨after, blankAfter, whole⟩ := exists_blank_of_skipSpace nothing
      rw [List.append_nil] at whole
      exact ⟨body, ⟨space, rest, blank, whole ▸ blankAfter, split⟩, has⟩
    case h_2 => cases ending
  · rintro ⟨body, ⟨before, after, blankBefore, blankAfter, split⟩, has⟩
    have read := follows.complete has before after blankBefore (endsNumber_blank blankAfter)
    have nothing : skipSpace (after ++ []) = [] := skipSpace_append blankAfter nofun
    rw [List.append_nil] at nothing
    simp only [readDocument, split, read, nothing, bind, Except.bind]

end Json
end DualPhy
