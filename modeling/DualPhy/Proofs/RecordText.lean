import DualPhy.Json.Record
import DualPhy.Proofs.NumberText
import DualPhy.Proofs.StringText

/-!
# Records in documents

What it means that a reader gives a value for a text, and that the reader of a record
gives the record for the indented text of its members. A member needs no more than an
entry of the schema that reads its value.
-/

namespace DualPhy
namespace Json

/-- A reader gives a value for a text, whatever white space stands in front of it, and
goes on behind it. -/
def Reads (reader : Reader α) (text : List Char) (value : α) : Prop :=
  ∀ space rest, (∀ letter ∈ space, isSpace letter = true) → EndsNumber rest →
    reader (space ++ (text ++ rest)) = .ok (value, rest)

/-! ## White space -/

theorem skipSpace_append
    {space text : List Char}
    (blank : ∀ letter ∈ space, isSpace letter = true)
    (start : ∀ letter ∈ text.head?, isSpace letter = false) :
    skipSpace (space ++ text) = text := by
  unfold skipSpace
  rw [List.dropWhile_append_of_pos blank]
  cases text with
  | nil => rfl
  | cons letter text => exact List.dropWhile_cons_of_neg (by simp [start letter rfl])

theorem skipSpace_cons
    {space : List Char}
    {letter : Char}
    (blank : ∀ letter ∈ space, isSpace letter = true)
    (start : isSpace letter = false)
    (text : List Char) :
    skipSpace (space ++ letter :: text) = letter :: text := by
  apply skipSpace_append blank
  intro first head
  cases head
  exact start

theorem isSpace_of_mem_newLine
    {level : Nat}
    {letter : Char}
    (member : letter ∈ newLine level) :
    isSpace letter = true := by
  rcases List.mem_cons.mp member with rfl | indent
  · rfl
  · rw [List.eq_of_mem_replicate indent]
    rfl

theorem endsNumber_newLine (level : Nat) (text : List Char) :
    EndsNumber (newLine level ++ text) := by
  intro letter head
  cases head
  decide

theorem endsNumber_comma (text : List Char) : EndsNumber (',' :: text) := by
  intro letter head
  cases head
  decide

theorem endsNumber_nil : EndsNumber [] := by
  intro letter head
  cases head

/-- At the end of an object there is no further key. -/
theorem nextKey_end
    (purpose : Purpose)
    (first : Bool)
    {space : List Char}
    (blank : ∀ letter ∈ space, isSpace letter = true)
    (rest : List Char) :
    nextKey purpose first (space ++ '\x7d' :: rest) = .ok (none, '\x7d' :: rest) := by
  have brace : skipSpace (space ++ '\x7d' :: rest) = '\x7d' :: rest :=
    skipSpace_cons blank rfl rest
  unfold nextKey
  cases first <;> simp only [brace]

/-! ## Plain values -/

theorem reads_readText [Conversion] (value : String) :
    Reads readText (stringText value) value := by
  intro space rest blank ends
  unfold readText stringText
  rw [List.cons_append, skipSpace_cons blank rfl]
  simp only [List.append_assoc]
  exact readString_escaped value rest

/-- A letter with which a number starts is no white space. -/
theorem isSpace_of_startsNumber
    {letter : Char}
    (starts : letter = '-' ∨ letter.isDigit = true) :
    isSpace letter = false := by
  rw [Bool.eq_false_iff]
  intro blank
  simp only [isSpace, Bool.or_eq_true, beq_iff_eq] at blank
  rcases blank with ((rfl | rfl) | rfl) | rfl <;> exact absurd starts (by decide)

/-- A literal starts with a minus sign or a digit. -/
theorem Literal.Spells.starts {literal : Literal} {text : List Char} (spells : literal.Spells text) :
    ∃ letter tail, text = letter :: tail ∧ (letter = '-' ∨ letter.isDigit = true) := by
  obtain ⟨grammatical, exponent, -, rfl⟩ := spells
  cases sign : literal.negative with
  | true => exact ⟨'-', _, by rw [Decimal.signed, if_pos rfl], .inl rfl⟩
  | false =>
      obtain ⟨digit, digits, start⟩ := List.exists_cons_of_ne_nil grammatical.nonempty
      refine ⟨digit, _, by rw [Decimal.signed, if_neg Bool.false_ne_true, start]; rfl, .inr ?_⟩
      exact grammatical.whole digit (by rw [start]; exact List.mem_cons_self)

/-- The text of a literal starts with a minus sign or a digit. -/
theorem Literal.text_start {literal : Literal} (grammatical : literal.Grammatical) :
    ∃ letter text, literal.text = letter :: text ∧
      (letter = '-' ∨ letter.isDigit = true) :=
  Spells.starts ⟨grammatical, _, exponentText_exponentText literal.exponent, rfl⟩

theorem reads_readReal
    [Conversion]
    {value : Binary64}
    (finite : value.isFinite = true)
    (readsBack : Conversion.ReadsBack value) :
    Reads readReal (Decimal.document value) value := by
  intro space rest blank ends
  have number := readNumber_document finite readsBack ends
  obtain ⟨letter, text, start, starts⟩ :=
    Literal.text_start (Literal.grammatical_ofValue value)
  rw [Literal.text_ofValue] at start
  rw [start, List.cons_append] at number ⊢
  unfold readReal
  rw [skipSpace_cons blank (isSpace_of_startsNumber starts)]
  simp [starts, number, bind, Except.bind, pure, Except.pure, Number.toBinary64]

theorem reads_readOptionalReal
    [Conversion]
    {value : Binary64}
    (finite : value.isFinite = true)
    (readsBack : Conversion.ReadsBack value) :
    Reads readOptionalReal (Decimal.document value) (some value) := by
  intro space rest blank ends
  have real := reads_readReal finite readsBack [] rest (by simp) ends
  obtain ⟨letter, text, start, starts⟩ :=
    Literal.text_start (Literal.grammatical_ofValue value)
  rw [Literal.text_ofValue] at start
  rw [start, List.nil_append, List.cons_append] at real
  rw [start, List.cons_append]
  unfold readOptionalReal
  rw [skipSpace_cons blank (isSpace_of_startsNumber starts)]
  split
  case h_1 null =>
    cases null
    exact absurd starts (by decide)
  case h_2 => simp [real, bind, Except.bind, pure, Except.pure]

theorem reads_readUInt32 [Conversion] (value : UInt32) :
    Reads readUInt32 (Number.text (.ofNat value.toNat)) value := by
  intro space rest blank ends
  have small : value.toNat < UInt32.size := value.toNat_lt
  have number := readNumber_ofNat (Nat.lt_trans small (by decide)) ends
  obtain ⟨letter, text, start, starts⟩ :=
    Literal.text_start (Literal.grammatical_ofNat value.toNat)
  rw [Literal.text_ofNat] at start
  rw [start, List.cons_append] at number ⊢
  unfold readUInt32
  rw [skipSpace_cons blank (isSpace_of_startsNumber starts)]
  simp only [starts, number, Number.ofNat, bind, Except.bind, if_true]
  rw [if_pos ⟨Int.natCast_nonneg _, Int.ofNat_lt.mpr small⟩, Int.toNat_natCast, UInt32.ofNat_toNat]
  rfl

/-! ## Members -/

/-- A member of an object and what it does to a record. -/
structure Field (ρ : Type) where
  /-- Key of the member. -/
  key : String
  /-- Value of the member. -/
  value : Json
  /-- Put the value into a record. -/
  store : ρ → ρ

namespace Field

/-- The member as the document of an object has it. -/
def member (field : Field ρ) : String × Json := (field.key, field.value)

/-- The text of a member at a level of indentation, behind its opening quote. -/
def body (level : Nat) (field : Field ρ) (rest : List Char) : List Char :=
  field.key.toList.flatMap escapeChar ++ '\x22' ::
    ':' :: ([' '] ++ (indentedChars level field.value ++ rest))

/-- The texts of further members, each behind a comma. -/
def laterText (level : Nat) : List (Field ρ) → List Char → List Char
  | [], rest => rest
  | field :: fields, rest =>
      ',' :: (newLine level ++ '\x22' :: field.body level (laterText level fields rest))

/-- The record after members were put into it. -/
def storeAll (fields : List (Field ρ)) (record : ρ) : ρ :=
  fields.foldl (fun record field => field.store record) record

theorem indentedMembers_eq (level : Nat) (fields : List (Field ρ)) :
    indentedMembers level (fields.map member) =
      fields.map fun field => '\x22' :: field.body level [] := by
  induction fields with
  | nil => rfl
  | cons field fields inductionHypothesis =>
      rw [List.map_cons, List.map_cons, member, indentedMembers, inductionHypothesis]
      simp [body, stringText]

theorem body_append (level : Nat) (field : Field ρ) (front back : List Char) :
    field.body level front ++ back = field.body level (front ++ back) := by
  simp [body]

/-- The members of an object, on lines of their own. -/
theorem separated_eq (level : Nat) (first : Field ρ) (fields : List (Field ρ)) (rest : List Char) :
    separated (',' :: newLine level)
        ((first :: fields).map fun field => '\x22' :: field.body level []) ++ rest =
      '\x22' :: first.body level (laterText level fields rest) := by
  induction fields generalizing first with
  | nil => simp [separated, body_append, laterText]
  | cons second fields inductionHypothesis =>
      have later := inductionHypothesis second
      simp only [List.map_cons, separated, List.append_assoc] at later ⊢
      rw [later, List.cons_append, body_append]
      simp [laterText]

end Field

namespace Schema

/-- A schema has an entry that reads a member. -/
def Accepts (schema : Schema ρ) (level : Nat) (field : Field ρ) : Prop :=
  ∃ entry, (schema.entries.find? fun entry => entry.key == field.key) = some entry ∧
    Reads entry.read (indentedChars level field.value) field.store

/-- A member that has not been seen is read. -/
theorem readMember_body
    {schema : Schema ρ}
    {level : Nat}
    {field : Field ρ}
    (accepts : schema.Accepts level field)
    {seen : List String}
    (unseen : field.key ∉ seen)
    (record : ρ)
    {rest : List Char}
    (ends : EndsNumber rest) :
    schema.readMember seen field.key record
        (':' :: ([' '] ++ (indentedChars level field.value ++ rest))) =
      .ok (field.store record, rest) := by
  obtain ⟨entry, found, reads⟩ := accepts
  have notSeen : seen.contains field.key = false := by simpa using unseen
  have blank : ∀ letter ∈ [' '], isSpace letter = true := by
    intro letter member
    rw [List.mem_singleton.mp member]
    rfl
  have value := reads [' '] rest blank ends
  have colon : ∀ text, readColon (':' :: text) = .ok text := fun _ => rfl
  unfold readMember
  rw [found]
  simp only [notSeen, Bool.false_eq_true, if_false, colon, value, bind, Except.bind, pure,
    Except.pure]

/-- The text of a member is that of its key, up to the colon. -/
theorem readString_body
    (level : Nat)
    (field : Field ρ)
    (rest : List Char) :
    readString .keep (field.body level rest) =
      .ok (field.key, ':' :: ([' '] ++ (indentedChars level field.value ++ rest))) :=
  readString_escaped field.key _

/-- White space in front of a member is skipped. -/
theorem skipSpace_newLine_body
    (level : Nat)
    (field : Field ρ)
    (rest : List Char) :
    skipSpace (newLine level ++ '\x22' :: field.body level rest) =
      '\x22' :: field.body level rest :=
  skipSpace_cons (fun _ => isSpace_of_mem_newLine) rfl _

theorem nextKey_first
    (level : Nat)
    (field : Field ρ)
    (rest : List Char) :
    nextKey .keep true (newLine level ++ '\x22' :: field.body level rest) =
      .ok (some field.key,
        ':' :: ([' '] ++ (indentedChars level field.value ++ rest))) := by
  unfold nextKey
  simp only [skipSpace_newLine_body, readString_body, bind, Except.bind, pure, Except.pure]

theorem nextKey_later
    (level : Nat)
    (field : Field ρ)
    (rest : List Char) :
    nextKey .keep false (',' :: (newLine level ++ '\x22' :: field.body level rest)) =
      .ok (some field.key,
        ':' :: ([' '] ++ (indentedChars level field.value ++ rest))) := by
  have comma : ∀ text, skipSpace (',' :: text) = ',' :: text := fun _ => rfl
  unfold nextKey
  simp only [comma, skipSpace_newLine_body, readString_body, bind, Except.bind, pure, Except.pure]

theorem endsNumber_laterText
    (level closing : Nat)
    (fields : List (Field ρ))
    (rest : List Char) :
    EndsNumber (Field.laterText level fields (newLine closing ++ rest)) := by
  cases fields with
  | nil => exact endsNumber_newLine closing rest
  | cons field fields => exact endsNumber_comma _

/-- The members behind the first one are read. -/
theorem readObject_later
    {schema : Schema ρ}
    {level : Nat}
    (closing : Nat)
    {fields : List (Field ρ)}
    (accepts : ∀ field ∈ fields, schema.Accepts level field)
    (distinct : (fields.map Field.key).Nodup)
    {seen : List String}
    (unseen : ∀ field ∈ fields, field.key ∉ seen)
    (complete : schema.missing? ((fields.map Field.key).reverse ++ seen) = none)
    {fuel : Nat}
    (enough : fields.length < fuel)
    (record : ρ)
    (rest : List Char) :
    schema.readObject fuel false seen record
        (Field.laterText level fields (newLine closing ++ '\x7d' :: rest)) =
      .ok (Field.storeAll fields record, '\x7d' :: rest) := by
  induction fields generalizing fuel seen record with
  | nil =>
      cases fuel with
      | zero => cases enough
      | succ fuel =>
          have ending : nextKey .keep false (newLine closing ++ '\x7d' :: rest) =
              .ok (none, '\x7d' :: rest) :=
            nextKey_end .keep false (fun _ => isSpace_of_mem_newLine) rest
          have nothing : schema.missing? seen = none := complete
          unfold readObject
          simp only [Field.laterText, ending, nothing, bind, Except.bind, pure, Except.pure]
          rfl
  | cons field fields inductionHypothesis =>
      cases fuel with
      | zero => cases enough
      | succ fuel =>
          obtain ⟨fresh, restDistinct⟩ := List.nodup_cons.mp distinct
          have key := nextKey_later level field
            (Field.laterText level fields (newLine closing ++ '\x7d' :: rest))
          have member := readMember_body (accepts field List.mem_cons_self)
            (unseen field List.mem_cons_self) record
            (endsNumber_laterText level closing fields ('\x7d' :: rest))
          have laterUnseen : ∀ other ∈ fields, other.key ∉ field.key :: seen := by
            intro other present
            rw [List.mem_cons, not_or]
            refine ⟨?_, unseen other (List.mem_cons_of_mem _ present)⟩
            intro same
            exact fresh (same ▸ List.mem_map_of_mem present)
          have others := inductionHypothesis
            (fun other present => accepts other (List.mem_cons_of_mem _ present))
            restDistinct laterUnseen (by simpa using complete)
            (Nat.lt_of_succ_lt_succ enough) (field.store record)
          unfold readObject
          simp only [Field.laterText, key, member, others, bind, Except.bind]
          rfl

theorem length_le_length_laterText
    (level : Nat)
    (fields : List (Field ρ))
    (rest : List Char) :
    fields.length ≤ (Field.laterText level fields rest).length := by
  induction fields with
  | nil => exact Nat.zero_le _
  | cons field fields inductionHypothesis =>
      simp only [Field.laterText, Field.body, List.length_cons, List.length_append]
      omega

/-- The members of an object are read, up to its closing brace. -/
theorem readObject_members
    {schema : Schema ρ}
    {level : Nat}
    {first : Field ρ}
    {fields : List (Field ρ)}
    (accepts : ∀ field ∈ first :: fields, schema.Accepts level field)
    (distinct : ((first :: fields).map Field.key).Nodup)
    (complete : schema.missing? ((first :: fields).map Field.key).reverse = none)
    (closing : Nat)
    {fuel : Nat}
    (enough : fields.length < fuel)
    (record : ρ)
    (rest : List Char) :
    schema.readObject (fuel + 1) true [] record
        (newLine level ++ '\x22' ::
          first.body level (Field.laterText level fields (newLine closing ++ '\x7d' :: rest))) =
      .ok (Field.storeAll (first :: fields) record, '\x7d' :: rest) := by
  obtain ⟨fresh, restDistinct⟩ := List.nodup_cons.mp distinct
  have key := nextKey_first level first
    (Field.laterText level fields (newLine closing ++ '\x7d' :: rest))
  have member := readMember_body (accepts first List.mem_cons_self)
    (List.not_mem_nil : first.key ∉ []) record
    (endsNumber_laterText level closing fields ('\x7d' :: rest))
  have laterUnseen : ∀ other ∈ fields, other.key ∉ [first.key] := by
    intro other present same
    rw [List.mem_singleton] at same
    exact fresh (same ▸ List.mem_map_of_mem present)
  have others := readObject_later closing
    (fun other present => accepts other (List.mem_cons_of_mem _ present))
    restDistinct laterUnseen (by simpa using complete) enough (first.store record) rest
  unfold readObject
  simp only [key, member, others, bind, Except.bind]
  rfl

/-- A record is read from the document of its members, if the schema has an entry for
every member and misses none. -/
theorem reads_object
    [Conversion]
    {schema : Schema ρ}
    {level : Nat}
    {fields : List (Field ρ)}
    (accepts : ∀ field ∈ fields, schema.Accepts (level + 1) field)
    (distinct : (fields.map Field.key).Nodup)
    (complete : schema.missing? (fields.map Field.key).reverse = none) :
    Reads schema.read (indentedChars level (.object (fields.map Field.member)))
      (Field.storeAll fields schema.start) := by
  intro space rest blank ends
  have closed : closeObject ('\x7d' :: rest) = .ok rest := rfl
  rw [indentedChars, Field.indentedMembers_eq]
  unfold bracketed
  cases fields with
  | nil =>
      have brace : skipSpace (space ++ '\x7b' :: '\x7d' :: rest) = '\x7b' :: '\x7d' :: rest :=
        skipSpace_cons blank rfl _
      have ending : nextKey .keep true ('\x7d' :: rest) = .ok (none, '\x7d' :: rest) :=
        nextKey_end .keep true (List.forall_mem_nil _) rest
      have nothing : schema.missing? [] = none := complete
      unfold read
      simp only [List.map_nil, if_true, List.cons_append, List.nil_append, brace, readObject,
        ending, nothing, bind, Except.bind, pure, Except.pure, closed]
      rfl
  | cons first fields =>
      have start : '\x7b' :: (newLine (level + 1) ++
          separated (',' :: newLine (level + 1)) ((first :: fields).map fun field =>
            '\x22' :: field.body (level + 1) []) ++ newLine level ++ ['\x7d']) ++ rest =
          '\x7b' :: (newLine (level + 1) ++ '\x22' :: first.body (level + 1)
            (Field.laterText (level + 1) fields (newLine level ++ '\x7d' :: rest))) := by
        rw [← Field.separated_eq]
        simp
      have enough : fields.length < (newLine (level + 1) ++ '\x22' :: first.body (level + 1)
          (Field.laterText (level + 1) fields (newLine level ++ '\x7d' :: rest))).length := by
        have bound := length_le_length_laterText (level + 1) fields (newLine level ++ '\x7d' :: rest)
        simp only [Field.body, List.length_append, List.length_cons]
        omega
      have members := readObject_members accepts distinct complete level enough schema.start rest
      rw [if_neg (by simp), start]
      unfold read
      rw [skipSpace_cons blank rfl]
      simp only [members, bind, Except.bind, pure, Except.pure, closed]

end Schema

end Json
end DualPhy
