import DualPhy.Proofs.ValueGrammar
import Mathlib.Data.List.Forall2

/-!
# Compact text read back

A document that is written without white space is read as the value that it was written for.
Its numbers must be of a kind that is kept, the members of its objects must stand in the order in
which they are kept, and it must not be nested too deeply.
-/

namespace DualPhy
namespace Json

/-! ## Parts of compact text -/

/-- A string between its quotes is written as its characters with escapes. -/
theorem letters_escaped (value : String) :
    Letters .keep (value.toList.flatMap escapeChar) value.toList := by
  obtain ⟨raw, written, split⟩ := readString_eq_ok_iff.mp (readString_escaped value [])
  rwa [List.append_cancel_right split]

/-- What stands in front of an item in compact text. -/
theorem lead_comma (first : Bool) : Lead first (if first then [] else [',']) := by
  cases first with
  | true => exact List.forall_mem_nil _
  | false => exact ⟨[], [], List.forall_mem_nil _, List.forall_mem_nil _, rfl⟩

/-- Behind the first item, every item has its comma. -/
theorem separated_cons (item : List Char) (items : List (List Char)) :
    separated [','] (item :: items) = item ++ items.flatMap (',' :: ·) := by
  induction items generalizing item with
  | nil => simp [separated]
  | cons next items inductionHypothesis =>
      rw [separated, inductionHypothesis next, List.flatMap_cons]
      · simp
      · exact List.cons_ne_nil _ _

/-- Items separated by commas are those of an array. -/
theorem items_separated (items : List (List Char)) : Items true items (separated [','] items) := by
  have later : ∀ items, Items false items (items.flatMap (',' :: ·)) := by
    intro items
    induction items with
    | nil => exact .nil (List.forall_mem_nil _)
    | cons item items inductionHypothesis =>
        exact .cons (lead_comma false) inductionHypothesis
  cases items with
  | nil => exact .nil (List.forall_mem_nil _)
  | cons item items =>
      rw [separated_cons]
      exact .cons (lead_comma true) (later items)

/-- The text of a member. -/
def memberText (member : List Char × List Char) : List Char :=
  inQuotes member.1 ++ ':' :: member.2

/-- Members separated by commas are those of an object. -/
theorem members_separated (members : List (List Char × List Char)) :
    Members true members (separated [','] (members.map memberText)) := by
  have blank : Blank [] := List.forall_mem_nil _
  have later : ∀ members : List (List Char × List Char),
      Members false members ((members.map memberText).flatMap (',' :: ·)) := by
    intro members
    induction members with
    | nil => exact .nil blank
    | cons member members inductionHypothesis =>
        have written : Members false (member :: members) _ :=
          .cons (lead_comma false) blank blank inductionHypothesis
        simpa [memberText] using written
  cases members with
  | nil => exact .nil blank
  | cons member members =>
      have written : Members true (member :: members) _ :=
        .cons (lead_comma true) blank blank (later members)
      rw [List.map_cons, separated_cons]
      simpa [memberText] using written

/-! ## Numbers -/

/-- The literal of a whole number. -/
def Literal.ofInt (value : Int) : Literal :=
  ⟨decide (value < 0), Decimal.digitChars value.natAbs, [], none⟩

theorem Literal.grammatical_ofInt (value : Int) : (ofInt value).Grammatical := by
  obtain ⟨nonempty, whole, leading, fraction⟩ := grammatical_ofNat value.natAbs
  exact ⟨nonempty, whole, leading, fraction⟩

/-- A whole number is shown by a minus sign or none, and its digits. -/
theorem toList_toString_int (value : Int) :
    (toString value).toList =
      Decimal.signed (decide (value < 0)) (Decimal.digitChars value.natAbs) := by
  cases value with
  | ofNat number =>
      have above : ¬ Int.ofNat number < 0 := Int.not_lt.mpr (Int.natCast_nonneg number)
      rw [decide_eq_false above]
      exact Nat.toList_repr
  | negSucc number =>
      rw [decide_eq_true (Int.negSucc_lt_zero number)]
      change ("-" ++ Nat.repr (number + 1)).toList = '-' :: Decimal.digitChars (number + 1)
      rw [String.toList_append, Nat.toList_repr]
      rfl

theorem Literal.text_ofInt (value : Int) : (ofInt value).text = (Number.whole value).text := by
  change Decimal.signed (decide (value < 0)) (Decimal.digitChars value.natAbs ++ ([] ++ [])) =
    (toString value).toList
  rw [List.append_nil, List.append_nil, toList_toString_int]

/-- A whole number is written as one: a minus sign or none, and its digits. -/
theorem Literal.spells_ofInt (value : Int) : (ofInt value).Spells (Number.whole value).text :=
  ⟨grammatical_ofInt value, [], .none, (text_ofInt value).symm⟩

section

variable [Conversion]

/-- A number that is kept as it is written. -/
def Number.ReadsBack (number : Number) : Prop :=
  ∃ literal : Literal, literal.Spells number.text ∧ literal.toNumber = .ok number

/-- A whole number is kept if it fits in sixty-four bits. -/
theorem Number.readsBack_whole
    {value : Int}
    (least : -twoPow 63 ≤ value)
    (greatest : value < UInt64.size) :
    (Number.whole value).ReadsBack := by
  refine ⟨.ofInt value, Literal.spells_ofInt value, Literal.toNumber_eq_whole_iff.mpr ?_⟩
  rw [Literal.whole?, Literal.ofInt, if_pos ⟨rfl, rfl⟩]
  dsimp only
  rw [ofDigits_digitChars]
  by_cases below : value < 0
  · rw [if_pos (decide_eq_true below), if_pos (by omega)]
    congr 1
    omega
  · rw [if_neg (by simpa using below), if_pos (by omega)]
    congr 1
    omega

/-- A number that is kept is read as a value. -/
theorem Number.ReadsBack.reads_readNested
    {number : Number}
    (kept : number.ReadsBack)
    (depth : Nat) :
    Reads (readNested depth) number.text (.number number) := by
  intro space rest blank ends
  obtain ⟨literal, spells, toNumber⟩ := kept
  have read := readNumber_of_spells spells toNumber ends
  obtain ⟨letter, tail, start, starts⟩ := spells.starts
  rw [start, List.cons_append] at read
  have other : ∀ special : Char, ¬ (special = '-' ∨ special.isDigit = true) →
      letter ≠ special := by
    rintro special apart rfl
    exact apart starts
  rw [start, List.cons_append, readNested, skipSpace_cons blank (isSpace_of_startsNumber starts)]
  simp [other 'n' (by decide), other 't' (by decide), other 'f' (by decide),
    other '\x22' (by decide), other '[' (by decide), other '\x7b' (by decide), starts, read,
    bind, Except.bind, pure, Except.pure]

/-! ## Values -/

/-- The values that are kept as they are, nested at most to a depth. -/
inductive ReadsBack : (depth : Nat) → Json → Prop
  /-- Nothing. -/
  | null {depth : Nat} : ReadsBack depth .null
  /-- A truth value. -/
  | bool {depth : Nat} (value : Bool) : ReadsBack depth (.bool value)
  /-- A number. -/
  | number
      {depth : Nat}
      {number : Number}
      (kept : number.ReadsBack) :
      ReadsBack depth (.number number)
  /-- A text. -/
  | string {depth : Nat} (value : String) : ReadsBack depth (.string value)
  /-- An array. -/
  | array
      {depth : Nat}
      {items : List Json}
      (kept : ∀ item ∈ items, ReadsBack depth item) :
      ReadsBack (depth + 1) (.array items)
  /-- An object. -/
  | object
      {depth : Nat}
      {members : List (String × Json)}
      (sorted : ofMembers members = .object members)
      (kept : ∀ member ∈ members, ReadsBack depth member.2) :
      ReadsBack (depth + 1) (.object members)

/-- Such a value does not start like the end of an array. -/
theorem ReadsBack.opens
    {depth : Nat}
    {value : Json}
    (kept : ReadsBack depth value) :
    ∃ letter tail, compactChars value = letter :: tail ∧ Opens letter := by
  cases kept with
  | null => exact ⟨_, _, rfl, rfl, by decide⟩
  | bool value => cases value <;> exact ⟨_, _, rfl, rfl, by decide⟩
  | string => exact ⟨_, _, rfl, rfl, by decide⟩
  | array => exact ⟨_, _, rfl, rfl, by decide⟩
  | object => exact ⟨_, _, rfl, rfl, by decide⟩
  | number kept =>
      obtain ⟨literal, spells, -⟩ := kept
      rw [compactChars]
      exact (IsValue.number spells).opens

omit [Conversion] in
theorem compactItems_eq (items : List Json) : compactItems items = items.map compactChars := by
  induction items with
  | nil => rfl
  | cons item items inductionHypothesis => rw [compactItems, inductionHypothesis, List.map_cons]

/-- A member of an object as it is written. -/
def writtenMember (member : String × Json) : List Char × List Char :=
  (member.1.toList.flatMap escapeChar, compactChars member.2)

omit [Conversion] in
theorem compactMembers_eq (members : List (String × Json)) :
    compactMembers members = (members.map writtenMember).map memberText := by
  induction members with
  | nil => rfl
  | cons member members inductionHypothesis =>
      rw [compactMembers, inductionHypothesis]
      rfl

/-- A value that is kept is read from its compact text. -/
theorem ReadsBack.reads_readNested
    {depth : Nat}
    {value : Json}
    (kept : ReadsBack depth value) :
    Reads (readNested depth) (compactChars value) value := by
  induction kept with
  | null =>
      intro space rest blank ends
      rw [compactChars, List.cons_append, readNested, skipSpace_cons blank rfl]
      exact map_readWord_eq_ok_iff.mpr ⟨rfl, rfl⟩
  | bool value =>
      intro space rest blank ends
      cases value <;>
        rw [compactChars, List.cons_append, readNested, skipSpace_cons blank rfl] <;>
        exact map_readWord_eq_ok_iff.mpr ⟨rfl, rfl⟩
  | @number depth number kept =>
      rw [compactChars]
      exact kept.reads_readNested depth
  | string value =>
      intro space rest blank ends
      have read := readString_escaped value rest
      rw [compactChars, stringText, List.cons_append, List.append_assoc, readNested,
        skipSpace_cons blank rfl]
      simp [read, bind, Except.bind, pure, Except.pure]
  | @array depth items kept inductionHypothesis =>
      intro space rest blank ends
      have listed := items_separated (items.map compactChars)
      have opens : ∀ part ∈ items.map compactChars,
          ∃ letter tail, part = letter :: tail ∧ Opens letter := by
        intro part member
        obtain ⟨item, present, rfl⟩ := List.mem_map.mp member
        exact (kept item present).opens
      have enough : (items.map compactChars).length <
          (separated [','] (items.map compactChars) ++ ']' :: rest).length + 1 := by
        have count := listed.length_le.1
        simp only [List.length_append, List.length_cons, if_true] at count ⊢
        omega
      have read := listed.readItems_eq opens
        (List.forall₂_map_left_iff.mpr (List.forall₂_same.mpr inductionHypothesis)) .keep enough
        rest
      rw [compactChars, compactItems_eq, List.cons_append, List.append_assoc,
        List.singleton_append, readNested, skipSpace_cons blank rfl]
      simp only [read, bind, Except.bind, pure, Except.pure]
  | @object depth members sorted kept inductionHypothesis =>
      intro space rest blank ends
      have listed := members_separated (members.map writtenMember)
      have reads : List.Forall₂ (fun part member => Letters .keep part.1 member.1.toList ∧
          Reads (readNested depth) part.2 member.2) (members.map writtenMember) members :=
        List.forall₂_map_left_iff.mpr (List.forall₂_same.mpr fun member present =>
          ⟨letters_escaped member.1, inductionHypothesis member present⟩)
      have enough : (members.map writtenMember).length <
          (separated [','] ((members.map writtenMember).map memberText) ++
            '\x7d' :: rest).length + 1 := by
        have count := listed.length_le.1
        simp only [List.length_append, List.length_cons] at count ⊢
        omega
      have read := listed.readMembers_eq reads enough rest
      rw [compactChars, compactMembers_eq, List.cons_append, List.append_assoc,
        List.singleton_append, readNested, skipSpace_cons blank rfl]
      simp only [read, sorted, bind, Except.bind, pure, Except.pure]

/-- A document that can be kept is read from its compact text. -/
theorem parse_compact {value : Json} (kept : ReadsBack depthLimit value) :
    parse value.compact = .ok value := by
  have read := kept.reads_readNested [] [] (List.forall_mem_nil _) endsNumber_nil
  rw [List.nil_append, List.append_nil] at read
  rw [parse, readDocument, compact, String.toList_ofList, read]
  rfl

end

end Json
end DualPhy
