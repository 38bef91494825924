import DualPhy.Proofs.RecordGrammar
import Mathlib.Data.List.Perm.Basic
import Mathlib.Logic.Relation

/-!
# Rearranging members

The members of an object may stand in any order, in whatever place of a text the object
is. A text in which members were rearranged stands for the same record.
-/

namespace DualPhy
namespace Json

/-- Members of an object have changed places, in the text itself or somewhere in it. White
space between items and members may have changed as well. -/
inductive Rearranged : List Char → List Char → Prop
  /-- The text is the object. -/
  | object
      {members others : List (List Char × List Char)}
      {text other : List Char}
      (object : IsObject members text)
      (alsoObject : IsObject others other)
      (order : members.Perm others) :
      Rearranged text other
  /-- The object is in an item of an array. -/
  | item
      {front back : List (List Char)}
      {item moved text other : List Char}
      (array : IsArray (front ++ item :: back) text)
      (alsoArray : IsArray (front ++ moved :: back) other)
      (rearranged : Rearranged item moved) :
      Rearranged text other
  /-- The object is in the value of a member. -/
  | member
      {front back : List (List Char × List Char)}
      {raw value moved text other : List Char}
      (object : IsObject (front ++ (raw, value) :: back) text)
      (alsoObject : IsObject (front ++ (raw, moved) :: back) other)
      (rearranged : Rearranged value moved) :
      Rearranged text other

namespace Rearranged

theorem symm {text other : List Char} (rearranged : Rearranged text other) :
    Rearranged other text := by
  induction rearranged with
  | object object alsoObject order => exact .object alsoObject object order.symm
  | item array alsoArray _ inductionHypothesis => exact .item alsoArray array inductionHypothesis
  | member object alsoObject _ inductionHypothesis =>
      exact .member alsoObject object inductionHypothesis

/-- Only arrays and objects have something to rearrange. -/
theorem starts {text other : List Char} (rearranged : Rearranged text other) :
    text.head? = some '[' ∨ text.head? = some '\x7b' := by
  cases rearranged with
  | object object =>
      obtain ⟨⟨inner, -, rfl⟩, -⟩ := object
      exact .inr rfl
  | item array =>
      obtain ⟨⟨inner, -, rfl⟩, -⟩ := array
      exact .inl rfl
  | member object =>
      obtain ⟨⟨inner, -, rfl⟩, -⟩ := object
      exact .inr rfl

theorem isValue {text other : List Char} (rearranged : Rearranged text other) : IsValue other := by
  cases rearranged with
  | object _ alsoObject => exact alsoObject.isValue
  | item _ alsoArray => exact alsoArray.isValue
  | member _ alsoObject => exact alsoObject.isValue

end Rearranged

/-- A text is the same or has been rearranged. -/
abbrev Kept : List Char → List Char → Prop := Relation.ReflGen Rearranged

/-- Parts under the same key, of which one may be a rearrangement of the other. -/
def Matches (part other : String × List Char) : Prop := part.1 = other.1 ∧ Kept part.2 other.2

/-! ## What rearranged texts offer -/

/-- The order of parts does not matter to an entry that is offered once. -/
theorem lookup_of_perm
    {keys : List String}
    {parts others : List (String × List Char)}
    (order : parts.Perm others)
    (distinct : ((parts.map Prod.fst).filter (· ∈ keys)).Nodup)
    {key : String}
    (isKey : key ∈ keys) :
    parts.lookup key = others.lookup key := by
  induction order with
  | nil => rfl
  | cons part _ inductionHypothesis =>
      rw [List.lookup_cons, List.lookup_cons, inductionHypothesis]
      rw [List.map_cons, List.filter_cons] at distinct
      split at distinct
      · exact distinct.of_cons
      · exact distinct
  | swap first second parts =>
      have once : ¬ (key = first.1 ∧ key = second.1) := by
        rintro ⟨here, there⟩
        rw [List.map_cons, List.map_cons, ← here, ← there,
          List.filter_cons_of_pos (by simpa using isKey),
          List.filter_cons_of_pos (by simpa using isKey)] at distinct
        exact (List.nodup_cons.mp distinct).1 List.mem_cons_self
      rw [List.lookup_cons, List.lookup_cons, List.lookup_cons, List.lookup_cons]
      cases here : key == first.1 with
      | false => rfl
      | true =>
          cases there : key == second.1 with
          | false => rfl
          | true => exact absurd ⟨beq_iff_eq.mp here, beq_iff_eq.mp there⟩ once
  | trans order _ firstHypothesis secondHypothesis =>
      rw [firstHypothesis distinct, secondHypothesis]
      exact ((order.map Prod.fst).filter _).nodup_iff.mp distinct

theorem lookup_of_matches
    {parts others : List (String × List Char)}
    (both : List.Forall₂ Matches parts others)
    (key : String) :
    Option.Rel Kept (parts.lookup key) (others.lookup key) := by
  induction both with
  | nil => exact .none
  | @cons part other parts others same _ inductionHypothesis =>
      obtain ⟨keys, kept⟩ := same
      rw [List.lookup_cons, List.lookup_cons, keys]
      split
      · exact .some kept
      · exact inductionHypothesis

theorem keys_of_matches
    {parts others : List (String × List Char)}
    (both : List.Forall₂ Matches parts others) :
    others.map Prod.fst = parts.map Prod.fst := by
  induction both with
  | nil => rfl
  | cons same _ inductionHypothesis =>
      rw [List.map_cons, List.map_cons, same.1, inductionHypothesis]

theorem matches_zip
    {items others : List (List Char)}
    (both : List.Forall₂ Kept items others)
    (keys : List String) :
    List.Forall₂ Matches (keys.zip items) (keys.zip others) := by
  induction both generalizing keys with
  | nil =>
      rw [List.zip_nil_right]
      exact .nil
  | cons same _ inductionHypothesis =>
      cases keys with
      | nil => exact .nil
      | cons key keys => exact .cons ⟨rfl, same⟩ (inductionHypothesis keys)

/-- The texts around a part that was rearranged are the same. -/
theorem kept_append
    (front back : List (List Char))
    {item moved : List Char}
    (rearranged : Rearranged item moved) :
    List.Forall₂ Kept (front ++ item :: back) (front ++ moved :: back) :=
  List.rel_append (List.forall₂_same.mpr fun _ _ => .refl)
    (.cons (.single rearranged) (List.forall₂_same.mpr fun _ _ => .refl))

/-- Members under the same keys have parts under the same keys. -/
theorem exists_matches
    {front back : List (List Char × List Char)}
    {raw value moved : List Char}
    (rearranged : Rearranged value moved)
    {parts : List (String × List Char)}
    (names : List.Forall₂ Names (front ++ (raw, value) :: back) parts) :
    ∃ others, List.Forall₂ Names (front ++ (raw, moved) :: back) others ∧
      List.Forall₂ Matches parts others := by
  induction front generalizing parts with
  | nil =>
      cases names with
      | @cons _ part _ parts name names =>
          obtain ⟨named, same⟩ := name
          refine ⟨(part.1, moved) :: parts, .cons ⟨named, rfl⟩ names, .cons ⟨rfl, ?_⟩ ?_⟩
          · rw [← same]
            exact .single rearranged
          · exact List.forall₂_same.mpr fun _ _ => ⟨rfl, .refl⟩
  | cons member front inductionHypothesis =>
      cases names with
      | @cons _ part _ parts name names =>
          obtain ⟨others, otherNames, both⟩ := inductionHypothesis names
          exact ⟨part :: others, .cons name otherNames, .cons ⟨rfl, .refl⟩ both⟩

/-- A rearranged text offers for every entry what the text offers for it. -/
theorem Offers.rearranged
    {keys : List String}
    {closed : Bool}
    {text other : List Char}
    {parts : List (String × List Char)}
    (offers : Offers keys closed text parts)
    (rearranged : Rearranged text other) :
    ∃ others, Offers keys closed other others ∧
      ∀ key ∈ keys, Option.Rel Kept (parts.lookup key) (others.lookup key) := by
  cases rearranged with
  | object object alsoObject order =>
      cases offers with
      | array array => exact absurd object array.not_isObject
      | object isObject names distinct known =>
          obtain rfl := object.unique isObject
          obtain ⟨moved, otherNames, partOrder⟩ := List.perm_comp_forall₂ order.symm names
          refine ⟨moved, .object alsoObject otherNames
            (((partOrder.map Prod.fst).filter _).nodup_iff.mpr distinct) ?_, ?_⟩
          · exact fun isClosed part present => known isClosed part (partOrder.mem_iff.mp present)
          · intro key isKey
            rw [lookup_of_perm partOrder.symm distinct isKey]
            cases moved.lookup key with
            | none => exact .none
            | some text => exact .some .refl
  | @item front back _ _ _ _ array alsoArray rearranged =>
      cases offers with
      | object object => exact absurd object array.not_isObject
      | array isArray short =>
          obtain rfl := array.unique isArray
          have both := kept_append front back rearranged
          refine ⟨_, .array alsoArray (both.length_eq ▸ short), fun key _ => ?_⟩
          exact lookup_of_matches (matches_zip both keys) key
  | member object alsoObject rearranged =>
      cases offers with
      | array array => exact absurd object array.not_isObject
      | object isObject names distinct known =>
          obtain rfl := object.unique isObject
          obtain ⟨others, otherNames, both⟩ := exists_matches rearranged names
          have sameKeys := keys_of_matches both
          refine ⟨others, .object alsoObject otherNames (sameKeys ▸ distinct) ?_, fun key _ =>
            lookup_of_matches both key⟩
          intro isClosed
          have knownKeys := List.forall_mem_map.mpr (known isClosed)
          rw [← sameKeys] at knownKeys
          exact List.forall_mem_map.mp knownKeys

/-! ## What rearranged texts stand for -/

/-- The order of members does not matter to a form. -/
def Unordered (form : List Char → α → Prop) : Prop :=
  ∀ text other value, Rearranged text other → form text value → form other value

theorem Part.rearranged
    {form : List Char → α → Prop}
    (unordered : Unordered form)
    {default? : Option α}
    {text? other? : Option (List Char)}
    (kept : Option.Rel Kept text? other?)
    {value : α}
    (part : Part form default? text? value) :
    Part form default? other? value := by
  cases kept with
  | none => exact part
  | some same =>
      cases same with
      | refl => exact part
      | single rearranged => exact unordered _ _ value rearranged part

/-- The order of members does not matter to texts that start with neither a bracket nor a
brace. -/
theorem unordered_of_starts
    {form : List Char → α → Prop}
    (plain : ∀ {text value}, form text value →
      text.head? ≠ some '[' ∧ text.head? ≠ some '\x7b') :
    Unordered form := by
  intro text other value rearranged has
  rcases rearranged.starts with bracket | brace
  · exact absurd bracket (plain has).1
  · exact absurd brace (plain has).2

theorem unordered_isString : Unordered IsString := by
  apply unordered_of_starts
  rintro _ value ⟨raw, -, rfl⟩
  simp [inQuotes]

theorem Literal.Spells.not_container
    {literal : Literal}
    {text : List Char}
    (spells : literal.Spells text) :
    text.head? ≠ some '[' ∧ text.head? ≠ some '\x7b' := by
  obtain ⟨letter, tail, rfl, starts⟩ := spells.starts
  refine ⟨?_, ?_⟩ <;> rintro ⟨⟩ <;> exact absurd starts (by decide)

theorem unordered_isUInt32 : Unordered IsUInt32 := by
  apply unordered_of_starts
  rintro _ value ⟨digits, spells, -⟩
  exact spells.not_container

theorem unordered_isOptionalReal (stands : Literal → Binary64 → Prop) :
    Unordered (IsOptionalReal stands) := by
  apply unordered_of_starts
  rintro _ value (⟨rfl, -⟩ | ⟨number, -, literal, spells, -⟩)
  · simp
  · exact spells.not_container

/-- The order of members does not matter to a record if it does not to its entries. -/
theorem Layout.unordered
    {schema : Schema ρ}
    (layout : Layout schema)
    (entries : ∀ slot ∈ layout.slots, Unordered slot.form) :
    Unordered layout.IsRecord := by
  rintro text other record rearranged ⟨parts, offers, placed⟩
  obtain ⟨others, otherOffers, kept⟩ := offers.rearranged rearranged
  refine ⟨others, otherOffers, fun slot member => ?_⟩
  exact Part.rearranged (entries slot member) (kept slot.key (layout.key_mem_keys member))
    (placed slot member)

end Json
end DualPhy
