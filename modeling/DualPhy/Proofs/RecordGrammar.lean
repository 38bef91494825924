import DualPhy.Proofs.ValueGrammar
import Mathlib.Data.List.Nodup

/-!
# The grammar of records

A record is written as an object, whose members may stand in any order, or as an array.
Which texts are records of a schema, and which records they stand for, is said entry by
entry: what a text offers for an entry stands for its value, and an entry for which it
offers nothing has its value from the start.
-/

namespace DualPhy
namespace Json

/-! ## What a text offers -/

/-- A member says its name. -/
def Names (member : List Char × List Char) (part : String × List Char) : Prop :=
  Letters .keep member.1 part.1.toList ∧ member.2 = part.2

/-- The parts that a text offers under keys: the members of an object, in any order, none
of the keys twice; or the items of an array that has no more of them than there are keys.
Unless the keys are all, members under other ones may hold any value. -/
inductive Offers (keys : List String) (closed : Bool) (text : List Char) :
    List (String × List Char) → Prop
  /-- The text is an object. -/
  | object
      {members : List (List Char × List Char)}
      {parts : List (String × List Char)}
      (object : IsObject members text)
      (names : List.Forall₂ Names members parts)
      (distinct : ((parts.map Prod.fst).filter (· ∈ keys)).Nodup)
      (known : closed = true → ∀ part ∈ parts, part.1 ∈ keys) :
      Offers keys closed text parts
  /-- The text is an array. -/
  | array
      {items : List (List Char)}
      (array : IsArray items text)
      (short : items.length ≤ keys.length) :
      Offers keys closed text (keys.zip items)

/-- What may be offered for an entry: a text that stands for its value, or nothing if that
is the default. -/
def Part (form : List Char → α → Prop) (default? : Option α) : Option (List Char) → α → Prop
  | some text, value => form text value
  | none, value => default? = some value

theorem Part.mono
    {form other : List Char → α → Prop}
    (wider : ∀ text value, form text value → other text value)
    {default? : Option α}
    {text? : Option (List Char)}
    {value : α}
    (part : Part form default? text? value) :
    Part other default? text? value := by
  cases text? with
  | some text => exact wider text value part
  | none => exact part

theorem Offers.isValue
    {keys : List String}
    {closed : Bool}
    {text : List Char}
    {parts : List (String × List Char)}
    (offers : Offers keys closed text parts) :
    IsValue text := by
  cases offers with
  | object object => exact object.isValue
  | array array => exact array.isValue

/-! ## Layouts -/

/-- An entry of a record: how it is read, which texts stand for its value, and where it is
in the record. -/
structure Slot (ρ : Type) where
  /-- Key of the entry. -/
  key : String
  /-- Whether it must be written. -/
  required : Bool
  /-- The values of the entry. -/
  {α : Type}
  /-- The reader. -/
  reader : Reader α
  /-- The texts and what they stand for. -/
  form : List Char → α → Prop
  /-- Put a value into a record. -/
  store : α → ρ → ρ
  /-- The value in a record. -/
  get : ρ → α

namespace Slot

/-- The entry of a schema. -/
def entry (slot : Slot ρ) : Entry ρ := .of slot.key slot.required slot.reader slot.store

/-- The value of an entry that is not written. -/
def default? (slot : Slot ρ) (start : ρ) : Option slot.α :=
  if slot.required then none else some (slot.get start)

end Slot

/-- The entries of a schema, which determine a record and do not interfere. -/
structure Layout (schema : Schema ρ) where
  /-- The entries. -/
  slots : List (Slot ρ)
  /-- They are those of the schema. -/
  entries : schema.entries = slots.map Slot.entry
  /-- No two have the same key. -/
  distinct : (slots.map Slot.key).Nodup
  /-- What is put into a record is there. -/
  get_store : ∀ slot ∈ slots, ∀ value record, slot.get (slot.store value record) = value
  /-- What is put into a record leaves the other entries alone. -/
  get_store_other : ∀ slot ∈ slots, ∀ other ∈ slots, other.key ≠ slot.key →
    ∀ value record, other.get (slot.store value record) = other.get record
  /-- A record has no more than its entries. -/
  ext : ∀ {record other}, (∀ slot ∈ slots, slot.get record = slot.get other) → record = other
  /-- The readers follow the forms. -/
  follows : ∀ slot ∈ slots, Follows slot.reader slot.form
  /-- The forms are values. -/
  isValue : ∀ slot ∈ slots, ∀ {text value}, slot.form text value → IsValue text

namespace Layout

variable {schema : Schema ρ}

/-- A text is a record: what it offers for the entries stands for their values. -/
def IsRecord (layout : Layout schema) (text : List Char) (record : ρ) : Prop :=
  ∃ parts, Offers schema.keys schema.closed text parts ∧
    ∀ slot ∈ layout.slots,
      Part slot.form (slot.default? schema.start) (parts.lookup slot.key) (slot.get record)

theorem keys_eq (layout : Layout schema) : schema.keys = layout.slots.map Slot.key := by
  rw [Schema.keys, layout.entries, List.map_map]
  rfl

theorem key_mem_keys
    (layout : Layout schema)
    {slot : Slot ρ}
    (member : slot ∈ layout.slots) :
    slot.key ∈ schema.keys := by
  rw [layout.keys_eq]
  exact List.mem_map_of_mem member

theorem eq_of_key
    (layout : Layout schema)
    {slot other : Slot ρ}
    (member : slot ∈ layout.slots)
    (otherMember : other ∈ layout.slots)
    (same : slot.key = other.key) :
    slot = other :=
  List.inj_on_of_nodup_map layout.distinct member otherMember same

end Layout

/-! ## Families of entries -/

/-- The entries of a schema, which are read alike and need not be written. -/
structure Family (schema : Schema ρ) (ι α : Type) where
  /-- What there is an entry for. -/
  all : List ι
  /-- Nothing is left out. -/
  mem_all : ∀ index, index ∈ all
  /-- Key of an entry. -/
  key : ι → String
  /-- No two entries have the same key. -/
  distinct : (all.map key).Nodup
  /-- The reader of every entry. -/
  reader : Reader α
  /-- The texts and what they stand for. -/
  form : List Char → α → Prop
  /-- The reader follows the form. -/
  follows : Follows reader form
  /-- The form is a value. -/
  isValue : ∀ {text value}, form text value → IsValue text
  /-- The value of an entry. -/
  get : ρ → ι → α
  /-- Put a value into a record. -/
  set : ρ → ι → α → ρ
  /-- A value that is put into a record is there. -/
  get_set_self : ∀ record index value, get (set record index value) index = value
  /-- The other entries are left alone. -/
  get_set_other : ∀ record {written read} value, read ≠ written →
    get (set record written value) read = get record read
  /-- A record has no more than its entries. -/
  ext : ∀ {record other}, (∀ index, get record index = get other index) → record = other
  /-- The entries are those of the schema. -/
  entries : schema.entries =
    all.map fun index => .of (key index) false reader fun value record => set record index value

namespace Family

variable {schema : Schema ρ}

/-- One of the entries. -/
def slot (family : Family schema ι α) (index : ι) : Slot ρ where
  key := family.key index
  required := false
  reader := family.reader
  form := family.form
  store value record := family.set record index value
  get record := family.get record index

/-- The entries one by one. -/
def layout (family : Family schema ι α) : Layout schema where
  slots := family.all.map family.slot
  entries := by
    rw [family.entries, List.map_map]
    rfl
  distinct := by
    rw [List.map_map]
    exact family.distinct
  get_store := by
    rw [List.forall_mem_map]
    exact fun index _ value record => family.get_set_self record index value
  get_store_other := by
    simp only [List.forall_mem_map]
    intro index _ other _ different value record
    apply family.get_set_other
    rintro rfl
    exact different rfl
  ext := by
    intro record other same
    apply family.ext
    intro index
    exact same (family.slot index) (List.mem_map_of_mem (family.mem_all index))
  follows := by
    rw [List.forall_mem_map]
    exact fun _ _ => family.follows
  isValue := by
    simp only [List.forall_mem_map]
    exact fun _ _ _ _ has => family.isValue has

/-- An entry that is not written has its value from the start. -/
theorem isRecord_layout_iff
    (family : Family schema ι α)
    {text : List Char}
    {record : ρ} :
    family.layout.IsRecord text record ↔
      ∃ parts, Offers (family.all.map family.key) schema.closed text parts ∧
        ∀ index, Part family.form (some (family.get schema.start index))
          (parts.lookup (family.key index)) (family.get record index) := by
  unfold Layout.IsRecord
  rw [family.layout.keys_eq]
  simp only [layout, List.map_map, List.forall_mem_map]
  refine exists_congr fun parts => and_congr_right fun _ => ?_
  exact ⟨fun placed index => placed index (family.mem_all index), fun placed index _ =>
    placed index⟩

end Family

end Json
end DualPhy
