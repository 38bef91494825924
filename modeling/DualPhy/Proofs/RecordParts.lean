import DualPhy.Proofs.RecordGrammar

/-!
# Records and their parts

Putting parts into a record, one after the other, as readers do, and what that makes of the
record as a whole: the record fits the parts if every entry that is given has its value from
its part and every other one its value from before. Both come to the same.
-/

namespace DualPhy
namespace Json
namespace Layout

variable {schema : Schema ρ}

/-- Nothing is missing behind keys that have been seen if they are those of all required
entries. -/
theorem missing?_eq_none_iff (layout : Layout schema) (seen : List String) :
    schema.missing? seen = none ↔
      ∀ slot ∈ layout.slots, slot.required = true → slot.key ∈ seen := by
  rw [Schema.missing?, layout.entries, List.find?_eq_none, List.forall_mem_map]
  refine forall_congr' fun slot => imp_congr_right fun _ => ?_
  simp [Slot.entry, Entry.of]

/-! ## Parts one after the other -/

/-- Putting a part into a record leads to another record. Some keys have been seen before. -/
inductive Put (layout : Layout schema) (seen : List String) (part : String × List Char) :
    ρ → ρ → Prop
  /-- The part of an entry. -/
  | known
      {slot : Slot ρ}
      {value : slot.α}
      {record : ρ}
      (member : slot ∈ layout.slots)
      (named : slot.key = part.1)
      (unseen : part.1 ∉ seen)
      (has : slot.form part.2 value) :
      Put layout seen part record (slot.store value record)
  /-- A part that is passed over. -/
  | unknown
      {record : ρ}
      (absent : part.1 ∉ schema.keys)
      (allowed : schema.closed = false) :
      Put layout seen part record record

/-- Putting parts into a record, one after the other, leads to another record. -/
inductive Puts (layout : Layout schema) :
    (seen : List String) → List (String × List Char) → ρ → ρ → Prop
  /-- There is no further part, and nothing is missing. -/
  | nil
      {seen : List String}
      {record : ρ}
      (complete : schema.missing? seen = none) :
      Puts layout seen [] record record
  /-- A further part. -/
  | cons
      {seen : List String}
      {part : String × List Char}
      {parts : List (String × List Char)}
      {record next after : ρ}
      (put : Put layout seen part record next)
      (more : Puts layout (part.1 :: seen) parts next after) :
      Puts layout seen (part :: parts) record after

/-! ## Parts as a whole -/

/-- None of the keys is given twice, or again. -/
structure Fresh (keys seen : List String) (parts : List (String × List Char)) : Prop where
  /-- No key is given twice. -/
  distinct : ((parts.map Prod.fst).filter (· ∈ keys)).Nodup
  /-- No key is given that has been seen. -/
  unseen : ∀ part ∈ parts, part.1 ∈ keys → part.1 ∉ seen

theorem fresh_cons_iff_of_mem
    {keys seen : List String}
    {part : String × List Char}
    {parts : List (String × List Char)}
    (isKey : part.1 ∈ keys) :
    Fresh keys seen (part :: parts) ↔ part.1 ∉ seen ∧ Fresh keys (part.1 :: seen) parts := by
  have kept : ((part :: parts).map Prod.fst).filter (· ∈ keys) =
      part.1 :: (parts.map Prod.fst).filter (· ∈ keys) := by
    rw [List.map_cons, List.filter_cons_of_pos (by simpa using isKey)]
  constructor
  · rintro ⟨distinct, unseen⟩
    rw [kept, List.nodup_cons] at distinct
    refine ⟨unseen part List.mem_cons_self isKey, distinct.2, ?_⟩
    intro other present otherKey
    rw [List.mem_cons, not_or]
    refine ⟨fun same => distinct.1 ?_, unseen other (List.mem_cons_of_mem _ present) otherKey⟩
    exact List.mem_filter.mpr ⟨List.mem_map.mpr ⟨other, present, same⟩, by simpa using isKey⟩
  · rintro ⟨first, distinct, unseen⟩
    constructor
    case distinct =>
      rw [kept, List.nodup_cons]
      refine ⟨fun again => ?_, distinct⟩
      obtain ⟨other, present, same⟩ := List.mem_map.mp (List.mem_filter.mp again).1
      exact unseen other present (same ▸ isKey) (same ▸ List.mem_cons_self)
    case unseen =>
      refine List.forall_mem_cons.mpr ⟨fun _ => first, ?_⟩
      intro other present otherKey earlier
      exact unseen other present otherKey (List.mem_cons_of_mem _ earlier)

theorem fresh_cons_iff_of_not_mem
    {keys seen : List String}
    {part : String × List Char}
    {parts : List (String × List Char)}
    (absent : part.1 ∉ keys) :
    Fresh keys seen (part :: parts) ↔ Fresh keys (part.1 :: seen) parts := by
  have dropped : ((part :: parts).map Prod.fst).filter (· ∈ keys) =
      (parts.map Prod.fst).filter (· ∈ keys) := by
    rw [List.map_cons, List.filter_cons_of_neg (by simpa using absent)]
  constructor
  · rintro ⟨distinct, unseen⟩
    refine ⟨dropped ▸ distinct, ?_⟩
    intro other present otherKey
    rw [List.mem_cons, not_or]
    refine ⟨fun same => absent (same ▸ otherKey), ?_⟩
    exact unseen other (List.mem_cons_of_mem _ present) otherKey
  · rintro ⟨distinct, unseen⟩
    refine ⟨dropped ▸ distinct, ?_⟩
    refine List.forall_mem_cons.mpr ⟨fun isKey => absurd isKey absent, ?_⟩
    intro other present otherKey earlier
    exact unseen other present otherKey (List.mem_cons_of_mem _ earlier)

/-- An entry that is given has its value from its part; another one keeps it, and has been
seen if it is required. -/
structure Placed
    (seen : List String)
    (parts : List (String × List Char))
    (before after : ρ)
    (slot : Slot ρ) : Prop where
  /-- The entry is given. -/
  given : ∀ text, parts.lookup slot.key = some text → slot.form text (slot.get after)
  /-- The entry is not given. -/
  kept : parts.lookup slot.key = none → slot.get after = slot.get before ∧
    (slot.required = true → slot.key ∈ seen)

/-- An entry that has been seen is not given again. -/
theorem placed_iff_of_seen
    {keys seen : List String}
    {parts : List (String × List Char)}
    (fresh : Fresh keys seen parts)
    {before after : ρ}
    {slot : Slot ρ}
    (isKey : slot.key ∈ keys)
    (earlier : slot.key ∈ seen) :
    Placed seen parts before after slot ↔ slot.get after = slot.get before := by
  have absent : parts.lookup slot.key = none := by
    rw [List.lookup_eq_none_iff]
    intro part present
    rw [bne_iff_ne]
    intro same
    exact fresh.unseen part present (same ▸ isKey) (same ▸ earlier)
  constructor
  · exact fun placed => (placed.kept absent).1
  · intro same
    constructor
    case given =>
      intro text offered
      cases absent.symm.trans offered
    case kept => exact fun _ => ⟨same, fun _ => earlier⟩

theorem placed_cons_iff_of_eq
    {seen : List String}
    {part : String × List Char}
    {parts : List (String × List Char)}
    {before after : ρ}
    {slot : Slot ρ}
    (named : slot.key = part.1) :
    Placed seen (part :: parts) before after slot ↔ slot.form part.2 (slot.get after) := by
  have found : (part :: parts).lookup slot.key = some part.2 := by
    rw [named]
    exact List.lookup_cons_self
  constructor
  · exact fun placed => placed.given part.2 found
  · intro has
    constructor
    case given =>
      intro text offered
      cases found.symm.trans offered
      exact has
    case kept =>
      intro absent
      cases found.symm.trans absent

theorem placed_cons_iff_of_ne
    {seen : List String}
    {part : String × List Char}
    {parts : List (String × List Char)}
    {before next after : ρ}
    {slot : Slot ρ}
    (different : slot.key ≠ part.1)
    (same : slot.get next = slot.get before) :
    Placed seen (part :: parts) before after slot ↔
      Placed (part.1 :: seen) parts next after slot := by
  have passed : (part :: parts).lookup slot.key = parts.lookup slot.key := by
    rw [List.lookup_cons, beq_eq_false_iff_ne.mpr different]
  have earlier : slot.key ∈ part.1 :: seen ↔ slot.key ∈ seen := by
    rw [List.mem_cons, or_iff_right different]
  constructor
  · rintro ⟨given, kept⟩
    rw [passed, ← same, ← earlier] at *
    exact ⟨given, kept⟩
  · rintro ⟨given, kept⟩
    rw [same, earlier] at kept
    constructor <;> rw [passed] <;> assumption

/-- From the start, an entry has the value of what is offered for it. -/
theorem placed_nil_iff
    {parts : List (String × List Char)}
    {start record : ρ}
    {slot : Slot ρ} :
    Placed [] parts start record slot ↔
      Part slot.form (slot.default? start) (parts.lookup slot.key) (slot.get record) := by
  cases offered : parts.lookup slot.key with
  | some text =>
      constructor
      · exact fun placed => placed.given text offered
      · intro has
        constructor
        case given =>
          intro other found
          cases offered.symm.trans found
          exact has
        case kept =>
          intro absent
          cases offered.symm.trans absent
  | none =>
      have nothing : ∀ text, parts.lookup slot.key = some text →
          slot.form text (slot.get record) := by
        intro text found
        cases offered.symm.trans found
      cases required : slot.required with
      | true =>
          simp only [Part, Slot.default?, required, if_true, reduceCtorEq, iff_false]
          intro placed
          cases (placed.kept offered).2 required
      | false =>
          simp only [Part, Slot.default?, required, Bool.false_eq_true, if_false, Option.some.injEq]
          constructor
          · exact fun placed => (placed.kept offered).1.symm
          · intro same
            refine ⟨nothing, fun _ => ⟨same.symm, fun isRequired => ?_⟩⟩
            cases required.symm.trans isRequired

/-- What parts have to do with the records before and behind them. -/
structure Fits
    (layout : Layout schema)
    (seen : List String)
    (parts : List (String × List Char))
    (before after : ρ) : Prop where
  /-- No entry is given twice, or again. -/
  fresh : Fresh schema.keys seen parts
  /-- Other parts are given only where that is allowed. -/
  known : schema.closed = true → ∀ part ∈ parts, part.1 ∈ schema.keys
  /-- Every entry has its value. -/
  placed : ∀ slot ∈ layout.slots, Placed seen parts before after slot

/-- Without parts nothing changes, and nothing may be missing. -/
theorem fits_nil_iff
    {layout : Layout schema}
    {seen : List String}
    {before after : ρ} :
    layout.Fits seen [] before after ↔ before = after ∧ schema.missing? seen = none := by
  rw [layout.missing?_eq_none_iff]
  constructor
  · rintro ⟨-, -, placed⟩
    refine ⟨layout.ext fun slot member => ((placed slot member).kept rfl).1.symm, ?_⟩
    exact fun slot member => ((placed slot member).kept rfl).2
  · rintro ⟨rfl, complete⟩
    refine ⟨⟨List.nodup_nil, List.forall_mem_nil _⟩, fun _ => List.forall_mem_nil _, ?_⟩
    exact fun slot member => ⟨nofun, fun _ => ⟨rfl, complete slot member⟩⟩

/-- What fits is put into the record, and the parts behind it fit then. -/
theorem fits_cons_iff
    {layout : Layout schema}
    {seen : List String}
    {part : String × List Char}
    {parts : List (String × List Char)}
    {before after : ρ} :
    layout.Fits seen (part :: parts) before after ↔
      ∃ next, layout.Put seen part before next ∧
        layout.Fits (part.1 :: seen) parts next after := by
  constructor
  · rintro ⟨fresh, known, placed⟩
    have laterKnown : schema.closed = true → ∀ other ∈ parts, other.1 ∈ schema.keys :=
      fun closed => (List.forall_mem_cons.mp (known closed)).2
    by_cases isKey : part.1 ∈ schema.keys
    · obtain ⟨unseen, laterFresh⟩ := (fresh_cons_iff_of_mem isKey).mp fresh
      rw [layout.keys_eq] at isKey
      obtain ⟨slot, member, named⟩ := List.mem_map.mp isKey
      have has := (placed_cons_iff_of_eq named).mp (placed slot member)
      refine ⟨slot.store (slot.get after) before, .known member named unseen has, laterFresh,
        laterKnown, ?_⟩
      intro other otherMember
      by_cases same : other.key = slot.key
      · obtain rfl := layout.eq_of_key otherMember member same
        rw [placed_iff_of_seen laterFresh (layout.key_mem_keys member)
          (named ▸ List.mem_cons_self), layout.get_store other member]
      · refine (placed_cons_iff_of_ne (named ▸ same) ?_).mp (placed other otherMember)
        exact layout.get_store_other slot member other otherMember same _ _
    · have allowed : schema.closed = false := by
        rw [← Bool.not_eq_true]
        intro closed
        exact isKey (known closed _ List.mem_cons_self)
      refine ⟨before, .unknown isKey allowed, (fresh_cons_iff_of_not_mem isKey).mp fresh,
        laterKnown, ?_⟩
      intro other otherMember
      have different : other.key ≠ part.1 := fun same =>
        isKey (same ▸ layout.key_mem_keys otherMember)
      exact (placed_cons_iff_of_ne different rfl).mp (placed other otherMember)
  · rintro ⟨next, put, fresh, known, placed⟩
    cases put with
    | @known slot value _ member named unseen has =>
        have isKey := layout.key_mem_keys member
        have own := (placed_iff_of_seen fresh isKey (named ▸ List.mem_cons_self)).mp
          (placed slot member)
        rw [layout.get_store slot member] at own
        rw [named] at isKey
        refine ⟨(fresh_cons_iff_of_mem isKey).mpr ⟨unseen, fresh⟩,
          fun closed => List.forall_mem_cons.mpr ⟨isKey, known closed⟩, ?_⟩
        intro other otherMember
        by_cases same : other.key = slot.key
        · obtain rfl := layout.eq_of_key otherMember member same
          exact (placed_cons_iff_of_eq named).mpr (own ▸ has)
        · refine (placed_cons_iff_of_ne (named ▸ same) ?_).mpr (placed other otherMember)
          exact layout.get_store_other slot member other otherMember same _ _
    | unknown absent allowed =>
        refine ⟨(fresh_cons_iff_of_not_mem absent).mpr fresh, ?_, ?_⟩
        · intro closed
          rw [allowed] at closed
          cases closed
        · intro other otherMember
          have different : other.key ≠ part.1 := fun same =>
            absent (same ▸ layout.key_mem_keys otherMember)
          exact (placed_cons_iff_of_ne different rfl).mpr (placed other otherMember)

/-- Parts are put into a record, one after the other, exactly if they fit. -/
theorem puts_iff_fits
    {layout : Layout schema}
    {seen : List String}
    {parts : List (String × List Char)}
    {before after : ρ} :
    layout.Puts seen parts before after ↔ layout.Fits seen parts before after := by
  induction parts generalizing seen before with
  | nil =>
      rw [fits_nil_iff]
      constructor
      · rintro ⟨complete⟩
        exact ⟨rfl, complete⟩
      · rintro ⟨rfl, complete⟩
        exact .nil complete
  | cons part parts inductionHypothesis =>
      rw [fits_cons_iff]
      constructor
      · intro puts
        cases puts with
        | cons put more => exact ⟨_, put, inductionHypothesis.mp more⟩
      · rintro ⟨next, put, more⟩
        exact .cons put (inductionHypothesis.mpr more)

/-- Parts lead from the start to the record for whose entries they are offered. -/
theorem fits_start_iff
    (layout : Layout schema)
    {parts : List (String × List Char)}
    {record : ρ} :
    layout.Fits [] parts schema.start record ↔
      ((parts.map Prod.fst).filter (· ∈ schema.keys)).Nodup ∧
        (schema.closed = true → ∀ part ∈ parts, part.1 ∈ schema.keys) ∧
        ∀ slot ∈ layout.slots,
          Part slot.form (slot.default? schema.start) (parts.lookup slot.key)
            (slot.get record) := by
  constructor
  · rintro ⟨fresh, known, placed⟩
    exact ⟨fresh.distinct, known, fun slot member => placed_nil_iff.mp (placed slot member)⟩
  · rintro ⟨distinct, known, placed⟩
    exact ⟨⟨distinct, fun _ _ _ => List.not_mem_nil⟩, known,
      fun slot member => placed_nil_iff.mpr (placed slot member)⟩

theorem map_fst_zip_sublist (keys : List String) (items : List (List Char)) :
    ((keys.zip items).map Prod.fst).Sublist keys := by
  induction keys generalizing items with
  | nil => exact List.Sublist.refl _
  | cons key keys inductionHypothesis =>
      cases items with
      | nil => exact List.nil_sublist _
      | cons item items => exact (inductionHypothesis items).cons_cons key

/-- The items of an array are offered for different entries. -/
theorem nodup_zip
    (layout : Layout schema)
    (items : List (List Char)) :
    (((schema.keys.zip items).map Prod.fst).filter (· ∈ schema.keys)).Nodup := by
  have distinct := layout.distinct
  rw [← layout.keys_eq] at distinct
  exact (distinct.sublist (map_fst_zip_sublist _ _)).filter _

end Layout
end Json
end DualPhy
