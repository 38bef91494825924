import DualPhy.Proofs.RecordParts

/-!
# Reading records from their texts

The members of an object and the items of an array are put into the record one after the
other. So the reader of a record accepts exactly the texts of records, and gives the records
that they stand for.
-/

namespace DualPhy
namespace Json
namespace Layout

variable {schema : Schema ρ}

/-! ## Finding an entry -/

theorem find?_entries (layout : Layout schema) (key : String) :
    (schema.entries.find? fun entry => entry.key == key) =
      (layout.slots.find? fun slot => slot.key == key).map Slot.entry := by
  rw [layout.entries, List.find?_map]
  rfl

theorem find?_slots
    (layout : Layout schema)
    {slot : Slot ρ}
    (member : slot ∈ layout.slots) :
    (layout.slots.find? fun other => other.key == slot.key) = some slot := by
  cases found : layout.slots.find? fun other => other.key == slot.key with
  | none =>
      have absent := List.find?_eq_none.mp found slot member
      simp at absent
  | some other =>
      have same : other.key = slot.key := by simpa using List.find?_some found
      rw [layout.eq_of_key (List.mem_of_find?_eq_some found) member same]

/-! ## Reading an object -/

/-- What is read as the value of a member, behind its key, is a part that is put into the
record. -/
theorem put_of_readMember
    (layout : Layout schema)
    {seen : List String}
    {key : String}
    {record next : ρ}
    {text rest : List Char}
    (read : schema.readMember seen key record text = .ok (next, rest)) :
    ∃ gap space body, Blank gap ∧ Blank space ∧ IsValue body ∧
      layout.Put seen (key, body) record next ∧
      text = gap ++ ':' :: (space ++ (body ++ rest)) := by
  unfold Schema.readMember at read
  rw [layout.find?_entries] at read
  cases found : layout.slots.find? fun slot => slot.key == key with
  | none =>
      simp only [found, Option.map_none] at read
      split at read
      case isTrue => cases read
      case isFalse closed =>
        obtain ⟨behind, colon, value⟩ := bind_eq_ok_iff.mp read
        obtain ⟨⟨content, after⟩, skipped, made⟩ := bind_eq_ok_iff.mp value
        cases made
        obtain ⟨gap, gapBlank, rfl⟩ := readColon_eq_ok_iff.mp colon
        obtain ⟨space, body, blank, isValue, rfl⟩ := follows_skipValue.sound skipped
        refine ⟨gap, space, body, gapBlank, blank, isValue, ?_, rfl⟩
        refine .unknown ?_ (by simpa using closed)
        rw [layout.keys_eq]
        intro isKey
        obtain ⟨slot, member, same⟩ := List.mem_map.mp isKey
        simpa [same] using List.find?_eq_none.mp found slot member
  | some slot =>
      have member := List.mem_of_find?_eq_some found
      have named : slot.key = key := by simpa using List.find?_some found
      simp only [found, Option.map_some] at read
      split at read
      case isTrue => cases read
      case isFalse unseen =>
        obtain ⟨behind, colon, value⟩ := bind_eq_ok_iff.mp read
        obtain ⟨⟨store, after⟩, entryRead, made⟩ := bind_eq_ok_iff.mp value
        obtain ⟨⟨content, last⟩, contentRead, stored⟩ := bind_eq_ok_iff.mp entryRead
        cases made
        cases stored
        obtain ⟨gap, gapBlank, rfl⟩ := readColon_eq_ok_iff.mp colon
        obtain ⟨space, body, blank, has, rfl⟩ := (layout.follows slot member).sound contentRead
        exact ⟨gap, space, body, gapBlank, blank, layout.isValue slot member has,
          .known member named (by simpa using unseen) has, rfl⟩

/-- A part that can be put into the record is read as the value of a member. -/
theorem Put.readMember
    {layout : Layout schema}
    {seen : List String}
    {part : String × List Char}
    {record next : ρ}
    (put : layout.Put seen part record next)
    (value : IsValue part.2)
    {gap space : List Char}
    (gapBlank : Blank gap)
    (blank : Blank space)
    {rest : List Char}
    (ends : EndsNumber rest) :
    schema.readMember seen part.1 record (gap ++ ':' :: (space ++ (part.2 ++ rest))) =
      .ok (next, rest) := by
  have colon : readColon (gap ++ ':' :: (space ++ (part.2 ++ rest))) =
      .ok (space ++ (part.2 ++ rest)) :=
    readColon_eq_ok_iff.mpr ⟨gap, gapBlank, rfl⟩
  unfold Schema.readMember
  rw [layout.find?_entries]
  cases put with
  | @known slot content record member named unseen has =>
      have notSeen : seen.contains part.1 = false := by simpa using unseen
      have read := (layout.follows slot member).complete has space rest blank ends
      rw [← named] at notSeen ⊢
      rw [layout.find?_slots member]
      simp only [Option.map_some, notSeen, Bool.false_eq_true, if_false, colon, Slot.entry,
        Entry.of, read, bind, Except.bind, pure, Except.pure]
  | unknown absent allowed =>
      have nothing : (layout.slots.find? fun slot => slot.key == part.1) = none := by
        rw [List.find?_eq_none]
        intro slot member same
        exact absent (beq_iff_eq.mp same ▸ layout.key_mem_keys member)
      have skipped : skipValue (space ++ (part.2 ++ rest)) = .ok ((), rest) :=
        follows_skipValue.complete value space rest blank ends
      simp only [nothing, Option.map_none, allowed, Bool.false_eq_true, if_false, colon, skipped,
        bind, Except.bind, pure, Except.pure]

/-- What is read as the members of an object, up to its closing brace, are parts that are put
into the record. -/
theorem puts_of_readObject
    (layout : Layout schema)
    {fuel : Nat}
    {first : Bool}
    {seen : List String}
    {record after : ρ}
    {text rest : List Char}
    (read : schema.readObject fuel first seen record text = .ok (after, rest)) :
    ∃ members parts inner tail, Members first members inner ∧
      (∀ member ∈ members, IsKey member.1 ∧ IsValue member.2) ∧
      List.Forall₂ Names members parts ∧ layout.Puts seen parts record after ∧
      rest = '\x7d' :: tail ∧ text = inner ++ rest := by
  induction fuel generalizing first seen record text with
  | zero => cases read
  | succ fuel inductionHypothesis =>
      obtain ⟨⟨key?, behindKey⟩, separated, further⟩ := bind_eq_ok_iff.mp read
      rcases lead_of_nextKey separated with
        ⟨rfl, space, tail, blank, rfl, rfl⟩ | ⟨key, lead, raw, rfl, leads, written, rfl⟩
      · cases missing : schema.missing? seen with
        | some entry => simp [missing] at further
        | none =>
            simp only [missing] at further
            cases further
            exact ⟨[], [], space, tail, .nil blank, List.forall_mem_nil _, .nil, .nil missing, rfl,
              rfl⟩
      · obtain ⟨⟨next, behind⟩, memberRead, later⟩ := bind_eq_ok_iff.mp further
        obtain ⟨gap, space, body, gapBlank, blank, value, put, rfl⟩ :=
          layout.put_of_readMember memberRead
        obtain ⟨members, parts, inner, tail, writtenLater, others, names, puts, rfl, rfl⟩ :=
          inductionHypothesis later
        obtain ⟨letters, isKey⟩ := written.skip
        exact ⟨(raw, body) :: members, (key, body) :: parts, _, tail,
          .cons leads gapBlank blank writtenLater,
          List.forall_mem_cons.mpr ⟨⟨⟨letters, isKey⟩, value⟩, others⟩,
          .cons ⟨written, rfl⟩ names, .cons put puts, rfl, by simp⟩

/-- Members are read as the parts of an object, up to its closing brace. -/
theorem readObject_of_puts
    {layout : Layout schema}
    {first : Bool}
    {members : List (List Char × List Char)}
    {inner : List Char}
    (written : Members first members inner)
    (values : ∀ member ∈ members, IsValue member.2)
    {parts : List (String × List Char)}
    (names : List.Forall₂ Names members parts)
    {seen : List String}
    {record after : ρ}
    (puts : layout.Puts seen parts record after)
    {fuel : Nat}
    (enough : members.length < fuel)
    (rest : List Char) :
    schema.readObject fuel first seen record (inner ++ '\x7d' :: rest) =
      .ok (after, '\x7d' :: rest) := by
  induction written generalizing parts seen record fuel with
  | @nil first space blank =>
      obtain ⟨fuel, rfl⟩ := Nat.exists_eq_add_one_of_ne_zero (Nat.ne_of_gt enough)
      cases names
      cases puts with
      | nil complete =>
          unfold Schema.readObject
          simp only [nextKey_end .keep first blank rest, complete, bind, Except.bind, pure,
            Except.pure]
  | @cons first lead raw gap space value text members leads gapBlank blank more
      inductionHypothesis =>
      obtain ⟨fuel, rfl⟩ :=
        Nat.exists_eq_add_one_of_ne_zero (Nat.ne_of_gt (Nat.zero_lt_of_lt enough))
      obtain ⟨isValue, otherValues⟩ := List.forall_mem_cons.mp values
      cases names with
      | @cons _ part _ parts name otherNames =>
          obtain ⟨key, content⟩ := part
          obtain ⟨named, same⟩ := name
          obtain rfl : value = content := same
          cases puts with
          | @cons _ _ _ _ next _ put others =>
              have key := leads.nextKey named
                (gap ++ ':' :: (space ++ (value ++ (text ++ '\x7d' :: rest))))
              have member := put.readMember isValue gapBlank blank (more.endsNumber rest)
              have later := inductionHypothesis otherValues otherNames others
                (Nat.lt_of_succ_lt_succ enough)
              simp only [List.append_assoc, List.cons_append]
              unfold Schema.readObject
              simp only [key, member, later, bind, Except.bind]
/-! ## Reading an array -/

/-- No later entry has the key of an earlier one. -/
theorem unseen_cons
    {slot : Slot ρ}
    {slots : List (Slot ρ)}
    (distinct : ((slot :: slots).map Slot.key).Nodup)
    {seen : List String}
    (unseen : ∀ other ∈ slot :: slots, other.key ∉ seen) :
    ∀ other ∈ slots, other.key ∉ slot.key :: seen := by
  intro other present
  rw [List.mem_cons, not_or]
  refine ⟨fun same => (List.nodup_cons.mp distinct).1 ?_,
    unseen other (List.mem_cons_of_mem _ present)⟩
  exact List.mem_map.mpr ⟨other, present, same⟩

/-- At the end of an array there must be no further required entry. -/
theorem readArray_end
    (entries : List (Entry ρ))
    (position : Nat)
    {record after : ρ}
    {rest behind : List Char} :
    schema.readArray entries position record (']' :: rest) = .ok (after, behind) ↔
      (∀ entry ∈ entries, entry.required = false) ∧ after = record ∧ behind = ']' :: rest := by
  induction entries generalizing position with
  | nil =>
      constructor
      · rintro ⟨⟩
        exact ⟨List.forall_mem_nil _, rfl, rfl⟩
      · rintro ⟨-, rfl, rfl⟩
        rfl
  | cons entry entries inductionHypothesis =>
      have ending := nextItem_end .keep (position == 0) (List.forall_mem_nil _) rest
      rw [List.nil_append] at ending
      unfold Schema.readArray
      simp only [ending, bind, Except.bind, Bool.false_eq_true, if_false, List.forall_mem_cons]
      cases required : entry.required with
      | true => simp
      | false => simp [inductionHypothesis]

/-- White space in front of the end of an array is passed over when an item is looked for. -/
theorem readArray_blank
    (entry : Entry ρ)
    (entries : List (Entry ρ))
    (position : Nat)
    (record : ρ)
    {space : List Char}
    (blank : Blank space)
    (rest : List Char) :
    schema.readArray (entry :: entries) position record (space ++ ']' :: rest) =
      schema.readArray (entry :: entries) position record (']' :: rest) := by
  have ending := nextItem_end .keep (position == 0) (List.forall_mem_nil _) rest
  rw [List.nil_append] at ending
  unfold Schema.readArray
  rw [nextItem_end .keep _ blank rest, ending]

/-- What is read as the items of an array are parts of the entries. -/
theorem puts_of_readArray
    (layout : Layout schema)
    {slots : List (Slot ρ)}
    (members : ∀ slot ∈ slots, slot ∈ layout.slots)
    (distinct : (slots.map Slot.key).Nodup)
    {seen : List String}
    (unseen : ∀ slot ∈ slots, slot.key ∉ seen)
    (others : ∀ slot ∈ layout.slots, slot ∈ slots ∨ slot.key ∈ seen)
    {position : Nat}
    {record after : ρ}
    {text behind rest : List Char}
    (read : schema.readArray (slots.map Slot.entry) position record text = .ok (after, behind))
    (closed : closeList behind = .ok rest) :
    ∃ items inner, Items (position == 0) items inner ∧ (∀ item ∈ items, IsValue item) ∧
      items.length ≤ slots.length ∧
      layout.Puts seen ((slots.map Slot.key).zip items) record after ∧
      text = inner ++ ']' :: rest := by
  induction slots generalizing seen position record text with
  | nil =>
      cases read
      obtain ⟨space, blank, rfl⟩ := closeList_eq_ok_iff.mp closed
      refine ⟨[], space, .nil blank, List.forall_mem_nil _, Nat.le_refl 0, .nil ?_, rfl⟩
      rw [layout.missing?_eq_none_iff]
      intro slot member _
      simpa using others slot member
  | cons slot slots inductionHypothesis =>
      obtain ⟨⟨more, start⟩, separated, further⟩ := bind_eq_ok_iff.mp read
      rcases lead_of_nextItem separated with
        ⟨rfl, space, tail, blank, rfl, rfl⟩ | ⟨rfl, lead, leads, rfl⟩
      · rw [List.map_cons, readArray_blank _ _ _ _ blank, readArray_end] at read
        obtain ⟨optional, rfl, rfl⟩ := read
        obtain ⟨gap, gapBlank, bracket⟩ := closeList_eq_ok_iff.mp closed
        have last : tail = rest := by
          have dark := Blank.unique (List.forall_mem_nil _) gapBlank (dark_cons rfl tail)
            (dark_cons rfl rest) bracket
          exact (List.cons.inj dark).2
        rw [last]
        refine ⟨[], space, .nil blank, List.forall_mem_nil _, Nat.zero_le _, .nil ?_, rfl⟩
        rw [layout.missing?_eq_none_iff]
        intro other member required
        rcases others other member with later | earlier
        · have notRequired := optional other.entry (List.mem_map_of_mem later)
          rw [show other.entry.required = other.required from rfl, required] at notRequired
          cases notRequired
        · exact earlier
      · obtain ⟨⟨store, afterItem⟩, entryRead, later⟩ := bind_eq_ok_iff.mp further
        obtain ⟨⟨value, last⟩, valueRead, stored⟩ := bind_eq_ok_iff.mp entryRead
        cases stored
        obtain ⟨member, laterMembers⟩ := List.forall_mem_cons.mp members
        obtain ⟨space, body, blank, has, rfl⟩ := (layout.follows slot member).sound valueRead
        have laterOthers : ∀ other ∈ layout.slots, other ∈ slots ∨ other.key ∈ slot.key :: seen := by
          intro other otherMember
          rcases others other otherMember with here | earlier
          · rcases List.mem_cons.mp here with rfl | present
            · exact .inr List.mem_cons_self
            · exact .inl present
          · exact .inr (List.mem_cons_of_mem _ earlier)
        obtain ⟨items, inner, written, values, short, puts, rfl⟩ :=
          inductionHypothesis laterMembers (List.nodup_cons.mp distinct).2
            (unseen_cons distinct unseen) laterOthers later
        exact ⟨body :: items, (lead ++ space) ++ (body ++ inner),
          .cons (leads.append_blank blank) written,
          List.forall_mem_cons.mpr ⟨layout.isValue slot member has, values⟩,
          Nat.succ_le_succ short,
          .cons (.known member rfl (unseen slot List.mem_cons_self) has) puts, by simp⟩

/-- Items are read as the parts of the entries. -/
theorem readArray_of_puts
    {layout : Layout schema}
    {slots : List (Slot ρ)}
    (members : ∀ slot ∈ slots, slot ∈ layout.slots)
    (distinct : (slots.map Slot.key).Nodup)
    {seen : List String}
    (unseen : ∀ slot ∈ slots, slot.key ∉ seen)
    (position : Nat)
    {items : List (List Char)}
    {inner : List Char}
    (written : Items (position == 0) items inner)
    (values : ∀ item ∈ items, IsValue item)
    (short : items.length ≤ slots.length)
    {record after : ρ}
    (puts : layout.Puts seen ((slots.map Slot.key).zip items) record after)
    (rest : List Char) :
    ∃ behind,
      schema.readArray (slots.map Slot.entry) position record (inner ++ ']' :: rest) =
        .ok (after, behind) ∧ closeList behind = .ok rest := by
  induction slots generalizing seen position items inner record with
  | nil =>
      obtain rfl := List.eq_nil_of_length_eq_zero (Nat.le_zero.mp short)
      cases written with
      | nil blank =>
          cases puts
          exact ⟨_, rfl, closeList_eq_ok_iff.mpr ⟨_, blank, rfl⟩⟩
  | cons slot slots inductionHypothesis =>
      obtain ⟨member, laterMembers⟩ := List.forall_mem_cons.mp members
      cases written with
      | @nil _ space blank =>
          cases puts with
          | nil complete =>
              have optional : ∀ entry ∈ (slot :: slots).map Slot.entry,
                  entry.required = false := by
                rw [List.forall_mem_map]
                intro other present
                rw [← Bool.not_eq_true]
                intro required
                exact unseen other present
                  ((layout.missing?_eq_none_iff seen).mp complete other (members other present)
                    required)
              refine ⟨']' :: rest, ?_, closeList_eq_ok_iff.mpr ⟨[], List.forall_mem_nil _, rfl⟩⟩
              rw [List.map_cons, readArray_blank _ _ _ _ blank, readArray_end]
              exact ⟨optional, rfl, rfl⟩
      | @cons _ lead item text items leads more =>
          obtain ⟨value, laterValues⟩ := List.forall_mem_cons.mp values
          have separated := leads.nextItem_value value .keep (text ++ ']' :: rest)
          rw [List.map_cons, List.zip_cons_cons] at puts
          cases puts with
          | @cons _ _ _ _ next _ put others =>
              obtain ⟨behind, later, closed⟩ :=
                @inductionHypothesis laterMembers (List.nodup_cons.mp distinct).2 _
                  (unseen_cons distinct unseen) (position + 1) _ _ more laterValues
                  (Nat.le_of_succ_le_succ short) _ others
              refine ⟨behind, ?_, closed⟩
              cases put with
              | unknown absent => exact absurd (layout.key_mem_keys member) absent
              | @known other content _ otherMember named _ has =>
                  obtain rfl := layout.eq_of_key otherMember member named
                  have read := (layout.follows other member).complete has [] _
                    (List.forall_mem_nil _) (more.endsNumber rest)
                  rw [List.nil_append] at read
                  rw [List.map_cons, List.append_assoc, List.append_assoc]
                  unfold Schema.readArray
                  simp only [separated, Slot.entry, Entry.of, read, later, bind, Except.bind,
                    if_true, pure, Except.pure]
/-! ## Reading a record -/

/-- What is read between braces is a record. -/
theorem isRecord_of_readObject
    (layout : Layout schema)
    {fuel : Nat}
    {record : ρ}
    {text behind rest : List Char}
    (read : schema.readObject fuel true [] schema.start text = .ok (record, behind))
    (closed : closeObject behind = .ok rest) :
    ∃ inner, layout.IsRecord (inBraces inner) record ∧ text = inner ++ '\x7d' :: rest := by
  obtain ⟨members, parts, inner, tail, written, values, names, puts, rfl, rfl⟩ :=
    layout.puts_of_readObject read
  obtain ⟨gap, gapBlank, brace⟩ := closeObject_eq_ok_iff.mp closed
  have dark := Blank.unique (List.forall_mem_nil _) gapBlank (dark_cons rfl tail)
    (dark_cons rfl rest) brace
  obtain rfl := (List.cons.inj dark).2
  obtain ⟨distinct, known, placed⟩ := layout.fits_start_iff.mp (puts_iff_fits.mp puts)
  exact ⟨inner, ⟨parts, .object ⟨⟨inner, written, rfl⟩, values⟩ names distinct known, placed⟩, rfl⟩

/-- What is read between brackets is a record. -/
theorem isRecord_of_readArray
    (layout : Layout schema)
    {record : ρ}
    {text behind rest : List Char}
    (read : schema.readArray schema.entries 0 schema.start text = .ok (record, behind))
    (closed : closeList behind = .ok rest) :
    ∃ inner, layout.IsRecord (inBrackets inner) record ∧ text = inner ++ ']' :: rest := by
  rw [layout.entries] at read
  obtain ⟨items, inner, written, values, short, puts, rfl⟩ :=
    layout.puts_of_readArray (fun _ member => member) layout.distinct
      (fun _ _ => List.not_mem_nil) (fun _ member => .inl member) read closed
  rw [← layout.keys_eq] at puts
  have bound : items.length ≤ schema.keys.length := by
    rwa [layout.keys_eq, List.length_map]
  obtain ⟨-, -, placed⟩ := layout.fits_start_iff.mp (puts_iff_fits.mp puts)
  exact ⟨inner, ⟨_, .array ⟨⟨inner, written, rfl⟩, values⟩ bound, placed⟩, rfl⟩

/-- A record is read from its texts. -/
theorem follows_read [Conversion] (layout : Layout schema) :
    Follows schema.read layout.IsRecord where
  sound := by
    intro text record rest read
    unfold Schema.read at read
    split at read
    case h_1 tail skipped =>
      obtain ⟨space, blank, rfl⟩ := exists_blank_of_skipSpace skipped
      obtain ⟨⟨after, behind⟩, objectRead, further⟩ := bind_eq_ok_iff.mp read
      obtain ⟨last, closed, made⟩ := bind_eq_ok_iff.mp further
      cases made
      obtain ⟨inner, isRecord, rfl⟩ := layout.isRecord_of_readObject objectRead closed
      exact ⟨space, inBraces inner, blank, isRecord, by simp [inBraces]⟩
    case h_2 tail skipped =>
      obtain ⟨space, blank, rfl⟩ := exists_blank_of_skipSpace skipped
      obtain ⟨⟨after, behind⟩, arrayRead, further⟩ := bind_eq_ok_iff.mp read
      obtain ⟨last, closed, made⟩ := bind_eq_ok_iff.mp further
      cases made
      obtain ⟨inner, isRecord, rfl⟩ := layout.isRecord_of_readArray arrayRead closed
      exact ⟨space, inBrackets inner, blank, isRecord, by simp [inBrackets]⟩
    case h_3 => cases read
  complete := by
    rintro text record ⟨parts, offers, placed⟩ space rest blank ends
    unfold Schema.read
    cases offers with
    | @object members _ object names distinct known =>
        obtain ⟨⟨inner, written, rfl⟩, values⟩ := object
        have puts := puts_iff_fits.mpr (layout.fits_start_iff.mpr ⟨distinct, known, placed⟩)
        have count := written.length_le.1
        have fuel : members.length < (inner ++ '\x7d' :: rest).length + 1 := by
          simp only [List.length_cons, List.length_append]
          omega
        have read := readObject_of_puts written (fun member present => (values member present).2)
          names puts fuel rest
        have closed : closeObject ('\x7d' :: rest) = .ok rest :=
          closeObject_eq_ok_iff.mpr ⟨[], List.forall_mem_nil _, rfl⟩
        rw [inBraces, List.cons_append, List.append_assoc, List.singleton_append,
          skipSpace_cons blank rfl]
        simp only [read, closed, bind, Except.bind, pure, Except.pure]
    | @array items array short =>
        obtain ⟨⟨inner, written, rfl⟩, values⟩ := array
        have known : schema.closed = true →
            ∀ part ∈ schema.keys.zip items, part.1 ∈ schema.keys :=
          fun _ part present => (List.of_mem_zip present).1
        have puts := puts_iff_fits.mpr
          (layout.fits_start_iff.mpr ⟨layout.nodup_zip items, known, placed⟩)
        rw [layout.keys_eq] at puts
        rw [layout.keys_eq, List.length_map] at short
        obtain ⟨behind, read, closed⟩ := readArray_of_puts (fun _ member => member)
          layout.distinct (fun _ _ => List.not_mem_nil) 0 written values short puts rest
        rw [← layout.entries] at read
        rw [inBrackets, List.cons_append, List.append_assoc, List.singleton_append,
          skipSpace_cons blank rfl]
        simp only [read, closed, bind, Except.bind, pure, Except.pure]

end Layout
end Json
end DualPhy
