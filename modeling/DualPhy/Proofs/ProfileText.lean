import DualPhy.Profile.Printer
import DualPhy.Profile.Reader
import DualPhy.Proofs.RecordText
import DualPhy.Proofs.ShortNumber

/-!
# Profiles and their text

A profile whose parameters are finite is written and read back unchanged; one that holds
something else is refused, with the first such parameter named. Both the writer and the
reader are those of the program; what is assumed of the conversion of numbers is stated
where it is used.
-/

namespace DualPhy

namespace Json

/-- An entry that is read by a reader gives what the reader gives. -/
theorem Entry.reads_of
    {reader : Reader α}
    {text : List Char}
    {value : α}
    (reads : Reads reader text value)
    (key : String)
    (required : Bool)
    (store : α → ρ → ρ) :
    Reads (Entry.of key required reader store).read text (store value) := by
  intro space rest blank ends
  simp only [Entry.of, reads space rest blank ends, bind, Except.bind, pure, Except.pure]

/-- Nothing is missing from a schema without required entries. -/
theorem Schema.missing?_of_optional
    {schema : Schema ρ}
    (optional : ∀ entry ∈ schema.entries, entry.required = false)
    (seen : List String) :
    schema.missing? seen = none := by
  unfold missing?
  rw [List.find?_eq_none]
  intro entry member
  simp [optional entry member]

end Json

open Json (Reads Schema Entry)

/-- Every parameter is listed. -/
theorem Parameter.mem_all (parameter : Parameter) : parameter ∈ Parameter.all := by
  cases parameter <;> decide

namespace TuningMode

theorem reads_read [Json.Conversion] (mode : TuningMode) :
    Reads read (Json.stringText mode.keyword) mode := by
  intro space rest blank ends
  have name := Json.readString_escaped mode.keyword rest
  have known : ofName mode.keyword = .ok mode := by
    cases mode <;> rfl
  unfold read Json.stringText
  rw [List.cons_append, Json.skipSpace_cons blank rfl]
  simp only [readName, List.append_assoc, List.cons_append, List.nil_append, name, known, bind,
    Except.bind, pure, Except.pure]

end TuningMode

namespace Channels

/-- The channels as members of their document. -/
def fields (channels : Channels) : List (Json.Field Channels) :=
  [ ⟨"rx", .number (.ofNat channels.rx.toNat), fun other => { other with rx := channels.rx }⟩,
    ⟨"tx", .number (.ofNat channels.tx.toNat), fun other => { other with tx := channels.tx }⟩ ]

theorem reads_schema [Json.Conversion] (channels : Channels) (level : Nat) :
    Reads schema.read (Json.indentedChars level channels.toJson) channels := by
  have accepts : ∀ field ∈ channels.fields, schema.Accepts (level + 1) field := by
    simp only [fields, List.forall_mem_cons]
    exact ⟨⟨_, rfl, Entry.reads_of (Json.reads_readUInt32 channels.rx) _ _ _⟩,
      ⟨_, rfl, Entry.reads_of (Json.reads_readUInt32 channels.tx) _ _ _⟩, List.forall_mem_nil _⟩
  exact Schema.reads_object accepts (by simp [fields]) rfl

end Channels

namespace Overrides

/-- The parameters that are set, as members of their document. -/
def fields (overrides : Overrides) (parameters : List Parameter) : List (Json.Field Overrides) :=
  parameters.filterMap fun parameter =>
    (overrides.get parameter).map fun value =>
      ⟨parameter.key, .number (.real value), fun other => other.set parameter (some value)⟩

theorem map_pair_fields (overrides : Overrides) (parameters : List Parameter) :
    (overrides.fields parameters).map Json.Field.member =
      parameters.filterMap fun parameter =>
        (overrides.get parameter).map fun value => (parameter.key, .number (.real value)) := by
  simp only [fields, List.map_filterMap, Option.map_map]
  rfl

/-- No parameter is written twice. -/
theorem nodup_keys_fields (overrides : Overrides) :
    ((overrides.fields Parameter.all).map Json.Field.key).Nodup := by
  have keys : (overrides.fields Parameter.all).map Json.Field.key =
      (Parameter.all.filter fun parameter => (overrides.get parameter).isSome).map
        Parameter.key := by
    induction Parameter.all with
    | nil => rfl
    | cons parameter parameters inductionHypothesis =>
        cases set : overrides.get parameter with
        | none => simpa [fields, set] using inductionHypothesis
        | some value => simpa [fields, set] using inductionHypothesis
  have all : (Parameter.all.map Parameter.key).Nodup := by decide
  rw [keys]
  exact all.sublist (List.filter_sublist.map _)

/-- The parameters that are put in place are those that are set. -/
theorem get_storeAll_fields
    (overrides start : Overrides)
    (parameters : List Parameter)
    (parameter : Parameter) :
    (Json.Field.storeAll (overrides.fields parameters) start).get parameter =
      if parameter ∈ parameters ∧ (overrides.get parameter).isSome then overrides.get parameter
      else start.get parameter := by
  induction parameters generalizing start with
  | nil => simp [fields, Json.Field.storeAll]
  | cons first parameters inductionHypothesis =>
      cases set : overrides.get first with
      | none =>
          have skipped : overrides.fields (first :: parameters) = overrides.fields parameters := by
            simp [fields, set]
          rw [skipped, inductionHypothesis]
          by_cases same : parameter = first
          · simp [same, set]
          · simp [same]
      | some value =>
          have stored : Json.Field.storeAll (overrides.fields (first :: parameters)) start =
              Json.Field.storeAll (overrides.fields parameters)
                (start.set first (some value)) := by
            simp [fields, set, Json.Field.storeAll]
          rw [stored, inductionHypothesis, PerParameter.get_set]
          by_cases same : parameter = first
          · simp [same, set]
          · simp [same]

theorem storeAll_fields (overrides : Overrides) :
    Json.Field.storeAll (overrides.fields Parameter.all) none = overrides := by
  apply PerParameter.ext_get
  intro parameter
  rw [get_storeAll_fields]
  cases set : overrides.get parameter with
  | none => simp [none]
  | some value => simp [Parameter.mem_all]

/-- Every parameter has its entry. -/
theorem find?_schema [Json.Conversion] (parameter : Parameter) :
    (schema.entries.find? fun entry => entry.key == parameter.key) =
      some (.of parameter.key false Json.readOptionalReal fun value overrides =>
        overrides.set parameter value) := by
  cases parameter <;> rfl

/-- Whether every parameter that is set satisfies a property. -/
def All (property : Binary64 → Prop) (overrides : Overrides) : Prop :=
  ∀ parameter value, overrides.get parameter = some value → property value

theorem reads_schema
    [Json.Conversion]
    {overrides : Overrides}
    (finite : overrides.All fun value => value.isFinite = true)
    (readsBack : overrides.All Json.Conversion.ReadsBack)
    (level : Nat) :
    Reads schema.read (Json.indentedChars level overrides.toJson) overrides := by
  have accepts : ∀ field ∈ overrides.fields Parameter.all, schema.Accepts (level + 1) field := by
    intro field member
    obtain ⟨parameter, -, made⟩ := List.mem_filterMap.mp member
    obtain ⟨value, set, rfl⟩ := Option.map_eq_some_iff.mp made
    have reads := Json.reads_readOptionalReal (finite parameter value set)
      (readsBack parameter value set)
    have text : Json.indentedChars (level + 1) (.number (.real value)) =
        Decimal.document value := by
      rw [Json.indentedChars, Json.Number.text, if_pos (finite parameter value set)]
    refine ⟨_, find?_schema parameter, ?_⟩
    rw [text]
    exact Entry.reads_of reads _ _ _
  have optional : ∀ entry ∈ (schema : Schema Overrides).entries, entry.required = false := by
    intro entry member
    obtain ⟨parameter, -, rfl⟩ := List.mem_map.mp member
    rfl
  have reads := Schema.reads_object accepts overrides.nodup_keys_fields
    (Schema.missing?_of_optional optional _)
  rw [map_pair_fields, show (schema : Schema Overrides).start = none from rfl,
    storeAll_fields] at reads
  exact reads

end Overrides

namespace Profile

/-! ## Instance names -/

/-- The instance names as members of their document. -/
def roleFields (roles : PerRole String) : List (Json.Field (PerRole String)) :=
  Role.all.map fun role =>
    ⟨role.key, .string (roles.get role), fun other => other.set role (roles.get role)⟩

theorem reads_rolesSchema [Json.Conversion] (roles : PerRole String) (level : Nat) :
    Reads rolesSchema.read (Json.indentedChars level (rolesToJson roles)) roles := by
  have found : ∀ role : Role,
      (rolesSchema.entries.find? fun entry => entry.key == role.key) =
        some (.of role.key false Json.readText fun name roles => roles.set role name) := by
    intro role
    cases role <;> rfl
  have accepts : ∀ field ∈ roleFields roles, rolesSchema.Accepts (level + 1) field := by
    intro field member
    obtain ⟨role, -, rfl⟩ := List.mem_map.mp member
    exact ⟨_, found role, Entry.reads_of (Json.reads_readText (roles.get role)) _ _ _⟩
  have distinct : ((roleFields roles).map Json.Field.key).Nodup := by
    have keys : (roleFields roles).map Json.Field.key = Role.all.map Role.key := by
      simp [roleFields]
    rw [keys]
    decide
  have optional : ∀ entry ∈ (rolesSchema : Schema (PerRole String)).entries,
      entry.required = false := by
    intro entry member
    obtain ⟨role, -, rfl⟩ := List.mem_map.mp member
    rfl
  have stored : Json.Field.storeAll (roleFields roles) rolesSchema.start = roles := rfl
  have reads := Schema.reads_object accepts distinct (Schema.missing?_of_optional optional _)
  rwa [stored] at reads

/-! ## Both PHYs -/

/-- The text of an object starts with a brace. -/
theorem indentedChars_object (level : Nat) (members : List (String × Json)) :
    ∃ text, Json.indentedChars level (.object members) = '\x7b' :: text := by
  rw [Json.indentedChars]
  unfold Json.bracketed
  split <;> exact ⟨_, rfl⟩

/-- The parameters of a PHY are an item of the list of both. -/
theorem read_item
    [Json.Conversion]
    {overrides : Overrides}
    {level : Nat}
    (reads : Reads Overrides.schema.read (Json.indentedChars level overrides.toJson) overrides)
    {rest : List Char}
    (ends : Json.EndsNumber rest) :
    ∃ text,
      Json.skipSpace
          (Json.newLine level ++ (Json.indentedChars level overrides.toJson ++ rest)) =
        '\x7b' :: text ∧
      Overrides.schema.read ('\x7b' :: text) = .ok (overrides, rest) := by
  have value := reads [] rest (List.forall_mem_nil _) ends
  obtain ⟨text, start⟩ := indentedChars_object level (Parameter.all.filterMap fun parameter =>
    (overrides.get parameter).map fun value => (parameter.key, .number (.real value)))
  rw [Overrides.toJson, start, List.nil_append, List.cons_append] at value
  rw [Overrides.toJson, start, List.cons_append]
  exact ⟨text ++ rest, Json.skipSpace_cons (fun _ => Json.isSpace_of_mem_newLine) rfl _, value⟩

theorem readPairItem_first
    [Json.Conversion]
    {overrides : Overrides}
    {level : Nat}
    (reads : Reads Overrides.schema.read (Json.indentedChars level overrides.toJson) overrides)
    {rest : List Char}
    (ends : Json.EndsNumber rest) :
    readPairItem 0 (Json.newLine level ++ (Json.indentedChars level overrides.toJson ++ rest)) =
      .ok (overrides, rest) := by
  obtain ⟨text, brace, value⟩ := read_item reads ends
  unfold readPairItem Json.nextItem
  simp only [beq_self_eq_true, brace, bind, Except.bind]
  exact value

theorem readPairItem_second
    [Json.Conversion]
    {overrides : Overrides}
    {level : Nat}
    (reads : Reads Overrides.schema.read (Json.indentedChars level overrides.toJson) overrides)
    {rest : List Char}
    (ends : Json.EndsNumber rest) :
    readPairItem 1
        (',' :: (Json.newLine level ++ (Json.indentedChars level overrides.toJson ++ rest))) =
      .ok (overrides, rest) := by
  obtain ⟨text, brace, value⟩ := read_item reads ends
  have comma : ∀ text, Json.skipSpace (',' :: text) = ',' :: text := fun _ => rfl
  have later : ((1 : Nat) == 0) = false := rfl
  unfold readPairItem Json.nextItem
  simp only [later, comma, Json.afterItemComma, brace, bind, Except.bind, Except.map]
  exact value

theorem reads_readPair
    [Json.Conversion]
    {overrides : PerPhy Overrides}
    (level : Nat)
    (reads : ∀ phy, Reads Overrides.schema.read
      (Json.indentedChars (level + 1) (overrides.get phy).toJson) (overrides.get phy)) :
    Reads readPair
      (Json.indentedChars level (.array [overrides.phy0.toJson, overrides.phy1.toJson]))
      overrides := by
  intro space rest blank ends
  have first := readPairItem_first (reads .phy0) (Json.endsNumber_comma
    (Json.newLine (level + 1) ++ (Json.indentedChars (level + 1) overrides.phy1.toJson ++
      (Json.newLine level ++ ']' :: rest))))
  have second := readPairItem_second (reads .phy1)
    (Json.endsNumber_newLine level (']' :: rest))
  have closed : Json.closeList (Json.newLine level ++ ']' :: rest) = .ok rest := by
    have bracket : Json.skipSpace (Json.newLine level ++ ']' :: rest) = ']' :: rest :=
      Json.skipSpace_cons (fun _ => Json.isSpace_of_mem_newLine) rfl _
    simp only [Json.closeList, bracket]
  have start : Json.indentedChars level
      (.array [overrides.phy0.toJson, overrides.phy1.toJson]) ++ rest =
        '[' :: (Json.newLine (level + 1) ++
          (Json.indentedChars (level + 1) overrides.phy0.toJson ++
            ',' :: (Json.newLine (level + 1) ++
              (Json.indentedChars (level + 1) overrides.phy1.toJson ++
                (Json.newLine level ++ ']' :: rest))))) := by
    simp [Json.indentedChars, Json.bracketed, Json.indentedItems, Json.separated]
  rw [start]
  unfold readPair
  rw [Json.skipSpace_cons blank rfl]
  simp only [PerPhy.get] at first second
  simp only [first, second, closed, bind, Except.bind, pure, Except.pure]

/-! ## Whole profiles -/

/-- A profile as the members of its document. -/
def fields (profile : Profile) : List (Json.Field Profile) :=
  [ ⟨"tuning_mode", profile.mode.toJson, fun other => { other with mode := profile.mode }⟩,
    ⟨"channels", profile.channels.toJson, fun other =>
      { other with channels := profile.channels }⟩,
    ⟨"phys", .array [profile.overrides.phy0.toJson, profile.overrides.phy1.toJson],
      fun other => { other with overrides := profile.overrides }⟩,
    ⟨"roles", rolesToJson profile.roles, fun other => { other with roles := profile.roles }⟩ ]

/-- Whether every parameter that a profile sets satisfies a property. -/
def All (property : Binary64 → Prop) (profile : Profile) : Prop :=
  ∀ phy, (profile.overrides.get phy).All property

/-- Whether every parameter that a profile sets is a finite number. -/
abbrev IsFinite (profile : Profile) : Prop := profile.All fun value => value.isFinite = true

theorem reads_schema
    [Json.Conversion]
    {profile : Profile}
    (finite : profile.IsFinite)
    (readsBack : profile.All Json.Conversion.ReadsBack)
    (level : Nat) :
    Reads schema.read (Json.indentedChars level profile.toJson) profile := by
  have pair := reads_readPair (level + 1) fun phy =>
    Overrides.reads_schema (finite phy) (readsBack phy) (level + 1 + 1)
  have accepts : ∀ field ∈ profile.fields, schema.Accepts (level + 1) field := by
    simp only [fields, List.forall_mem_cons]
    exact ⟨⟨_, rfl, Entry.reads_of profile.mode.reads_read _ _ _⟩,
      ⟨_, rfl, Entry.reads_of (profile.channels.reads_schema (level + 1)) _ _ _⟩,
      ⟨_, rfl, Entry.reads_of pair _ _ _⟩,
      ⟨_, rfl, Entry.reads_of (reads_rolesSchema profile.roles (level + 1)) _ _ _⟩,
      List.forall_mem_nil _⟩
  have distinct : (profile.fields.map Json.Field.key).Nodup := by
    simp [fields]
  have optional : ∀ entry ∈ (schema : Schema Profile).entries, entry.required = false := by
    simp [schema, Entry.of]
  exact Schema.reads_object accepts distinct (Schema.missing?_of_optional optional _)

/-- A profile sets a parameter of a PHY to something other than a finite number. -/
def Offends (profile : Profile) (phy : Phy) (parameter : Parameter) : Prop :=
  ∃ value, (profile.overrides.get phy).get parameter = some value ∧ value.isFinite = false

/-- The parameters of both PHYs in the order of their declaration, PHY 0 first. -/
def places : List (Phy × Parameter) :=
  Phy.all.flatMap fun phy => Parameter.all.map fun parameter => (phy, parameter)

/-- The first place of a profile that holds something other than a finite number. -/
structure FirstOffence (profile : Profile) (phy : Phy) (parameter : Parameter) : Prop where
  offends : profile.Offends phy parameter
  first : ∃ front back, places = front ++ (phy, parameter) :: back ∧
    ∀ place ∈ front, ¬ profile.Offends place.1 place.2

/-! ## The check of the parameters -/

theorem nonFinite?_eq_none_iff (overrides : Overrides) :
    overrides.nonFinite? = none ↔ overrides.All fun value => value.isFinite = true := by
  unfold Overrides.nonFinite? Overrides.All
  rw [List.find?_eq_none]
  constructor
  · intro absent parameter value set
    simpa [set] using absent parameter parameter.mem_all
  · intro finite parameter listed
    cases set : overrides.get parameter with
    | none => simp
    | some value => simp [finite parameter value set]

theorem nonFinite?_eq_some
    {profile : Profile}
    {phy : Phy}
    {parameter : Parameter}
    (found : (profile.overrides.get phy).nonFinite? = some parameter) :
    profile.Offends phy parameter ∧
      ∃ front back, Parameter.all = front ++ parameter :: back ∧
        ∀ other ∈ front, ¬ profile.Offends phy other := by
  unfold Overrides.nonFinite? at found
  obtain ⟨offends, front, back, split, before⟩ := List.find?_eq_some_iff_append.mp found
  constructor
  · obtain ⟨value, set, infinite⟩ := Option.any_eq_true _ _ |>.mp offends
    exact ⟨value, set, by simpa using infinite⟩
  · refine ⟨front, back, split, ?_⟩
    rintro other member ⟨value, set, infinite⟩
    have sound := before other member
    simp [set, infinite] at sound

theorem checkFinite_of_finite {profile : Profile} (finite : profile.IsFinite) :
    profile.checkFinite = .ok () := by
  have first := (nonFinite?_eq_none_iff _).mpr (finite .phy0)
  have second := (nonFinite?_eq_none_iff _).mpr (finite .phy1)
  unfold checkFinite
  rw [first, second]

theorem places_eq :
    places = Parameter.all.map (fun parameter => (Phy.phy0, parameter)) ++
      Parameter.all.map (fun parameter => (Phy.phy1, parameter)) := rfl

theorem firstOffence_phy0
    {profile : Profile}
    {parameter : Parameter}
    (found : (profile.overrides.get .phy0).nonFinite? = some parameter) :
    profile.FirstOffence .phy0 parameter := by
  obtain ⟨offends, front, back, split, before⟩ := nonFinite?_eq_some found
  refine ⟨offends, front.map (fun other => (Phy.phy0, other)),
    back.map (fun other => (Phy.phy0, other)) ++
      Parameter.all.map (fun other => (Phy.phy1, other)), ?_, ?_⟩
  · rw [places_eq]
    nth_rewrite 1 [split]
    simp
  · intro place member
    obtain ⟨other, present, rfl⟩ := List.mem_map.mp member
    exact before other present

/-- An offence of the second PHY is the first one if the other PHY has none. -/
theorem firstOffence_phy1
    {profile : Profile}
    {parameter : Parameter}
    (sound : (profile.overrides.get .phy0).nonFinite? = none)
    (found : (profile.overrides.get .phy1).nonFinite? = some parameter) :
    profile.FirstOffence .phy1 parameter := by
  have finite := (nonFinite?_eq_none_iff _).mp sound
  obtain ⟨offends, front, back, split, before⟩ := nonFinite?_eq_some found
  refine ⟨offends,
    Parameter.all.map (fun other => (Phy.phy0, other)) ++
      front.map (fun other => (Phy.phy1, other)),
    back.map (fun other => (Phy.phy1, other)), ?_, ?_⟩
  · rw [places_eq]
    nth_rewrite 2 [split]
    simp
  · intro place member
    rcases List.mem_append.mp member with earlier | later
    · obtain ⟨other, -, rfl⟩ := List.mem_map.mp earlier
      rintro ⟨value, set, notFinite⟩
      have isFinite := finite other value set
      simp [notFinite] at isFinite
    · obtain ⟨other, present, rfl⟩ := List.mem_map.mp later
      exact before other present

/-- A profile that is not finite is refused for its first offence. -/
theorem checkFinite_of_not_finite {profile : Profile} (infinite : ¬ profile.IsFinite) :
    ∃ phy parameter, profile.FirstOffence phy parameter ∧
      profile.checkFinite = .error (.notFinite phy parameter) := by
  unfold checkFinite
  cases first : (profile.overrides.get .phy0).nonFinite? with
  | some parameter => exact ⟨.phy0, parameter, firstOffence_phy0 first, rfl⟩
  | none =>
      cases second : (profile.overrides.get .phy1).nonFinite? with
      | some parameter => exact ⟨.phy1, parameter, firstOffence_phy1 first second, rfl⟩
      | none =>
          refine absurd ?_ infinite
          intro phy
          cases phy with
          | phy0 => exact (nonFinite?_eq_none_iff _).mp first
          | phy1 => exact (nonFinite?_eq_none_iff _).mp second

/-- A profile is finite exactly when the check passes. -/
theorem isFinite_iff_checkFinite (profile : Profile) :
    profile.IsFinite ↔ profile.checkFinite = .ok () := by
  constructor
  · exact checkFinite_of_finite
  · intro passed
    by_contra infinite
    obtain ⟨phy, parameter, -, refused⟩ := checkFinite_of_not_finite infinite
    rw [passed] at refused
    cases refused

/-! ## Writing and reading -/

/-- A finite profile is read back from its text, if the conversion gives its values
back. -/
theorem parse_print_of_readsBack
    [Json.Conversion]
    {profile : Profile}
    (finite : profile.IsFinite)
    (readsBack : profile.All Json.Conversion.ReadsBack) :
    ∃ text, profile.print = .ok text ∧ parse text = .ok profile := by
  have passed := checkFinite_of_finite finite
  refine ⟨profile.toJson.indented, ?_, ?_⟩
  · simp only [print, passed, bind, Except.bind, pure, Except.pure]
  · have reads := reads_schema finite readsBack 0 [] [] (List.forall_mem_nil _)
      Json.endsNumber_nil
    rw [List.nil_append, List.append_nil] at reads
    have document : Json.readDocument schema.read profile.toJson.indented = .ok profile := by
      simp only [Json.readDocument, Json.indented, String.toList_ofList, reads, bind, Except.bind]
      rfl
    simp only [parse, document, passed, bind, Except.bind, pure, Except.pure]

/-- With the conversion in use, a profile is read back from its text if its numbers are
short. -/
theorem parse_print_of_short
    {profile : Profile}
    (finite : profile.IsFinite)
    (short : profile.All fun value => (Json.Literal.ofValue value).exact.IsShort) :
    ∃ text, profile.print = .ok text ∧ parse text = .ok profile := by
  apply parse_print_of_readsBack finite
  intro phy parameter value set
  exact Json.Conversion.readsBack_scaled (finite phy parameter value set)
    (short phy parameter value set)

/-- A profile that was accepted is finite. -/
theorem isFinite_of_parse
    [Json.Conversion]
    {text : String}
    {profile : Profile}
    (accepted : parse text = .ok profile) :
    profile.IsFinite := by
  rw [isFinite_iff_checkFinite]
  unfold parse at accepted
  cases document : Json.readDocument schema.read text with
  | error problem => simp [document] at accepted
  | ok read =>
      cases passed : read.checkFinite with
      | error problem => simp [document, passed, bind, Except.bind] at accepted
      | ok checked =>
          simp only [document, passed, bind, Except.bind, pure, Except.pure,
            Except.ok.injEq] at accepted
          rw [← accepted]
          exact passed

/-- With a correct conversion of numbers, every finite profile is written and read back
unchanged, bit for bit. Any other profile is refused, and the message names the first
parameter that is not finite. So every profile that was accepted is saved and read back
unchanged. -/
theorem print_then_parse
    [Json.Conversion]
    (correct : Json.Conversion.Correct)
    (profile : Profile) :
    (profile.IsFinite → ∃ text, profile.print = .ok text ∧ parse text = .ok profile) ∧
      (¬ profile.IsFinite → ∃ phy parameter, profile.FirstOffence phy parameter ∧
        ∃ problem, profile.print = .error problem ∧
          problem.message =
            "phys[" ++ toString phy.index ++ "]." ++ parameter.key ++
              " is not a finite number") ∧
      ∀ source, parse source = .ok profile →
        ∃ text, profile.print = .ok text ∧ parse text = .ok profile := by
  have survives : profile.IsFinite →
      ∃ text, profile.print = .ok text ∧ parse text = .ok profile := by
    intro finite
    apply parse_print_of_readsBack finite
    intro phy parameter value set
    exact correct.readsBack (finite phy parameter value set)
  refine ⟨survives, ?_, fun source accepted => survives (isFinite_of_parse accepted)⟩
  intro infinite
  obtain ⟨phy, parameter, offence, refused⟩ := checkFinite_of_not_finite infinite
  refine ⟨phy, parameter, offence, .notFinite phy parameter, ?_, rfl⟩
  simp only [print, refused, bind, Except.bind]

/-- A profile with a tenth, a negative zero, a large and a small number, and with names
of quotes, backslashes, control characters and characters beyond sixteen bits. -/
def intricate : Profile where
  mode := .direct
  channels := ⟨4294967295, 0⟩
  overrides :=
    ⟨(Overrides.none.set .rxGain (some (.ofBits 0x3FB999999999999A))).set .txGain
        (some (.zero true)),
      (Overrides.none.set .sampleRate (some (.ofBits 0x7E37E43C8800759C))).set .txFrequencyOffset
        (some (.ofBits 1))⟩
  roles :=
    { sourceSelector := "a \"quoted\" name"
      sinkSelector := "back\\slash"
      messageSelector := "line\nfeed\x01"
      rfSource := ""
      rfSink := "𝄞 𐍈" }

/-- On the numbers of this profile the conversion in use is correct. -/
theorem print_then_parse_intricate :
    (∀ place ∈ places, ∀ value ∈ (intricate.overrides.get place.1).get place.2,
      Json.Conversion.scaled.real (Json.Literal.ofValue value) =
        Json.Conversion.nearest.real (Json.Literal.ofValue value)) ∧
      ∃ text, intricate.print = .ok text ∧
        @parse Json.Conversion.nearest text = .ok intricate := by
  have finite : intricate.IsFinite := by
    intro phy
    rw [← nonFinite?_eq_none_iff]
    cases phy <;> decide +kernel
  refine ⟨by decide +kernel, ?_⟩
  exact (@print_then_parse Json.Conversion.nearest Json.Conversion.correct_nearest
    intricate).1 finite

end Profile
end DualPhy
