import DualPhy.Phy.Assignment
import DualPhy.Proofs.NumeralGrammar

/-!
# The grammar of assignments

Which texts set a parameter, which parameter they set and to which value, and what is said about
every other text. The first equals sign separates the name from the value. White space around
either of them does not count, and a name may be written in capitals and with underscores in the
place of dashes. A text that could be refused for its value and for its name is refused for its
value.
-/

namespace DualPhy

/-! ## White space -/

namespace Text

/-- A text that is another one with white space around it. The other one has none at its ends. -/
structure Surrounds (text core : List Char) : Prop where
  space : ∃ before after, (∀ letter ∈ before, isBlank letter = true) ∧
    (∀ letter ∈ after, isBlank letter = true) ∧ text = before ++ (core ++ after)
  first : ∀ letter ∈ core.head?, isBlank letter = false
  last : ∀ letter ∈ core.getLast?, isBlank letter = false

/-- What remains of a text behind its leading white space. -/
theorem head_dropWhile (text : List Char) :
    ∀ letter ∈ (text.dropWhile isBlank).head?, isBlank letter = false := by
  intro letter start
  have dark := List.head?_dropWhile_not isBlank text
  rw [start] at dark
  simpa using dark

theorem surrounds_trim (text : List Char) : Surrounds text (trim text) := by
  have tail : text.dropWhile isBlank =
      trim text ++ ((text.dropWhile isBlank).reverse.takeWhile isBlank).reverse := by
    rw [trim, ← List.reverse_append, List.takeWhile_append_dropWhile, List.reverse_reverse]
  constructor
  case space =>
    refine ⟨text.takeWhile isBlank,
      ((text.dropWhile isBlank).reverse.takeWhile isBlank).reverse,
      List.all_eq_true.mp List.all_takeWhile, ?_, ?_⟩
    · intro letter member
      exact List.all_eq_true.mp List.all_takeWhile letter (List.mem_reverse.mp member)
    · rw [← tail, List.takeWhile_append_dropWhile]
  case first =>
    intro letter start
    apply head_dropWhile text
    rw [tail, List.head?_append, start]
    rfl
  case last =>
    rw [trim, List.getLast?_reverse]
    exact head_dropWhile _

/-- White space in front of a text that starts with none is dropped. -/
theorem dropWhile_append
    {space text : List Char}
    (blank : ∀ letter ∈ space, isBlank letter = true)
    (dark : ∀ letter ∈ text.head?, isBlank letter = false) :
    (space ++ text).dropWhile isBlank = text := by
  rw [List.dropWhile_append_of_pos blank]
  cases text with
  | nil => rfl
  | cons letter text => rw [List.dropWhile_cons_of_neg (by rw [dark letter rfl]; decide)]

/-- Trimming finds the text that white space surrounds. -/
theorem trim_eq_iff {text core : List Char} : trim text = core ↔ Surrounds text core := by
  constructor
  · rintro rfl
    exact surrounds_trim text
  · rintro ⟨⟨before, after, blankBefore, blankAfter, rfl⟩, first, last⟩
    have blankReverse : ∀ letter ∈ after.reverse, isBlank letter = true :=
      fun letter member => blankAfter letter (List.mem_reverse.mp member)
    rw [← List.head?_reverse] at last
    cases core with
    | nil =>
        have all : ∀ letter ∈ before ++ after, isBlank letter = true :=
          List.forall_mem_append.mpr ⟨blankBefore, blankAfter⟩
        have none : (before ++ after ++ []).dropWhile isBlank = [] := dropWhile_append all nofun
        rw [List.append_nil] at none
        rw [List.nil_append, trim, none]
        rfl
    | cons letter rest =>
        have front : ∀ start ∈ (letter :: rest ++ after).head?, isBlank start = false := first
        rw [trim, dropWhile_append blankBefore front, List.reverse_append,
          dropWhile_append blankReverse last, List.reverse_reverse]

end Text

/-! ## Names -/

namespace Parameter

/-- What may be typed for a letter of a name: the letter, its capital, and an underscore for a
dash. -/
inductive Variant : Char → Char → Prop
  /-- The letter itself. -/
  | same (letter : Char) : Variant letter letter
  /-- Its capital. -/
  | capital (letter : Char) : Variant letter letter.toUpper
  /-- An underscore. -/
  | underscore : Variant '-' '_'

/-- The letters that names are made of. -/
def IsNameLetter (letter : Char) : Prop :=
  letter = '-' ∨ 'a'.toNat ≤ letter.toNat ∧ letter.toNat ≤ 'z'.toNat

theorem isNameLetter (parameter : Parameter) :
    ∀ letter ∈ parameter.name.toList, IsNameLetter letter := by
  have checked : (parameter.name.toList.all fun letter =>
      letter = '-' || 'a'.toNat ≤ letter.toNat && letter.toNat ≤ 'z'.toNat) = true := by
    cases parameter <;> decide
  simpa [IsNameLetter] using checked

/-- What is compared with a letter of a name. -/
def normalizeLetter (letter : Char) : Char := if letter = '_' then '-' else letter.toLower

theorem capital_toUpper : ∀ code < 'z'.toNat + 1, 'a'.toNat ≤ code →
    normalizeLetter (Char.ofNat code) = Char.ofNat code ∧
      normalizeLetter (Char.ofNat code).toUpper = Char.ofNat code := by
  decide

theorem toUpper_toLower : ∀ code < 'Z'.toNat + 1, 'A'.toNat ≤ code →
    (Char.ofNat code).toLower.toUpper = Char.ofNat code := by
  decide

/-- The variants of a letter are those that are compared as the letter. -/
theorem normalizeLetter_eq_iff
    {letter typed : Char}
    (named : IsNameLetter letter) :
    normalizeLetter typed = letter ↔ Variant letter typed := by
  constructor
  · rintro rfl
    unfold normalizeLetter
    split
    case isTrue underscore =>
      rw [underscore]
      exact .underscore
    case isFalse =>
      by_cases capital : 'A'.toNat ≤ typed.toNat ∧ typed.toNat ≤ 'Z'.toNat
      · have back := toUpper_toLower typed.toNat (Nat.lt_succ_of_le capital.2) capital.1
        rw [Char.ofNat_toNat] at back
        have variant := Variant.capital typed.toLower
        rwa [back] at variant
      · have small : typed.toLower = typed := by
          apply Char.toNat_inj.mp
          rw [Decimal.toNat_toLower, if_neg capital]
        rw [small]
        exact .same typed
  · intro variant
    rcases named with rfl | small
    · cases variant <;> decide
    · have both := capital_toUpper letter.toNat (Nat.lt_succ_of_le small.2) small.1
      rw [Char.ofNat_toNat] at both
      cases variant with
      | same => exact both.1
      | capital => exact both.2
      | underscore => exact absurd small.1 (by decide)

/-- A text is compared as a name exactly if it is made of variants of the letters of the name. -/
theorem normalize_eq_iff
    {name text : List Char}
    (named : ∀ letter ∈ name, IsNameLetter letter) :
    normalize text = name ↔ List.Forall₂ Variant name text := by
  induction name generalizing text with
  | nil => simp [normalize]
  | cons letter name inductionHypothesis =>
      rw [List.forall_mem_cons] at named
      cases text with
      | nil => simp [normalize]
      | cons typed text =>
          rw [List.forall₂_cons, ← inductionHypothesis named.2, ← normalizeLetter_eq_iff named.1]
          exact List.cons_eq_cons

/-- A text selects the parameter as whose name it is compared. -/
theorem read?_eq_some_iff {text : List Char} {parameter : Parameter} :
    read? text = some parameter ↔ normalize text = parameter.name.toList := by
  constructor
  · intro found
    have same := List.find?_some found
    exact (beq_iff_eq.mp same).symm
  · intro same
    unfold read?
    rw [same]
    cases parameter <;> decide

theorem read?_eq_none_iff {text : List Char} :
    read? text = none ↔ ∀ parameter : Parameter, normalize text ≠ parameter.name.toList := by
  simp only [← read?_eq_some_iff, Ne]
  cases read? text <;> simp

end Parameter

/-! ## Assignments -/

namespace Assignment

open Decimal (Denotes)

/-- The text in front of the first equals sign, and the text behind it. -/
structure SplitsAt (text before after : List Char) : Prop where
  split : text = before ++ '=' :: after
  first : '=' ∉ before

theorem split?_append
    {before : List Char}
    (first : '=' ∉ before)
    (after : List Char) :
    split? (before ++ '=' :: after) = some (before, after) := by
  have others : ∀ letter ∈ before, (letter != '=') = true := by
    intro letter member
    rw [bne_iff_ne]
    rintro rfl
    exact first member
  rw [split?, List.span_eq_takeWhile_dropWhile, List.takeWhile_append_of_pos others,
    List.dropWhile_append_of_pos others]
  simp

theorem split?_of_not_mem {text : List Char} (none : '=' ∉ text) : split? text = Option.none := by
  have others : ∀ letter ∈ text, (letter != '=') = true := by
    intro letter member
    rw [bne_iff_ne]
    rintro rfl
    exact none member
  have rest : (text ++ []).dropWhile (· != '=') = [] := List.dropWhile_append_of_pos others
  rw [List.append_nil] at rest
  rw [split?, List.span_eq_takeWhile_dropWhile, rest]

theorem split?_eq_some_iff {text before after : List Char} :
    split? text = some (before, after) ↔ SplitsAt text before after := by
  constructor
  · intro split
    by_cases member : '=' ∈ text
    · obtain ⟨front, back, rfl, first⟩ := List.eq_append_cons_of_mem member
      rw [split?_append first] at split
      cases split
      exact ⟨rfl, first⟩
    · rw [split?_of_not_mem member] at split
      cases split
  · rintro ⟨rfl, first⟩
    exact split?_append first after

theorem split?_eq_none_iff {text : List Char} : split? text = none ↔ '=' ∉ text := by
  constructor
  · intro none member
    obtain ⟨front, back, rfl, first⟩ := List.eq_append_cons_of_mem member
    rw [split?_append first] at none
    cases none
  · exact split?_of_not_mem

/-- Why a text is refused, and what is said about it. The value is quoted with the white space
around it, the name without. -/
inductive Refused (text : List Char) : AssignmentError → String → Prop
  /-- There is no equals sign. -/
  | noEqualsSign
      (none : '=' ∉ text) :
      Refused text (.noEqualsSign text)
        ("expected <parameter>=<value>, got '" ++ String.ofList text ++ "'")
  /-- There is nothing behind the equals sign, whatever stands in front of it. -/
  | noValue
      {before after : List Char}
      (split : SplitsAt text before after)
      (written : Text.Surrounds after []) :
      Refused text (.badValue after .empty)
        ("bad value '" ++ String.ofList after ++ "': " ++
          "cannot parse float from empty string")
  /-- What stands behind it is no number, whatever stands in front of it. -/
  | badValue
      {before after number : List Char}
      (split : SplitsAt text before after)
      (written : Text.Surrounds after number)
      (nonempty : number ≠ [])
      (refused : ∀ value, ¬ Denotes number value) :
      Refused text (.badValue after .invalid)
        ("bad value '" ++ String.ofList after ++ "': " ++ "invalid float literal")
  /-- A number stands behind it, and no name in front of it. -/
  | unknownName
      {before after name number : List Char}
      {value : Binary64}
      (split : SplitsAt text before after)
      (named : Text.Surrounds before name)
      (written : Text.Surrounds after number)
      (accepted : Denotes number value)
      (unknown : ∀ parameter : Parameter, Parameter.normalize name ≠ parameter.name.toList) :
      Refused text (.unknownName name) ("unknown PHY parameter '" ++ String.ofList name ++ "'")

theorem read_eq_ok_iff {text : List Char} {parameter : Parameter} {value : Binary64} :
    read text = .ok ⟨parameter, value⟩ ↔
      ∃ before after name number, SplitsAt text before after ∧ Text.Surrounds before name ∧
        Text.Surrounds after number ∧ Parameter.normalize name = parameter.name.toList ∧
        Denotes number value := by
  simp only [← split?_eq_some_iff, ← Text.trim_eq_iff, ← Parameter.read?_eq_some_iff,
    ← Binary64.read_eq_ok_iff]
  constructor
  · intro accepted
    unfold read at accepted
    split at accepted
    case h_1 => cases accepted
    case h_2 before after split =>
      split at accepted
      case h_1 => cases accepted
      case h_2 number valueRead =>
        split at accepted
        case h_1 => cases accepted
        case h_2 found parameterRead =>
          cases accepted
          exact ⟨before, after, _, _, split, rfl, rfl, parameterRead, valueRead⟩
  · rintro ⟨before, after, _, _, split, rfl, rfl, parameterRead, valueRead⟩
    simp only [read, split, valueRead, parameterRead]

theorem read_eq_error_iff {text : List Char} {problem : AssignmentError} {message : String} :
    read text = .error problem ∧ problem.message = message ↔ Refused text problem message := by
  constructor
  · rintro ⟨failed, rfl⟩
    unfold read at failed
    split at failed
    case h_1 none =>
      cases failed
      exact .noEqualsSign (split?_eq_none_iff.mp none)
    case h_2 before after split =>
      rw [split?_eq_some_iff] at split
      split at failed
      case h_1 reason valueFailed =>
        cases failed
        obtain ⟨refused, rfl⟩ := Binary64.read_eq_error_iff.mp valueFailed
        have written := Text.surrounds_trim after
        split
        case isTrue empty => exact .noValue split (empty ▸ written)
        case isFalse nonempty => exact .badValue split written nonempty refused
      case h_2 number valueRead =>
        split at failed
        case h_1 unknown =>
          cases failed
          exact .unknownName split (Text.surrounds_trim before) (Text.surrounds_trim after)
            (Binary64.read_eq_ok_iff.mp valueRead) (Parameter.read?_eq_none_iff.mp unknown)
        case h_2 => cases failed
  · intro refused
    cases refused with
    | noEqualsSign none =>
        rw [read, split?_of_not_mem none]
        exact ⟨rfl, rfl⟩
    | noValue split written =>
        rw [read, split?_eq_some_iff.mpr split]
        dsimp only
        rw [Text.trim_eq_iff.mpr written]
        exact ⟨rfl, rfl⟩
    | badValue split written nonempty refused =>
        have failed := Binary64.read_eq_error_iff.mpr ⟨refused, rfl⟩
        rw [if_neg nonempty] at failed
        rw [read, split?_eq_some_iff.mpr split]
        dsimp only
        rw [Text.trim_eq_iff.mpr written, failed]
        exact ⟨rfl, rfl⟩
    | unknownName split named written accepted unknown =>
        rw [read, split?_eq_some_iff.mpr split]
        dsimp only
        rw [Text.trim_eq_iff.mpr written, Text.trim_eq_iff.mpr named,
          Binary64.read_eq_ok_iff.mpr accepted]
        dsimp only
        rw [Parameter.read?_eq_none_iff.mpr unknown]
        exact ⟨rfl, rfl⟩

/-- A text sets a parameter to a value exactly if it has an equals sign, what stands behind the
first one is a number with that value, and what stands in front of it is compared as the name of
the parameter; white space around either does not count. Every other text is refused for the first
of these reasons that applies. The texts that are compared as a name are those made of variants of
its letters, and no others. -/
theorem reading_follows_grammar (text : List Char) :
    (∀ parameter value, read text = .ok ⟨parameter, value⟩ ↔
      ∃ before after name number, SplitsAt text before after ∧ Text.Surrounds before name ∧
        Text.Surrounds after number ∧ Parameter.normalize name = parameter.name.toList ∧
        Denotes number value) ∧
      (∀ problem message, read text = .error problem ∧ problem.message = message ↔
        Refused text problem message) ∧
      ∀ before after number parameter value, SplitsAt text before after →
        Text.Surrounds after number → Denotes number value →
        (read text = .ok ⟨parameter, value⟩ ↔
          ∃ name, Text.Surrounds before name ∧
            List.Forall₂ Parameter.Variant parameter.name.toList name) := by
  refine ⟨fun parameter value => read_eq_ok_iff, fun problem message => read_eq_error_iff, ?_⟩
  intro before after number parameter value split written accepted
  simp only [← Parameter.normalize_eq_iff parameter.isNameLetter]
  rw [read_eq_ok_iff]
  constructor
  · rintro ⟨otherBefore, otherAfter, name, _, otherSplit, named, -, same, -⟩
    have parts := (split?_eq_some_iff.mpr split).symm.trans (split?_eq_some_iff.mpr otherSplit)
    cases parts
    exact ⟨name, named, same⟩
  · rintro ⟨name, named, same⟩
    exact ⟨before, after, name, number, split, named, written, same, accepted⟩

/-- A name in capitals with an underscore, and white space around both parts. A wrong value is
reported before a wrong name. -/
theorem reading_follows_grammar_spaced :
    read " RX_Gain =4e1\n".toList = .ok ⟨.rxGain, .ofNat 40⟩ ∧
      read "power= 1.2.3".toList = .error (.badValue " 1.2.3".toList .invalid) := by
  have split : SplitsAt " RX_Gain =4e1\n".toList " RX_Gain ".toList "4e1\n".toList :=
    ⟨rfl, by decide⟩
  have written : Text.Surrounds "4e1\n".toList "4e1".toList := Text.trim_eq_iff.mp (by decide)
  have named : Text.Surrounds " RX_Gain ".toList "RX_Gain".toList :=
    Text.trim_eq_iff.mp (by decide)
  have accepted : Denotes "4e1".toList (.ofNat 40) :=
    Binary64.read_eq_ok_iff.mp (by decide +kernel)
  have variants : List.Forall₂ Parameter.Variant Parameter.rxGain.name.toList
      "RX_Gain".toList :=
    (Parameter.normalize_eq_iff Parameter.rxGain.isNameLetter).mp (by decide)
  have refused : Refused "power= 1.2.3".toList (.badValue " 1.2.3".toList .invalid)
      "bad value ' 1.2.3': invalid float literal" :=
    read_eq_error_iff.mp ⟨by decide +kernel, by decide⟩
  exact ⟨((reading_follows_grammar _).2.2 _ _ _ _ _ split written accepted).mpr
      ⟨_, named, variants⟩,
    (((reading_follows_grammar _).2.1 _ _).mpr refused).1⟩

end Assignment
end DualPhy
