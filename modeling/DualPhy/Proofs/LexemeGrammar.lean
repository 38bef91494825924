import DualPhy.Proofs.RecordText

/-!
# The grammar of words, strings and numbers

Which texts are words, strings and numbers of a document, and what they stand for. A
reader follows such a form if it accepts exactly the texts that have it, with any white
space in front and with the value that they stand for.
-/

namespace DualPhy
namespace Json

/-- White space, or nothing. -/
abbrev Blank (space : List Char) : Prop := ∀ letter ∈ space, isSpace letter = true

/-- A reader accepts exactly the texts of a form, and gives what they stand for. -/
structure Follows (reader : Reader α) (form : List Char → α → Prop) : Prop where
  /-- What is accepted has the form. -/
  sound : ∀ {text value rest}, reader text = .ok (value, rest) →
    ∃ space body, Blank space ∧ form body value ∧ text = space ++ (body ++ rest)
  /-- What has the form is accepted. -/
  complete : ∀ {body value}, form body value → Reads reader body value

/-- A reader that goes on behind another accepts what both accept. -/
theorem bind_eq_ok_iff
    {result : Except ε α}
    {next : α → Except ε β}
    {value : β} :
    (result >>= next) = .ok value ↔ ∃ first, result = .ok first ∧ next first = .ok value := by
  cases result with
  | error problem => simp [bind, Except.bind]
  | ok first => simp [bind, Except.bind]

theorem map_eq_ok_iff
    {result : Except ε α}
    {change : α → β}
    {value : β} :
    result.map change = .ok value ↔ ∃ first, result = .ok first ∧ change first = value := by
  cases result with
  | error problem => simp [Except.map]
  | ok first => simp [Except.map]

theorem exists_blank_skipSpace (text : List Char) :
    ∃ space, Blank space ∧ text = space ++ skipSpace text := by
  exact ⟨text.takeWhile isSpace, List.all_eq_true.mp List.all_takeWhile,
    List.takeWhile_append_dropWhile.symm⟩

/-- White space in front of the text where a reader starts. -/
theorem exists_blank_of_skipSpace
    {text start : List Char}
    (skipped : skipSpace text = start) :
    ∃ space, Blank space ∧ text = space ++ start := by
  rw [← skipped]
  exact exists_blank_skipSpace text

theorem readWord_eq_ok_iff {word text rest : List Char} :
    readWord word text = .ok rest ↔ text = word ++ rest := by
  induction word generalizing text with
  | nil => simp [readWord]
  | cons letter word inductionHypothesis =>
      cases text with
      | nil => simp [readWord]
      | cons found text =>
          by_cases same : found = letter <;> simp [readWord, same, inductionHypothesis]

/-- A word stands for what its reader makes of it. -/
theorem map_readWord_eq_ok_iff
    {word text rest : List Char}
    {content value : α} :
    (readWord word text).map (content, ·) = .ok (value, rest) ↔
      value = content ∧ text = word ++ rest := by
  rw [map_eq_ok_iff]
  constructor
  · rintro ⟨after, read, made⟩
    cases made
    exact ⟨rfl, readWord_eq_ok_iff.mp read⟩
  · rintro ⟨rfl, split⟩
    exact ⟨rest, readWord_eq_ok_iff.mpr split, rfl⟩

/-! ## Strings -/

/-- The forms of an escape behind its backslash. Where nobody asks for the characters,
surrogates need no partner. -/
inductive Escape (purpose : Purpose) : List Char → Char → Prop
  /-- A single letter. -/
  | short
      {letter meaning : Char}
      (found : shortEscape? letter = some meaning) :
      Escape purpose [letter] meaning
  /-- A code unit that is a character. -/
  | unit
      {a b c d : Char}
      {unit : Nat}
      (value : hexValue? a b c d = some unit)
      (single : purpose = .keep → isTrailing unit = false ∧ isLeading unit = false) :
      Escape purpose ['u', a, b, c, d] (Char.ofNat unit)
  /-- Two code units that make up a character. -/
  | pair
      {a b c d e f g h : Char}
      {leading trailing : Nat}
      (kept : purpose = .keep)
      (first : hexValue? a b c d = some leading)
      (leads : isLeading leading = true)
      (second : hexValue? e f g h = some trailing)
      (trails : isTrailing trailing = true) :
      Escape purpose ['u', a, b, c, d, '\\', 'u', e, f, g, h] (pairChar leading trailing)

/-- The texts between quotes and the characters that they stand for. -/
inductive Letters (purpose : Purpose) : List Char → List Char → Prop
  /-- No character. -/
  | nil : Letters purpose [] []
  /-- A character that stands for itself. -/
  | plain
      {letter : Char}
      {raw letters : List Char}
      (noQuote : letter ≠ '\x22')
      (noBackslash : letter ≠ '\\')
      (visible : ¬ letter.toNat < 0x20)
      (more : Letters purpose raw letters) :
      Letters purpose (letter :: raw) (letter :: letters)
  /-- An escape. -/
  | escape
      {text raw letters : List Char}
      {meaning : Char}
      (escape : Escape purpose text meaning)
      (more : Letters purpose raw letters) :
      Letters purpose ('\\' :: (text ++ raw)) (meaning :: letters)

theorem readHex_eq_ok_iff {text rest : List Char} {unit : Nat} :
    readHex text = .ok (unit, rest) ↔
      ∃ a b c d, hexValue? a b c d = some unit ∧ text = a :: b :: c :: d :: rest := by
  rcases text with _ | ⟨a, _ | ⟨b, _ | ⟨c, _ | ⟨d, tail⟩⟩⟩⟩
  case cons.cons.cons.cons =>
    constructor
    · intro read
      cases found : hexValue? a b c d with
      | none => simp [readHex, found] at read
      | some value =>
          simp only [readHex, found] at read
          cases read
          exact ⟨a, b, c, d, found, rfl⟩
    · rintro ⟨_, _, _, _, found, ⟨⟩⟩
      simp only [readHex, found]
  all_goals simp [readHex]

theorem isTrailing_of_isLeading {unit : Nat} (leads : isLeading unit = true) :
    isTrailing unit = false := by
  simp only [isLeading, isTrailing, Bool.and_eq_true, decide_eq_true_eq, Bool.and_eq_false_iff,
    decide_eq_false_iff_not] at *
  omega

theorem readPartner_eq_ok_iff {text rest : List Char} {leading : Nat} {letter : Char} :
    readPartner leading text = .ok (letter, rest) ↔
      ∃ e f g h trailing, hexValue? e f g h = some trailing ∧ isTrailing trailing = true ∧
        letter = pairChar leading trailing ∧
        text = '\\' :: 'u' :: e :: f :: g :: h :: rest := by
  constructor
  · intro read
    unfold readPartner at read
    split at read
    case h_3 tail =>
      obtain ⟨⟨trailing, after⟩, hex, paired⟩ := bind_eq_ok_iff.mp read
      obtain ⟨e, f, g, h, value, rfl⟩ := readHex_eq_ok_iff.mp hex
      cases trails : isTrailing trailing with
      | false => simp [trails] at paired
      | true =>
          simp only [trails, if_true, Except.ok.injEq, Prod.mk.injEq] at paired
          obtain ⟨meaning, rfl⟩ := paired
          exact ⟨e, f, g, h, trailing, value, trails, meaning.symm, rfl⟩
    all_goals cases read
  · rintro ⟨e, f, g, h, trailing, value, trails, meaning, rfl⟩
    have hex : readHex (e :: f :: g :: h :: rest) = .ok (trailing, rest) :=
      readHex_eq_ok_iff.mpr ⟨e, f, g, h, value, rfl⟩
    simp only [readPartner, hex, bind, Except.bind, trails, if_true, meaning]

theorem readUnit_eq_ok_iff
    {purpose : Purpose}
    {text rest : List Char}
    {letter : Char} :
    readUnit purpose text = .ok (letter, rest) ↔
      ∃ escape, Escape purpose ('u' :: escape) letter ∧ text = escape ++ rest := by
  constructor
  · intro read
    unfold readUnit at read
    obtain ⟨⟨unit, after⟩, hex, told⟩ := bind_eq_ok_iff.mp read
    obtain ⟨a, b, c, d, value, rfl⟩ := readHex_eq_ok_iff.mp hex
    cases purpose with
    | skip =>
        cases told
        exact ⟨[a, b, c, d], .unit value nofun, rfl⟩
    | keep =>
        dsimp only at told
        split at told
        case isTrue => cases told
        case isFalse single =>
          split at told
          case isTrue leads =>
            obtain ⟨e, f, g, h, trailing, second, trails, meaning, rfl⟩ :=
              readPartner_eq_ok_iff.mp told
            rw [meaning]
            exact ⟨[a, b, c, d, '\\', 'u', e, f, g, h],
              .pair rfl value leads second trails, rfl⟩
          case isFalse alone =>
            cases told
            exact ⟨[a, b, c, d],
              .unit value fun _ => ⟨by simpa using single, by simpa using alone⟩, rfl⟩
  · rintro ⟨escape, written, rfl⟩
    unfold readUnit
    generalize whole : 'u' :: escape = form at written
    cases written with
    | short found =>
        cases whole
        cases found
    | @unit a b c d unit value single =>
        cases whole
        have hex : readHex ([a, b, c, d] ++ rest) = .ok (unit, rest) :=
          readHex_eq_ok_iff.mpr ⟨a, b, c, d, value, rfl⟩
        rw [hex]
        cases purpose with
        | skip => rfl
        | keep => simp [bind, Except.bind, (single rfl).1, (single rfl).2]
    | @pair a b c d e f g h leading trailing kept first leads second trails =>
        cases whole
        subst kept
        have hex : readHex ([a, b, c, d, '\\', 'u', e, f, g, h] ++ rest) =
            .ok (leading, '\\' :: 'u' :: e :: f :: g :: h :: rest) :=
          readHex_eq_ok_iff.mpr ⟨a, b, c, d, first, rfl⟩
        have partner : readPartner leading ('\\' :: 'u' :: e :: f :: g :: h :: rest) =
            .ok (pairChar leading trailing, rest) :=
          readPartner_eq_ok_iff.mpr ⟨e, f, g, h, trailing, second, trails, rfl, rfl⟩
        rw [hex]
        simp [bind, Except.bind, isTrailing_of_isLeading leads, leads, partner]

theorem readEscape_eq_ok_iff
    {purpose : Purpose}
    {text rest : List Char}
    {letter : Char} :
    readEscape purpose text = .ok (letter, rest) ↔
      ∃ escape, Escape purpose escape letter ∧ text = escape ++ rest := by
  constructor
  · intro read
    unfold readEscape at read
    split at read
    case h_1 => cases read
    case h_2 tail =>
      obtain ⟨escape, written, rfl⟩ := readUnit_eq_ok_iff.mp read
      exact ⟨'u' :: escape, written, rfl⟩
    case h_3 first tail _ =>
      split at read
      case h_1 meaning found =>
        simp only [Except.ok.injEq, Prod.mk.injEq] at read
        obtain ⟨rfl, rfl⟩ := read
        exact ⟨[first], .short found, rfl⟩
      case h_2 => cases read
  · rintro ⟨escape, written, rfl⟩
    have starts : (∃ tail, escape = 'u' :: tail) ∨
        ∃ first, escape = [first] ∧ shortEscape? first = some letter := by
      cases written with
      | short found => exact .inr ⟨_, rfl, found⟩
      | unit => exact .inl ⟨_, rfl⟩
      | pair => exact .inl ⟨_, rfl⟩
    rcases starts with ⟨tail, rfl⟩ | ⟨first, rfl, found⟩
    · exact readUnit_eq_ok_iff.mpr ⟨tail, written, rfl⟩
    · have single : first ≠ 'u' := by
        rintro rfl
        cases found
      rw [List.singleton_append, readEscape, found]
      exact single

/-- The characters of a string are read up to the closing quote. -/
theorem Letters.readCharacters
    {purpose : Purpose}
    {raw letters : List Char}
    (written : Letters purpose raw letters)
    {fuel : Nat}
    (enough : raw.length < fuel)
    (rest : List Char) :
    readCharacters purpose fuel (raw ++ '\x22' :: rest) = .ok (letters, rest) := by
  induction written generalizing fuel with
  | nil =>
      obtain ⟨fuel, rfl⟩ := Nat.exists_eq_add_one_of_ne_zero (Nat.ne_of_gt enough)
      rfl
  | plain noQuote noBackslash visible more inductionHypothesis =>
      obtain ⟨fuel, rfl⟩ := Nat.exists_eq_add_one_of_ne_zero (Nat.ne_of_gt (Nat.zero_lt_of_lt enough))
      have later := inductionHypothesis (Nat.lt_of_succ_lt_succ enough)
      rw [List.cons_append, Json.readCharacters, if_neg visible, later]
      · rfl
      · exact noQuote
      · exact noBackslash
  | @escape text raw letters meaning escape more inductionHypothesis =>
      obtain ⟨fuel, rfl⟩ := Nat.exists_eq_add_one_of_ne_zero (Nat.ne_of_gt (Nat.zero_lt_of_lt enough))
      have shorter : raw.length < fuel := by
        simp only [List.length_cons, List.length_append] at enough
        omega
      have later := inductionHypothesis shorter
      have first : readEscape purpose (text ++ (raw ++ '\x22' :: rest)) =
          .ok (meaning, raw ++ '\x22' :: rest) :=
        readEscape_eq_ok_iff.mpr ⟨text, escape, rfl⟩
      rw [List.cons_append, List.append_assoc, Json.readCharacters, first]
      simp only [bind, Except.bind, later]
      rfl

/-- What is read as characters up to a closing quote is the text of them. -/
theorem letters_of_readCharacters
    {purpose : Purpose}
    {fuel : Nat}
    {text letters rest : List Char}
    (read : readCharacters purpose fuel text = .ok (letters, rest)) :
    ∃ raw, Letters purpose raw letters ∧ text = raw ++ '\x22' :: rest := by
  induction fuel generalizing text letters with
  | zero => cases read
  | succ fuel inductionHypothesis =>
      unfold readCharacters at read
      split at read
      case h_1 => cases read
      case h_2 => cases read
      case h_3 =>
        cases read
        exact ⟨[], .nil, rfl⟩
      case h_4 fuel tail same =>
        cases same
        obtain ⟨⟨letter, after⟩, escaped, further⟩ := bind_eq_ok_iff.mp read
        obtain ⟨⟨later, behind⟩, more, both⟩ := bind_eq_ok_iff.mp further
        cases both
        obtain ⟨escape, written, rfl⟩ := readEscape_eq_ok_iff.mp escaped
        obtain ⟨raw, writtenLater, rfl⟩ := inductionHypothesis more
        exact ⟨'\\' :: (escape ++ raw), .escape written writtenLater, by simp⟩
      case h_5 fuel letter tail noQuote noBackslash same =>
        cases same
        split at read
        case isTrue => cases read
        case isFalse visible =>
          obtain ⟨⟨later, behind⟩, more, both⟩ := bind_eq_ok_iff.mp read
          cases both
          obtain ⟨raw, writtenLater, rfl⟩ := inductionHypothesis more
          exact ⟨letter :: raw, .plain noQuote noBackslash visible writtenLater, rfl⟩

/-- The text of a string in its quotes. -/
def inQuotes (raw : List Char) : List Char := '\x22' :: (raw ++ ['\x22'])

/-- A reader of strings behind the opening quote accepts what is written up to a closing
quote. -/
theorem readString_eq_ok_iff
    {purpose : Purpose}
    {text rest : List Char}
    {value : String} :
    readString purpose text = .ok (value, rest) ↔
      ∃ raw, Letters purpose raw value.toList ∧ text = raw ++ '\x22' :: rest := by
  constructor
  · intro read
    obtain ⟨⟨letters, after⟩, characters, packed⟩ := bind_eq_ok_iff.mp read
    cases packed
    rw [String.toList_ofList]
    exact letters_of_readCharacters characters
  · rintro ⟨raw, written, rfl⟩
    have enough : raw.length < (raw ++ '\x22' :: rest).length + 1 := by
      simp only [List.length_cons, List.length_append]
      omega
    have characters := written.readCharacters enough rest
    rw [readString, characters]
    simp only [bind, Except.bind, pure, Except.pure, String.ofList_toList]

/-- A string that can be kept can be skipped. -/
theorem Letters.skip
    {raw letters : List Char}
    (written : Letters .keep raw letters) :
    ∃ skipped, Letters .skip raw skipped := by
  induction written with
  | nil => exact ⟨_, .nil⟩
  | plain noQuote noBackslash visible _ inductionHypothesis =>
      obtain ⟨skipped, more⟩ := inductionHypothesis
      exact ⟨_, .plain noQuote noBackslash visible more⟩
  | escape escape _ inductionHypothesis =>
      obtain ⟨skipped, more⟩ := inductionHypothesis
      cases escape with
      | short found => exact ⟨_, .escape (.short found) more⟩
      | unit value => exact ⟨_, .escape (.unit value nofun) more⟩
      | @pair a b c d e f g h leading trailing _ first _ second _ =>
          have second : Letters .skip ('\\' :: (['u', e, f, g, h] ++ _)) _ :=
            .escape (.unit second nofun) more
          have both : Letters .skip ('\\' :: (['u', a, b, c, d] ++ _)) _ :=
            .escape (.unit first nofun) second
          exact ⟨_, both⟩

/-- A string in its quotes, and what it says. -/
def IsString (text : List Char) (value : String) : Prop :=
  ∃ raw, Letters .keep raw value.toList ∧ text = inQuotes raw

theorem follows_readText [Conversion] : Follows readText IsString where
  sound := by
    intro text value rest read
    unfold readText at read
    split at read
    case h_1 tail skipped =>
      obtain ⟨space, blank, rfl⟩ := exists_blank_of_skipSpace skipped
      obtain ⟨raw, written, rfl⟩ := readString_eq_ok_iff.mp read
      exact ⟨space, inQuotes raw, blank, ⟨raw, written, rfl⟩, by simp [inQuotes]⟩
    case h_2 => cases read
  complete := by
    rintro _ value ⟨raw, written, rfl⟩ space rest blank ends
    unfold readText
    rw [inQuotes, List.cons_append, List.append_assoc, skipSpace_cons blank rfl]
    exact readString_eq_ok_iff.mpr ⟨raw, written, rfl⟩

/-! ## Numbers -/

theorem digits_of_span
    {text digits rest : List Char}
    (split : text.span Char.isDigit = (digits, rest)) :
    (∀ letter ∈ digits, letter.isDigit = true) ∧ text = digits ++ rest := by
  rw [List.span_eq_takeWhile_dropWhile] at split
  obtain ⟨rfl, rfl⟩ := Prod.mk.inj split
  exact ⟨List.all_eq_true.mp List.all_takeWhile, List.takeWhile_append_dropWhile.symm⟩

theorem digits_of_readDigits
    {purpose : Purpose}
    {text digits rest : List Char}
    (read : readDigits purpose text = .ok (digits, rest)) :
    digits ≠ [] ∧ (∀ letter ∈ digits, letter.isDigit = true) ∧ text = digits ++ rest := by
  unfold readDigits at read
  split at read
  case h_1 => cases read
  case h_2 front back nonempty split =>
    cases read
    exact ⟨nonempty, digits_of_span split⟩

theorem digits_of_readWhole
    {purpose : Purpose}
    {text digits rest : List Char}
    (read : readWhole purpose text = .ok (digits, rest)) :
    (digits ≠ [] ∧ (∀ letter ∈ digits, letter.isDigit = true) ∧ text = digits ++ rest) ∧
      (digits.head? = some '0' → digits = ['0']) := by
  obtain ⟨⟨found, after⟩, digitsRead, checked⟩ := bind_eq_ok_iff.mp read
  dsimp only at checked
  split at checked
  case h_1 => cases checked
  case h_2 zeroAlone =>
    cases checked
    refine ⟨digits_of_readDigits digitsRead, ?_⟩
    intro zero
    rcases digits with _ | ⟨first, _ | ⟨second, digits⟩⟩
    · cases zero
    · cases zero
      rfl
    · cases zero
      exact absurd rfl (zeroAlone second digits)

theorem fraction_of_readFraction
    {purpose : Purpose}
    {text fraction rest : List Char}
    (read : readFraction purpose text = .ok (fraction, rest)) :
    (∀ letter ∈ fraction, letter.isDigit = true) ∧
      text = Literal.fractionText fraction ++ rest := by
  unfold readFraction at read
  split at read
  case h_1 tail =>
    obtain ⟨nonempty, allDigits, rfl⟩ := digits_of_readDigits read
    obtain ⟨digit, digits, rfl⟩ := List.exists_cons_of_ne_nil nonempty
    exact ⟨allDigits, rfl⟩
  case h_2 =>
    cases read
    exact ⟨List.forall_mem_nil _, rfl⟩

theorem exists_sign_of_takeSign
    {text rest : List Char}
    {negative : Bool}
    (taken : Decimal.takeSign text = (negative, rest)) :
    ∃ sign, Literal.SignText sign negative ∧ text = sign ++ rest := by
  unfold Decimal.takeSign at taken
  split at taken
  case h_1 =>
    cases taken
    exact ⟨['-'], .minus, rfl⟩
  case h_2 =>
    cases taken
    exact ⟨['+'], .plus, rfl⟩
  case h_3 =>
    cases taken
    exact ⟨[], .none, rfl⟩

theorem exponent_of_readExponent
    {purpose : Purpose}
    {text rest : List Char}
    {exponent : Option Int}
    (read : readExponent purpose text = .ok (exponent, rest)) :
    ∃ tail, Literal.ExponentText tail exponent ∧ text = tail ++ rest := by
  unfold readExponent at read
  split at read
  case h_1 =>
    cases read
    exact ⟨[], .none, rfl⟩
  case h_2 letter tail =>
    split at read
    case isTrue opens =>
      rcases taken : Decimal.takeSign tail with ⟨negative, unsigned⟩
      rw [taken] at read
      obtain ⟨⟨digits, after⟩, digitsRead, counted⟩ := bind_eq_ok_iff.mp read
      cases counted
      obtain ⟨sign, signed, rfl⟩ := exists_sign_of_takeSign taken
      obtain ⟨nonempty, allDigits, rfl⟩ := digits_of_readDigits digitsRead
      exact ⟨letter :: (sign ++ digits), .some opens signed nonempty allDigits, by simp⟩
    case isFalse =>
      cases read
      exact ⟨[], .none, rfl⟩

/-- The parts of a number behind its sign spell what they are read as. -/
theorem spells_of_readParts
    {purpose : Purpose}
    {unsigned rest : List Char}
    {negative : Bool}
    {literal : Literal}
    (parts :
      (do
        let (whole, text) ← readWhole purpose unsigned
        let (fraction, text) ← readFraction purpose text
        let (exponent, text) ← readExponent purpose text
        return (({ negative, whole, fraction, exponent } : Literal), text)) =
          Except.ok (literal, rest)) :
    ∃ body, literal.Spells body ∧ Decimal.signed negative unsigned = body ++ rest := by
  obtain ⟨⟨whole, afterWhole⟩, wholeRead, parts⟩ := bind_eq_ok_iff.mp parts
  obtain ⟨⟨fraction, afterFraction⟩, fractionRead, parts⟩ := bind_eq_ok_iff.mp parts
  obtain ⟨⟨exponent, afterExponent⟩, exponentRead, parts⟩ := bind_eq_ok_iff.mp parts
  cases parts
  obtain ⟨⟨nonempty, allDigits, rfl⟩, leading⟩ := digits_of_readWhole wholeRead
  obtain ⟨allFraction, rfl⟩ := fraction_of_readFraction fractionRead
  obtain ⟨tail, spelled, rfl⟩ := exponent_of_readExponent exponentRead
  refine ⟨_, ⟨⟨nonempty, allDigits, leading, allFraction⟩, tail, spelled, rfl⟩, ?_⟩
  cases negative <;> simp [Decimal.signed]

/-- What is read as a number is one. -/
theorem spells_of_readLiteral
    {purpose : Purpose}
    {text rest : List Char}
    {literal : Literal}
    (read : readLiteral purpose text = .ok (literal, rest)) :
    ∃ body, literal.Spells body ∧ text = body ++ rest := by
  unfold readLiteral at read
  split at read
  rename_i negative unsigned sign
  split at sign
  case h_1 tail =>
    cases sign
    exact spells_of_readParts read
  case h_2 =>
    cases sign
    exact spells_of_readParts read

/-- The value that is kept of a number. -/
def Conversion.Gives [Conversion] (literal : Literal) (value : Binary64) : Prop :=
  ∃ number, literal.toNumber = .ok number ∧ value = number.toBinary64

/-- A number, and the value that it stands for by a rule. -/
def IsReal
    (stands : Literal → Binary64 → Prop)
    (text : List Char)
    (value : Binary64) :
    Prop :=
  ∃ literal, Literal.Spells literal text ∧ stands literal value

/-- A number or `null`, and the value that it stands for by a rule. -/
def IsOptionalReal
    (stands : Literal → Binary64 → Prop)
    (text : List Char)
    (value? : Option Binary64) :
    Prop :=
  text = ['n', 'u', 'l', 'l'] ∧ value? = none ∨
    ∃ value, value? = some value ∧ IsReal stands text value

/-- A whole number without a sign, a fraction and an exponent, and its value, which takes
no more than thirty-two bits. -/
def IsUInt32 (text : List Char) (value : UInt32) : Prop :=
  ∃ digits, Literal.Spells ⟨false, digits, [], none⟩ text ∧
    Decimal.ofDigits digits 0 = value.toNat

/-- A number is kept as a whole one, which is rounded, or is converted and not too large. -/
theorem Conversion.gives_iff [Conversion] {literal : Literal} {value : Binary64} :
    Gives literal value ↔
      match literal.whole? with
      | some whole => value = (Number.whole whole).toBinary64
      | none => value = real literal ∧ value.isFinite = true := by
  unfold Gives Literal.toNumber
  cases literal.whole? with
  | some whole => simp
  | none =>
      cases finite : (real literal).isFinite with
      | true => simp +contextual [finite, Number.toBinary64]
      | false => simp +contextual [finite, Number.toBinary64]

/-- A whole number that is kept exact takes no more than sixty-four bits. -/
theorem Literal.natAbs_lt_of_whole?
    {literal : Literal}
    {whole : Int}
    (kept : literal.whole? = some whole) :
    whole.natAbs < twoPow 64 := by
  have size : twoPow 63 < twoPow 64 := by decide
  have whole64 : UInt64.size = twoPow 64 := rfl
  unfold whole? at kept
  dsimp only at kept
  split at kept
  case isFalse => cases kept
  case isTrue =>
    split at kept
    case isTrue =>
      split at kept
      case isTrue range =>
        cases kept
        omega
      case isFalse => cases kept
    case isFalse =>
      split at kept
      case isTrue range =>
        cases kept
        omega
      case isFalse => cases kept

/-- A whole number that is kept exact is rounded to a finite value. -/
theorem Literal.isFinite_of_whole?
    {literal : Literal}
    {whole : Int}
    (kept : literal.whole? = some whole) :
    (Number.whole whole).toBinary64.isFinite = true := by
  have small : whole.natAbs * twoPow Binary64.unitExponent / 1 <
      twoPow (64 + Binary64.unitExponent) := by
    rw [Nat.div_one, twoPow_add]
    exact Nat.mul_lt_mul_of_pos_right (Literal.natAbs_lt_of_whole? kept) (twoPow_pos _)
  exact Binary64.isFinite_nearest _ (by decide) small

/-- What is kept of a number is finite. -/
theorem Conversion.Gives.isFinite
    [Conversion]
    {literal : Literal}
    {value : Binary64}
    (gives : Gives literal value) :
    value.isFinite = true := by
  have kept := gives_iff.mp gives
  cases whole : literal.whole? with
  | some number =>
      rw [whole] at kept
      rw [kept]
      exact Literal.isFinite_of_whole? whole
  | none =>
      rw [whole] at kept
      exact kept.2

/-- What is read and kept as a number is a literal. -/
theorem literal_of_readNumber
    [Conversion]
    {text rest : List Char}
    {number : Number}
    (read : readNumber text = .ok (number, rest)) :
    ∃ literal body, Literal.Spells literal body ∧ literal.toNumber = .ok number ∧
      text = body ++ rest := by
  obtain ⟨⟨literal, behind⟩, literalRead, kept⟩ := bind_eq_ok_iff.mp read
  obtain ⟨same, toNumber, given⟩ := bind_eq_ok_iff.mp kept
  cases given
  obtain ⟨body, spells, split⟩ := spells_of_readLiteral literalRead
  exact ⟨literal, body, spells, toNumber, split⟩

/-- A literal that can be kept is read as a number. -/
theorem readNumber_of_spells
    [Conversion]
    {literal : Literal}
    {body rest : List Char}
    {number : Number}
    (spells : literal.Spells body)
    (kept : literal.toNumber = .ok number)
    (ends : EndsNumber rest) :
    readNumber (body ++ rest) = .ok (number, rest) := by
  simp only [readNumber, spells.readLiteral .keep ends, kept, bind, Except.bind, pure, Except.pure]

theorem follows_readReal [Conversion] : Follows readReal (IsReal Conversion.Gives) where
  sound := by
    intro text value rest read
    unfold readReal at read
    split at read
    case h_1 => cases read
    case h_2 letter tail skipped =>
      obtain ⟨space, blank, rfl⟩ := exists_blank_of_skipSpace skipped
      split at read
      case isFalse => cases read
      case isTrue =>
        obtain ⟨⟨number, after⟩, numberRead, made⟩ := bind_eq_ok_iff.mp read
        cases made
        obtain ⟨literal, body, spells, kept, split⟩ := literal_of_readNumber numberRead
        rw [split]
        exact ⟨space, body, blank, ⟨literal, spells, number, kept, rfl⟩, rfl⟩
  complete := by
    rintro text value ⟨literal, spells, number, kept, rfl⟩ space rest blank ends
    have read := readNumber_of_spells spells kept ends
    obtain ⟨letter, tail, rfl, starts⟩ := spells.starts
    rw [List.cons_append] at read
    unfold readReal
    rw [List.cons_append, skipSpace_cons blank (isSpace_of_startsNumber starts)]
    simp only [starts, if_true, read, bind, Except.bind, pure, Except.pure]

theorem follows_readOptionalReal [Conversion] :
    Follows readOptionalReal (IsOptionalReal Conversion.Gives) where
  sound := by
    intro text value? rest read
    unfold readOptionalReal at read
    split at read
    case h_1 tail skipped =>
      obtain ⟨space, blank, rfl⟩ := exists_blank_of_skipSpace skipped
      obtain ⟨rfl, rfl⟩ := map_readWord_eq_ok_iff.mp read
      exact ⟨space, ['n', 'u', 'l', 'l'], blank, .inl ⟨rfl, rfl⟩, rfl⟩
    case h_2 =>
      obtain ⟨space, blank, whole⟩ := exists_blank_skipSpace text
      obtain ⟨⟨value, after⟩, real, made⟩ := bind_eq_ok_iff.mp read
      cases made
      obtain ⟨gap, body, gapBlank, isReal, split⟩ := follows_readReal.sound real
      rw [whole, split]
      exact ⟨space ++ gap, body, List.forall_mem_append.mpr ⟨blank, gapBlank⟩,
        .inr ⟨value, rfl, isReal⟩, by simp⟩
  complete := by
    rintro text value? (⟨rfl, rfl⟩ | ⟨value, rfl, isReal⟩) space rest blank ends
    · unfold readOptionalReal
      rw [List.cons_append, skipSpace_cons blank rfl]
      exact map_readWord_eq_ok_iff.mpr ⟨rfl, rfl⟩
    · have read := follows_readReal.complete isReal [] rest (List.forall_mem_nil _) ends
      obtain ⟨literal, spells, -⟩ := isReal
      obtain ⟨letter, tail, rfl, starts⟩ := spells.starts
      rw [List.nil_append, List.cons_append] at read
      unfold readOptionalReal
      rw [List.cons_append, skipSpace_cons blank (isSpace_of_startsNumber starts)]
      split
      case h_1 null =>
        cases null
        exact absurd starts (by decide)
      case h_2 => simp only [read, bind, Except.bind, pure, Except.pure]

/-- A literal is kept as a whole number of thirty-two bits exactly if it is one without a
sign, a fraction and an exponent. -/
theorem Literal.whole?_eq_some_iff {literal : Literal} {value : UInt32} :
    literal.whole? = some (value.toNat : Int) ↔
      literal = ⟨false, literal.whole, [], none⟩ ∧
        Decimal.ofDigits literal.whole 0 = value.toNat := by
  obtain ⟨negative, whole, fraction, exponent⟩ := literal
  have bound : value.toNat < UInt32.size := value.toNat_lt
  dsimp only
  constructor
  · intro kept
    simp only [whole?] at kept
    split at kept
    case isFalse => cases kept
    case isTrue plain =>
      obtain ⟨rfl, rfl⟩ := plain
      split at kept
      case isTrue =>
        split at kept
        case isTrue range =>
          have same := Option.some.inj kept
          omega
        case isFalse => cases kept
      case isFalse sign =>
        split at kept
        case isTrue =>
          have same := Option.some.inj kept
          simp only [Bool.not_eq_true] at sign
          exact ⟨by rw [sign], by omega⟩
        case isFalse => cases kept
  · rintro ⟨same, isValue⟩
    cases same
    have small : value.toNat < UInt64.size := Nat.lt_trans bound (by decide)
    simp [whole?, small, isValue]

theorem Literal.toNumber_eq_whole_iff [Conversion] {literal : Literal} {whole : Int} :
    literal.toNumber = .ok (.whole whole) ↔ literal.whole? = some whole := by
  unfold Literal.toNumber
  cases literal.whole? with
  | some value => simp
  | none =>
      cases finite : (Conversion.real literal).isFinite with
      | true => simp [finite]
      | false => simp [finite]

/-- A whole number in the range of thirty-two bits is the value of that many bits. -/
theorem toNat_ofNat_toNat
    {whole : Int}
    (range : 0 ≤ whole ∧ whole < UInt32.size) :
    ((UInt32.ofNat whole.toNat).toNat : Int) = whole := by
  rw [UInt32.toNat_ofNat_of_lt' ((Int.toNat_lt range.1).mpr range.2),
    Int.toNat_of_nonneg range.1]

theorem follows_readUInt32 [Conversion] : Follows readUInt32 IsUInt32 where
  sound := by
    intro text value rest read
    unfold readUInt32 at read
    split at read
    case h_1 => cases read
    case h_2 letter tail skipped =>
      obtain ⟨space, blank, rfl⟩ := exists_blank_of_skipSpace skipped
      split at read
      case isFalse => cases read
      case isTrue =>
        obtain ⟨⟨number, after⟩, numberRead, made⟩ := bind_eq_ok_iff.mp read
        obtain ⟨literal, body, spells, kept, split⟩ := literal_of_readNumber numberRead
        rw [split]
        cases number with
        | real value => cases made
        | whole whole =>
            dsimp only at made
            split at made
            case isFalse => cases made
            case isTrue range =>
              cases made
              rw [Literal.toNumber_eq_whole_iff, ← toNat_ofNat_toNat range,
                Literal.whole?_eq_some_iff] at kept
              exact ⟨space, body, blank, ⟨literal.whole, kept.1 ▸ spells, kept.2⟩, rfl⟩
  complete := by
    rintro text value ⟨digits, spells, isValue⟩ space rest blank ends
    have kept : (⟨false, digits, [], none⟩ : Literal).toNumber =
        .ok (.whole (value.toNat : Int)) :=
      Literal.toNumber_eq_whole_iff.mpr (Literal.whole?_eq_some_iff.mpr ⟨rfl, isValue⟩)
    have read := readNumber_of_spells spells kept ends
    obtain ⟨letter, tail, rfl, starts⟩ := spells.starts
    rw [List.cons_append] at read
    unfold readUInt32
    rw [List.cons_append, skipSpace_cons blank (isSpace_of_startsNumber starts)]
    simp only [starts, if_true, read, bind, Except.bind, pure, Except.pure]
    rw [if_pos ⟨Int.natCast_nonneg _, Int.ofNat_lt.mpr value.toNat_lt⟩, Int.toNat_natCast,
      UInt32.ofNat_toNat]

end Json
end DualPhy
