import Mathlib.Algebra.Group.Nat.Defs
import Numeral.Decimal.Lemmas
import Numeral.Decimal.Text

namespace Numeral

theorem Digits.chars_append (ds es : Digits 10) : (ds ++ es).chars = ds.chars ++ es.chars :=
  List.map_append

theorem Digits.chars_replicate_zero (k : Nat) :
    Digits.chars (List.replicate k 0) = List.replicate k '0' :=
  List.map_replicate

/-- Leading zeros do not count. -/
theorem Digits.value_replicate_zero_append (k : Nat) (ds : Digits 10) :
    Digits.value (List.replicate k 0 ++ ds) = Digits.value ds := by
  induction k with
  | zero => rfl
  | succ k ih =>
    rw [List.replicate_succ, List.cons_append, value_cons, ih, Fin.val_zero, Nat.zero_mul,
      Nat.zero_add]

/-- Each trailing zero multiplies by ten. -/
theorem Digits.value_append_replicate_zero (ds : Digits 10) (k : Nat) :
    Digits.value (ds ++ List.replicate k 0) = Digits.value ds * 10 ^ k := by
  have zeros := value_replicate_zero_append k []
  rw [List.append_nil] at zeros
  rw [value_append, zeros, List.length_replicate]
  exact Nat.add_zero _

/-- The text of a sign that may be left out; `true` is a minus. -/
def signText : Option Bool → List Char
  | none => []
  | some negative => [if negative then '-' else '+']

/-- The power of ten at the end of a number in scientific form. -/
structure TenPower where
  capital : Bool := false
  sign : Option Bool := none
  digits : Digits 10
  nonempty : digits ≠ []

namespace TenPower

def text (p : TenPower) : List Char :=
  (if p.capital then 'E' else 'e') :: (signText p.sign ++ p.digits.chars)

def exponent (p : TenPower) : Int :=
  if p.sign = some true then -p.digits.value else p.digits.value

end TenPower

/-- A number in plain or scientific form: a sign, digits, a point with more digits and a power of
ten. All but the digits may be left out, and these may stand on either side of the point. -/
structure Scientific where
  sign : Option Bool := none
  whole : Digits 10
  places : Option (Digits 10) := none
  power : Option TenPower := none
  nonempty : whole ++ places.getD [] ≠ []

namespace Scientific

def placesText (t : Scientific) : List Char :=
  t.places.elim [] fun ds => '.' :: ds.chars

def powerText (t : Scientific) : List Char :=
  t.power.elim [] (·.text)

/-- The text behind the sign. -/
def unsigned (t : Scientific) : List Char :=
  t.whole.chars ++ (t.placesText ++ t.powerText)

def text (t : Scientific) : List Char :=
  signText t.sign ++ t.unsigned

def exponent (t : Scientific) : Int :=
  t.power.elim 0 (·.exponent)

/-- The digits without the point, and the power of ten for which the last of them stands. -/
def decimal (t : Scientific) : Decimal where
  coefficient := Digits.value (t.whole ++ t.places.getD [])
  exponent := t.exponent - (t.places.getD []).length

end Scientific

namespace DecimalText

/-- A character that stays as it is when the text of a number is tidied. -/
def Tidy (c : Char) : Prop :=
  Unicode.blanks.contains c = false ∧ c ≠ '_' ∧ ((Unicode.digit? c).map Digit.char).getD c = c

instance (c : Char) : Decidable (Tidy c) :=
  inferInstanceAs (Decidable (_ ∧ _ ∧ _))

theorem tidy_digit (d : Digit) : Tidy d.char := by
  revert d
  decide

theorem tidy_chars {ds : Digits 10} {c : Char} (member : c ∈ ds.chars) : Tidy c := by
  obtain ⟨d, _, rfl⟩ := List.mem_map.mp member
  exact tidy_digit d

theorem dropWhile_blanks {cs : List Char} (clean : ∀ c ∈ cs, Tidy c) :
    cs.dropWhile Unicode.blanks.contains = cs := by
  cases cs with
  | nil => rfl
  | cons c rest =>
    obtain ⟨solid, _⟩ := clean c (List.mem_cons_self ..)
    exact List.dropWhile_cons_of_neg (by rw [solid]; exact Bool.false_ne_true)

theorem tidy_eq_self {cs : List Char} (clean : ∀ c ∈ cs, Tidy c) : tidy cs = cs := by
  have backward : ∀ c ∈ cs.reverse, Tidy c := fun c member => clean c (List.mem_reverse.mp member)
  have kept : cs.filter (· ≠ '_') = cs :=
    List.filter_eq_self.mpr fun c member => decide_eq_true (clean c member).2.1
  have same : cs.map (fun c => ((Unicode.digit? c).map Digit.char).getD c) = cs :=
    (List.map_congr_left fun c member => (clean c member).2.2).trans (List.map_id' cs)
  simp only [tidy, dropWhile_blanks clean, dropWhile_blanks backward, List.reverse_reverse, kept,
    same]

/-- A digit is no sign. -/
theorem sign_chars_append {ds : Digits 10} (nonempty : ds ≠ []) (rest : List Char) :
    sign (ds.chars ++ rest) = (false, ds.chars ++ rest) := by
  cases ds with
  | nil => exact absurd rfl nonempty
  | cons d ds =>
    have other : ∀ d : Digit, d.char ≠ '-' ∧ d.char ≠ '+' := by decide
    change sign (Digit.char d :: _) = (false, Digit.char d :: _)
    unfold sign
    split
    · next same => exact absurd (List.cons.inj same).1 (other d).1
    · next same => exact absurd (List.cons.inj same).1 (other d).2
    · rfl

/-- A sign is taken off a text that does not go on with another one. -/
theorem sign_signText (s : Option Bool) {cs : List Char} (bare : sign cs = (false, cs)) :
    sign (signText s ++ cs) = (decide (s = some true), cs) := by
  rcases s with _ | _ | _
  · exact bare
  · rfl
  · rfl

theorem tidy_signText {s : Option Bool} {c : Char} (member : c ∈ signText s) : Tidy c := by
  rcases s with _ | _ | _
  · cases member
  · rw [List.mem_singleton.mp member]
    decide
  · rw [List.mem_singleton.mp member]
    decide

theorem tidy_power {p : TenPower} {c : Char} (member : c ∈ p.text) : Tidy c := by
  have small : Tidy 'e' := by decide
  have capital : Tidy 'E' := by decide
  rcases List.mem_cons.mp member with rfl | more
  · split <;> assumption
  · rcases List.mem_append.mp more with sign | digit
    · exact tidy_signText sign
    · exact tidy_chars digit

/-- A power of ten is read back from its text. -/
theorem exponent_text (p : TenPower) : exponent p.text = some p.exponent := by
  obtain ⟨capital, s, digits, nonempty⟩ := p
  obtain ⟨d, ds, rfl⟩ := List.exists_cons_of_ne_nil nonempty
  have bare := sign_chars_append nonempty []
  have scanned : Digits.scan (Digits.chars (d :: ds) ++ []) = (d :: ds, []) :=
    Digits.scan_chars_append _ rfl
  rw [List.append_nil] at bare scanned
  have letter : (if capital then 'E' else 'e') = 'e' ∨ (if capital then 'E' else 'e') = 'E' := by
    cases capital
    · exact .inl rfl
    · exact .inr rfl
  simp only [TenPower.text, exponent, if_pos letter, sign_signText s bare, scanned,
    TenPower.exponent, decide_eq_true_eq]

/-- A power of ten is neither a digit nor a point. -/
theorem powerText_ends (t : Scientific) :
    Digits.goesOn t.powerText = false ∧ fraction t.powerText = ([], t.powerText) := by
  unfold Scientific.powerText
  rcases t.power with _ | ⟨capital, sign, digits, nonempty⟩
  · exact ⟨rfl, rfl⟩
  · cases capital <;> exact ⟨rfl, rfl⟩

/-- The places are read back, and what is left is the power of ten. -/
theorem fraction_placesText (t : Scientific) :
    Digits.goesOn (t.placesText ++ t.powerText) = false ∧
      fraction (t.placesText ++ t.powerText) = (t.places.getD [], t.powerText) := by
  obtain ⟨ends, pointless⟩ := powerText_ends t
  unfold Scientific.placesText
  cases t.places with
  | none => exact ⟨ends, pointless⟩
  | some ds => exact ⟨rfl, Digits.scan_chars_append ds ends⟩

theorem exponent_powerText (t : Scientific) : exponent t.powerText = some t.exponent := by
  unfold Scientific.powerText Scientific.exponent
  cases t.power with
  | none => rfl
  | some p => exact exponent_text p

theorem magnitude_unsigned (t : Scientific) : magnitude t.unsigned = some t.decimal := by
  obtain ⟨ends, places⟩ := fraction_placesText t
  have digits : ¬ (t.whole = [] ∧ t.places.getD [] = []) := fun ⟨noWhole, noPlaces⟩ =>
    t.nonempty (by rw [noWhole, noPlaces, List.append_nil])
  simp only [magnitude, Scientific.unsigned, Digits.scan_chars_append t.whole ends, places,
    if_neg digits, exponent_powerText, Option.map_some, Scientific.decimal]

theorem sign_unsigned (t : Scientific) : sign t.unsigned = (false, t.unsigned) := by
  obtain ⟨s, whole, places, power, nonempty⟩ := t
  cases whole with
  | cons d ds => exact sign_chars_append (List.cons_ne_nil d ds) _
  | nil =>
    cases places with
    | none => exact absurd rfl nonempty
    | some ds => rfl

theorem tidy_behind {t : Scientific} {c : Char} (member : c ∈ t.placesText ++ t.powerText) :
    Tidy c := by
  have point : Tidy '.' := by decide
  unfold Scientific.placesText Scientific.powerText at member
  rcases List.mem_append.mp member with places | power
  · cases behind : t.places with
    | none => simp [behind] at places
    | some ds =>
      rw [behind] at places
      rcases List.mem_cons.mp places with rfl | digit
      · exact point
      · exact tidy_chars digit
  · cases behind : t.power with
    | none => simp [behind] at power
    | some p =>
      rw [behind] at power
      exact tidy_power power

theorem tidy_text {t : Scientific} {c : Char} (member : c ∈ t.text) : Tidy c := by
  rcases List.mem_append.mp member with sign | unsigned
  · exact tidy_signText sign
  · rcases List.mem_append.mp unsigned with digit | behind
    · exact tidy_chars digit
    · exact tidy_behind behind

/-- A number is read back from its text. -/
theorem read?_text {t : Scientific} (within : textLimits.Holds t.decimal) :
    read? (String.ofList t.text) = some (.finite t.decimal) := by
  have clean : tidy t.text = t.text := tidy_eq_self fun _ => tidy_text
  have signed : sign t.text = (decide (t.sign = some true), t.unsigned) :=
    sign_signText t.sign (sign_unsigned t)
  simp only [read?, String.toList_ofList, clean, signed, magnitude_unsigned, if_pos within]

/-- A text without a sign that starts with a digit, needs no tidying and denotes `d`. -/
def Spells (cs : List Char) (d : Decimal) : Prop :=
  ∃ (whole : Digits 10) (rest : List Char), whole ≠ [] ∧ cs = whole.chars ++ rest ∧
    (∀ c ∈ rest, Tidy c) ∧ magnitude cs = some d

theorem spells_unsigned {t : Scientific} (nonempty : t.whole ≠ []) :
    Spells t.unsigned t.decimal :=
  ⟨t.whole, t.placesText ++ t.powerText, nonempty, rfl, fun _ => tidy_behind, magnitude_unsigned t⟩

/-- Such a text is read with and without a minus in front, as long as the decimal is within the
limits. -/
theorem Spells.read?_signed {cs : List Char} {d : Decimal} (spelled : Spells cs d)
    (holds : textLimits.Holds d) (negative : Bool) :
    read? (String.ofList ((if negative then ['-'] else []) ++ cs)) = some (.finite d) := by
  obtain ⟨whole, rest, nonempty, rfl, clean, read⟩ := spelled
  have body : ∀ c ∈ whole.chars ++ rest, Tidy c := by
    intro c member
    rcases List.mem_append.mp member with digit | other
    · exact tidy_chars digit
    · exact clean c other
  have all : ∀ c ∈ (if negative then ['-'] else []) ++ (whole.chars ++ rest), Tidy c := by
    intro c member
    rcases List.mem_append.mp member with minus | other
    · have tidyMinus : Tidy '-' := by decide
      cases negative with
      | true => rwa [List.mem_singleton.mp minus]
      | false => cases minus
    · exact body c other
  have unsigned : sign ((if negative then ['-'] else []) ++ (whole.chars ++ rest)) =
      (negative, whole.chars ++ rest) := by
    cases negative with
    | true => rfl
    | false => exact sign_chars_append nonempty rest
  simp only [read?, String.toList_ofList, tidy_eq_self all, unsigned, read, if_pos holds]

end DecimalText

end Numeral
