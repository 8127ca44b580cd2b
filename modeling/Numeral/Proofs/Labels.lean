import Mathlib.Algebra.Ring.Parity
import Mathlib.Data.List.DropRight
import Numeral.Datum.Label
import Numeral.Proofs.Integers

namespace Numeral

namespace Quoted

theorem length_hex (width n : Nat) : (hex width n).length = width := by
  rw [hex, List.length_map, Digits.length_last]

/-- Digits of one number tell how it ends, and where what follows them begins. -/
theorem hex_append_inj {width m n : Nat} {rest rest' : List Char}
    (same : hex width m ++ rest = hex width n ++ rest') :
    m % 16 ^ width = n % 16 ^ width ∧ rest = rest' := by
  obtain ⟨digits, after⟩ := List.append_inj same (by rw [length_hex, length_hex])
  have runs : Digits.last (b := 16) (by decide) width m = Digits.last (by decide) width n :=
    List.map_injective_iff.mpr Radix.hexLower.digitChar_injective digits
  refine ⟨?_, after⟩
  rw [← Digits.value_last (b := 16) (by decide), runs, Digits.value_last]

end Quoted

namespace Label

open Quoted

/-- Whether a character is neither of the two that a label tells apart from all others. -/
def Inert (c : Char) : Prop :=
  c ≠ backslash ∧ c ≠ '>'

instance : DecidablePred Inert :=
  fun _ => inferInstanceAs (Decidable (_ ∧ _))

theorem inert_of_mem_hex {width n : Nat} {c : Char} (member : c ∈ hex width n) : Inert c := by
  obtain ⟨d, _, rfl⟩ := List.mem_map.mp member
  have digits : ∀ d : Fin 16, Inert (digitChar 'a' d) := by decide
  exact digits d

theorem inert_mark (s : List Char) : Inert (mark s) := by
  rcases mark_eq s with same | same <;> rw [same] <;> decide

/-- The number of hexadecimal digits that a letter behind a backslash announces. -/
def announced : Char → Nat
  | 'x' => 2
  | 'u' => 4
  | 'U' => 8
  | _ => 0

/-- The character that a backslash names together with a letter that announces no digits. -/
def named : Char → Char
  | 'n' => '\n'
  | 'r' => '\r'
  | 't' => '\t'
  | c => c

/-- The ways in which a label writes one character: as itself, or as a backslash with a letter that
names the character or announces the digits of its code point. -/
inductive Writes (c : Char) : List Char → Prop
  | plain (inert : Inert c) : Writes c [c]
  | escaped (letter : Char)
      (meant : if announced letter = 0 then c = named letter else c.toNat < 16 ^ announced letter) :
      Writes c (backslash :: letter :: hex (announced letter) c.toNat)

theorem Writes.ne_nil {c : Char} {u : List Char} (writes : Writes c u) : u ≠ [] := by
  cases writes <;> exact List.cons_ne_nil _ _

/-- What is written for a character says which one it is, and where it ends. -/
theorem Writes.unique {c d : Char} {u v rest rest' : List Char} (first : Writes c u)
    (second : Writes d v) (same : u ++ rest = v ++ rest') : c = d ∧ rest = rest' := by
  cases first with
  | plain inert =>
    cases second with
    | plain _ => exact List.cons.inj same
    | escaped letter _ => exact absurd (List.cons.inj same).1 inert.1
  | escaped letter meant =>
    cases second with
    | plain inert => exact absurd (List.cons.inj same).1.symm inert.1
    | escaped letter' meant' =>
      obtain ⟨rfl, digits⟩ := List.cons.inj (List.cons.inj same).2
      obtain ⟨code, after⟩ := hex_append_inj digits
      refine ⟨?_, after⟩
      split at meant
      · next none =>
        rw [if_pos none] at meant'
        rw [meant, meant']
      · next some =>
        rw [if_neg some] at meant'
        rw [Nat.mod_eq_of_lt meant, Nat.mod_eq_of_lt meant'] at code
        exact Char.toNat_inj.mp code

theorem writes_digits {c : Char} (letter : Char) (inert : Inert letter)
    (some : announced letter ≠ 0) (fits : c.toNat < 16 ^ announced letter) :
    Writes c (shield (backslash :: letter :: hex (announced letter) c.toNat)) := by
  rw [shield_eq_self]
  · exact .escaped letter (by rwa [if_neg some])
  · intro d member
    rcases List.mem_cons.mp member with rfl | member
    · decide
    rcases List.mem_cons.mp member with rfl | member
    · exact inert.2
    · exact (inert_of_mem_hex member).2

/-- Within either mark, whichever characters print. -/
theorem writes_escape (printable : Char → Bool) (s : List Char) (c : Char) :
    Writes c (shield (escape printable (mark s) c)) := by
  unfold escape
  split_ifs with own line carriage tab prints one two
  · have named : c = apostrophe ∨ c = doubleQuote ∨ c = backslash := by
      rcases own with rfl | slash
      · exact (mark_eq s).imp_right Or.inl
      · exact Or.inr (Or.inr slash)
    rcases named with rfl | rfl | rfl <;> exact .escaped _ rfl
  · exact line ▸ .escaped 'n' rfl
  · exact carriage ▸ .escaped 'r' rfl
  · exact tab ▸ .escaped 't' rfl
  · by_cases bracket : c = '>'
    · exact bracket ▸ .escaped '>' rfl
    · rw [shield_eq_self (by simpa using bracket)]
      exact .plain ⟨fun slash => own (Or.inr slash), bracket⟩
  · exact writes_digits 'x' (by decide) (by decide) one
  · exact writes_digits 'u' (by decide) (by decide) two
  · exact writes_digits 'U' (by decide) (by decide) c.val.toNat_lt

/-- A quoted text in a label: its characters one by one, between two marks. -/
theorem shield_write (printable : Char → Bool) (s : List Char) :
    shield (write printable s) =
      mark s :: (s.flatMap (fun c => shield (escape printable (mark s) c)) ++ [mark s]) := by
  have marks : shield [mark s] = [mark s] :=
    shield_eq_self (by simpa using (inert_mark s).2)
  rw [write, ← List.singleton_append, shield_append, shield_append, marks]
  exact congrArg (fun body => mark s :: (body ++ [mark s])) List.flatMap_assoc

theorem flatMap_injective {f : Char → List Char} (writes : ∀ c, Writes c (f c)) :
    Function.Injective (List.flatMap f) := by
  intro s t same
  induction s generalizing t with
  | nil =>
    cases t with
    | nil => rfl
    | cons d t => exact absurd (List.append_eq_nil_iff.mp same.symm).1 (writes d).ne_nil
  | cons c s ih =>
    cases t with
    | nil => exact absurd (List.append_eq_nil_iff.mp same).1 (writes c).ne_nil
    | cons d t =>
      obtain ⟨rfl, others⟩ := (writes c).unique (writes d) same
      rw [ih others]

/-- No two texts are quoted alike, brackets escaped or not. -/
theorem shield_write_injective (printable : Char → Bool) :
    Function.Injective fun s => shield (write printable s) := by
  intro s t same
  simp only [shield_write] at same
  -- The mark decides which quotes are escaped, so both bodies are read by the same rule.
  obtain ⟨marks, bodies⟩ := List.cons.inj same
  rw [← marks] at bodies
  exact flatMap_injective (writes_escape printable s) (List.append_cancel_right bodies)

/-- The number of backslashes in the run that ends a text. -/
def slashes (s : List Char) : Nat :=
  (s.rtakeWhile (· = backslash)).length

theorem slashes_concat (s : List Char) (c : Char) :
    slashes (s ++ [c]) = if c = backslash then slashes s + 1 else 0 := by
  rw [slashes, List.rtakeWhile_concat]
  by_cases slash : c = backslash
  · simp [slash, slashes]
  · simp [slash]

theorem slashes_eq_zero {s : List Char} (last : s.getLast? ≠ some backslash) : slashes s = 0 := by
  rcases List.eq_nil_or_concat' s with rfl | ⟨s, c, rfl⟩
  · rfl
  · rw [List.getLast?_concat] at last
    rw [slashes_concat, if_neg (fun slash => last (congrArg some slash))]

/-- A character stands last in a text or in front of what stands last. -/
theorem eq_of_concat_eq {s before after : List Char} {b c : Char}
    (split : s ++ [c] = before ++ b :: after) :
    (after = [] ∧ s = before ∧ c = b) ∨ ∃ rest, after = rest ++ [c] ∧ s = before ++ b :: rest := by
  rcases List.eq_nil_or_concat' after with rfl | ⟨rest, d, rfl⟩
  · obtain ⟨front, last⟩ := List.append_inj' split rfl
    exact Or.inl ⟨rfl, front, (List.cons.inj last).1⟩
  · rw [← List.cons_append, ← List.append_assoc] at split
    obtain ⟨front, last⟩ := List.append_inj' split rfl
    exact Or.inr ⟨rest, by rw [last], front⟩

/-- Every bracket in a text that could close a label stands behind an odd number of backslashes. -/
def Shielded (s : List Char) : Prop :=
  ∀ before after, s = before ++ '>' :: after → Odd (slashes before)

namespace Shielded

variable {s : List Char}

theorem nil : Shielded [] := by
  intro before after split
  simp at split

theorem concat {c : Char} (shielded : Shielded s) (odd : c = '>' → Odd (slashes s)) :
    Shielded (s ++ [c]) := by
  intro before after split
  rcases eq_of_concat_eq split with ⟨_, rfl, rfl⟩ | ⟨rest, _, shorter⟩
  · exact odd rfl
  · exact shielded before rest shorter

theorem append {t : List Char} (shielded : Shielded s) (inert : ∀ c ∈ t, Inert c) :
    Shielded (s ++ t) := by
  induction t generalizing s with
  | nil => rwa [List.append_nil]
  | cons c t ih =>
    rw [← List.singleton_append, ← List.append_assoc]
    have first : Inert c := inert c List.mem_cons_self
    exact ih (shielded.concat fun bracket => absurd bracket first.2)
      fun d member => inert d (List.mem_cons_of_mem _ member)

theorem front {t : List Char} (shielded : Shielded t) (front : s <+: t) : Shielded s := by
  obtain ⟨more, rfl⟩ := front
  intro before after split
  exact shielded before (after ++ more) (by rw [split, List.append_assoc]; rfl)

/-- A bracket behind such a text is the only one that nothing escapes, unless a backslash at the end
of the text does. -/
theorem closing (shielded : Shielded s) (last : s.getLast? ≠ some backslash)
    {before after : List Char} (split : s ++ ['>'] = before ++ '>' :: after) :
    Even (slashes before) ↔ after = [] := by
  rcases eq_of_concat_eq split with ⟨rfl, rfl, _⟩ | ⟨rest, rfl, shorter⟩
  · rw [slashes_eq_zero last]
    simp
  · simpa using shielded before rest shorter

end Shielded

/-- The beginning of a label up to the end of a character: every bracket is shielded, and the last
backslash has its letter. -/
structure Closed (s : List Char) : Prop where
  shielded : Shielded s
  even : Even (slashes s)

namespace Closed

variable {s : List Char}

theorem nil : Closed [] :=
  ⟨.nil, Even.zero⟩

theorem append {t : List Char} (closed : Closed s) (inert : ∀ c ∈ t, Inert c) :
    Closed (s ++ t) := by
  refine ⟨closed.shielded.append inert, ?_⟩
  rcases List.eq_nil_or_concat' t with rfl | ⟨t, c, rfl⟩
  · rw [List.append_nil]
    exact closed.even
  · have last : Inert c := inert c (by simp)
    rw [← List.append_assoc, slashes_concat, if_neg last.1]
    exact Even.zero

/-- A letter behind a backslash may be a backslash or a bracket itself. -/
theorem escape (closed : Closed s) (letter : Char) : Closed (s ++ [backslash, letter]) := by
  -- Behind the backslash the run is odd: a bracket may follow, and another backslash makes it even.
  have odd : Odd (slashes (s ++ [backslash])) := by
    rw [slashes_concat, if_pos rfl]
    exact closed.even.add_one
  have pending : Shielded (s ++ [backslash]) :=
    closed.shielded.concat fun bracket => absurd bracket (by decide)
  have whole : s ++ [backslash, letter] = s ++ [backslash] ++ [letter] := by simp
  rw [whole]
  refine ⟨pending.concat fun _ => odd, ?_⟩
  rw [slashes_concat]
  split
  · exact odd.add_one
  · exact Even.zero

theorem writes {c : Char} {u : List Char} (closed : Closed s) (writes : Writes c u) :
    Closed (s ++ u) := by
  cases writes with
  | plain inert => exact closed.append (by simpa using inert)
  | escaped letter _ =>
    have digits := (closed.escape letter).append (t := hex (announced letter) c.toNat)
      fun _ => inert_of_mem_hex
    rwa [List.append_assoc] at digits

theorem flatMap {f : Char → List Char} (closed : Closed s) (writes : ∀ c, Writes c (f c))
    (t : List Char) : Closed (s ++ t.flatMap f) := by
  induction t generalizing s with
  | nil => rwa [List.flatMap_nil, List.append_nil]
  | cons c t ih =>
    rw [List.flatMap_cons, ← List.append_assoc]
    exact ih (closed.writes (writes c))

theorem write (closed : Closed s) (printable : Char → Bool) (t : List Char) :
    Closed (s ++ shield (Quoted.write printable t)) := by
  have mark : ∀ c ∈ [Quoted.mark t], Inert c := by simpa using inert_mark t
  have body := (closed.append mark).flatMap (writes_escape printable t) t
  have whole := body.append mark
  rwa [shield_write, ← List.singleton_append, ← List.append_assoc, ← List.append_assoc]

end Closed

variable (printable : Char → Bool) (limit : Int) (s : List Char)

/-- What is shown of a text ends with its mark, or else with a dot. -/
theorem getLast?_clip_write :
    (clip limit (shield (write printable s))).getLast? =
      some (if limit < (shield (write printable s)).length then '.' else mark s) := by
  rw [clip]
  split
  · rw [List.getLast?_append]
    rfl
  · rw [shield_write, ← List.cons_append, List.getLast?_concat]

theorem inert_of_getLast?_clip_write {c : Char}
    (last : (clip limit (shield (write printable s))).getLast? = some c) : Inert c := by
  rw [getLast?_clip_write] at last
  cases last
  split
  · decide
  · exact inert_mark s

/-- A cut may leave a backslash without its letter, but never a bracket without its backslash. -/
theorem shielded_clip {front : List Char} (closed : Closed front) :
    Shielded (front ++ clip limit (shield (write printable s))) := by
  have whole := (closed.write printable s).shielded
  rw [clip]
  split
  · rw [← List.append_assoc]
    refine (whole.front ?_).append (by simp [Inert, backslash])
    exact (List.prefix_append_right_inj front).mpr (List.take_prefix _ _)
  · exact whole

/-- A label that shows a text whole is the label of no other text, however short that is cut. -/
theorem clip_write_inj {limit other : Int} {s t : List Char}
    (fits : (shield (write printable s)).length ≤ limit)
    (same : clip other (shield (write printable t)) = clip limit (shield (write printable s))) :
    t = s := by
  -- The whole text ends with a mark, which tells it from one that was cut.
  have last := congrArg List.getLast? same
  rw [getLast?_clip_write, getLast?_clip_write, if_neg (c := limit < _) (by omega)] at last
  have ends := Option.some.inj last
  split at ends
  · rcases mark_eq s with mark | mark <;> rw [mark] at ends <;> exact absurd ends (by decide)
  · next whole =>
    rw [clip_of_le fits, clip_of_le (Int.not_lt.mp whole)] at same
    exact shield_write_injective printable same

/-- The label of a text, whichever characters print. -/
def ofText (printable : Char → Bool) (text : String) (limit : Int) : String :=
  String.ofList (value "str" limit (write printable text.toList))

theorem toList_ofText (text : String) :
    (ofText printable text limit).toList =
      ['<', 's', 't', 'r', ':', ' '] ++ clip limit (shield (write printable text.toList)) ++
        ['>'] := by
  rw [ofText, String.toList_ofList]
  rfl

end Label

open Label in
/-- What a label shows of a text is no longer than the limit, or than the three dots of a cut. Every
bracket in it is escaped, by the last of an odd number of backslashes, and no backslash ends it; so
the bracket that closes the label is the one that nothing escapes. If the quoted text fits, it is
shown whole, and no other text has that label. -/
theorem Datum.label_str_delimited (printable : Char → Bool) (text : String) (limit : Int) :
    (Datum.str text).label limit = ofText Unicode.printable text limit ∧
    ∃ inner : List Char,
      ofText printable text limit = "<str: " ++ String.ofList inner ++ ">" ∧
      (∀ before after, inner = before ++ '>' :: after → Odd (slashes before)) ∧
      inner.getLast? ≠ some Quoted.backslash ∧
      (∀ before after, (ofText printable text limit).toList = before ++ '>' :: after →
        (Even (slashes before) ↔ after = [])) ∧
      (inner.length : Int) ≤ max limit 3 ∧
      ((shield (Quoted.write printable text.toList)).length ≤ limit →
        inner = shield (Quoted.write printable text.toList) ∧
        ∀ (text' : String) (limit' : Int),
          ofText printable text' limit' = ofText printable text limit → text' = text) := by
  let inner := clip limit (shield (Quoted.write printable text.toList))
  have characters := toList_ofText printable limit text
  have last : inner.getLast? ≠ some Quoted.backslash := fun slash =>
    (inert_of_getLast?_clip_write printable limit _ slash).1 rfl
  refine ⟨rfl, inner, ?_, ?_, last, ?_, length_clip_le _ _, ?_⟩
  · rw [← String.toList_inj, characters]
    simp [inner]
  · exact shielded_clip printable limit _ .nil
  · intro before after split
    rw [characters] at split
    have front : Closed ['<', 's', 't', 'r', ':', ' '] :=
      Closed.nil.append (by simp [Inert, Quoted.backslash])
    refine (shielded_clip printable limit _ front).closing ?_ split
    rw [List.getLast?_append, getLast?_clip_write, Option.some_or, ← getLast?_clip_write]
    exact last
  · intro fits
    refine ⟨clip_of_le fits, fun text' limit' same => ?_⟩
    have shown := congrArg String.toList same
    rw [characters, toList_ofText, List.append_left_inj, List.append_right_inj] at shown
    exact String.toList_inj.mp (clip_write_inj printable fits shown)

/-- The cut falls into the run of backslashes in front of the bracket and takes the bracket away. -/
theorem Datum.label_str_delimited_cut :
    let text := String.ofList ['a', Quoted.backslash, '>']
    (Datum.str text).label 6 = "<str: 'a\\...>" ∧
      (Datum.str text).label 7 = "<str: 'a\\\\\\>'>" ∧
      (Label.shield (Quoted.text text.toList)).length = 7 ∧
      ∀ (text' : String) (limit' : Int),
        (Datum.str text').label limit' = (Datum.str text).label 7 → text' = text := by
  intro text
  have length : (Label.shield (Quoted.text text.toList)).length = 7 := by decide +kernel
  obtain ⟨_, _, _, _, _, _, _, whole⟩ := label_str_delimited Unicode.printable text 7
  have fits : ((Label.shield (Quoted.text text.toList)).length : Int) ≤ 7 := by omega
  exact ⟨by decide +kernel, by decide +kernel, length, (whole fits).2⟩

end Numeral
