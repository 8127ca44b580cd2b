import Mathlib.Algebra.Group.Nat.Defs
import Mathlib.Data.Nat.Basic
import Numeral.Layout

namespace Numeral

variable {mark : Char} {size : Nat} {ds es front back : List Char}

theorem head?_group (mark : Char) (size : Nat) (ds : List Char) :
    (group mark size ds).head? = ds.head? := by
  cases ds with
  | nil => rfl
  | cons c rest =>
    rw [group]
    split <;> rfl

theorem group_ne_nil (digits : ds ≠ []) : group mark size ds ≠ [] := by
  intro none
  have head := head?_group mark size ds
  rw [none] at head
  exact digits (List.head?_eq_none_iff.mp head.symm)

theorem getLast?_group (mark : Char) (size : Nat) (ds : List Char) :
    (group mark size ds).getLast? = ds.getLast? := by
  induction ds with
  | nil => rfl
  | cons c rest ih =>
    rw [group]
    cases rest with
    | nil => rfl
    | cons d rest =>
      have some : group mark size (d :: rest) ≠ [] := group_ne_nil (List.cons_ne_nil d rest)
      split
      · rw [List.getLast?_cons_of_ne_nil (List.cons_ne_nil _ _), List.getLast?_cons_of_ne_nil some,
          ih, List.getLast?_cons_cons]
      · rw [List.getLast?_cons_of_ne_nil some, ih, List.getLast?_cons_cons]

/-- Every whole group behind the first digit brings one separator. -/
theorem length_group (mark : Char) (size : Nat) (ds : List Char) :
    (group mark size ds).length = ds.length + (ds.length - 1) / size := by
  induction ds with
  | nil => simp [group]
  | cons c rest ih =>
    rw [group]
    cases rest with
    | nil => simp [group]
    | cons d rest =>
      have next : (rest.length + 1) / size =
          rest.length / size + if size ∣ rest.length + 1 then 1 else 0 := Nat.succ_div
      simp only [List.length_cons, Nat.add_sub_cancel, Nat.dvd_iff_mod_eq_zero] at ih next ⊢
      split
      · next whole =>
        rw [if_pos whole.2] at next
        simp only [List.length_cons]
        omega
      · next part =>
        rw [if_neg fun whole => part ⟨List.cons_ne_nil d rest, whole⟩] at next
        simp only [List.length_cons]
        omega

/-- Every separator is one character more and costs its own bytes. -/
theorem cost_group (cs : List Char) :
    cost (group mark size cs) + cs.length * mark.utf8Size =
      cost cs + (group mark size cs).length * mark.utf8Size := by
  induction cs with
  | nil => rfl
  | cons c cs ih =>
    rw [group]
    split
    · simp only [cost_cons, List.length_cons, Nat.succ_mul]
      omega
    · simp only [cost_cons, List.length_cons, Nat.succ_mul]
      omega

theorem eq_of_group_eq_of_length (length : ds.length = es.length)
    (same : group mark size ds = group mark size es) : ds = es := by
  induction ds generalizing es with
  | nil => exact (List.length_eq_zero_iff.mp length.symm).symm
  | cons c rest ih =>
    cases es with
    | nil => cases length
    | cons d others =>
      have shorter : rest.length = others.length := Nat.succ.inj length
      have alike : others ≠ [] ∧ others.length % size = 0 ↔
          rest ≠ [] ∧ rest.length % size = 0 := by
        rw [← List.length_pos_iff, ← List.length_pos_iff, shorter]
      rw [group, group] at same
      by_cases whole : rest ≠ [] ∧ rest.length % size = 0
      · rw [if_pos whole, if_pos (alike.mpr whole)] at same
        have tails := (List.cons.inj (List.cons.inj same).2).2
        rw [(List.cons.inj same).1, ih shorter tails]
      · rw [if_neg whole, if_neg (mt alike.mp whole)] at same
        rw [(List.cons.inj same).1, ih shorter (List.cons.inj same).2]

/-- Digits are read back from their groups, whatever the separator is: the length of the text
determines the number of digits, and that determines where the separators are. -/
theorem group_injective (mark : Char) (size : Nat) : Function.Injective (group mark size) := by
  intro ds es same
  have length := congrArg List.length same
  rw [length_group, length_group] at length
  refine eq_of_group_eq_of_length ?_ same
  rcases Nat.lt_trichotomy ds.length es.length with less | equal | more
  · have fewer := Nat.div_le_div_right (c := size) (by omega : ds.length - 1 ≤ es.length - 1)
    omega
  · exact equal
  · have fewer := Nat.div_le_div_right (c := size) (by omega : es.length - 1 ≤ ds.length - 1)
    omega

/-- Texts of one length have their separators at the same places, so that grouping keeps their
order. -/
theorem group_lt_of_lt {cs ds : List Char} (length : cs.length = ds.length) (less : cs < ds) :
    group mark size cs < group mark size ds := by
  induction cs generalizing ds with
  | nil =>
    obtain rfl := List.length_eq_zero_iff.mp length.symm
    exact less
  | cons c cs ih =>
    cases ds with
    | nil => cases length
    | cons d ds =>
      have shorter : cs.length = ds.length := Nat.succ.inj length
      have alike : cs ≠ [] ∧ cs.length % size = 0 ↔ ds ≠ [] ∧ ds.length % size = 0 := by
        rw [← List.length_pos_iff, ← List.length_pos_iff, shorter]
      rw [group, group]
      rcases List.cons_lt_cons_iff.mp less with below | ⟨rfl, tails⟩
      · split <;> split <;> exact List.cons_lt_cons_iff.mpr (Or.inl below)
      · have later := ih shorter tails
        by_cases whole : cs ≠ [] ∧ cs.length % size = 0
        · rw [if_pos whole, if_pos (alike.mp whole)]
          exact List.cons_lt_cons_self.mpr (List.cons_lt_cons_self.mpr later)
        · rw [if_neg whole, if_neg (mt alike.mpr whole)]
          exact List.cons_lt_cons_self.mpr later

theorem group_of_length_le (short : ds.length ≤ size) : group mark size ds = ds := by
  induction ds with
  | nil => rfl
  | cons c rest ih =>
    have shorter : rest.length < size := short
    have alone : ¬ (rest ≠ [] ∧ rest.length % size = 0) := by
      rintro ⟨some, whole⟩
      rw [Nat.mod_eq_of_lt shorter] at whole
      exact some (List.length_eq_zero_iff.mp whole)
    rw [group, if_neg alone, ih (Nat.le_of_lt shorter)]

/-- A first group, whole or not, is followed by a separator and the other groups. -/
theorem group_append (nonempty : front ≠ []) (short : front.length ≤ size) (more : back ≠ [])
    (whole : back.length % size = 0) :
    group mark size (front ++ back) = front ++ mark :: group mark size back := by
  induction front with
  | nil => exact absurd rfl nonempty
  | cons c rest ih =>
    have shorter : rest.length < size := short
    have remainder : (rest ++ back).length % size = rest.length := by
      rw [List.length_append, Nat.add_mod, whole, Nat.add_zero, Nat.mod_mod,
        Nat.mod_eq_of_lt shorter]
    rw [List.cons_append, group, remainder]
    cases rest with
    | nil => rw [if_pos ⟨more, rfl⟩]; rfl
    | cons d rest =>
      rw [if_neg fun both => Nat.succ_ne_zero _ both.2,
        ih (List.cons_ne_nil d rest) (Nat.le_of_lt shorter)]
      rfl

/-- Grouping cuts the digits behind the first group into slices of one size and joins all with the
separator. -/
theorem group_eq_slices {head count : Nat} (nonempty : 0 < head) (short : head ≤ size)
    (length : ds.length = head + count * size) :
    group mark size ds = [mark].intercalate
      (ds.take head :: (List.range' head count size).map fun i => (ds.drop i).take size) := by
  induction count generalizing ds head with
  | zero =>
    have few : ds.length ≤ head := by omega
    rw [group_of_length_le (Nat.le_trans few short), List.take_of_length_le few]
    exact List.append_nil ds |>.symm
  | succ count ih =>
    have rest : (ds.drop head).length = size + count * size := by
      rw [List.length_drop, length, Nat.succ_mul]
      omega
    have positive : 0 < size := Nat.lt_of_lt_of_le nonempty short
    have first : (ds.take head).length = head := by
      rw [List.length_take]
      omega
    have whole : (ds.drop head).length % size = 0 := by
      rw [rest, Nat.add_mul_mod_self_right, Nat.mod_self]
    have split : group mark size (ds.take head ++ ds.drop head) =
        ds.take head ++ mark :: group mark size (ds.drop head) :=
      group_append (List.ne_nil_of_length_pos (by omega)) (by omega)
        (List.ne_nil_of_length_pos (by omega)) whole
    have shifted : (List.range' (head + size) count size).map (fun i => (ds.drop i).take size) =
        (List.range' size count size).map fun i => ((ds.drop head).drop i).take size := by
      rw [← List.map_add_range', List.map_map]
      simp only [Function.comp_def, List.drop_drop]
    rw [List.take_append_drop] at split
    rw [split, ih positive (Nat.le_refl size) rest, List.range'_succ, List.map_cons,
      List.intercalate_cons_cons, shifted]
    simp

end Numeral
