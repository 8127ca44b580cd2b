import Numeral.Margin

namespace Numeral

/-- What a text costs of the width: its size in UTF-8. -/
def cost : List Char → Nat
  | [] => 0
  | c :: cs => c.utf8Size + cost cs

theorem cost_append (cs ds : List Char) : cost (cs ++ ds) = cost cs + cost ds := by
  induction cs with
  | nil => exact (Nat.zero_add _).symm
  | cons c cs ih =>
    rw [List.cons_append, cost, cost, ih, Nat.add_assoc]

theorem cost_cons (c : Char) (cs : List Char) : cost (c :: cs) = c.utf8Size + cost cs :=
  rfl

theorem cost_replicate (n : Nat) (c : Char) : cost (List.replicate n c) = n * c.utf8Size := by
  induction n with
  | zero => exact (Nat.zero_mul _).symm
  | succ n ih =>
    rw [List.replicate_succ, cost, ih, Nat.succ_mul, Nat.add_comm]

/-- A text costs as many units as its string has bytes. -/
theorem cost_eq_utf8ByteSize (cs : List Char) : cost cs = (String.ofList cs).utf8ByteSize := by
  induction cs with
  | nil => rfl
  | cons c cs ih =>
    have split : String.ofList (c :: cs) = String.ofList [c] ++ String.ofList cs := by
      rw [← String.ofList_append]
      rfl
    rw [cost_cons, ih, split, String.utf8ByteSize_append, ← String.singleton_eq_ofList,
      String.utf8ByteSize_singleton]

/-- As many copies of `fill` as the deficit pays for. -/
def fillRun (fill : Char) (deficit : Nat) : List Char :=
  List.replicate (deficit / fill.utf8Size) fill

theorem cost_fillRun_le (fill : Char) (deficit : Nat) : cost (fillRun fill deficit) ≤ deficit := by
  rw [fillRun, cost_replicate]
  exact Nat.div_mul_le_self _ _

/-- One more copy would cost more than the deficit. -/
theorem lt_cost_fillRun_add (fill : Char) (deficit : Nat) :
    deficit < cost (fillRun fill deficit) + fill.utf8Size := by
  rw [fillRun, cost_replicate]
  have remainder := Nat.mod_lt deficit fill.utf8Size_pos
  have whole := Nat.div_add_mod' deficit fill.utf8Size
  omega

/-- Puts `mark` between groups of `size` digits, counted from the last digit: after each digit that
has a whole number of groups behind it. -/
def group (mark : Char) (size : Nat) : List Char → List Char
  | [] => []
  | c :: rest =>
    if rest ≠ [] ∧ rest.length % size = 0 then c :: mark :: group mark size rest
    else c :: group mark size rest

/-- The parts of a written number: sign and base marker, integral digits, point and fraction. -/
structure Pieces where
  lead : List Char := []
  integral : List Char
  tail : List Char := []
  deriving DecidableEq

/-- Puts the run of fill characters around a text. Of an odd run the larger part stands behind a
centered text. -/
def Align.place (align : Align) (run content : List Char) : List Char :=
  match align with
  | .left => content ++ run
  | .center => run.take (run.length / 2) ++ content ++ run.drop (run.length / 2)
  | .right | .decimal => run ++ content

namespace Margin

/-- What of a number counts toward the width. An explicit fill leaves out sign and marker, and
alignment at the point leaves out the fraction. -/
def counted (m : Margin) (p : Pieces) : Nat :=
  (if m.mode = .filled then 0 else cost p.lead) +
    (cost p.integral + (if m.align = .decimal then 0 else cost p.tail))

/-- The part of a number whose bytes count toward the width. -/
def countedText (m : Margin) (p : Pieces) : List Char :=
  (if m.mode = .filled then [] else p.lead) ++
    (p.integral ++ if m.align = .decimal then [] else p.tail)

theorem counted_eq (m : Margin) (p : Pieces) : m.counted p = cost (m.countedText p) := by
  simp only [counted, countedText, cost_append]
  split <;> split <;> rfl

/-- Puts a number together and fills the unused part of the width. -/
def pad (m : Margin) (width : Nat) (p : Pieces) : List Char :=
  let run := fillRun m.fill (width - m.counted p)
  let body := p.integral ++ p.tail
  match m with
  | .plain align => align.place run (p.lead ++ body)
  | .filled _ align => p.lead ++ align.place run body
  | .zeros _ => p.lead ++ run ++ body

end Margin

end Numeral
