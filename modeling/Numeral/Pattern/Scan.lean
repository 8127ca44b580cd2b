import Numeral.Pattern.Error
import Numeral.Unicode.Classes

namespace Numeral

/-- Where the reading of a pattern stopped: the cause, and the characters that were still to be
read. -/
structure Stop where
  cause : Cause
  rest : List Char
  deriving DecidableEq

/-- Why the reading of a pattern does not go on: it has stopped at some place, or a number cannot be
read for its many digits. -/
inductive ScanError where
  | stop (stop : Stop)
  | digits (e : DigitError)
  deriving DecidableEq

namespace Scan

/-- A character in front of an alignment is a fill unless it is an alignment itself. -/
def flags : List Char → Flags × List Char
  | [] => (.none, [])
  | c :: rest =>
    match Align.ofChar? c, rest with
    | some a, _ => (.align a, rest)
    | none, [] => (.none, [c])
    | none, d :: after =>
      match Align.ofChar? d with
      | some a => (.pair c a, after)
      | none => (.none, c :: rest)

def sign : List Char → Option SignRule × List Char
  | [] => (none, [])
  | c :: rest =>
    match SignRule.ofChar? c with
    | some s => (some s, rest)
    | none => (none, c :: rest)

def alternate : List Char → Bool × List Char
  | '#' :: rest => (true, rest)
  | cs => (false, cs)

def zero (flags : Flags) : List Char → Except ScanError (Bool × List Char)
  | '0' :: rest =>
    match flags with
    | .pair fill _ => .error (.stop ⟨.zeroAfterFill fill, '0' :: rest⟩)
    | _ => .ok (true, rest)
  | cs => .ok (false, cs)

/-- The mark of a deferred count, or digits, or nothing. -/
def count : List Char → Option Count × List Char
  | '$' :: rest => (some .deferred, rest)
  | cs =>
    match Digits.scan cs with
    | ([], rest) => (none, rest)
    | (run, rest) => (some (.digits run), rest)

/-- Passes on a count that has been found, if its number can be read. -/
def legible (most : Nat) (found : Option Count × List Char) :
    Except ScanError (Option Count × List Char) :=
  match found.1 with
  | some (.digits run) => ((Digits.read most run).mapError .digits).map fun _ => found
  | _ => .ok found

/-- A zero stands here only after the zero flag, which has taken the first one. -/
def width (most : Nat) (zero : Bool) : List Char → Except ScanError (Option Count × List Char)
  | '0' :: rest => .error (.stop ⟨.zeroBeforeWidth, '0' :: rest⟩)
  | cs =>
    match count cs, zero with
    | (none, rest), true => .error (.stop ⟨.zeroWithoutWidth, rest⟩)
    | found, _ => legible most found

def precision (most : Nat) : List Char → Except ScanError (Option Count × List Char)
  | '.' :: cs =>
    match count cs with
    | (none, rest) => .error (.stop ⟨.missingPrecision, rest⟩)
    | found => legible most found
  | cs => .ok (none, cs)

def radix (classes : Unicode.Classes) : List Char → Except ScanError (Option Radix × List Char)
  | [] => .ok (none, [])
  | c :: rest =>
    match Radix.ofCode? c with
    | some r => .ok (some r, rest)
    | none =>
      if classes.letter c then .error (.stop ⟨.unknownRadix c, c :: rest⟩)
      else .ok (none, c :: rest)

/-- The marks that belong to a pattern elsewhere. Where a separator may stand they are misplaced
rather than unknown. -/
def reserved : List Char :=
  ['<', '^', '>', 'v', '+', '-', '#', '$', '.']

def grouping (classes : Unicode.Classes) (most : Nat) :
    List Char → Except ScanError (Option Grouping × List Char)
  | [] => .ok (none, [])
  | c :: rest =>
    match GroupMark.ofChar? c with
    | some mark => do
      let (run, after) := Digits.scan rest
      let size ← (Digits.read most run).mapError .digits
      if run ≠ [] ∧ size = 0 then .error (.stop ⟨.zeroSpacing, rest⟩)
      else .ok (some ⟨mark, run⟩, after)
    | none =>
      if classes.letterOrNumeral c || reserved.contains c then .ok (none, c :: rest)
      else .error (.stop ⟨.unknownSeparator c, c :: rest⟩)

end Scan

namespace Pattern

/-- Reads the groups in their order, each where the one before it ends, and refuses a text that
goes on after the last. Numbers of more than `most` digits are refused. -/
def scan (classes : Unicode.Classes) (most : Nat) (cs : List Char) :
    Except ScanError Pattern := do
  let (flags, cs) := Scan.flags cs
  let (sign, cs) := Scan.sign cs
  let (alternate, cs) := Scan.alternate cs
  let (zero, cs) ← Scan.zero flags cs
  let (width, cs) ← Scan.width most zero cs
  let (precision, cs) ← Scan.precision most cs
  let (radix, cs) ← Scan.radix classes cs
  let (grouping, cs) ← Scan.grouping classes most cs
  if cs = [] then
    pure { flags, sign, alternate, zero, width, precision, radix, grouping }
  else
    throw (.stop ⟨.trailing cs, cs⟩)

/-- Reads a pattern. The position of an error is the number of characters read before it. -/
def read (classes : Unicode.Classes) (most : Nat) (cs : List Char) :
    Except PatternFailure Pattern :=
  match scan classes most cs with
  | .ok p => .ok p
  | .error (.stop stop) => .error (.mismatch ⟨stop.cause, cs.length - stop.rest.length, cs⟩)
  | .error (.digits e) => .error (.digits e)

end Pattern

/-- Reads a style from its pattern. -/
def Style.parse (text : String) : Except PatternFailure Style :=
  (Pattern.read Unicode.classes Digits.limit text.toList).map Pattern.style

end Numeral
