import Scriptlet.Number.Binary64
import Scriptlet.Text.Blank
import Scriptlet.Text.Numeric

/-! Reading numerals in the decimal digits of any script. -/

namespace Scriptlet.Number.Numeral

/-- An integer numeral with more digits than this is not read. -/
def digitLimit : Nat := 4300

/-- Digits, with single underscores allowed between them. -/
def groupedDigits? : List Char → Option (List Nat)
  | [] => none
  | c :: rest =>
      match Text.digitValue? c, rest with
      | none, _ => none
      | some digit, [] => some [digit]
      | some digit, '_' :: more => (groupedDigits? more).map (digit :: ·)
      | some digit, next :: more => (groupedDigits? (next :: more)).map (digit :: ·)

def value (digits : List Nat) : Nat :=
  digits.foldl (fun total digit => 10 * total + digit) 0

def trim (text : List Char) : List Char :=
  let front := text.dropWhile Text.isNumeralBlank
  (front.reverse.dropWhile Text.isNumeralBlank).reverse

def natural? (text : List Char) : Option Nat :=
  match groupedDigits? text with
  | some digits => if digits.length ≤ digitLimit then some (value digits) else none
  | none => none

/-- An optional sign and digits, in optional white space. -/
def integer? (text : List Char) : Option Int :=
  match trim text with
  | '-' :: digits => (natural? digits).map fun n => -(n : Int)
  | '+' :: digits => (natural? digits).map fun n => (n : Int)
  | digits => (natural? digits).map fun n => (n : Int)

def plainDigits? (text : List Char) : Option (List Nat) :=
  text.mapM Text.digitValue?

/-- Digits with at most one decimal point and at least one digit, as the nearest float. -/
def decimal? (text : List Char) : Option Float :=
  let whole := text.takeWhile (· != '.')
  let fraction := (text.dropWhile (· != '.')).drop 1
  match plainDigits? whole, plainDigits? fraction with
  | some front, some back =>
      if front.isEmpty && back.isEmpty then none
      else some (Binary64.nearest false (value (front ++ back)) (Nat.pow 10 back.length))
  | _, _ => none

end Scriptlet.Number.Numeral
