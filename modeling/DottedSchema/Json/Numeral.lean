import DottedSchema.Json
import DottedSchema.Json.SyntaxFault

set_option autoImplicit false

namespace DottedSchema.Json

namespace Numeral

def digitValue (c : Char) : Nat := c.toNat - '0'.toNat

def valueOf (digits : List Char) : Nat := digits.foldl (fun n c => n * 10 + digitValue c) 0

def fits (n : Nat) : Bool := n < Nat.pow 2 64

/-- Appends integer digits to `start`; from the first that does not fit they are only counted. -/
def whole (start : Nat) : List Char → Nat × Nat
  | [] => (start, 0)
  | d :: ds =>
    let next := start * 10 + digitValue d
    if fits next then whole next ds else (start, ds.length + 1)

def fraction (start : Nat) : List Char → Nat × Nat
  | [] => (start, 0)
  | d :: ds =>
    let next := start * 10 + digitValue d
    if fits next then
      let (n, used) := fraction next ds
      (n, used + 1)
    else (start, 0)

def exponent? : List Char → Option Int
  | [] => some 0
  | c :: rest =>
    if c = 'e' ∨ c = 'E' then
      let (negative, digits) := match rest with
        | '-' :: digits => (true, digits)
        | '+' :: digits => (false, digits)
        | digits => (false, digits)
      if digits.isEmpty || !digits.all Char.isDigit then none
      else some (if negative then -(valueOf digits : Int) else valueOf digits)
    else none

/-- Signed zero stays a double; other integers of the 64-bit ranges stay integers. -/
def integer (negative : Bool) (n : Nat) : Number :=
  if !negative then .integer n
  else if n = 0 ∨ Nat.pow 2 63 < n then .double (Double.ofNat n).neg
  else .integer (-(n : Int))

def double (negative : Bool) (n : Nat) (exponent : Int) : Except SyntaxFault Number :=
  match (Double.ofNat n).scaleTen exponent with
  | some x => .ok (.double (if negative then x.neg else x))
  | none => .error .numberTooLarge

def unsigned (negative : Bool) (literal : List Char) : Except SyntaxFault Number :=
  let digits := literal.takeWhile Char.isDigit
  let (n, dropped) := whole 0 digits
  if digits.isEmpty || (digits.head? = some '0' && digits.length != 1) then .error .numeral
  else match literal.dropWhile Char.isDigit with
    | [] => if dropped = 0 then .ok (integer negative n) else double negative n dropped
    | '.' :: rest =>
      let decimals := rest.takeWhile Char.isDigit
      let (n, used) := fraction n decimals
      if decimals.isEmpty then .error .numeral
      else match exponent? (rest.dropWhile Char.isDigit) with
        | some e => double negative n (dropped - used + e)
        | none => .error .numeral
    | rest => match exponent? rest with
      | some e => double negative n (dropped + e)
      | none => .error .numeral

def read : List Char → Except SyntaxFault Number
  | '-' :: literal => unsigned true literal
  | literal => unsigned false literal

end Numeral

end DottedSchema.Json
