import DottedSchema.Json.Numeral

/-!
# Tokens of a JSON document

The scanner goes through the characters once. Its state is what it is in the middle of; a number or a word ends
where a character comes that cannot belong to it, and that character is then scanned afresh.
-/
set_option autoImplicit false

namespace DottedSchema.Json

inductive Token where
  | openArray
  | closeArray
  | openObject
  | closeObject
  | comma
  | colon
  | leaf (value : Json)

namespace Token

/-- What the scanner is in the middle of; collected characters are in reverse. -/
inductive Scan where
  | between
  | word (collected : List Char)
  | numeral (collected : List Char)
  | text (collected : List Char)
  | escape (collected : List Char)
  /-- `left` more hexadecimal digits of an escape are to come; `high` is the first half of a surrogate pair. -/
  | hex (collected : List Char) (high : Option Nat) (left : Nat) (unit : Nat)
  | pair (collected : List Char) (high : Nat)
  | pairEscape (collected : List Char) (high : Nat)

structure Progress where
  scan : Scan
  tokens : List Token

def isBlank (c : Char) : Bool := c = ' ' || c = '\t' || c = '\n' || c = '\r'

def isNumeral (c : Char) : Bool := c.isDigit || c = '-' || c = '+' || c = '.' || c = 'e' || c = 'E'

def word? : List Char → Option Json
  | ['n', 'u', 'l', 'l'] => some .null
  | ['t', 'r', 'u', 'e'] => some (.bool true)
  | ['f', 'a', 'l', 's', 'e'] => some (.bool false)
  | _ => none

def hexValue? (c : Char) : Option Nat :=
  if '0' ≤ c ∧ c ≤ '9' then some (c.toNat - '0'.toNat)
  else if 'a' ≤ c ∧ c ≤ 'f' then some (c.toNat - 'a'.toNat + 10)
  else if 'A' ≤ c ∧ c ≤ 'F' then some (c.toNat - 'A'.toNat + 10)
  else none

def escaped? : Char → Option Char
  | '"' => some '"'
  | '\\' => some '\\'
  | '/' => some '/'
  | 'b' => some '\x08'
  | 'f' => some '\x0c'
  | 'n' => some '\n'
  | 'r' => some '\r'
  | 't' => some '\t'
  | _ => none

def isHighSurrogate (unit : Nat) : Bool := 0xD800 ≤ unit && unit < 0xDC00
def isLowSurrogate (unit : Nat) : Bool := 0xDC00 ≤ unit && unit < 0xE000

def unicode (collected : List Char) (high : Option Nat) (unit : Nat) : Except SyntaxFault Scan :=
  match high with
  | some high =>
    if isLowSurrogate unit then
      .ok (.text (Char.ofNat (0x10000 + (high - 0xD800) * 0x400 + (unit - 0xDC00)) :: collected))
    else .error .surrogate
  | none =>
    if isHighSurrogate unit then .ok (.pair collected unit)
    else if isLowSurrogate unit then .error .surrogate
    else .ok (.text (Char.ofNat unit :: collected))

def start (tokens : List Token) (c : Char) : Except SyntaxFault Progress :=
  if isBlank c then .ok ⟨.between, tokens⟩
  else match c with
    | '[' => .ok ⟨.between, .openArray :: tokens⟩
    | ']' => .ok ⟨.between, .closeArray :: tokens⟩
    | '\x7b' => .ok ⟨.between, .openObject :: tokens⟩
    | '\x7d' => .ok ⟨.between, .closeObject :: tokens⟩
    | ',' => .ok ⟨.between, .comma :: tokens⟩
    | ':' => .ok ⟨.between, .colon :: tokens⟩
    | '"' => .ok ⟨.text [], tokens⟩
    | c =>
      if c.isDigit || c = '-' then .ok ⟨.numeral [c], tokens⟩
      else if c.isAlpha then .ok ⟨.word [c], tokens⟩
      else .error (.character c)

def close : Progress → Except SyntaxFault (List Token)
  | ⟨.between, tokens⟩ => .ok tokens
  | ⟨.word collected, tokens⟩ =>
    match word? collected.reverse with
    | some value => .ok (.leaf value :: tokens)
    | none => .error .word
  | ⟨.numeral collected, tokens⟩ => do
    let value ← Numeral.read collected.reverse
    return .leaf (.number value) :: tokens
  | _ => .error .unfinishedText

def step (progress : Progress) (c : Char) : Except SyntaxFault Progress :=
  let tokens := progress.tokens
  match progress.scan with
  | .between => start tokens c
  | .word collected =>
    if c.isAlpha then .ok ⟨.word (c :: collected), tokens⟩
    else do start (← close progress) c
  | .numeral collected =>
    if isNumeral c then .ok ⟨.numeral (c :: collected), tokens⟩
    else do start (← close progress) c
  | .text collected =>
    if c = '"' then .ok ⟨.between, .leaf (.text (String.ofList collected.reverse)) :: tokens⟩
    else if c = '\\' then .ok ⟨.escape collected, tokens⟩
    else if c < ' ' then .error (.character c)
    else .ok ⟨.text (c :: collected), tokens⟩
  | .escape collected =>
    if c = 'u' then .ok ⟨.hex collected none 3 0, tokens⟩
    else match escaped? c with
      | some e => .ok ⟨.text (e :: collected), tokens⟩
      | none => .error .escape
  | .hex collected high left unit =>
    match hexValue? c, left with
    | none, _ => .error .escape
    | some d, 0 => do return ⟨← unicode collected high (unit * 16 + d), tokens⟩
    | some d, left + 1 => .ok ⟨.hex collected high left (unit * 16 + d), tokens⟩
  | .pair collected high => if c = '\\' then .ok ⟨.pairEscape collected high, tokens⟩ else .error .surrogate
  | .pairEscape collected high => if c = 'u' then .ok ⟨.hex collected (some high) 3 0, tokens⟩ else .error .surrogate

def scanAll (text : List Char) : Except SyntaxFault (List Token) := do
  let progress ← text.foldlM step ⟨.between, []⟩
  return (← close progress).reverse

end Token

end DottedSchema.Json
