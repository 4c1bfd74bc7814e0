set_option autoImplicit false

namespace DottedSchema.Json

inductive SyntaxFault where
  | character (c : Char)
  | unfinishedText
  | escape
  | surrogate
  | word
  | numeral
  | numberTooLarge
  | unexpectedToken
  | unfinished
  | trailing
  | tooNested
deriving DecidableEq

def SyntaxFault.message : SyntaxFault → String
  | .character c => "unexpected character " ++ String.ofList ['\x27', c, '\x27']
  | .unfinishedText => "string without end"
  | .escape => "unknown escape"
  | .surrogate => "unpaired surrogate"
  | .word => "unknown word"
  | .numeral => "malformed number"
  | .numberTooLarge => "number out of range"
  | .unexpectedToken => "unexpected token"
  | .unfinished => "unexpected end of input"
  | .trailing => "trailing characters"
  | .tooNested => "nesting too deep"

end DottedSchema.Json
