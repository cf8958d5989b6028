import ChatSocket.Text.Combining
import ChatSocket.Text.Unprintable

/-!
# Quoted text for diagnostics

Diagnostics show a text or a character between quotes, with everything that
would not be visible on its own written as an escape: `\u{200b}` for a zero
width space, `\u{301}` for a combining accent.
-/

set_option autoImplicit false

namespace ChatSocket.Text

/-- Digits of a number in base sixteen, lower case and without padding. -/
def hexDigits (n : Nat) : String :=
  String.ofList (Nat.toDigits 16 n)

/-- The written form of one character between the given quotes.  A quote of the
other kind needs no escape. -/
def escapeChar (quote : Char) (c : Char) : String :=
  match c with
  | '\x00' => "\\0"
  | '\t' => "\\t"
  | '\r' => "\\r"
  | '\n' => "\\n"
  | '\\' => "\\\\"
  | _ =>
      if c = quote then String.ofList ['\\', c]
      else if isCombining c || isUnprintable c then "\\u\x7b" ++ hexDigits c.toNat ++ "\x7d"
      else String.singleton c

/-- A text between double quotes. -/
def quoted (text : String) : String :=
  "\"" ++ String.join (text.toList.map (escapeChar '"')) ++ "\""

/-- A character between single quotes. -/
def quotedChar (c : Char) : String :=
  "'" ++ escapeChar '\'' c ++ "'"

example : quoted "a\"b'\n" = "\"a\\\"b'\\n\"" := by decide +kernel

example : quotedChar '\'' = "'\\''" := by decide +kernel

example : quotedChar '\u00ad' = "'\\u\x7bad\x7d'" := by decide +kernel

end ChatSocket.Text
