import TextScan.Unicode.Hidden

namespace TextScan.Text

/-!
# Quoted text

Text in quotation marks, as messages and traces show it. Characters without a picture of their own
are shown by number, so two texts never look the same.

* `quotedChar` is the spelling of one character, `quoted` that of a text.
* `quotedOption` is the spelling of a text that may be missing.
-/

/-- The lower-case hexadecimal digits of a number. -/
def hexDigits (n : Nat) : Text := Nat.toDigits 16 n

/-- The spelling of a character within quotation marks. -/
def quotedChar (c : Char) : Text :=
  if c = '"' then ['\\', '"']
  else if c = '\\' then ['\\', '\\']
  else if c = '\n' then ['\\', 'n']
  else if c = '\t' then ['\\', 't']
  else if c = '\r' then ['\\', 'r']
  else if c = '\x00' then ['\\', '0']
  else if Unicode.hidden.contains c then ['\\', 'u', '\x7b'] ++ hexDigits c.toNat ++ ['\x7d']
  else [c]

/-- A text in quotation marks. -/
def quoted (t : Text) : Text := '"' :: (t.flatMap quotedChar ++ ['"'])

/-- A text that may be missing. -/
def quotedOption : Option Text → Text
  | none => "None".toList
  | some t => "Some(".toList ++ quoted t ++ [')']

end TextScan.Text
