import StackProfiler.Text.Unprintable
import StackProfiler.Text.DefaultIgnorable
import StackProfiler.Text.GraphemeExtend
/-!
# Quoted text for messages

A text that a message repeats is quoted so that every character of it can be told from the page:
quotes and backslashes are escaped, the common control characters have letters, and whatever has no
shape of its own, or would join the character before it, is given by its number.
-/

namespace StackProfiler

namespace Text

/-- A character is given by its number when it is unprintable, is ignored when drawn, or joins the
character before it without being a letter of its own. -/
def needsNumber (c : Char) : Bool :=
  unprintable.covers c || defaultIgnorable.covers c ||
    graphemeExtend.covers c && !halfwidthSoundMarks.covers c

/-- One character as it stands between quotes. -/
def quotedChar (c : Char) : List Char :=
  if c = '"' then ['\\', '"']
  else if c = '\\' then ['\\', '\\']
  else if c = '\n' then ['\\', 'n']
  else if c = '\r' then ['\\', 'r']
  else if c = '\t' then ['\\', 't']
  else if c = '\x00' then ['\\', '0']
  else if needsNumber c then ['\\', 'u', '\x7b'] ++ Nat.toDigits 16 c.toNat ++ ['\x7d']
  else [c]

/-- The text in double quotes, each character escaped on its own. -/
def quoted (s : String) : String :=
  String.ofList ('"' :: s.toList.flatMap quotedChar ++ ['"'])

end Text

end StackProfiler
