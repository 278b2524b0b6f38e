import RecordIndex.Text.Hexadecimal
import RecordIndex.Unicode.Property

namespace RecordIndex

/-!
# Quoted text

A text between double quotes, in which every character that does not print by
itself is escaped.  The single quote needs no escape.
-/

namespace Quoted

/-- Characters without a printed form of their own. -/
def unprintable : CharSet :=
  .union Category.unassigned
    ((Category.membersOf [.control, .format, .privateUse, .lineSeparator, .paragraphSeparator,
      .spaceSeparator]).diff (.singleton ' '))

/-- A character that is written by its code point: one that does not print, or
one that would attach to the character before it. -/
def needsCodePoint (c : Char) : Bool :=
  if c.toNat < 128 then c.toNat < 32 || c = '\x7f'
  else unprintable.contains c || CharProperty.graphemeExtend.contains c

/-- How one character is written between the quotes. -/
def escape (c : Char) : List Char :=
  if c = '\x00' then ['\\', '0']
  else if c = '\t' then ['\\', 't']
  else if c = '\r' then ['\\', 'r']
  else if c = '\n' then ['\\', 'n']
  else if c = '"' then ['\\', '"']
  else if c = '\\' then ['\\', '\\']
  else if needsCodePoint c then
    ['\\', 'u', '\x7b'] ++ Hexadecimal.ofNat c.toNat ++ ['\x7d']
  else [c]

def quote (text : String) : String :=
  String.ofList ('"' :: text.toList.flatMap escape ++ ['"'])

end Quoted

end RecordIndex
