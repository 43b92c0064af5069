import VolumeAttacher.Table
import VolumeAttacher.Text.Visible

/-!
# Quoted texts

The notation in which messages and log lines show strings, lists and maps of strings: a string in
double quotes, with a backslash in front of a quote and of a backslash, short escapes for tab, line
ends and the zero character, and the code point in braces for every other character that is not
visible.
-/

namespace VolumeAttacher.Text

/-- The code point of a character in braces, lower case and without padding. -/
def codePointEscape (c : Char) : List Char :=
  ['\\', 'u', '\x7b'] ++ Nat.toDigits 16 c.toNat ++ ['\x7d']

def quotedChar (c : Char) : List Char :=
  match c with
  | '"' => ['\\', '"']
  | '\\' => ['\\', '\\']
  | '\t' => ['\\', 't']
  | '\n' => ['\\', 'n']
  | '\r' => ['\\', 'r']
  | '\x00' => ['\\', '0']
  | c => if isVisible c then [c] else codePointEscape c

def quoted (text : String) : String :=
  String.ofList ('"' :: (text.toList.flatMap quotedChar ++ ['"']))

def bracketed (items : List String) : String :=
  "[" ++ String.intercalate ", " items ++ "]"

def quotedList (items : List String) : String :=
  bracketed (items.map quoted)

def quotedMap (entries : Table String) : String :=
  "\x7b" ++ String.intercalate ", " (entries.map fun entry =>
    quoted entry.1 ++ ": " ++ quoted entry.2) ++ "\x7d"

/-- A record with named fields; its name alone if it has no fields. -/
def recordText (name : String) (fields : List (String × String)) : String :=
  if fields.isEmpty then name
  else
    name ++ " \x7b " ++ String.intercalate ", " (fields.map fun field =>
      field.1 ++ ": " ++ field.2) ++ " \x7d"

def optionText : Option String → String
  | none => "None"
  | some text => "Some(" ++ text ++ ")"

end VolumeAttacher.Text
