import Wab.Text.Basic

/-!
# Accidents

What goes wrong where a value is not what it is taken for, and nobody has foreseen it: the first
character of an empty text is asked for, or a number is searched for a name. An accident ends the
run and is reported in fixed words.

* **`Accident`**: what goes wrong.
* **`Accident.message`**: the accident in words.
-/

namespace Wab

/-- What goes wrong where a value is not what it is taken for. -/
inductive Accident where
  /-- A text has no character at a place. -/
  | noCharacter
  /-- A list has no item at a place. -/
  | noItem
  /-- A value of this type has no items. -/
  | noItems (typeName : String)
  /-- A value of this type cannot be searched. -/
  | notSearchable (typeName : String)
  /-- A named value is asked of a list. -/
  | nameInList
  /-- A named value is asked of a text. -/
  | nameInText
  /-- A text is changed in place. -/
  | fixedText
  /-- Something is added to what is no list. -/
  | notExtensible
  /-- A value is used that was not read. -/
  | unread
  /-- The number of a character is far too great. -/
  | numberTooGreat
  /-- A part of a second has too many digits. -/
  | fractionTooLong
  /-- A whole number has too many digits to be written. -/
  | numberTooLong
  /-- Values are nested too deep to be read. -/
  | nestedTooDeep
  /-- Values are nested too deep to be shown. -/
  | shownTooDeep
  /-- A list stands where a text is compared with a pattern. -/
  | listCompared
  /-- A list stands where a text is cut. -/
  | listCut
  deriving DecidableEq, Repr

/-- The accident in words. -/
def Accident.message : Accident → String
  | noCharacter => "string index out of range"
  | noItem => "list index out of range"
  | noItems typeName => s!"'{typeName}' object is not subscriptable"
  | notSearchable typeName => s!"argument of type '{typeName}' is not iterable"
  | nameInList => "list indices must be integers or slices, not str"
  | nameInText => "string indices must be integers, not 'str'"
  | fixedText => "'str' object does not support item assignment"
  | notExtensible => "You can only load a file descriptor, filename or list"
  | unread => "cannot access local variable 'value' where it is not associated with a value"
  | numberTooGreat => "Python int too large to convert to C int"
  | fractionTooLong => "int too large to convert to float"
  | numberTooLong =>
    s!"Exceeds the limit ({Text.digitRoom} digits) for integer string conversion; "
      ++ "use sys.set_int_max_str_digits() to increase the limit"
  | nestedTooDeep => "maximum recursion depth exceeded while calling a Python object"
  | shownTooDeep => "maximum recursion depth exceeded while getting the repr of an object"
  | listCompared => "expected string or bytes-like object, got 'list'"
  | listCut => "'list' object has no attribute 'partition'"

end Wab
