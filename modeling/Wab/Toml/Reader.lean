import Wab.Text.Blank
import Wab.Toml.Level
import Wab.Toml.Moment
import Wab.Toml.Pieces
import Wab.Toml.Quotation

/-!
# Values and lines in TOML

A line gives a value to a key. A value is a truth value, a string, an array, an inline table, a
time, a day or a number. Arrays and inline tables are cut at their commas, and parts are joined
again as long as they are no values by themselves. A long string that does not end on its line is
left to the lines that follow.

* **`Toml.readArray`**, **`Toml.readInline`**, **`Toml.readLine`**: one kind of text, given how
  values are read.
* **`Toml.readWith`**: any value, given how the values in it are read.
* **`Toml.readValue`**: any value for which there is room.
-/

namespace Wab.Toml

/-- A string that goes on in the lines that follow. -/
structure Pending where
  /-- The name that its value is given to. -/
  name : Text
  /-- The text so far. -/
  text : Text
  /-- The next line continues the last one. -/
  continued : Bool
  deriving DecidableEq, Repr

/-- How a value is read: whether its number is strictly valid, and its text. -/
abbrev ValueReader := Bool → Text → Except Failure Value

/-- The text with what it goes on in. Where backslashes continue the line, the last one is dropped;
otherwise the line ends. -/
def unfinished (name text : Text) : Pending :=
  if endsEscaping text then ⟨name, text.dropLast, true⟩ else ⟨name, text ++ "\n", false⟩

/-! ## Arrays -/

/-- The inside of an array begins with a quote. -/
def beginsWithQuote (s : Text) : Bool := ((Text.trim (Text.inner 1 s)).head?.map isQuote).getD false

/-- The text ends with its first character, which no backslash escapes. -/
def isBounded : Text → Bool
  | [] => true
  | c :: rest => rest.isEmpty || (rest.getLast? == some c && !endsEscaping rest.dropLast)

/-- The part of an array of strings is a whole string. -/
def isWhole (s : Text) : Bool :=
  let opensLong := match s with
    | a :: b :: c :: _ => a == b && b == c && (match s.reverse with
      | _ :: y :: z :: _ => y != a && z != a
      | _ => false)
    | _ => false
  isBounded s && !opensLong

/-- Joins the parts of an array of strings that are no whole strings. The part at hand is joined
from several or not as given. -/
def joinParts (joined : Bool) (part : Text) : List Text → Except Failure (List Text)
  | [] => if joined && !isWhole (Text.trim part) then .error (.accident .noItem) else .ok [part]
  | next :: rest =>
    if isWhole (Text.trim part) then (joinParts false next rest).map (part :: ·)
    else joinParts true (part ++ .scalar ',' :: next) rest

/-- Cuts a text at the commas outside brackets. The part at hand is given backwards. -/
def cutOutside (depth : Int) (part : Text) : Text → List Text
  | [] => [part.reverse]
  | c :: rest =>
    if c = ',' ∧ depth = 0 then part.reverse :: cutOutside depth [] rest
    else
      let depth := if c = '[' then depth + 1 else if c = ']' then depth - 1 else depth
      cutOutside depth (c :: part) rest

/-- Where the reader of an array of inline tables is. -/
inductive TableState where
  /-- In a table. -/
  | inside
  /-- Behind the brace that closes one. -/
  | behind
  /-- On the way to the next one. -/
  | between
  deriving DecidableEq, Repr

/-- What the reader of an array of inline tables knows. -/
structure TableCutter where
  /-- Where it is. -/
  state : TableState := .inside
  /-- The characters so far, the last one first. -/
  before : Text
  /-- The table at hand, backwards. -/
  table : Text
  /-- The number of open braces. -/
  depth : Nat
  /-- It is in a string. -/
  quoted : Bool := false
  deriving DecidableEq, Repr

/-- The inline tables in an array. What stands between them does not count, nor does one that is not
closed. -/
def cutTables (t : TableCutter) : Text → List Text
  | [] => []
  | c :: rest =>
    let after := { t with before := c :: t.before }
    match t.state with
    | .behind => cutTables { after with state := .between } rest
    | .between =>
      if c = '\x7b' then cutTables { after with state := .inside, table := [c] } rest
      else cutTables after rest
    | .inside =>
      let quoted := if isQuote c then !t.quoted || isEscapedBy t.before else t.quoted
      let depth := if !quoted && c == '\x7b' then t.depth + 1 else t.depth
      let after := { after with table := c :: t.table, depth := depth, quoted := quoted }
      if quoted || c != '\x7d' then cutTables after rest
      else if 1 < depth then cutTables { after with depth := depth - 1 } rest
      else (c :: t.table).reverse :: cutTables { after with state := .behind } rest

/-- The inline tables in an array, which is given with its brackets. -/
def tableParts : Text → List Text
  | a :: b :: rest =>
    cutTables { before := [b, a], table := [b], depth := if b = '\x7b' then 1 else 0 } rest.dropLast
  | _ => []

/-- The parts of an array, which is given with its brackets. -/
def arrayParts (s : Text) : Except Failure (List Text) :=
  let inside := Text.inner 1 s
  let nested := inside.contains '[' && (Text.trim (inside.takeWhile (· ≠ .scalar '['))).isEmpty
  if nested then .ok (cutOutside 0 [] inside)
  else
    let parts := if (Text.trim inside).head? = some (.scalar '\x7b') then tableParts s
      else inside.splitOn (.scalar ',')
    match beginsWithQuote s, parts with
    | true, first :: rest => joinParts false first rest
    | _, parts => .ok parts

/-- The name of a type as far as the items of one array have it in common. -/
def itemType (v : Value) : String :=
  match v with
  | .dateTime _ => Value.typeName (.date [])
  | _ => v.typeName

/-- The array that a text is, which begins with a bracket. All of its items are of one type. -/
def readArray (read : ValueReader) (s : Text) : Except Failure Value := do
  let parts := (← arrayParts s).map Text.trim
  let items ← (parts.filter (· ≠ [])).foldlM
    (fun items part => do
      let item ← read true part
      match items.head? with
      | some first => if itemType item ≠ itemType first then throw .malformed
      | none => pure ()
      return items ++ [item])
    []
  return .list items

/-! ## Keys -/

/-- The names of a key with a point. -/
def keyNames (key : Text) : List Text :=
  if key.any isQuote then named false (pieces key) else key.splitOn (.scalar '.')
where
  /-- The names in pieces, the first of which is inside quotes or not as given. -/
  named (inside : Bool) : List Text → List Text
    | [] => []
    | piece :: rest =>
      (if inside then [piece] else (piece.splitOn (.scalar '.')).map Text.trim)
        ++ named (!inside) rest

/-- The names of the tables of a key and the name in the last one. Empty names do not count, but one
name must be left. -/
def keyPath (key : Text) : Except Failure (List Text × Text) :=
  if key.contains '.' then
    let names := ((keyNames key).reverse.dropWhile (· = [])).reverse
    match names.getLast? with
    | some name => .ok (names.dropLast.filter (· ≠ []), Text.trim name)
    | none => .error (.accident .noItem)
  else
    match key with
    | [] => .error (.accident .noCharacter)
    | c :: _ =>
      if isQuote c && key.getLast? == some c then do return ([], ← unescape (Text.inner 1 key))
      else .ok ([], key)

/-- Changes the level below some names, where missing tables come into being. -/
def descend {α : Type} (level : Value) (change : Value → Except Failure (Value × α)) :
    List Text → Except Failure (Value × α)
  | [] => change level
  | name :: rest => do
    let level ← if ← orAccident (holds level name) then pure level
      else orAccident (assign level name (.table []))
    let (below, a) ← descend (← orAccident (child level name)) change rest
    return (← orAccident (assign level name below), a)

/-! ## Lines -/

/-- The text ends a search for the value of a line: it is empty, begins with a space or with the
mark of a string, an array or an inline table, or is a truth value, a number, a day or a time. -/
def mayBeValue (s : Text) : Except Accident Bool :=
  match s with
  | [] => .ok true
  | c :: _ =>
    if c == ' ' || c == '\t' || isQuote c || c == '[' || c == '\x7b'
        || Text.trim s == "true" || Text.trim s == "false" || isFloat s then .ok true
    else do return (← moment? s).isSome || (clock? s).isSome

/-- Finds the value of a line, given the parts between its equals signs: those before it, and those
from it on. The answer is the key, the value, and whether its number is strictly valid. -/
def findValue (strict : Bool) (before : List Text) : List Text → Except Failure (Text × Text × Bool)
  | [] => .error .malformed
  | part :: rest => do
    let value := rejoin ['='] (part :: rest)
    let strict := strict && isStrict value
    if ← orAccident (mayBeValue value) then
      return (Text.trim (rejoin ['='] before), Text.trim value, strict)
    else if rest.isEmpty then throw .malformed
    else findValue strict (before ++ [part]) rest

/-- The key and the value of a line, and whether its number is strictly valid. The underscores of a
value right behind the equals sign that begins with a digit do not count. -/
def splitLine (line : Text) : Except Failure (Text × Text × Bool) := do
  let parts := line.splitOn (.scalar '=')
  let n := min (cutPoint ['='] line) (parts.length - 1)
  let value := rejoin ['='] (parts.drop n)
  let bare := value.filter (· ≠ .scalar '_')
  if (value.head?.map CodePoint.isDigit).getD false then
    if ← orAccident (mayBeValue bare) then
      return (Text.trim (rejoin ['='] (parts.take n)), Text.trim bare, isStrict value)
    else
      let n := min (n + 1) (parts.length - 1)
      findValue (isStrict value) (parts.take n) (parts.drop n)
  else findValue true (parts.take n) (parts.drop n)

/-- The text begins with three quotes and does not end with three others. There is an accident if it
ends before the third quote. -/
def isOpenLong : Text → Except Failure Bool
  | [] => .error (.accident .noCharacter)
  | a :: rest =>
    if !isQuote a then .ok false
    else
      match rest with
      | b :: c :: rest =>
        .ok (a == b && a == c && !(2 < rest.length && rest.reverse.take 3 == [a, a, a]))
      | [b] => if a = b then .error (.accident .noCharacter) else .ok false
      | [] => .error (.accident .noCharacter)

/-- The end of an array from the last part on that begins with a quote. The parts are given
backwards, and what was passed over stands behind them. -/
def lastString (behind : Text) : List Text → Except Failure Text
  | [] => .ok behind
  | [part] => .ok (part ++ behind)
  | part :: rest =>
    match part ++ behind with
    | [] => .error (.accident .noCharacter)
    | c :: s => if isQuote c then .ok (c :: s) else lastString (',' :: c :: s) rest

/-- The text is a long string that does not end on its line, or an array that is not closed and
whose last string is one. -/
def opensLong (s : Text) : Except Failure Bool :=
  if s.length < 3 then .ok false
  else if s.head? = some (.scalar '[') ∧ (Text.trim s).getLast? ≠ some (.scalar ']')
      ∧ beginsWithQuote s then do
    isOpenLong (← lastString [] ((Text.trim (s.drop 1)).splitOn (.scalar ',')).reverse)
  else isOpenLong s

/-- Gives a value to a name that the level does not have. -/
def giveNew (level : Value) (name : Text) (value : Value) : Except Failure Value :=
  match level with
  | .table fields | .inlineTable fields =>
    if Dictionary.contains fields name then .error .malformed
    else orAccident (assign level name value)
  | _ => .error .malformed

/-- The level with the value of a line, or what the line leaves to the lines that follow. -/
def readLine (read : ValueReader) (level : Value) (line : Text) :
    Except Failure (Value × Option Pending) := do
  let (key, value, strict) ← splitLine line
  let (names, name) ← keyPath key
  descend level
    (fun level => do
      if ← opensLong value then
        -- The name is checked at once, although its value comes later.
        let _ ← giveNew level name .null
        if name.isEmpty then throw (.accident .unread)
        return (level, some (unfinished name value))
      else return (← giveNew level name (← read strict value), none))
    names

/-! ## Inline tables -/

/-- The text may stand as a value in an inline table. There is an accident if it is empty. -/
def isInlineValue (s : Text) : Except Failure Bool :=
  match s with
  | [] => .error (.accident .noCharacter)
  | c :: _ =>
    let ends := fun (a b : CodePoint) => c == a && s.getLast? == some b
    .ok (ends '"' '"' || ends '\'' '\'' || c == '-' || c.isDigit || s == "true"
      || s == "false" || ends '[' ']' || ends '\x7b' '\x7d')

/-- The lines of an inline table, given the parts between its commas. Parts are joined as long as
they are no lines by themselves. -/
def inlineLines (part : Text) : List Text → Except Failure (List Text)
  | [] => do
    let (_, value) ← orMalformed (Text.cut? ['='] part)
    if ← isInlineValue (Text.trim value) then return [part] else throw .malformed
  | next :: rest => do
    let (_, value) ← orMalformed (Text.cut? ['='] part)
    if ← isInlineValue (Text.trim value) then return part :: (← inlineLines next rest)
    else inlineLines (part ++ .scalar ',' :: next) rest

/-- The level with the values of lines up to one that is left to the lines that follow. -/
def readLines (read : ValueReader) (level : Value) : List Text → Except Failure Value
  | [] => .ok level
  | line :: rest => do
    match ← readLine read level line with
    | (level, none) => readLines read level rest
    | (level, some _) => return level

/-- The level with the values of an inline table, which is given with its braces. -/
def readInline (read : ValueReader) (level : Value) (s : Text) : Except Failure Value :=
  match (Text.inner 1 s).splitOn (.scalar ',') with
  | [] => .ok level
  | [part] => if (Text.trim part).isEmpty then .ok level else do
    readLines read level (← inlineLines part [])
  | part :: rest => do readLines read level (← inlineLines part rest)

/-! ## Values -/

/-- The value that a text stands for, given how the items of an array and the values of an inline
table are read. -/
def readWith (readItem readField : ValueReader) : ValueReader := fun strict s =>
  match s with
  | [] => .error .malformed
  | c :: _ =>
    if s = "true" then .ok (.bool true)
    else if s = "false" then .ok (.bool false)
    else if isQuote c then (readString c s).map .text
    else if c = '[' then readArray readItem s
    else if c = '\x7b' then readInline readField (.inlineTable []) s
    else
      match clock? s with
      | some (hour, minute, second) =>
        if isClock hour minute second then .ok (.time s) else .error .malformed
      | none => do
        orMalformed ((← orAccident (moment? s)) <|> if strict then number? s else none)

/-- The value that a text stands for. It takes three steps of the room that is left, of which an
array gives its items one back. -/
def readValue : Nat → ValueReader
  | room + 3, strict, s => readWith (readValue (room + 1)) (readValue room) strict s
  | _, _, _ => .error (.accident .nestedTooDeep)

/-- The value that a text stands for. -/
def valueOf (strict : Bool) (s : Text) : Except Failure Value := readValue nestingRoom strict s

/-! ## Examples -/

example : (valueOf true "[\"a,b\", 'c']").toOption.map Value.typeName = some "list" := by
  decide +kernel

example : (valueOf true "[1, 'c']").toOption.map Value.typeName = none := by decide +kernel

example : (readValue 4 true "[[]]").toOption.map Value.typeName = none := by decide +kernel

end Wab.Toml
