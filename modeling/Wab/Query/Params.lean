import Wab.Dictionary
import Wab.Manifest.HeaderName
import Wab.Query.Encoding

/-!
# Parameters

What a deployer asks for: named values between ampersands, each name and value separated by the
first equals sign. A parameter that sets a known header has the header's own spelling whatever its
letter case; of a repeated parameter the last value counts; a missing or empty value is no value.

* **`Params.canonicalName`**: a name in the spelling of the header it sets.
* **`Params.ofQuery`**: the parameters of a query in clear.
* **`Params.read`**, **`Params.ofRawQuery`**: the same with a report, of a query in clear and of one
  as it stands in a locator.
-/

namespace Wab

/-- The parameters by name, in the order in which the names first came. -/
abbrev Params := Dictionary (Option Text)

namespace Params

/-- The name in the spelling of the header that it sets, other names as they are. -/
def canonicalName (name : Text) : Text :=
  (HeaderName.customizable.find? fun known => HeaderName.same known name).getD name

/-- The name and the value of a piece between ampersands. -/
def ofToken (token : Text) : Text × Option Text :=
  match Text.cut? ['='] token with
  | some (name, []) => (canonicalName name, none)
  | some (name, value) => (canonicalName name, some value)
  | none => (canonicalName token, none)

/-- The pieces of a query that are not empty. -/
def tokens (query : Text) : List Text :=
  (query.splitOn (.scalar '&')).filter fun token => !token.isEmpty

/-- The parameters of a query in clear. -/
def ofQuery (query : Text) : Params := Dictionary.ofList ((tokens query).map ofToken)

/-- The value of a parameter, if it has one. -/
def value? (params : Params) (name : Text) : Option Text := (Dictionary.get? params name).join

/-- A one-line picture of the parameters. -/
def picture (params : Params) : Text :=
  Text.quoteMap (params.map fun (name, value) => (name, Text.quoteOption value))

variable {ε : Type}

/-- The parameters of a query in clear, if there is one, with a report. -/
def read : Option Text → Traced ε Params
  | none => pure []
  | some query => do
    .say .debug s!"Input query params = {Text.str query}"
    .say .debug s!"Canonicalized query params = {Text.str (picture (ofQuery query))}"
    return ofQuery query

/-- The parameters of a query as it stands in a locator. -/
def ofRawQuery (query : Option Text) : Traced ε Params := do read (← Query.decode query)

/-! ## Readings -/

@[simp] theorem result_read_none : (read none : Traced ε Params).result = .ok [] := rfl

@[simp] theorem result_read_some (query : Text) :
    (read (some query) : Traced ε Params).result = .ok (ofQuery query) := rfl

example : ofQuery "web-contextpath=a&x&&web-ContextPath=b=c"
    = ([("Web-ContextPath", some ↑"b=c"), ("x", none)] : Params) := by
  decide +kernel

end Params

end Wab
