import SparseRows.Log.Event
import SparseRows.Log.Severity
import SparseRows.Text.Hex
import SparseRows.Text.Search

/-!
# Log lines

A log line is a JSON object of texts: the event, the severity, the component, then the fields in the order of their keys, fields
of one key in the order given. No control character stands in a line, so a line is never broken.
-/

namespace SparseRows.Log

/-- A control character, with the ones from U+007F to U+009F. -/
def isControl (c : Char) : Bool :=
  c.toNat < 0x20 || (0x7f ≤ c.toNat && c.toNat ≤ 0x9f)

/-- A character as it stands in a string of a line. -/
def escape : Char → List Char
  | '"' => ['\\', '"']
  | '\\' => ['\\', '\\']
  | '\n' => ['\\', 'n']
  | '\r' => ['\\', 'r']
  | '\t' => ['\\', 't']
  | c => if isControl c then '\\' :: 'u' :: Text.hexWord c.toNat else [c]

/-- A text as a string of a line. -/
def renderString (s : String) : List Char :=
  '"' :: s.toList.flatMap escape ++ ['"']

/-- A key and its value. -/
def renderMember (member : String × String) : List Char :=
  renderString member.1 ++ ':' :: renderString member.2

/-- An object of texts, in the order given. -/
def renderObject (members : List (String × String)) : List Char :=
  '{' :: [','].intercalate (members.map renderMember) ++ ['}']

/-- Fields in the order of their keys. -/
def sortFields (fields : List (String × String)) : List (String × String) :=
  fields.mergeSort fun a b => a.1 ≤ b.1

/-- What a line says. -/
def members (severity : Severity) (event : Event) (component : String) (fields : List (String × String)) :
    List (String × String) :=
  ("event", event.name) :: ("severity", severity.text) :: ("component", component) :: sortFields fields

/-- The text of a line. -/
def renderLine (severity : Severity) (event : Event) (component : String) (fields : List (String × String)) : String :=
  String.ofList (renderObject (members severity event component fields))

/-- Whether a line looks as if it reported the event. -/
def mentions (line : String) (event : Event) : Bool :=
  Text.occursIn (renderMember ("event", event.name)) line.toList

end SparseRows.Log
