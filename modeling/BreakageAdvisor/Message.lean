import BreakageAdvisor.Failure

/-!
# Messages

A message is a plain text or a list of parts, some with emphasis. It is read from the values that
catalogs hold, written back as such a value, and formatted as text or as markup.
-/

namespace BreakageAdvisor

/-- A part of a message. -/
structure MessagePart where
  text : Text
  emphasis : Bool := false
  deriving DecidableEq, Repr

/-- A message to the user. -/
inductive Message where
  | plain (text : Text)
  | rich (parts : List MessagePart)
  deriving DecidableEq, Repr

namespace Message

/-- Whether a value is the text `strong`. -/
def isStrong : Json → Bool
  | .text t => t == "strong"
  | _ => false

/-- Reads a part. Emphasis is given by a modifier or by a field of its own; values that are no
objects are no parts. -/
def partOfJson? : Json → Option MessagePart
  | .object fields =>
    let text : Text := match Fields.getD fields "text" with
      | .null => []
      | value => value.display
    let strong := match Fields.getD fields "modifier" with
      | .list modifiers => modifiers.any isStrong
      | _ => false
    some ⟨text, (Fields.getD fields "emphasis").truthy || strong⟩
  | _ => none

/-- Reads a message: a list gives parts, null the empty text, any other value its text. -/
def ofJson : Json → Message
  | .list items => .rich (items.filterMap partOfJson?)
  | .null => .plain []
  | value => .plain value.display

/-- The value of a part in catalogs. -/
def partToJson (part : MessagePart) : Json :=
  if part.emphasis then
    .object [("text", .text part.text), ("modifier", .list [.text "strong"])]
  else .object [("text", .text part.text)]

/-- The value of a message in catalogs. -/
def toJson : Message → Json
  | .plain text => .text text
  | .rich parts => .list (parts.map partToJson)

/-- The parts of a message; a plain text is one part without emphasis. -/
def parts : Message → List MessagePart
  | .plain text => [⟨text, false⟩]
  | .rich parts => parts

/-- The text of a message. -/
def toText (m : Message) : Text := m.parts.flatMap (·.text)

/-- The markup of one code point: the five characters with a meaning in markup are written as
entities. -/
def escapePoint (c : CodePoint) : Text :=
  if c = '&' then "&amp;"
  else if c = '<' then "&lt;"
  else if c = '>' then "&gt;"
  else if c = '"' then "&quot;"
  else if c = '\'' then "&#x27;"
  else [c]

/-- The markup of a text. -/
def escape (t : Text) : Text := t.flatMap escapePoint

/-- The markup of a part. -/
def partToMarkup (part : MessagePart) : Text :=
  if part.emphasis then "<strong>" ++ escape part.text ++ "</strong>" else escape part.text

/-- The markup of a message. -/
def toMarkup (m : Message) : Text := m.parts.flatMap partToMarkup

/-- The formats of messages, by name. -/
inductive Format where
  | text | markup
  deriving DecidableEq, Repr

/-- The format of a name. -/
def Format.ofName? : Json → Option Format
  | .text t => if t = "text" then some .text else if t = "html" then some .markup else none
  | _ => none

/-- A message in a format. -/
def format (m : Message) : Format → Text
  | .text => m.toText
  | .markup => m.toMarkup

/-- A message in the format of a name. -/
def formatNamed (m : Message) (name : Json) : Except Failure Text :=
  match Format.ofName? name with
  | some f => .ok (m.format f)
  | none => .error (.unsupportedFormat name)

end Message

end BreakageAdvisor
