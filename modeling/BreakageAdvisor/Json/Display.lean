import BreakageAdvisor.Json.Value
import BreakageAdvisor.Number.Layout
import BreakageAdvisor.Text.Printable

/-!
# Values in messages

Messages show values in a notation of their own: the words None, True and False, quoted texts,
lists in brackets and objects in braces.
-/

namespace BreakageAdvisor

namespace Json

/-- Floating-point words in messages. -/
def displayWords : Binary64.Words := ⟨"nan", "inf"⟩

mutual

/-- A value as messages show it, texts in quotes. -/
def inspect : Json → Text
  | .null => "None"
  | .bool true => "True"
  | .bool false => "False"
  | .int n => Text.ofInt n
  | .float x => x.write displayWords
  | .text t => t.quoted
  | .list items => "[" ++ Text.join ", " (inspectItems items) ++ "]"
  | .object fields => "\x7b" ++ Text.join ", " (inspectFields fields) ++ "\x7d"

/-- The items of a list as messages show them. -/
def inspectItems : List Json → List Text
  | [] => []
  | x :: xs => inspect x :: inspectItems xs

/-- The fields of an object as messages show them. -/
def inspectFields : List (Text × Json) → List Text
  | [] => []
  | (k, v) :: rest => (k.quoted ++ ": " ++ inspect v) :: inspectFields rest

end

/-- A value as text: a text is itself, any other value as messages show it. -/
def display : Json → Text
  | .text t => t
  | x => inspect x

end Json

end BreakageAdvisor
