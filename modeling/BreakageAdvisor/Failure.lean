import BreakageAdvisor.Condition.Basic
import BreakageAdvisor.Json.Reader
import BreakageAdvisor.Text.Utf8

/-!
# Failures

The causes for which an operation fails, and their wording.
-/

namespace BreakageAdvisor

/-- Why an operation failed. -/
inductive Failure where
  | number (error : NumberError)
  | document (error : Json.ReadError)
  | decoding (error : DecodeError)
  | encoding (error : EncodeError)
  | condition (error : ConditionError)
  /-- A key that a table lacks. -/
  | unknownKey (key : Text)
  /-- A trigger for which no matching policy exists. -/
  | unsupportedTrigger (trigger : Json)
  | unsupportedMatching (mode : Json)
  | unsupportedNotification (mode : Json)
  | unsupportedFormat (format : Json)
  | malformedTab (tab : Json)
  /-- A value that cannot be the element of a set or the key of a table. -/
  | unhashable (kind : Json.Kind)
  /-- A value without items, where items are due. -/
  | notIterable (kind : Json.Kind)
  /-- A value that is no text, where a path is due. -/
  | notPath (kind : Json.Kind)
  /-- A value without the field that is asked for. -/
  | noField (kind : Json.Kind) (field : Text)
  | missingFile (path : Text)
  | isDirectory (path : Text)
  | missingSettings (path : Text)
  | missingTable (table : Text)
  /-- The durable store cannot be used. -/
  | storeUnavailable
  /-- A call to the browser failed. -/
  | bridge (reason : Text)
  /-- A port of the advisor failed otherwise than by a failed call to the browser. -/
  | port
  | undecodableFrame (size : Nat)
  | frameNotObject (kind : Json.Kind)
  /-- The browser does not know the tab. -/
  | tabGone
  /-- A listener was removed before. -/
  | listenerGone
  | badIndex
  | unknownLevel (level : Text)

namespace Failure

/-- The wording of a failure. -/
def message : Failure → Text
  | number error => error.message
  | document error => error.message
  | decoding error => error.message
  | encoding error => error.message
  | condition error => error.message
  | unknownKey key => key.quoted
  | unsupportedTrigger trigger => "Unsupported rule kind: " ++ trigger.display
  | unsupportedMatching mode => "Unsupported matching mode: " ++ mode.display
  | unsupportedNotification mode => "Unsupported notification mode: " ++ mode.display
  | unsupportedFormat format => "Unsupported notification format: " ++ format.display
  | malformedTab tab => "Malformed tab: " ++ tab.inspect
  | unhashable kind => "unhashable type: '" ++ kind.name ++ "'"
  | notIterable kind => "'" ++ kind.name ++ "' object is not iterable"
  | notPath kind => "expected str, bytes or os.PathLike object, not " ++ kind.name
  | noField kind field => "'" ++ kind.name ++ "' object has no attribute '" ++ field ++ "'"
  | missingFile path => "[Errno 2] No such file or directory: " ++ path.quoted
  | isDirectory path => "[Errno 21] Is a directory: " ++ path.quoted
  | missingSettings path => "Config file not found: " ++ path
  | missingTable table => "no such table: " ++ table
  | storeUnavailable => "storage unavailable"
  | bridge reason => reason
  | port => "port failed"
  | undecodableFrame size => "Undecodable native message of " ++ Text.ofNat size ++ " bytes"
  | frameNotObject kind => "Native message is a " ++ kind.name ++ ", not an object"
  | tabGone => "tab gone"
  | listenerGone => "listener already gone"
  | badIndex => "list index out of range"
  | unknownLevel level => "Unknown level: " ++ level.quoted

/-- Whether a failure lies in what a message says. A number beyond all bounds and a store that fails
do not. -/
def blamesMessage : Failure → Bool
  | number .infinityAsInteger => false
  | number .outOfRange => false
  | storeUnavailable => false
  | _ => true

end Failure

end BreakageAdvisor
