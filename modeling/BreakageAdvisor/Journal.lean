import BreakageAdvisor.Json.Display
import BreakageAdvisor.Log
import BreakageAdvisor.Message
import BreakageAdvisor.Tab
import BreakageAdvisor.Trigger

/-!
# Queries and the journal

The advisor asks its surroundings through queries and goes on when the answer is there. Whatever it
does beyond changing its state is entered in a journal, in order.
-/

namespace BreakageAdvisor

/-!
## Cookies

Cookies as the browser lists them for a domain. A lister may give gaps, which no condition looks
at.
-/

/-- A cookie. Its fields are texts when a browser lists it; a lister may give other values, of which
none equals a text. -/
structure Cookie where
  name : Json
  value : Json
  domain : Json

/-- The cookies of a domain in the order of the browser, with gaps. -/
abbrev Jar := List (Option Cookie)

namespace Cookie

/-- Reads a cookie as the browser describes it; what is no object or has no text as its name is no
cookie. -/
def ofJson? : Json → Option Cookie
  | .object fields =>
    match Fields.getD fields "name" with
    | .text name =>
      let field (key : Text) : Json :=
        .text (((Fields.get? fields key).map (·.display)).getD [])
      some ⟨.text name, field "value", field "domain"⟩
    | _ => none
  | _ => none

end Cookie

/-- The jar that an answer of the browser gives: what is no list is an empty jar. -/
def Jar.ofJson (answer : Json) : Jar :=
  answer.items.filterMap fun item => (Cookie.ofJson? item).map some

/-!
## Queries

The advisor asks its surroundings through queries and goes on when the answer is there. Every
query says what kind of answer it takes.
-/

/-- A question or an order to the surroundings of the advisor. -/
inductive Query where
  /-- The registrable domain of a URL; empty when there is none. -/
  | baseDomain (url : Text)
  /-- The cookies of a domain. -/
  | cookies (domain : Text)
  /-- Shows a message, and asks what the user did with it. -/
  | notification (message : Message)
  /-- Exempts a URL from the protection. -/
  | allow (url : Text)
  /-- Reloads a tab. -/
  | reload (tab : TabId)
  /-- The present state of a tab. -/
  | tab (id : TabId)
  /-- The bundled catalog of a trigger. -/
  | bundled (trigger : Trigger)
  /-- The configured catalog of a trigger. -/
  | configured (trigger : Trigger)

/-- The answers to a query. -/
abbrev Query.Answer : Query → Type
  | baseDomain _ => Text
  | cookies _ => Jar
  | notification _ => Json
  | allow _ => Unit
  | reload _ => Unit
  | tab _ => Tab
  | bundled _ => Json
  | configured _ => Json

/-- An answer to a query, or the failure to get one. -/
abbrev Query.Reply (q : Query) : Type := Except Failure q.Answer

/-!
## The journal

Whatever the advisor does beyond changing its state is entered in a journal, in order. An `Act` is
a computation on a state that keeps a journal.
-/

/-- A call to the durable store. -/
inductive StoreCall where
  | isNotified (domain : Text)
  | addNotified (domain : Text)
  | clearNotified
  | listIgnored
  | addIgnored (id : Text)
  deriving DecidableEq, Repr

/-- What was done. -/
inductive Entry where
  | reported (entry : LogEntry)
  | stored (call : StoreCall)
  | asked (query : Query)
  | sent (frame : Json)
  /-- A listener was told of an event. -/
  | notified (listener : Text) (payload : Json)

/-- A computation on a state that keeps a journal. -/
def Act (σ α : Type) : Type := σ → (α × σ) × List Entry

namespace Act

variable {σ τ α β : Type}

instance : Monad (Act σ) where
  pure a := fun s => ((a, s), [])
  bind act next := fun s =>
    let first := act s
    let second := next first.1.1 first.1.2
    (second.1, first.2 ++ second.2)

/-- The state. -/
def get : Act σ σ := fun s => ((s, s), [])

/-- Replaces the state. -/
def set (s : σ) : Act σ Unit := fun _ => (((), s), [])

/-- Changes the state. -/
def modify (f : σ → σ) : Act σ Unit := fun s => (((), f s), [])

/-- A value read off the state. -/
def read (f : σ → α) : Act σ α := fun s => ((f s, s), [])

/-- Enters something in the journal. -/
def enter (entry : Entry) : Act σ Unit := fun s => (((), s), [entry])

/-- Enters a report in the journal. -/
def report (entry : LogEntry) : Act σ Unit := enter (.reported entry)

/-- A computation on a part of the state. -/
def onPart (part : σ → τ) (put : τ → σ → σ) (act : Act τ α) : Act σ α := fun s =>
  let done := act (part s)
  ((done.1.1, put done.1.2 s), done.2)

/-- The value of a computation. -/
def value (act : Act σ α) (s : σ) : α := (act s).1.1

/-- The state after a computation. -/
def state (act : Act σ α) (s : σ) : σ := (act s).1.2

/-- The journal of a computation. -/
def journal (act : Act σ α) (s : σ) : List Entry := (act s).2

@[simp] theorem value_pure (a : α) (s : σ) : (pure a : Act σ α).value s = a := rfl

@[simp] theorem state_pure (a : α) (s : σ) : (pure a : Act σ α).state s = s := rfl

@[simp] theorem journal_pure (a : α) (s : σ) : (pure a : Act σ α).journal s = [] := rfl

@[simp] theorem value_bind (act : Act σ α) (next : α → Act σ β) (s : σ) :
    (act >>= next).value s = (next (act.value s)).value (act.state s) := rfl

@[simp] theorem state_bind (act : Act σ α) (next : α → Act σ β) (s : σ) :
    (act >>= next).state s = (next (act.value s)).state (act.state s) := rfl

@[simp] theorem journal_bind (act : Act σ α) (next : α → Act σ β) (s : σ) :
    (act >>= next).journal s = act.journal s ++ (next (act.value s)).journal (act.state s) := rfl

@[simp] theorem value_onPart (part : σ → τ) (put : τ → σ → σ) (act : Act τ α) (s : σ) :
    (onPart part put act).value s = act.value (part s) := rfl

@[simp] theorem state_onPart (part : σ → τ) (put : τ → σ → σ) (act : Act τ α) (s : σ) :
    (onPart part put act).state s = put (act.state (part s)) s := rfl

@[simp] theorem journal_onPart (part : σ → τ) (put : τ → σ → σ) (act : Act τ α) (s : σ) :
    (onPart part put act).journal s = act.journal (part s) := rfl

end Act

end BreakageAdvisor
