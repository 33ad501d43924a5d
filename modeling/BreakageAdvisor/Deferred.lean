import BreakageAdvisor.Tab

/-!
# Deferred activity

Only the tab in the foreground is judged. What happens in other tabs is deferred until the tab
comes to the foreground: which tabs have navigated, and for each tab the URLs it requested, in the
order in which each first came.
-/

namespace BreakageAdvisor

/-- The activity that is deferred. -/
structure Deferred where
  /-- The tabs that have navigated. -/
  tabs : List TabId := []
  /-- The URLs requested, by tab. -/
  requests : List (TabId × List Text) := []

namespace Deferred

/-- A list of URLs with another at its end; a URL that it has keeps its place. -/
def addUrl (urls : List Text) (url : Text) : List Text :=
  if url ∈ urls then urls else urls ++ [url]

/-- The URLs requested by a tab. -/
def urlsOf (tab : TabId) : List (TabId × List Text) → List Text
  | [] => []
  | (t, urls) :: rest => if t == tab then urls else urlsOf tab rest

/-- Replaces the URLs requested by a tab. -/
def setUrls (tab : TabId) (urls : List Text) :
    List (TabId × List Text) → List (TabId × List Text)
  | [] => [(tab, urls)]
  | (t, old) :: rest => if t == tab then (t, urls) :: rest else (t, old) :: setUrls tab urls rest

/-- Whether a tab has navigated. -/
def hasTab (deferred : Deferred) (tab : TabId) : Bool := deferred.tabs.any (· == tab)

/-- The URLs requested by a tab. -/
def urls (deferred : Deferred) (tab : TabId) : List Text := urlsOf tab deferred.requests

/-- Defers the navigation of a tab. -/
def addTab (tab : TabId) (deferred : Deferred) : Deferred :=
  if deferred.hasTab tab then deferred else { deferred with tabs := deferred.tabs ++ [tab] }

/-- Forgets the navigation of a tab. -/
def dropTab (tab : TabId) (deferred : Deferred) : Deferred :=
  { deferred with tabs := deferred.tabs.filter fun t => !(t == tab) }

/-- Defers a request of a tab. -/
def addRequest (tab : TabId) (url : Text) (deferred : Deferred) : Deferred :=
  { deferred with requests := setUrls tab (addUrl (deferred.urls tab) url) deferred.requests }

/-- Forgets the requests of a tab. -/
def dropRequests (tab : TabId) (deferred : Deferred) : Deferred :=
  { deferred with requests := deferred.requests.filter fun entry => !(entry.1 == tab) }

/-- Defers again what was taken from a tab: the URLs taken come before those that were deferred in
the meantime. -/
def putBack (tab : TabId) (navigated : Bool) (taken : List Text) (deferred : Deferred) :
    Deferred :=
  let marked := if navigated then deferred.addTab tab else deferred
  if taken.isEmpty then marked
  else
    let urls := (marked.urls tab).foldl addUrl taken
    { marked with requests := setUrls tab urls marked.requests }

end Deferred

end BreakageAdvisor
