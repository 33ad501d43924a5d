import BreakageAdvisor.Proofs.Handler.Completion

/-!
# Deferred activity as history

Where every handler runs to its end before the next one begins, what is handed over for judgement
can be told from the reports alone. A background navigation of a tab is due until the tab navigates
in the foreground or is activated for good; its background requests are due, each once and in
order, until it navigates at all or is activated for good.
-/

namespace BreakageAdvisor

/-- A URL added to the distinct URLs of a list is added to the list and counted once. -/
theorem Deferred.addUrl_eraseDups (urls : List Text) (url : Text) :
    addUrl urls.eraseDups url = (urls ++ [url]).eraseDups := by
  rw [List.eraseDups_append, addUrl]
  by_cases h : url ∈ urls
  · rw [if_pos (List.mem_eraseDups.mpr h)]
    simp [List.removeAll, h]
  · rw [if_neg (fun he => h (List.mem_eraseDups.mp he))]
    simp [List.removeAll, h, List.eraseDups_cons]

namespace TrackingPolicy

/-- A text is among some values, or null is where there is no text. -/
def Listed (values : List Json) : Option Text → Prop
  | some t => .text t ∈ values
  | none => .null ∈ values

private theorem listed_iff {values : List Json} {t : Option Text} :
    Listed values t ↔ lists values t = true := by
  rw [lists, List.any_eq_true]
  constructor
  · intro h
    cases t with
    | none => exact ⟨_, h, rfl⟩
    | some t => exact ⟨_, h, beq_self_eq_true t⟩
  · rintro ⟨value, hm, h⟩
    split at h
    · rwa [← eq_of_beq h] at hm
    · exact hm
    · cases h

/-- An update of a tab is relevant if its URL has changed, or if its load status is listed. -/
def Relevant (policy : TrackingPolicy) (update : TabUpdate) : Prop :=
  update.urlChanged = true ∨ Listed policy.statuses update.status

/-- A type of requests is tracked if it is listed, and if no types are. -/
def Tracked (policy : TrackingPolicy) (type : Option Text) : Prop :=
  policy.requestTypes = [] ∨ Listed policy.requestTypes type

private theorem relevant_iff {policy : TrackingPolicy} {update : TabUpdate} :
    policy.Relevant update ↔ policy.isNavigation update = true := by
  rw [Relevant, isNavigation, Bool.or_eq_true, listed_iff]

private theorem tracked_iff {policy : TrackingPolicy} {type : Option Text} :
    policy.Tracked type ↔ policy.accepts type = true := by
  rw [Tracked, accepts, Bool.or_eq_true, listed_iff, List.isEmpty_iff]

instance (policy : TrackingPolicy) (update : TabUpdate) : Decidable (policy.Relevant update) :=
  decidable_of_iff (policy.isNavigation update = true) relevant_iff.symm

instance (policy : TrackingPolicy) (type : Option Text) : Decidable (policy.Tracked type) :=
  decidable_of_iff (policy.accepts type = true) tracked_iff.symm

@[simp] theorem decide_relevant (policy : TrackingPolicy) (update : TabUpdate) :
    decide (policy.Relevant update) = policy.isNavigation update := by
  rw [Bool.eq_iff_iff, decide_eq_true_iff, relevant_iff]

end TrackingPolicy

namespace Handler

/-- The tab that a report is about. -/
def Report.tab : Report → TabId
  | updated update => update.tab.id
  | requested event => event.tab
  | activated id => id

/-- A report, and what its handler gets while it runs to its end. -/
structure Step where
  report : Report
  /-- The present state of the tab of the report, if the handler asks for it. -/
  answer : Except Failure { tab : Tab // tab.id == report.tab }
  /-- The judgements in order, as many as the handler waits for. -/
  verdict : Nat → Except Failure Bool

namespace Step

variable (policy : TrackingPolicy) (t : TabId) (s : Step)

/-- The state of the tab that the handler gets. -/
def found : Except Failure Tab := s.answer.map (·.1)

/-- The handler gets a tab in the background. -/
def inBackground : Bool :=
  match s.found with
  | .ok tab => !tab.active
  | .error _ => false

/-- A tab navigates. -/
def navigates : Bool :=
  match s.report with
  | .updated update => update.tab.id == t && policy.Relevant update
  | _ => false

/-- A tab navigates in the foreground, or in the background. -/
def navigatesIn (active : Bool) : Bool :=
  match s.report with
  | .updated update => update.tab.id == t && policy.Relevant update && update.tab.active == active
  | _ => false

/-- A tab is activated for good: it is not found in the background again. -/
def consumes : Bool :=
  match s.report with
  | .activated id => id == t && !s.inBackground
  | _ => false

/-- The URL of a request that is tracked, of a tab that is found in the background. -/
def defers : Option Text :=
  match s.report with
  | .requested event =>
    if event.tab == t ∧ 0 ≤ event.tab.value ∧ policy.Tracked event.type ∧ s.inBackground
    then some event.url else none
  | _ => none

/-- Runs the handler of a report to its end. -/
def run (d : Deferred) : List Case × Deferred :=
  complete s.found s.verdict ((s.report.handle policy).value d) ((s.report.handle policy).state d)

/-- The cases to be handed over, if it is known of every tab whether a navigation of it is due, and
which URLs are. -/
def due (navigated : TabId → Bool) (urls : TabId → List Text) : List Case :=
  match s.report, s.found with
  | .updated update, _ =>
    if policy.Relevant update ∧ update.tab.active
    then [⟨update.tab, .tab, update.tab.url⟩] else []
  | .requested event, .ok tab =>
    if 0 ≤ event.tab.value ∧ policy.Tracked event.type ∧ tab.active
    then [⟨tab, .request, event.url⟩] else []
  | .activated id, .ok tab =>
    if tab.active then
      untilShown s.verdict
        ((if navigated id then [⟨tab, .tab, tab.url⟩] else []) ++
          (urls id).map (⟨tab, .request, ·⟩))
    else []
  | _, .error _ => []

end Step

/-- The cases that are handed over in each of some steps. -/
def handedOver (policy : TrackingPolicy) (d : Deferred) : List Step → List (List Case)
  | [] => []
  | s :: rest => (s.run policy d).1 :: handedOver policy (s.run policy d).2 rest

/-- The steps after the last one that ends something. -/
def since (ends : Step → Bool) (past : List Step) : List Step :=
  (past.reverse.takeWhile fun s => !ends s).reverse

/-- Whether a navigation of a tab is due after steps: it navigated in the background, and neither
navigated in the foreground nor was activated for good since. -/
def navigationDue (policy : TrackingPolicy) (past : List Step) (t : TabId) : Bool :=
  (since (fun s => s.navigatesIn policy t true || s.consumes t) past).any
    fun s => s.navigatesIn policy t false

/-- The URLs of a tab that are due after steps: those of its background requests since it last
navigated or was activated for good, each once, in the order in which they first came. -/
def urlsDue (policy : TrackingPolicy) (past : List Step) (t : TabId) : List Text :=
  ((since (fun s => s.navigates policy t || s.consumes t) past).filterMap
    fun s => s.defers policy t).eraseDups

section Histories

variable (policy : TrackingPolicy) (past : List Step) (s : Step) (t : TabId)

private theorem since_concat (ends : Step → Bool) :
    since ends (past ++ [s]) = if ends s then [] else since ends past ++ [s] := by
  unfold since
  rw [List.reverse_concat, List.takeWhile_cons]
  cases ends s <;> simp

/-- A step that navigates a tab in the background makes a navigation due, and one that navigates it
in the foreground or activates it for good ends that. -/
private theorem navigationDue_concat :
    navigationDue policy (past ++ [s]) t =
      (!(s.navigatesIn policy t true || s.consumes t) &&
        (s.navigatesIn policy t false || navigationDue policy past t)) := by
  unfold navigationDue
  rw [since_concat]
  by_cases h : s.navigatesIn policy t true || s.consumes t
  · simp [h]
  · simp [h, Bool.or_comm]

/-- A step that defers a URL adds it to those due, and one that navigates the tab or activates it
for good leaves none due. -/
private theorem urlsDue_concat :
    urlsDue policy (past ++ [s]) t =
      if s.navigates policy t || s.consumes t then []
      else (s.defers policy t).elim (urlsDue policy past t)
        (Deferred.addUrl (urlsDue policy past t)) := by
  unfold urlsDue
  rw [since_concat]
  by_cases h : s.navigates policy t || s.consumes t
  · simp [h]
  · rw [if_neg h, if_neg h, List.filterMap_append]
    cases hd : s.defers policy t with
    | none => simp [hd]
    | some url =>
      rw [List.filterMap_cons_some hd, List.filterMap_nil, ← Deferred.addUrl_eraseDups]
      rfl

end Histories

namespace Step

variable (policy : TrackingPolicy) (s : Step) (d : Deferred) (t : TabId)

private theorem id_of_found {tab : Tab} (h : s.found = .ok tab) : tab.id == s.report.tab := by
  unfold found at h
  cases ha : s.answer with
  | error cause => rw [ha] at h; cases h
  | ok found =>
    rw [ha] at h
    cases h
    exact found.2

private theorem inBackground_of_ok {tab : Tab} (h : s.found = .ok tab) :
    s.inBackground = !tab.active := by
  rw [inBackground, h]

private theorem inBackground_of_error {cause : Failure} (h : s.found = .error cause) :
    s.inBackground = false := by
  rw [inBackground, h]

private theorem run_updated {update : TabUpdate} (h : s.report = .updated update) :
    s.run policy d =
      (if policy.isNavigation update && update.tab.active
        then [⟨update.tab, .tab, update.tab.url⟩] else [],
        (tabUpdated policy update).state d) := by
  rw [run, h]
  exact complete_tabUpdated _ _ _ _ _

private theorem run_requested {event : RequestEvent} (h : s.report = .requested event) :
    s.run policy d =
      match s.found with
      | .ok tab =>
        if 0 ≤ event.tab.value ∧ policy.accepts event.type then
          if tab.active then ([⟨tab, .request, event.url⟩], d)
          else ([], d.addRequest tab.id event.url)
        else ([], d)
      | .error _ => ([], d) := by
  rw [run, h]
  exact complete_requested _ _ _ _ _

private theorem run_activated {id : TabId} (h : s.report = .activated id) :
    s.run policy d =
      match s.found with
      | .ok tab =>
        if tab.active then
          (untilShown s.verdict ((if d.hasTab id then [⟨tab, .tab, tab.url⟩] else []) ++
            (d.urls id).map (⟨tab, .request, ·⟩)), (d.dropRequests id).dropTab id)
        else ([], ((d.dropRequests id).dropTab id).putBack id (d.hasTab id) (d.urls id))
      | .error _ => ([], (d.dropRequests id).dropTab id) := by
  rw [run, h]
  exact complete_activated _ _ _ _

private theorem run_eq_due : (s.run policy d).1 = s.due policy d.hasTab d.urls := by
  cases h : s.report with
  | updated update =>
    rw [run_updated policy s d h]
    simp only [due, h, TrackingPolicy.relevant_iff, Bool.and_eq_true]
  | requested event =>
    rw [run_requested policy s d h]
    simp only [due, h]
    cases hf : s.found with
    | error cause => rfl
    | ok tab =>
      by_cases ht : 0 ≤ event.tab.value ∧ policy.accepts event.type
      · dsimp only
        rw [if_pos ht]
        by_cases ha : tab.active
        · rw [if_pos ha, if_pos ⟨ht.1, TrackingPolicy.tracked_iff.mpr ht.2, ha⟩]
        · rw [if_neg ha, if_neg fun hd => ha hd.2.2]
      · simp only [if_neg ht]
        rw [if_neg fun hd => ht ⟨hd.1, TrackingPolicy.tracked_iff.mp hd.2.1⟩]
  | activated id =>
    rw [run_activated policy s d h]
    simp only [due, h]
    cases hf : s.found with
    | error cause => rfl
    | ok tab =>
      by_cases ha : tab.active
      · simp only [if_pos ha]
      · simp only [if_neg ha]

private theorem hasTab_run :
    (s.run policy d).2.hasTab t =
      (!(s.navigatesIn policy t true || s.consumes t) &&
        (s.navigatesIn policy t false || d.hasTab t)) := by
  cases h : s.report with
  | updated update =>
    rw [run_updated policy s d h]
    simp only [navigatesIn, consumes, h, state_tabUpdated]
    by_cases hn : policy.isNavigation update
    · by_cases ha : update.tab.active
      · simp [hn, ha]
      · simp [hn, ha]
    · simp [hn]
  | requested event =>
    rw [run_requested policy s d h]
    simp only [navigatesIn, consumes, h]
    cases s.found with
    | error cause => rfl
    | ok tab =>
      dsimp only
      split
      · split <;> rfl
      · rfl
  | activated id =>
    rw [run_activated policy s d h]
    simp only [navigatesIn, consumes, inBackground, h]
    cases s.found with
    | error cause => simp
    | ok tab =>
      by_cases ha : tab.active
      · simp [ha]
      · by_cases ht : id == t
        · simp [ha, ht, d.hasTab_congr ht]
        · simp [ha, ht]

private theorem urls_run :
    (s.run policy d).2.urls t =
      if s.navigates policy t || s.consumes t then []
      else (s.defers policy t).elim (d.urls t) (Deferred.addUrl (d.urls t)) := by
  cases h : s.report with
  | updated update =>
    rw [run_updated policy s d h]
    simp only [navigates, consumes, defers, h, state_tabUpdated]
    by_cases hn : policy.isNavigation update
    · by_cases ha : update.tab.active
      · simp [hn, ha]
      · simp [hn, ha]
    · simp [hn]
  | requested event =>
    rw [run_requested policy s d h]
    simp only [navigates, consumes, defers, h]
    cases hf : s.found with
    | error cause => simp [inBackground_of_error s hf]
    | ok tab =>
      have hid : (tab.id == t) = (event.tab == t) := by
        have hi := s.id_of_found hf
        rw [h] at hi
        exact BEq.congr_left hi
      by_cases ht : 0 ≤ event.tab.value ∧ policy.accepts event.type
      · have htracked := TrackingPolicy.tracked_iff.mpr ht.2
        by_cases ha : tab.active
        · simp [ht, ha, inBackground_of_ok s hf]
        · by_cases he : event.tab == t
          · simp [ht, htracked, ha, he, inBackground_of_ok s hf, Deferred.urls_addRequest, hid]
          · simp [ht, htracked, ha, he, inBackground_of_ok s hf, Deferred.urls_addRequest, hid]
      · dsimp only
        rw [if_neg ht, if_neg (c := (false || false) = true) (by simp),
          if_neg fun hd => ht ⟨hd.2.1, TrackingPolicy.tracked_iff.mp hd.2.2.1⟩]
        rfl
  | activated id =>
    rw [run_activated policy s d h]
    simp only [navigates, consumes, defers, h]
    cases hf : s.found with
    | error cause => simp [inBackground_of_error s hf]
    | ok tab =>
      by_cases ha : tab.active
      · simp [ha, inBackground_of_ok s hf]
      · by_cases ht : id == t
        · simp [ha, ht, inBackground_of_ok s hf, Deferred.urls_putBack, d.urls_congr ht]
        · simp [ha, ht, inBackground_of_ok s hf, Deferred.urls_putBack]

end Step

/-- The deferred activity after steps is what is due after them. -/
structure Remembers (policy : TrackingPolicy) (past : List Step) (d : Deferred) : Prop where
  navigated : ∀ t, d.hasTab t = navigationDue policy past t
  urls : ∀ t, d.urls t = urlsDue policy past t

/-- Every step keeps the deferred activity what is due. -/
theorem Remembers.step {policy : TrackingPolicy} {past : List Step} {d : Deferred}
    (h : Remembers policy past d) (s : Step) :
    Remembers policy (past ++ [s]) (s.run policy d).2 where
  navigated := fun t => by rw [s.hasTab_run, navigationDue_concat, h.navigated]
  urls := fun t => by rw [s.urls_run, urlsDue_concat, h.urls]

/-- A step hands over what is due, if the deferred activity is. -/
theorem Remembers.calls {policy : TrackingPolicy} {past : List Step} {d : Deferred}
    (h : Remembers policy past d) (s : Step) :
    (s.run policy d).1 = s.due policy (navigationDue policy past) (urlsDue policy past) := by
  rw [s.run_eq_due, funext h.navigated, funext h.urls]

private theorem Remembers.handedOver {policy : TrackingPolicy} {past : List Step} {d : Deferred}
    (h : Remembers policy past d) (steps : List Step) :
    handedOver policy d steps =
      steps.mapIdx fun i s =>
        s.due policy (navigationDue policy (past ++ steps.take i))
          (urlsDue policy (past ++ steps.take i)) := by
  induction steps generalizing past d with
  | nil => rfl
  | cons s rest ih =>
    rw [Handler.handedOver, List.mapIdx_cons, h.calls, ih (h.step s)]
    simp

/-- Where every handler runs to its end before the next begins, each step hands over exactly the
cases that are due after the steps before it, whatever the tabs that are found and the
judgements. -/
theorem handedOver_eq_due (policy : TrackingPolicy) (steps : List Step) :
    handedOver policy {} steps =
      steps.mapIdx fun i s =>
        s.due policy (navigationDue policy (steps.take i)) (urlsDue policy (steps.take i)) := by
  have h : Remembers policy [] {} := ⟨fun _ => rfl, fun _ => rfl⟩
  exact h.handedOver steps

/-- A tab, in the foreground or in the background. -/
def visited (active : Bool) : Tab := ⟨.number 1, "https://a.com/", active⟩

/-- A tab navigates in the background, issues a request twice and another one, and is activated:
once before it comes to the foreground, and twice after that. The second of the judgements made
first shows a notification. -/
def visits : List Step :=
  let request (url : Text) : Step :=
    ⟨.requested ⟨.number 1, url, none⟩, .ok ⟨visited false, rfl⟩, fun _ => .ok false⟩
  [⟨.updated ⟨visited false, false, some "loading"⟩, .error .tabGone, fun _ => .ok false⟩,
    request "https://b.com/", request "https://c.com/", request "https://b.com/",
    ⟨.activated (.number 1), .ok ⟨visited false, rfl⟩, fun _ => .ok false⟩,
    ⟨.activated (.number 1), .ok ⟨visited true, rfl⟩, fun n => .ok (n == 1)⟩,
    ⟨.activated (.number 1), .ok ⟨visited true, rfl⟩, fun _ => .ok false⟩]

/-- What is due is handed over once, up to the case that shows a notification. -/
theorem handedOver_eq_due_visits :
    handedOver {} {} visits = [[], [], [], [], [],
      [⟨visited true, .tab, "https://a.com/"⟩, ⟨visited true, .request, "https://b.com/"⟩], []] :=
  (handedOver_eq_due {} visits).trans rfl

end Handler

end BreakageAdvisor
