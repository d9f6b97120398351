import Mathlib.Algebra.GroupWithZero.Nat
import Mathlib.Data.List.DropRight
import RackInventory.Proofs.Filter.FirstAppearance
import RackInventory.Simulation.Scenario

/-!
# What a scenario knows of its events

A scenario keeps the requests, a forced status, the holdings and what is expected side by side, and
each of them is cleared by other events. What it keeps after any events is told by the events alone:
the requests since they were last forgotten, the last status forced and not released, the holdings
given last, and what was expected since the last reset. Its answers, its verdict and its statistics
follow from these.

A forced status is answered as it is only if it can end an exchange. A status that announces a later
response is replaced by a server error.
-/

namespace RackInventory

namespace Scenario

namespace Event

@[simp] def received? : Event → Option Received
  | .receive r => some r
  | _ => none

@[simp] def forced? : Event → Option Status
  | .force status => some status
  | _ => none

@[simp] def held? : Event → Option Holdings
  | .hold h => some h
  | _ => none

@[simp] def expected? (version : String) : Event → Option ExpectedRequests
  | .expect method resource count => some ⟨method, resourcePath version resource, count⟩
  | _ => none

@[simp] def clears : Event → Bool
  | .forget | .reset => true
  | _ => false

@[simp] def releases : Event → Bool
  | .release | .reset => true
  | _ => false

@[simp] def restarts : Event → Bool
  | .reset => true
  | _ => false

end Event

/-- The events after the last one of a kind. -/
def since (kind : Event → Bool) (events : List Event) : List Event :=
  events.rtakeWhile fun e => !kind e

theorem since_concat (kind : Event → Bool) (events : List Event) (e : Event) :
    since kind (events ++ [e]) = if kind e then [] else since kind events ++ [e] := by
  rw [since, List.rtakeWhile_concat]
  cases kind e <;> rfl

/-- A status is in force when it was forced and has neither been released nor replaced since. -/
def InForce (events : List Event) (status : Status) : Prop :=
  ∃ before after, events = before ++ .force status :: after ∧
    ∀ e ∈ after, e.releases = false ∧ e.forced? = none

theorem inForce_concat {events : List Event} {e : Event} {status : Status} :
    InForce (events ++ [e]) status ↔
      e = .force status ∨ InForce events status ∧ e.releases = false ∧ e.forced? = none := by
  constructor
  · rintro ⟨before, after, eq, quiet⟩
    rcases List.eq_nil_or_concat after with rfl | ⟨rest, last, rfl⟩
    · exact .inl (List.singleton_inj.mp (List.append_inj' eq rfl).2)
    · rw [List.concat_eq_append, ← List.cons_append, ← List.append_assoc] at eq
      obtain ⟨front, back⟩ := List.append_inj' eq rfl
      cases back
      rw [List.concat_eq_append] at quiet
      exact .inr ⟨⟨before, rest, front, fun e mem => quiet e (List.mem_append_left _ mem)⟩,
        quiet e (List.mem_append_right _ List.mem_cons_self)⟩
  · rintro (rfl | ⟨⟨before, after, rfl, quiet⟩, now⟩)
    · exact ⟨events, [], rfl, fun _ mem => absurd mem List.not_mem_nil⟩
    · refine ⟨before, after ++ [e], by simp, ?_⟩
      rw [List.forall_mem_append]
      exact ⟨quiet, List.forall_mem_singleton.mpr now⟩

/-- The status in force is the last one forced since the last release. -/
theorem inForce_iff {events : List Event} {status : Status} :
    ((since Event.releases events).filterMap Event.forced?).getLast? = some status ↔
      InForce events status := by
  induction events using List.reverseRecOn with
  | nil => simp [since, InForce]
  | append_singleton events e ih =>
    rw [inForce_concat, ← ih, since_concat]
    cases e with
    | force other => simp [eq_comm]
    | _ => simp

section Run

variable (host version : String) (holdings : Holdings)

/-- A scenario that keeps what some events tell. -/
def told (events : List Event) : Scenario where
  server :=
    { SimulatedServer.fresh host version holdings with
      holdings := (events.filterMap Event.held?).getLastD holdings
      forced := ((since Event.releases events).filterMap Event.forced?).getLast?
      received := (since Event.clears events).filterMap Event.received? }
  expected := (since Event.restarts events).filterMap
    (Event.expected? (SimulatedServer.fresh host version holdings).version)

/-- One more event changes what it is about and nothing else. -/
theorem told_concat (events : List Event) (e : Event) :
    told host version holdings (events ++ [e]) = (told host version holdings events).step e := by
  unfold told
  simp only [since_concat, List.filterMap_append]
  cases e with
  | receive r => simp [step, SimulatedServer.receive]
  | force status => simp [step]
  | release => simp [step]
  | forget => simp [step]
  | hold h => simp [step]
  | expect method resource count => simp [step, pathOf]
  | reset => simp [step]

theorem mem_expected_told {events : List Event} {e : ExpectedRequests} :
    e ∈ (told host version holdings events).expected ↔ ∃ method resource count,
      .expect method resource count ∈ since Event.restarts events ∧
        e = ⟨method, resourcePath (told host version holdings events).server.version resource,
          count⟩ := by
  constructor
  · intro mem
    obtain ⟨event, here, expects⟩ := List.mem_filterMap.mp mem
    cases event with
    | expect method resource count =>
      cases expects
      exact ⟨method, resource, count, here, rfl⟩
    | _ => cases expects
  · rintro ⟨method, resource, count, mem, rfl⟩
    exact List.mem_filterMap.mpr ⟨_, mem, rfl⟩

theorem run_fresh (events : List Event) :
    (fresh host version holdings).run events = told host version holdings events := by
  induction events using List.reverseRecOn with
  | nil => rfl
  | append_singleton events e ih =>
    rw [told_concat, ← ih, run, run, List.foldl_append]
    rfl

end Run

end Scenario

namespace SimulatedServer

variable {s : SimulatedServer} {r : Received} {route : Route}

def heldAnswer (h : Holdings) (r : Received) (route : Route) : Response :=
  if route.allows r.method then
    if r.method = "HEAD" then headOf (fromHoldings h r.query route)
    else fromHoldings h r.query route
  else .ofStatus 405

theorem atRoute_below (s : SimulatedServer) (query : Option String)
    (below : route ≠ .configuration) :
    s.atRoute query route = s.unlessForced (fromHoldings s.holdings query route) := by
  cases route with
  | configuration => exact absurd rfl below
  | collection c => rfl
  | drawing version entity file => rfl

theorem answer_below (leads : Route.ofPath? s.version r.path = some route)
    (below : route ≠ .configuration) :
    s.answer r = match s.forced with
      | some status => .ofStatus (if Response.isFinal status.val then status.val else 500)
      | none => heldAnswer s.holdings r route := by
  rw [answer, leads]
  simp only [atRoute_below s _ below, if_neg below, unlessForced, heldAnswer]
  cases s.forced with
  | none => rfl
  | some status =>
    -- The head of a response without a body is the response.
    have head : headOf (forcedResponse status) = forcedResponse status := rfl
    simp only [head, ite_self]
    rfl

theorem answer_configuration (path : r.path = "/config.json") :
    s.answer r =
      if r.method = "GET" then jsonResponse (Configuration.shape.encode s.configuration)
      else if r.method = "HEAD" then
        headOf (jsonResponse (Configuration.shape.encode s.configuration))
      else .ofStatus 405 := by
  have leads : Route.ofPath? s.version r.path = some .configuration := if_pos path
  rw [answer, leads]
  by_cases get : r.method = "GET"
  · simp [Route.allows, atRoute, get]
  · by_cases head : r.method = "HEAD"
    · simp [Route.allows, atRoute, head]
    · simp [Route.allows, get, head]

/-- What is answered from a collection has a media type. -/
theorem mediaType_fromHoldings (h : Holdings) (query : Option String) (c : Collection) :
    (fromHoldings h query (.collection c)).mediaType.isSome = true := by
  rw [fromHoldings]
  cases nameFilter query <;> rfl

end SimulatedServer

namespace Scenario

theorem meets_iff {s : Scenario} {e : ExpectedRequests} :
    s.meets e = true ↔
      (s.received.filter fun r => r.method = e.method ∧ r.path = e.path).length = e.count := by
  rw [meets, decide_eq_true_iff, receivedAt]
  simp only [Bool.decide_and]

theorem check_eq_ok_iff {s : Scenario} :
    s.check = .ok () ↔ ∀ e ∈ s.expected,
      (s.received.filter fun r => r.method = e.method ∧ r.path = e.path).length = e.count := by
  simp only [← meets_iff]
  rw [check]
  cases first : s.expected.find? (!s.meets ·) with
  | none => simpa using first
  | some e =>
    refine iff_of_false nofun fun all => ?_
    have unmet := List.find?_some first
    rw [all e (List.mem_of_find?_eq_some first)] at unmet
    cases unmet

/-- The verdict where what is expected is told by events. -/
theorem check_eq_ok_iff_of_events {s : Scenario} {events : List Event}
    (expected : ∀ e, e ∈ s.expected ↔ ∃ method resource count,
      .expect method resource count ∈ since Event.restarts events ∧
        e = ⟨method, resourcePath s.server.version resource, count⟩) :
    s.check = .ok () ↔ ∀ method resource count,
      .expect method resource count ∈ since Event.restarts events →
        (s.received.filter fun r =>
          r.method = method ∧ r.path = resourcePath s.server.version resource).length = count := by
  simp only [check_eq_ok_iff, expected]
  constructor
  · intro all method resource count mem
    exact all _ ⟨method, resource, count, mem, rfl⟩
  · rintro all _ ⟨method, resource, count, mem, rfl⟩
    exact all method resource count mem

end Scenario

namespace Statistics

/-- Counting a label once more, seen on labels that are counted once. -/
theorem bump_map {labels : List String} (nodup : labels.Nodup) (label : String) (n : String → Nat)
    (unseen : label ∉ labels → n label = 0) :
    bump label (labels.map fun l => (l, n l)) =
      (if label ∈ labels then labels else labels ++ [label]).map fun l =>
        (l, if l = label then n l + 1 else n l) := by
  induction labels with
  | nil => simp [bump, unseen]
  | cons l rest ih =>
    obtain ⟨once, nodup⟩ := List.nodup_cons.mp nodup
    rw [List.map_cons, bump]
    by_cases here : l = label
    · subst here
      have others : rest.map (fun m => (m, if m = l then n m + 1 else n m)) =
          rest.map fun m => (m, n m) := by
        refine List.map_congr_left fun m mem => ?_
        have other : m ≠ l := fun same => once (same ▸ mem)
        rw [if_neg other]
      simp [others]
    · have later := ih nodup fun missing =>
        unseen (List.not_mem_cons_of_ne_of_not_mem (Ne.symm here) missing)
      have member : label ∈ l :: rest ↔ label ∈ rest := by simp [Ne.symm here]
      rw [if_neg here, later]
      by_cases seen : label ∈ rest <;> simp [here, member, seen]

/-- Each label is counted once, as often as there are requests with it. -/
theorem counts_eq (all : List Received) :
    (ofReceived all).counts =
      (distinct (all.map Received.label)).map fun l => (l, (all.filter (·.label = l)).length) := by
  induction all using List.reverseRecOn with
  | nil => rfl
  | append_singleton all r ih =>
    have counts : (ofReceived (all ++ [r])).counts = bump r.label (ofReceived all).counts :=
      List.foldl_append
    have unseen : r.label ∉ distinct (all.map Received.label) →
        (all.filter (·.label = r.label)).length = 0 := by
      intro missing
      rw [mem_distinct, List.mem_map] at missing
      rw [List.length_eq_zero_iff, List.filter_eq_nil_iff]
      exact fun other mem same => missing ⟨other, mem, of_decide_eq_true same⟩
    have one : ∀ l, ((all ++ [r]).filter (·.label = l)).length =
        if l = r.label then (all.filter (·.label = l)).length + 1
        else (all.filter (·.label = l)).length := by
      intro l
      by_cases same : r.label = l
      · simp [List.filter_append, same]
      · simp [List.filter_append, same, Ne.symm same]
    rw [counts, ih, bump_map (nodup_distinct _) r.label _ unseen, List.map_append,
      List.map_singleton, distinct_concat]
    simp only [mem_distinct, one]

/-- The counts add up to the total. -/
theorem sum_counts (all : List Received) :
    ((ofReceived all).counts.map (·.2)).sum = all.length := by
  have divided : ((distinct (all.map Received.label)).flatMap fun l =>
      all.filter (·.label = l)).Perm all :=
    flatMap_filter_perm (nodup_distinct _) fun r mem =>
      mem_distinct.mpr (List.mem_map_of_mem mem)
  rw [counts_eq, List.map_map, ← divided.length_eq, List.length_flatMap]
  rfl

end Statistics

namespace Scenario

/-- A scenario after some events, in terms of these events. -/
structure Accountable (host version : String) (holdings : Holdings) (events : List Event)
    (s : Scenario) : Prop where
  /-- The requests since they were last forgotten are kept, whatever was answered. -/
  received : s.received = (since Event.clears events).filterMap Event.received?
  /-- Below the version a status in force is answered alone, if it can be answered at all. -/
  forced : ∀ status, InForce events status → ∀ r route,
    Route.ofPath? s.server.version r.path = some route → route ≠ .configuration →
      s.server.answer r = .ofStatus (if Response.isFinal status.val then status.val else 500) ∧
      ((s.server.answer r).status = status.val ↔ Response.isFinal status.val = true)
  /-- Without one the holdings given last are answered from. -/
  held : (∀ status, ¬ InForce events status) → ∀ r route,
    Route.ofPath? s.server.version r.path = some route → route ≠ .configuration →
      s.server.answer r =
        SimulatedServer.heldAnswer ((events.filterMap Event.held?).getLastD holdings) r route
  /-- A reader of a collection can tell the two apart. -/
  toldApart : ∀ r c, Route.ofPath? s.server.version r.path = some (.collection c) →
    r.method = "GET" →
      ((s.server.answer r).mediaType = none ↔ ∃ status, InForce events status)
  /-- The configuration is answered from the address and the version alone. -/
  configuration : ∀ r, r.path = "/config.json" →
    s.server.answer r = (SimulatedServer.fresh host version .empty).answer r
  /-- The verdict is good when what was expected since the last reset is what was received. -/
  verdict : s.check = .ok () ↔ ∀ method resource count,
    .expect method resource count ∈ since Event.restarts events →
      (s.received.filter fun r =>
        r.method = method ∧ r.path = resourcePath s.server.version resource).length = count
  /-- The statistics count each request once, under its method and path. -/
  counts : s.statistics.counts = (distinct (s.received.map Received.label)).map fun label =>
    (label, (s.received.filter (·.label = label)).length)
  total : s.statistics.total = s.received.length ∧
    (s.statistics.counts.map (·.2)).sum = s.statistics.total

theorem accountable_told (host version : String) (holdings : Holdings) (events : List Event) :
    Accountable host version holdings events (told host version holdings events) where
  received := rfl
  forced status inForce r route leads below := by
    have answer := SimulatedServer.answer_below leads below
    have forced : (told host version holdings events).server.forced = some status :=
      inForce_iff.mpr inForce
    rw [forced] at answer
    refine ⟨answer, ?_⟩
    rw [answer]
    change (if _ then _ else 500) = _ ↔ _
    cases final : Response.isFinal status.val with
    | true => simp
    | false =>
      have server : Response.isFinal 500 = true := by decide
      simp only [Bool.false_eq_true, if_false, iff_false]
      intro same
      rw [← same, server] at final
      cases final
  held none r route leads below := by
    have answer := SimulatedServer.answer_below leads below
    have free : (told host version holdings events).server.forced = .none :=
      Option.eq_none_iff_forall_ne_some.mpr fun status forced =>
        none status (inForce_iff.mp forced)
    rwa [free] at answer
  toldApart r c leads get := by
    have answer := SimulatedServer.answer_below leads nofun
    rw [answer]
    cases forced : (told host version holdings events).server.forced with
    | some status => exact iff_of_true rfl ⟨status, inForce_iff.mp forced⟩
    | none =>
      have media : (SimulatedServer.heldAnswer (told host version holdings events).server.holdings r
          (.collection c)).mediaType.isSome = true := by
        rw [SimulatedServer.heldAnswer, get]
        exact SimulatedServer.mediaType_fromHoldings _ _ _
      refine iff_of_false (Option.isSome_iff_ne_none.mp media) ?_
      rintro ⟨status, inForce⟩
      have other := inForce_iff.mpr inForce
      rw [show ((since Event.releases events).filterMap Event.forced?).getLast? = none from forced]
        at other
      cases other
  configuration r path := by
    rw [SimulatedServer.answer_configuration path, SimulatedServer.answer_configuration path]
    rfl
  verdict := check_eq_ok_iff_of_events fun _ => mem_expected_told host version holdings
  counts := Statistics.counts_eq _
  total := ⟨rfl, Statistics.sum_counts _⟩

/-- Whatever happens in a scenario, what it keeps, answers and tells follows from the events. -/
theorem bookkeeping (host version : String) (holdings : Holdings) (events : List Event) :
    Accountable host version holdings events ((fresh host version holdings).run events) := by
  rw [run_fresh]
  exact accountable_told host version holdings events

/-- The status for a request that is still being worked on. -/
def processing : Status := ⟨102, by decide⟩

/-- It is in force, and another is answered. -/
theorem processing_not_answered :
    InForce [.force processing] processing ∧
    Route.ofPath? "v0.5.0" "/v0.5.0/racks" = some (.collection .racks) ∧
    (((fresh "127.0.0.1:5000" "v0.5.0" .empty).run [.force processing]).server.answer
      ⟨"GET", "/v0.5.0/racks", none⟩).status = 500 ∧
    processing.val ≠ 500 := by
  refine ⟨⟨[], [], rfl, fun _ mem => absurd mem List.not_mem_nil⟩, ?_, ?_, ?_⟩
  · decide +kernel
  · decide +kernel
  · decide

end Scenario

end RackInventory
