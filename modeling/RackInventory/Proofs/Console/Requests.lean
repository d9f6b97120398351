import RackInventory.Console.Program
import RackInventory.Proofs.Console.Drawing
import RackInventory.Proofs.Console.Plans

/-!
# Commands ask for what they need

Each command has a plan: the requests that it may make, in order. What it asks for is always a front of
the plan, and it is the whole plan when the command succeeds. On the wire each of these requests is
followed by those that redirections lead to, at most ten, and by no others; what comes of them in the end
counts as the reply. A command fails when something that it needs cannot be had, and a failed command
shows nothing. A diagram is written to its file only after the whole body of a successful response has
come.

What a command shows when it succeeds is not described here.
-/

namespace RackInventory

variable {α σ : Type}

open Call

/-- Whether a call makes one request, if requests can be sent to the server at all, and fails unless the
reply is the whole body of a success. -/
def Client.Sends (client : Client) (c : Call CallError α) (r : Request) : Prop :=
  ∃ judge : Reply → Except CallError α,
    (∀ reply a, judge reply = .ok a → ∃ bytes, reply.Holds bytes) ∧
    c = if client.base.isWeb then .judged r judge else throw .exchange

namespace Client

theorem sends_list (client : Client) (resource : String) (item : Shape α) :
    client.Sends (client.list resource item) ⟨.get, client.collectionUrl resource none, some agent⟩ := by
  refine ⟨judgeList resource item, fun reply all eq => ?_, ?_⟩
  · obtain ⟨bytes, holds, -⟩ := judgeList_eq_ok_iff.mp eq
    exact ⟨bytes, holds⟩
  · rw [list, send, ← isWeb_below client [resource]]
    rfl

theorem sends_find (client : Client) (resource kind : String) (item : Shape α) (nameOf : α → String)
    (name : String) : client.Sends (client.find resource kind item nameOf name)
      ⟨.get, client.collectionUrl resource (some name), some agent⟩ := by
  refine ⟨judgeNamed resource kind item nameOf name, fun reply a eq => ?_, ?_⟩
  · rw [judgeNamed_eq, bind_eq_ok_iff] at eq
    obtain ⟨all, listed, -⟩ := eq
    obtain ⟨bytes, holds, -⟩ := judgeList_eq_ok_iff.mp listed
    exact ⟨bytes, holds⟩
  · rw [find, send, ← isWeb_below client [resource]]
    rfl

theorem sends_diagram (client : Client) (kind : DiagramSubject) (name : String) :
    client.Sends (client.diagram kind name) (Command.drawRequest client kind name) := by
  refine ⟨judgeDiagram (kind.entity ++ " diagram " ++ name), fun reply d eq => ?_, ?_⟩
  · obtain ⟨r, some, success, body, -⟩ := (judgeDiagram_drawn.drawn d).mp eq
    exact ⟨d.bytes, r, some, success, body⟩
  · rw [diagram, send, ← isWeb_below client ["draw", kind.entity, name ++ ".svg"]]
    rfl

end Client

namespace Client.Sends

variable {client : Client} {c : Call CallError α} {r : Request} (sends : client.Sends c r)
  (w : World σ) (s : σ)

include sends

theorem eventsIn_eq : eventsIn w c s =
    if client.base.isWeb then [.asked r (w.follow s r).1] else [] := by
  obtain ⟨judge, -, rfl⟩ := sends
  split <;> rfl

theorem follows (context : String) : Follows w [r] (c.within context) s := by
  refine Follows.within ?_ context
  obtain ⟨judge, holds, rfl⟩ := sends
  split
  · exact follows_judged holds
  · exact follows_throw

theorem writesNothing (context : String) : (c.within context).WritesNothing w s := by
  intro path bytes mem
  rw [within, eventsIn_mapError, sends.eventsIn_eq w s] at mem
  split at mem <;> simp at mem

theorem of_ok {a : α} {s' : σ} (ended : runIn w c s = (.ok a, s')) :
    client.base.isWeb = true ∧ ∃ bytes, (w.follow s r).1.Holds bytes := by
  obtain ⟨judge, holds, rfl⟩ := sends
  by_cases web : client.base.isWeb = true
  · rw [if_pos web, runIn_judged] at ended
    exact ⟨web, holds _ a (congrArg Prod.fst ended)⟩
  · rw [if_neg web, runIn_throw] at ended
    cases congrArg Prod.fst ended

end Client.Sends

namespace Command

def plan (client : Client) : Command → List Request
  | .datacenters => [⟨.get, client.collectionUrl "datacenters" none, some Client.agent⟩]
  | .infrastructures _ => [⟨.get, client.collectionUrl "infrastructures" none, some Client.agent⟩]
  | .rooms place _ => [⟨.get, client.collectionUrl "datacenters" (some place), some Client.agent⟩]
  | .room place _ _ =>
    [⟨.get, client.collectionUrl "datacenters" (some place), some Client.agent⟩,
      ⟨.get, client.collectionUrl "infrastructures" none, some Client.agent⟩]
  | .infrastructure a =>
    [⟨.get, client.collectionUrl "infrastructures" (some a.name), some Client.agent⟩]
  | .equipmentType owner _ =>
    [⟨.get, client.collectionUrl "infrastructures" (some owner), some Client.agent⟩]
  | .draw kind name _ => [drawRequest client kind name]

/-- Whether something that a command needs cannot be had: a request fails, the room or the type is
absent, or the file cannot be written. -/
def Unmet (client : Client) (w : World σ) (s : σ) : Command → Prop
  | .datacenters => client.datacenters.FailsIn w s
  | .infrastructures _ => client.infrastructures.FailsIn w s
  | .rooms place _ => (client.datacenter place).FailsIn w s
  | .room place name _ => (client.datacenter place).FailsIn w s ∨
    ∃ d s', runIn w (client.datacenter place) s = (.ok d, s') ∧
      ((∀ r ∈ d.rooms, r.name ≠ name) ∨ client.infrastructures.FailsIn w s')
  | .infrastructure a => (client.infrastructure a.name).FailsIn w s
  | .equipmentType owner typeId => (client.infrastructure owner).FailsIn w s ∨
    ∃ i s', runIn w (client.infrastructure owner) s = (.ok i, s') ∧
      ∀ item ∈ i.items, item.typeId ≠ typeId
  | .draw kind name output => (client.diagram kind name).FailsIn w s ∨
    ∃ d s', runIn w (client.diagram kind name) s = (.ok d, s') ∧
      ∃ path e, output = some path ∧ (w.store s' path d.bytes).1 = .error e

/-- A command that asks only for what it needs, and shows nothing when it fails. -/
structure Clean (client : Client) (w : World σ) (s : σ) (command : Command) : Prop
    extends Follows w (command.plan client) (command.execute client) s where
  fails : (command.execute client).FailsIn w s ↔ command.Unmet client w s
  silent : ∀ f, (runIn w (command.execute client) s).1 = .error f →
    ((Program.carryOut client command).run w s).1 = .failed f ∧
      ((Program.carryOut client command).run w s).1.output = ""
  spelled : Session.Spelled (eventsIn w (command.execute client) s)
    (wireIn w (command.execute client) s)
  direct : (∀ r reply, .asked r reply ∈ wireIn w (command.execute client) s →
      r.after reply = .ends reply) →
    wireIn w (command.execute client) s = eventsIn w (command.execute client) s
  written : ∀ path bytes, .wrote path bytes ∈ wireIn w (command.execute client) s →
    ∃ kind name reply steps, command = .draw kind name (some path) ∧ reply.Holds bytes ∧
      Session.Chain Request.hopLimit (drawRequest client kind name) steps reply ∧
      wireIn w (command.execute client) s = steps ++ [.wrote path bytes]
  kept : ∀ files : σ → Files, w.KeepsFiles files →
    (command.execute client).WritesNothing w s →
    files (runIn w (command.execute client) s).2 = files s

section

variable (client : Client) (w : World σ) (s : σ)

theorem follows_plan (command : Command) :
    Follows w (command.plan client) (command.execute client) s := by
  cases command with
  | datacenters =>
    exact ((client.sends_list ..).follows w s _).bind fun _ _ _ => .of_silent rfl
  | infrastructures query =>
    exact ((client.sends_list ..).follows w s _).bind fun _ _ _ => .of_silent rfl
  | rooms place query =>
    exact ((client.sends_find ..).follows w s _).bind fun _ _ _ => .of_silent rfl
  | room place name query =>
    refine ((client.sends_find ..).follows w s _).bind fun d s₁ _ => ?_
    refine (Follows.of_silent (asksIn_ofOption ..)).bind fun r s₂ _ => ?_
    exact ((client.sends_list ..).follows w s₂ _).bind fun _ _ _ => .of_silent rfl
  | infrastructure a =>
    exact ((client.sends_find ..).follows w s _).bind fun _ _ _ => .of_silent rfl
  | equipmentType owner typeId =>
    refine ((client.sends_find ..).follows w s _).bind fun i s₁ _ => ?_
    exact (Follows.of_silent (asksIn_ofOption ..)).bind fun _ _ _ => .of_silent rfl
  | draw kind name output =>
    refine ((client.sends_diagram ..).follows w s _).bind fun d s₁ _ => ?_
    cases output with
    | none => exact .of_silent rfl
    | some path => exact (Follows.of_silent rfl).bind fun _ _ _ => .of_silent rfl

theorem typeIn_eq_none_iff {i : Infrastructure} {typeId : String} :
    typeIn i typeId = none ↔ ∀ item ∈ i.items, item.typeId ≠ typeId := by
  rw [typeIn, Option.map_eq_none_iff, List.find?_eq_none]
  simp only [decide_eq_true_eq]

theorem fails_iff_unmet (command : Command) :
    (command.execute client).FailsIn w s ↔ command.Unmet client w s := by
  cases command with
  | datacenters => exact failsIn_within_map_iff
  | infrastructures query => exact failsIn_within_map_iff
  | rooms place query => exact failsIn_within_map_iff
  | infrastructure a => exact failsIn_within_map_iff
  | room place name query =>
    rw [execute, failsIn_within_bind_iff]
    refine or_congr_right (exists₂_congr fun d s' => and_congr_right fun _ => ?_)
    have absent : d.rooms.find? (·.name = name) = none ↔ ∀ r ∈ d.rooms, r.name ≠ name := by
      rw [List.find?_eq_none]
      simp only [decide_eq_true_eq]
    rw [failsIn_ofOption_bind_iff, ← absent]
    simp only [failsIn_within_map_iff]
    cases d.rooms.find? (·.name = name) with
    | none => simp
    | some r => simp
  | equipmentType owner typeId =>
    rw [execute, failsIn_within_bind_iff]
    refine or_congr_right (exists₂_congr fun i s' => and_congr_right fun _ => ?_)
    rw [failsIn_ofOption_bind_iff, typeIn_eq_none_iff]
    refine or_iff_left ?_
    rintro ⟨t, -, failed⟩
    exact not_failsIn_pure failed
  | draw kind name output =>
    rw [execute, failsIn_within_bind_iff]
    refine or_congr_right (exists₂_congr fun d s' => and_congr_right fun _ => ?_)
    cases output with
    | none =>
      refine iff_of_false not_failsIn_pure ?_
      rintro ⟨path, e, ⟨⟩, -⟩
    | some path =>
      have written : (∃ e, (w.store s' path d.bytes).1 = .error e) ↔
          ∃ path' e, some path = some path' ∧ (w.store s' path' d.bytes).1 = .error e := by simp
      rw [← written, ← failsIn_save_iff, failsIn_bind_iff]
      refine or_iff_left ?_
      rintro ⟨_, _, -, failed⟩
      exact not_failsIn_pure failed

theorem silent_of_error {command : Command} {f : Failure}
    (failed : (runIn w (command.execute client) s).1 = .error f) :
    ((Program.carryOut client command).run w s).1 = .failed f ∧
      ((Program.carryOut client command).run w s).1.output = "" := by
  have ends : ((Program.carryOut client command).run w s).1 = .failed f := by
    rw [runIn] at failed
    rw [Program.carryOut, Session.run_bind, failed]
    rfl
  exact ⟨ends, by rw [ends]; rfl⟩

/-- Only a diagram is written. -/
theorem writesNothing_execute {command : Command}
    (other : ∀ kind name output, command ≠ .draw kind name output) :
    (command.execute client).WritesNothing w s := by
  cases command with
  | datacenters =>
    exact ((client.sends_list ..).writesNothing w s _).bind fun _ _ => nofun
  | infrastructures query =>
    exact ((client.sends_list ..).writesNothing w s _).bind fun _ _ => nofun
  | rooms place query =>
    exact ((client.sends_find ..).writesNothing w s _).bind fun _ _ => nofun
  | room place name query =>
    refine ((client.sends_find ..).writesNothing w s _).bind fun d s₁ => ?_
    refine WritesNothing.bind (writesNothing_ofOption _ _) fun r s₂ => ?_
    exact ((client.sends_list ..).writesNothing w s₂ _).bind fun _ _ => nofun
  | infrastructure a =>
    exact ((client.sends_find ..).writesNothing w s _).bind fun _ _ => nofun
  | equipmentType owner typeId =>
    refine ((client.sends_find ..).writesNothing w s _).bind fun i s₁ => ?_
    exact WritesNothing.bind (writesNothing_ofOption _ _) fun _ _ => nofun
  | draw kind name output => exact absurd rfl (other kind name output)

/-- A diagram that comes of a call is the body of the reply. -/
theorem received_of_ok {kind : DiagramSubject} {name : String} {d : Diagram} {s' : σ}
    (ended : runIn w (client.diagram kind name) s = (.ok d, s')) :
    client.base.isWeb = true ∧ (w.follow s (drawRequest client kind name)).1.Holds d.bytes := by
  by_cases web : client.base.isWeb = true
  · rw [Client.diagram_eq web, runIn_judged] at ended
    obtain ⟨r, some, success, body, -⟩ :=
      (Client.judgeDiagram_drawn.drawn d).mp (congrArg Prod.fst ended)
    exact ⟨web, r, some, success, body⟩
  · exact absurd ((client.sends_diagram kind name).of_ok w s ended).1 web

/-- A file is written after the whole body of a success has come, and it is written with that body. -/
theorem written_of_mem {command : Command} {path : String} {bytes : Bytes}
    (mem : .wrote path bytes ∈ eventsIn w (command.execute client) s) :
    ∃ kind name reply, command = .draw kind name (some path) ∧ reply.Holds bytes ∧
      eventsIn w (command.execute client) s =
        [.asked (drawRequest client kind name) reply, .wrote path bytes] := by
  by_cases other : ∀ kind name output, command ≠ .draw kind name output
  · exact absurd mem (writesNothing_execute client w s other path bytes)
  push Not at other
  obtain ⟨kind, name, output, rfl⟩ := other
  have sends := client.sends_diagram kind name
  have fetched := sends.writesNothing w s ("Failed to draw " ++ name)
  rw [execute] at mem ⊢
  rcases runIn_cases w ((client.diagram kind name).within ("Failed to draw " ++ name)) s
    with ⟨e, s', ended⟩ | ⟨d, s', ended⟩
  · rw [eventsIn_bind_of_error ended] at mem
    exact absurd mem (fetched path bytes)
  · obtain ⟨web, holds⟩ := received_of_ok client w s (runIn_within_eq_ok_iff.mp ended)
    rw [eventsIn_bind_of_ok ended, within, eventsIn_mapError, sends.eventsIn_eq w s, if_pos web]
      at mem ⊢
    cases output with
    | none => simp at mem
    | some path' =>
      rw [eventsIn_bind_pure, eventsIn_save] at mem ⊢
      obtain ⟨rfl, rfl⟩ : path = path' ∧ bytes = d.bytes := by simpa using mem
      exact ⟨kind, name, _, rfl, holds, rfl⟩

theorem clean (command : Command) : command.Clean client w s where
  toFollows := follows_plan client w s command
  fails := fails_iff_unmet client w s command
  silent _ := silent_of_error client w s
  spelled := Session.spelled_events w _ s
  direct := (Session.spelled_events w _ s).eq_of_direct
  written path bytes mem := by
    have spelled : Session.Spelled (eventsIn w (command.execute client) s)
        (wireIn w (command.execute client) s) := Session.spelled_events w _ s
    obtain ⟨kind, name, reply, drawn, holds, own⟩ :=
      written_of_mem client w s (spelled.wrote_mem_iff.mp mem)
    rw [own] at spelled
    obtain ⟨steps, chain, sent⟩ := spelled.eq_append
    exact ⟨kind, name, reply, steps, drawn, holds, chain, sent⟩
  kept _ keeps := Session.files_of_unwritten keeps _ s

/-- Without the diagram, nothing is written. -/
theorem writesNothing_draw {kind : DiagramSubject} {name : String} {output : Option String}
    (failed : (client.diagram kind name).FailsIn w s) :
    (execute client (.draw kind name output)).WritesNothing w s := by
  obtain ⟨e, ended⟩ := failsIn_within_iff.mpr failed
  intro path bytes
  rw [execute, eventsIn_bind_of_error (Prod.ext ended rfl)]
  exact (client.sends_diagram kind name).writesNothing w s _ path bytes

/-- The infrastructures are asked for after a datacenter with the room has come. -/
theorem asks_room_iff {place name : String} {query : Option String} :
    (execute client (.room place name query)).asksIn w s = plan client (.room place name query) ↔
      ∃ d, (runIn w (client.datacenter place) s).1 = .ok d ∧ ∃ r ∈ d.rooms, r.name = name := by
  have first := (client.sends_find "datacenters" "datacenter" Datacenter.shape (·.name) place).follows
    w s ("Failed to fetch datacenter " ++ place)
  rw [execute, plan]
  rcases runIn_cases w
    ((client.datacenter place).within ("Failed to fetch datacenter " ++ place)) s
    with ⟨e, s', ended⟩ | ⟨d, s', ended⟩
  · rw [asksIn_bind_of_error ended]
    refine iff_of_false (fun all => ?_) ?_
    · have short := first.ordered.length_le
      rw [← Client.datacenter, all] at short
      exact Nat.not_succ_le_self 1 short
    · rintro ⟨d, eq, -⟩
      obtain ⟨e', failed⟩ := failsIn_within_iff.mp ⟨e, congrArg Prod.fst ended⟩
      cases failed.symm.trans eq
  · have fetched := runIn_within_eq_ok_iff.mp ended
    have asked := first.whole d (congrArg Prod.fst ended)
    rw [← Client.datacenter] at asked
    have web := ((client.sends_find ..).of_ok w s fetched).1
    rw [asksIn_bind_of_ok ended, asked, fetched, List.singleton_append, List.cons_inj_right]
    simp only [Except.ok.injEq, exists_eq_left']
    cases found : d.rooms.find? (·.name = name) with
    | none =>
      refine iff_of_false (fun none => ?_) ?_
      · cases none
      · simpa using found
    | some r =>
      have room := List.find?_some found
      refine iff_of_true ?_ ⟨r, List.mem_of_find?_eq_some found, of_decide_eq_true room⟩
      rw [asksIn_bind_of_ok rfl, asksIn_ofOption, List.nil_append, asksIn, eventsIn_bind_pure, within,
        eventsIn_mapError, Client.infrastructures, (client.sends_list ..).eventsIn_eq, if_pos web]
      rfl

end

/-- Whatever the server replies, a command asks for a front of its plan, and for all of it when it
succeeds. On the wire there are besides only the requests that redirections lead to, and without these
there are no others; a server that plays back replies receives what is on the wire. A command fails
exactly when something that it needs cannot be had, and then shows nothing. The second request of a room
is made exactly when the first one has brought a datacenter with the name, and the first such datacenter
has a room with the name. A file is written after the whole body of a successful reply has come, and with
that body; it is left alone when the diagram cannot be had. -/
theorem asks_only_what_is_needed (client : Client) (w : World σ) (s : σ) :
    (∀ command : Command, command.Clean client w s) ∧
    (∀ (command : Command) (p : Playback),
      p.Hears (runIn Playback.world (command.execute client) p).2
        (wireIn Playback.world (command.execute client) p)) ∧
    (∀ place name query, (execute client (.room place name query)).asksIn w s =
        plan client (.room place name query) ↔
      ∃ bytes front d back,
        (Client.reply w s .get (client.collectionUrl "datacenters" (some place))).Holds bytes ∧
        Datacenter.shape.IsListText bytes (front ++ d :: back) ∧
        d.name = place ∧ (∀ b ∈ front, b.name ≠ place) ∧ ∃ r ∈ d.rooms, r.name = name) ∧
    ∀ kind name output, (client.diagram kind name).FailsIn w s →
      (execute client (.draw kind name output)).WritesNothing w s ∧
      ∀ files : σ → Files, w.KeepsFiles files →
        files (runIn w (execute client (.draw kind name output)) s).2 = files s := by
  refine ⟨clean client w s, fun command => Playback.hears_run _, fun place name query => ?_,
    fun kind name output failed => ?_⟩
  · have isRecord : Datacenter.shape.IsRecord := trivial
    have reply : Named _ "datacenters" "datacenter" Datacenter.shape (·.name) place
        (runIn w (client.datacenter place) s).1 := client.runIn_find w s isRecord (by decide) place
    simp only [asks_room_iff, reply.named]
    constructor
    · rintro ⟨d, ⟨bytes, front, back, holds, text, named, others⟩, room⟩
      exact ⟨bytes, front, d, back, holds, text, named, others, room⟩
    · rintro ⟨bytes, front, d, back, holds, text, named, others, room⟩
      exact ⟨d, ⟨bytes, front, back, holds, text, named, others⟩, room⟩
  · have unwritten : (execute client (.draw kind name output)).WritesNothing w s :=
      writesNothing_draw client w s failed
    exact ⟨unwritten, fun _ keeps => Session.files_of_unwritten keeps _ s unwritten⟩

namespace Moved

def playback : Playback :=
  ⟨['h'], [some { status := 302, mediaType := none, body := some [], location := some "/moved" },
    some { status := 200, mediaType := none, body := some (Utf8.ofString "[]") }], [], []⟩

/-- What is received is no front of the plan, and the command succeeds after a response that announces
no success. -/
theorem moved_list_received :
    ((runIn Playback.world (execute Sample.client .datacenters) playback).2.received.map fun r =>
      (r.method, r.url.target)) = [(.get, "/datacenters"), (.get, "/moved")] ∧
    ¬ (runIn Playback.world (execute Sample.client .datacenters) playback).2.received <+:
      plan Sample.client .datacenters ∧
    (runIn Playback.world (execute Sample.client .datacenters) playback).1 =
      .ok (Page.ofDatacenters []) :=
  ⟨by decide +kernel, by decide +kernel, rfl⟩

end Moved

end Command

end RackInventory
