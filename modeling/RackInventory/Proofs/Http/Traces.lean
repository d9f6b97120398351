import RackInventory.Proofs.Http.Calls

/-!
# What a call does on the way

What a session asks for and what it writes, in order, each request with what came of it. A course of
calls does what the first one does, and after a result what the next one does; after an error it does no
more. Files that are not written stay as they are.

On the wire, a request is followed by those that its redirections lead to, each with its own reply.
-/

namespace RackInventory

/-- A step of a session that is seen from outside. -/
inductive Session.Event where
  | asked (r : Request) (reply : Reply)
  | wrote (path : String) (bytes : Bytes)

def Session.Event.request? : Session.Event → Option Request
  | .asked r _ => some r
  | .wrote _ _ => none

variable {ε ε' α β σ : Type}

namespace Session

/-- The steps of a session in a world, redirections left out. -/
def events (w : World σ) : Session α → σ → List Event
  | .result _, _ => []
  | .ask r next, s =>
    .asked r (w.follow s r).1 :: (next (w.follow s r).1).events w (w.follow s r).2
  | .save path bytes next, s =>
    .wrote path bytes :: (next (w.store s path bytes).1).events w (w.store s path bytes).2

theorem events_bind (w : World σ) (p : Session α) (f : α → Session β) (s : σ) :
    (p.bind f).events w s = p.events w s ++ (f (p.run w s).1).events w (p.run w s).2 := by
  induction p generalizing s with
  | result a => rfl
  | ask r next ih => exact congrArg (_ :: ·) (ih ..)
  | save path bytes next ih => exact congrArg (_ :: ·) (ih ..)

/-- A session that writes nothing leaves the files as they are. -/
theorem files_of_unwritten {w : World σ} {files : σ → Files} (keeps : w.KeepsFiles files)
    (p : Session α) (s : σ) (unwritten : ∀ path bytes, .wrote path bytes ∉ p.events w s) :
    files (p.run w s).2 = files s := by
  induction p generalizing s with
  | result a => rfl
  | ask r next ih =>
    have later := ih _ (w.follow s r).2 fun path bytes mem =>
      unwritten path bytes (List.mem_cons_of_mem _ mem)
    exact later.trans (keeps.followed s r)
  | save path bytes next ih => exact absurd List.mem_cons_self (unwritten path bytes)

end Session

/-- The exchanges that a request takes when some of its redirections are followed. -/
def World.exchanges (w : World σ) : (hops : Nat) → σ → Request → List Session.Event
  | 0, s, r => [.asked r (w.serve s r).1]
  | hops + 1, s, r =>
    .asked r (w.serve s r).1 ::
      match r.after (w.serve s r).1 with
      | .ends _ => []
      | .leads next => w.exchanges hops (w.serve s r).2 next

namespace Session

/-- The steps of a session on the wire. -/
def wire (w : World σ) : Session α → σ → List Event
  | .result _, _ => []
  | .ask r next, s =>
    w.exchanges Request.hopLimit s r ++ (next (w.follow s r).1).wire w (w.follow s r).2
  | .save path bytes next, s =>
    .wrote path bytes :: (next (w.store s path bytes).1).wire w (w.store s path bytes).2

/-- Exchanges that begin with a request, each of which leads to the next one, and what comes of them. -/
inductive Chain : (hops : Nat) → Request → List Event → Reply → Prop where
  | ends {hops : Nat} {r : Request} {reply last : Reply} :
    r.after reply = .ends last → Chain hops r [.asked r reply] last
  | exhausted {r next : Request} {reply : Reply} :
    r.after reply = .leads next → Chain 0 r [.asked r reply] none
  | leads {hops : Nat} {r next : Request} {reply last : Reply} {steps : List Event} :
    r.after reply = .leads next → Chain hops next steps last →
    Chain (hops + 1) r (.asked r reply :: steps) last

/-- Steps, and the same on the wire, where a chain stands for each request. -/
inductive Spelled : List Event → List Event → Prop where
  | nil : Spelled [] []
  | asked {r : Request} {reply : Reply} {steps own sent : List Event} :
    Chain Request.hopLimit r steps reply → Spelled own sent →
    Spelled (.asked r reply :: own) (steps ++ sent)
  | wrote {path : String} {bytes : Bytes} {own sent : List Event} :
    Spelled own sent → Spelled (.wrote path bytes :: own) (.wrote path bytes :: sent)

theorem chain_exchanges (w : World σ) (hops : Nat) (s : σ) (r : Request) :
    Chain hops r (w.exchanges hops s r) (w.followWithin hops s r).1 := by
  induction hops generalizing s r with
  | zero =>
    rw [w.followWithin_zero]
    cases turn : r.after (w.serve s r).1 with
    | ends last => exact .ends turn
    | leads next => exact .exhausted turn
  | succ hops ih =>
    rw [w.followWithin_succ, World.exchanges]
    cases turn : r.after (w.serve s r).1 with
    | ends last => exact .ends turn
    | leads next => exact .leads turn (ih _ next)

theorem spelled_events (w : World σ) (p : Session α) (s : σ) : Spelled (p.events w s) (p.wire w s) := by
  induction p generalizing s with
  | result a => exact .nil
  | ask r next ih => exact .asked (chain_exchanges w _ s r) (ih ..)
  | save path bytes next ih => exact .wrote (ih ..)

variable {steps own sent : List Event}

/-- A reply that leads nowhere else is what comes of its request. -/
theorem Chain.eq_of_direct {hops : Nat} {r : Request} {last : Reply} (chain : Chain hops r steps last)
    (direct : ∀ r reply, .asked r reply ∈ steps → r.after reply = .ends reply) :
    steps = [.asked r last] := by
  cases chain with
  | ends turn =>
    cases turn.symm.trans (direct _ _ List.mem_cons_self)
    rfl
  | exhausted turn => cases turn.symm.trans (direct _ _ List.mem_cons_self)
  | leads turn _ => cases turn.symm.trans (direct _ _ List.mem_cons_self)

/-- Without redirections, there is nothing else on the wire. -/
theorem Spelled.eq_of_direct (spelled : Spelled own sent)
    (direct : ∀ r reply, .asked r reply ∈ sent → r.after reply = .ends reply) : sent = own := by
  induction spelled with
  | nil => rfl
  | asked chain _ ih =>
    rw [chain.eq_of_direct fun r reply mem => direct r reply (List.mem_append_left _ mem),
      ih fun r reply mem => direct r reply (List.mem_append_right _ mem)]
    rfl
  | wrote _ ih => rw [ih fun r reply mem => direct r reply (List.mem_cons_of_mem _ mem)]

theorem Chain.not_wrote {hops : Nat} {r : Request} {last : Reply} (chain : Chain hops r steps last)
    (path : String) (bytes : Bytes) : .wrote path bytes ∉ steps := by
  induction chain with
  | ends _ => simp
  | exhausted _ => simp
  | leads _ _ ih => simpa using ih

/-- Redirections write nothing. -/
theorem Spelled.wrote_mem_iff (spelled : Spelled own sent) {path : String} {bytes : Bytes} :
    .wrote path bytes ∈ sent ↔ .wrote path bytes ∈ own := by
  induction spelled with
  | nil => rfl
  | asked chain _ ih => simp [chain.not_wrote, ih]
  | wrote _ ih => simp [ih]

/-- What is spelled of a request and a file. -/
theorem Spelled.eq_append {r : Request} {reply : Reply} {path : String} {bytes : Bytes}
    (spelled : Spelled [.asked r reply, .wrote path bytes] sent) :
    ∃ steps, Chain Request.hopLimit r steps reply ∧ sent = steps ++ [.wrote path bytes] := by
  cases spelled with
  | asked chain rest =>
    cases rest with
    | wrote rest =>
      cases rest
      exact ⟨_, chain, rfl⟩

end Session

namespace Playback

open Session (Event)

/-- Whether a server has received just those requests of some steps that reach it. -/
structure Hears (before after : Playback) (steps : List Event) : Prop where
  host : after.host = before.host
  received : after.received =
    before.received ++ (steps.filterMap Event.request?).filter (·.reaches before.host)

variable {p q t : Playback} {steps more : List Event}

theorem Hears.append (first : p.Hears q steps) (second : q.Hears t more) :
    p.Hears t (steps ++ more) where
  host := second.host.trans first.host
  received := by
    rw [second.received, first.received, first.host, List.filterMap_append, List.filter_append,
      List.append_assoc]

theorem hears_serve (p : Playback) (r : Request) (reply : Reply) :
    p.Hears (world.serve p r).2 [.asked r reply] := by
  change p.Hears (serve p r).2 _
  unfold serve
  split
  · next reached => exact ⟨rfl, by simp [Event.request?, reached]⟩
  · next missed => exact ⟨rfl, by simp [Event.request?, missed]⟩

theorem hears_store (p : Playback) (path : String) (bytes : Bytes) :
    p.Hears (world.store p path bytes).2 [.wrote path bytes] := by
  change p.Hears (store p path bytes).2 _
  unfold store
  split <;> exact ⟨rfl, by simp [Event.request?]⟩

theorem hears_followWithin (hops : Nat) (p : Playback) (r : Request) :
    p.Hears (world.followWithin hops p r).2 (world.exchanges hops p r) := by
  induction hops generalizing p r with
  | zero =>
    rw [world.followWithin_zero]
    split <;> exact hears_serve ..
  | succ hops ih =>
    rw [world.followWithin_succ, World.exchanges]
    cases r.after (world.serve p r).1 with
    | ends last => exact hears_serve ..
    | leads next => exact (hears_serve p r _).append (ih _ next)

/-- What is on the wire is what the server receives. -/
theorem hears_run {α : Type} (session : Session α) (p : Playback) :
    p.Hears (session.run world p).2 (session.wire world p) := by
  induction session generalizing p with
  | result a => exact ⟨rfl, by simp [Session.wire, Session.run]⟩
  | ask r next ih => exact (hears_followWithin _ p r).append (ih ..)
  | save path bytes next ih => exact (hears_store p path bytes).append (ih ..)

end Playback

namespace Call

/-- The steps of a call in a world, redirections left out. -/
def eventsIn (w : World σ) (c : Call ε α) (s : σ) : List Session.Event := Session.events w c.run s

/-- The steps of a call on the wire. -/
def wireIn (w : World σ) (c : Call ε α) (s : σ) : List Session.Event := Session.wire w c.run s

variable (w : World σ) (s : σ)

@[simp] theorem eventsIn_pure (a : α) : eventsIn w (pure a : Call ε α) s = [] := rfl

@[simp] theorem eventsIn_throw (e : ε) : eventsIn w (throw e : Call ε α) s = [] := rfl

@[simp] theorem runIn_throw (e : ε) : runIn w (throw e : Call ε α) s = (.error e, s) := rfl

@[simp] theorem eventsIn_judged (r : Request) (judge : Reply → Except ε α) :
    eventsIn w (judged r judge) s = [.asked r (w.follow s r).1] := rfl

@[simp] theorem eventsIn_save (path : String) (bytes : Bytes) (failed : FileError → ε) :
    eventsIn w (save path bytes failed) s = [.wrote path bytes] := rfl

@[simp] theorem eventsIn_mapError (f : ε → ε') (c : Call ε α) :
    eventsIn w (c.mapError f) s = eventsIn w c s :=
  (Session.events_bind ..).trans (List.append_nil _)

variable {w s} {s' : σ} {c : Call ε α}

theorem eventsIn_bind (f : α → Call ε β) :
    eventsIn w (c >>= f) s =
      eventsIn w c s ++ Session.events w (ExceptT.bindCont f (runIn w c s).1) (runIn w c s).2 :=
  Session.events_bind ..

theorem eventsIn_bind_of_ok {a : α} (ended : runIn w c s = (.ok a, s')) (f : α → Call ε β) :
    eventsIn w (c >>= f) s = eventsIn w c s ++ eventsIn w (f a) s' := by
  rw [eventsIn_bind, ended]
  rfl

theorem eventsIn_bind_of_error {e : ε} (ended : runIn w c s = (.error e, s')) (f : α → Call ε β) :
    eventsIn w (c >>= f) s = eventsIn w c s := by
  rw [eventsIn_bind, ended]
  exact List.append_nil _

/-- A call ends with an error or with a result. -/
theorem runIn_cases (w : World σ) (c : Call ε α) (s : σ) :
    (∃ e s', runIn w c s = (.error e, s')) ∨ ∃ a s', runIn w c s = (.ok a, s') := by
  rcases runIn w c s with ⟨e | a, s'⟩
  · exact .inl ⟨e, s', rfl⟩
  · exact .inr ⟨a, s', rfl⟩

/-- What is made of a result has no steps. -/
theorem eventsIn_bind_pure (g : α → β) : eventsIn w (c >>= fun a => pure (g a)) s = eventsIn w c s := by
  rcases runIn_cases w c s with ⟨e, s', ended⟩ | ⟨a, s', ended⟩
  · exact eventsIn_bind_of_error ended _
  · rw [eventsIn_bind_of_ok ended, eventsIn_pure, List.append_nil]

end Call

end RackInventory
