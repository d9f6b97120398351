import RackInventory.Files
import RackInventory.Http.Redirection

/-!
# Sessions

A session is a finite course of requests and written files that ends with a result; what it does
next depends on the replies. It is data: the same session runs against a server that plays back
replies, against a simulated server, and against a real one. A world says what one exchange and a
written file do to its state. What a session asks for can take several exchanges, as redirections are
followed; the session sees only what comes of them.
-/

namespace RackInventory

inductive Session (α : Type) : Type where
  | result (a : α)
  | ask (r : Request) (next : Reply → Session α)
  | save (path : String) (bytes : Bytes) (next : Except FileError Unit → Session α)

namespace Session

variable {α β : Type}

def bind : Session α → (α → Session β) → Session β
  | .result a, f => f a
  | .ask r next, f => .ask r fun reply => (next reply).bind f
  | .save path bytes next, f => .save path bytes fun e => (next e).bind f

instance : Monad Session where
  pure := .result
  bind := bind

end Session

/-- What exchanges and written files do. -/
structure World (σ : Type) where
  serve : σ → Request → Reply × σ
  store : σ → String → Bytes → Except FileError Unit × σ

namespace World

variable {σ : Type}

/-- What comes of a request when some of its redirections are followed, and the state after it. -/
def followWithin (w : World σ) (hops : Nat) (s : σ) (r : Request) : Reply × σ :=
  (r.followed (m := StateM σ) (fun r s => w.serve s r) hops).run s

def follow (w : World σ) (s : σ) (r : Request) : Reply × σ := w.followWithin Request.hopLimit s r

end World

namespace Session

variable {α β σ : Type}

/-- The result of a session in a world, and the state after it. -/
def run (w : World σ) : Session α → σ → α × σ
  | .result a, s => (a, s)
  | .ask r next, s => (next (w.follow s r).1).run w (w.follow s r).2
  | .save path bytes next, s => (next (w.store s path bytes).1).run w (w.store s path bytes).2

theorem run_bind (w : World σ) (p : Session α) (f : α → Session β) (s : σ) :
    (p.bind f).run w s = (f (p.run w s).1).run w (p.run w s).2 := by
  induction p generalizing s with
  | result a => rfl
  | ask r next ih => exact ih ..
  | save path bytes next ih => exact ih ..

end Session

abbrev Call (ε α : Type) := ExceptT ε Session α

namespace Call

variable {ε α : Type}

/-- Sends a request; the reply that comes of it decides. -/
def judged (r : Request) (judge : Reply → Except ε α) : Call ε α :=
  .mk (.ask r fun reply => .result (judge reply))

def save (path : String) (bytes : Bytes) (failed : FileError → ε) : Call ε Unit :=
  .mk (.save path bytes fun e => .result (e.mapError failed))

def mapError {ε' : Type} (f : ε → ε') (c : Call ε α) : Call ε' α :=
  .mk (c.run.bind fun e => .result (e.mapError f))

end Call

/-- A server that plays back replies, the requests it has received, and a tree of files. Only the
host of the server answers. -/
structure Playback where
  host : List Char
  replies : List Reply
  received : List Request
  files : Files

namespace Playback

def serve (p : Playback) (r : Request) : Reply × Playback :=
  if r.reaches p.host then
    (p.replies.head?.getD (some (.ofStatus 404)),
      { p with replies := p.replies.tail, received := p.received ++ [r] })
  else (none, p)

def store (p : Playback) (path : String) (bytes : Bytes) : Except FileError Unit × Playback :=
  match p.files.write path bytes with
  | .ok files => (.ok (), { p with files })
  | .error e => (.error e, p)

def world : World Playback := ⟨serve, store⟩

end Playback

end RackInventory
