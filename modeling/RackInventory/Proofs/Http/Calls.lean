import RackInventory.Proofs.Files.Writing
import RackInventory.Proofs.Text.Utf8
import RackInventory.Http.Session

/-!
# Calls in a world

A call ends with a result or an error, and leaves the state of the world changed. A course of calls
goes on only after a result: the error of one of them is the error of the whole, and what would have
come after it leaves the state as it is. The errors of a call seen from outside change nothing else.

A world can keep its files in a tree. What it does about requests is left open.
-/

namespace RackInventory

variable {ε ε' α β σ : Type}

namespace World

variable (w : World σ) (s : σ) (r : Request)

theorem followWithin_zero : w.followWithin 0 s r =
    match r.after (w.serve s r).1 with
    | .ends last => (last, (w.serve s r).2)
    | .leads _ => (none, (w.serve s r).2) := by
  change StateT.run (match r.after (w.serve s r).1 with
    | .ends last => (pure last : StateM σ Reply)
    | .leads _ => pure none) (w.serve s r).2 = _
  cases r.after (w.serve s r).1 <;> rfl

theorem followWithin_succ (hops : Nat) : w.followWithin (hops + 1) s r =
    match r.after (w.serve s r).1 with
    | .ends last => (last, (w.serve s r).2)
    | .leads next => w.followWithin hops (w.serve s r).2 next := by
  change StateT.run (match r.after (w.serve s r).1 with
    | .ends last => (pure last : StateM σ Reply)
    | .leads next => next.followed (fun r s => w.serve s r) hops) (w.serve s r).2 = _
  cases r.after (w.serve s r).1 <;> rfl

variable {w s r} {response : Response} {s' : σ}

/-- A response that announces no other place is what comes of the request. -/
theorem follow_of_stays (served : w.serve s r = (some response, s'))
    (stays : Response.redirects response.status = false) :
    w.follow s r = (some response, s') := by
  rw [follow, Request.hopLimit, followWithin_succ, served]
  dsimp only
  rw [Request.after_of_stays r stays]

end World

namespace Call

/-- What comes of a call in a world, and the state after it. -/
def runIn (w : World σ) (c : Call ε α) (s : σ) : Except ε α × σ := Session.run w c.run s

variable (w : World σ) (s : σ)

@[simp] theorem runIn_pure (a : α) : runIn w (pure a : Call ε α) s = (.ok a, s) := rfl

@[simp] theorem runIn_judged (r : Request) (judge : Reply → Except ε α) :
    runIn w (judged r judge) s = (judge (w.follow s r).1, (w.follow s r).2) := rfl

@[simp] theorem runIn_save (path : String) (bytes : Bytes) (failed : FileError → ε) :
    runIn w (save path bytes failed) s =
      ((w.store s path bytes).1.mapError failed, (w.store s path bytes).2) := rfl

@[simp] theorem runIn_mapError (f : ε → ε') (c : Call ε α) :
    runIn w (c.mapError f) s = ((runIn w c s).1.mapError f, (runIn w c s).2) :=
  Session.run_bind ..

variable {w s} {s' : σ} {c : Call ε α}

theorem runIn_bind (f : α → Call ε β) :
    runIn w (c >>= f) s = Session.run w (ExceptT.bindCont f (runIn w c s).1) (runIn w c s).2 :=
  Session.run_bind ..

/-- After a result, the course goes on. -/
theorem runIn_bind_of_ok {a : α} (ended : runIn w c s = (.ok a, s')) (f : α → Call ε β) :
    runIn w (c >>= f) s = runIn w (f a) s' := by
  rw [runIn_bind, ended]
  rfl

/-- After an error, nothing else happens. -/
theorem runIn_bind_of_error {e : ε} (ended : runIn w c s = (.error e, s')) (f : α → Call ε β) :
    runIn w (c >>= f) s = (.error e, s') := by
  rw [runIn_bind, ended]
  rfl

end Call

/-- The files of a world are a tree: what can be written is written there, and a request or a file
that cannot be written leaves it as it is. -/
structure World.KeepsFiles (w : World σ) (files : σ → Files) : Prop where
  served : ∀ s r, files (w.serve s r).2 = files s
  stored : ∀ s path bytes tree, (files s).write path bytes = .ok tree →
    (w.store s path bytes).1 = .ok () ∧ files (w.store s path bytes).2 = tree
  refused : ∀ s path bytes e, (files s).write path bytes = .error e →
    (w.store s path bytes).1 = .error e ∧ files (w.store s path bytes).2 = files s

theorem World.KeepsFiles.followed {w : World σ} {files : σ → Files} (keeps : w.KeepsFiles files)
    (s : σ) (r : Request) : files (w.follow s r).2 = files s := by
  have within (hops : Nat) : files (w.followWithin hops s r).2 = files s := by
    induction hops generalizing s r with
    | zero =>
      rw [w.followWithin_zero]
      split <;> exact keeps.served s r
    | succ hops ih =>
      rw [w.followWithin_succ]
      split
      · exact keeps.served s r
      · exact (ih _ _).trans (keeps.served s r)
  exact within Request.hopLimit

theorem Playback.keepsFiles : Playback.world.KeepsFiles Playback.files where
  served p r := by
    change (serve p r).2.files = p.files
    unfold serve
    split <;> rfl
  stored p path bytes tree written := by
    change (store p path bytes).1 = .ok () ∧ (store p path bytes).2.files = tree
    rw [store, written]
    exact ⟨rfl, rfl⟩
  refused p path bytes e failed := by
    change (store p path bytes).1 = .error e ∧ (store p path bytes).2.files = p.files
    rw [store, failed]
    exact ⟨rfl, rfl⟩

end RackInventory
