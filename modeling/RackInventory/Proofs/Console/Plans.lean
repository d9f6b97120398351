import RackInventory.Console.Execution
import RackInventory.Proofs.Client.Outcomes
import RackInventory.Proofs.Http.Traces

/-!
# Courses of calls with a plan

A call with a plan asks for a front of the plan, in order, and for all of it when it succeeds. A course
of such calls has the plans one after the other. It fails when one of its calls fails, and it leaves the
files alone when all of them do.
-/

namespace RackInventory

variable {ε α β σ : Type}

open Session (Event)

namespace Call

def FailsIn (w : World σ) (c : Call ε α) (s : σ) : Prop := ∃ e, (runIn w c s).1 = .error e

def asksIn (w : World σ) (c : Call ε α) (s : σ) : List Request :=
  (eventsIn w c s).filterMap Event.request?

/-- A call with a plan: what it asks for is a front of the plan, and all of it when the call succeeds.
Without the whole body of a success to each of its requests, it fails. -/
structure Follows (w : World σ) (plan : List Request) (c : Call ε α) (s : σ) : Prop where
  ordered : c.asksIn w s <+: plan
  whole : ∀ a, (runIn w c s).1 = .ok a → c.asksIn w s = plan
  unanswered : ∀ r reply, .asked r reply ∈ eventsIn w c s → (∀ bytes, ¬ reply.Holds bytes) →
    c.FailsIn w s

def WritesNothing (w : World σ) (c : Call ε α) (s : σ) : Prop :=
  ∀ path bytes, .wrote path bytes ∉ eventsIn w c s

section

variable {w : World σ} {s : σ} {c : Call ε α} {f : α → Call ε β} {plan later : List Request}

theorem not_failsIn_pure {a : α} : ¬ (pure a : Call ε α).FailsIn w s := nofun

theorem failsIn_bind_iff : (c >>= f).FailsIn w s ↔
    c.FailsIn w s ∨ ∃ a s', runIn w c s = (.ok a, s') ∧ (f a).FailsIn w s' := by
  rcases runIn_cases w c s with ⟨e, s', ended⟩ | ⟨a, s', ended⟩
  · rw [FailsIn, FailsIn, runIn_bind_of_error ended f, ended]
    exact iff_of_true ⟨e, rfl⟩ (.inl ⟨e, rfl⟩)
  · rw [FailsIn, FailsIn, runIn_bind_of_ok ended f, ended]
    constructor
    · intro failed
      exact .inr ⟨a, s', rfl, failed⟩
    · rintro (⟨_, ⟨⟩⟩ | ⟨_, _, ⟨⟩, failed⟩)
      exact failed

theorem failsIn_within_iff {c : Call CallError α} {context : String} :
    (c.within context).FailsIn w s ↔ c.FailsIn w s := by
  rw [FailsIn, FailsIn, within, runIn_mapError]
  exact exists_mapError_eq_error_iff

theorem runIn_within_eq_ok_iff {c : Call CallError α} {context : String} {a : α} {s' : σ} :
    runIn w (c.within context) s = (.ok a, s') ↔ runIn w c s = (.ok a, s') := by
  rw [within, runIn_mapError, Prod.mk.injEq, Prod.ext_iff]
  exact and_congr_left fun _ => mapError_eq_ok_iff

theorem failsIn_save_iff {path : String} {bytes : Bytes} {failed : FileError → ε} :
    (save path bytes failed).FailsIn w s ↔ ∃ e, (w.store s path bytes).1 = .error e := by
  rw [FailsIn, runIn_save]
  exact exists_mapError_eq_error_iff

theorem failsIn_ofOption_bind_iff {a : Option α} {message : String} {f : α → Call Failure β} :
    (ofOption a message >>= f).FailsIn w s ↔ a = none ∨ ∃ b, a = some b ∧ (f b).FailsIn w s := by
  cases a with
  | none => exact iff_of_true ⟨_, rfl⟩ (.inl rfl)
  | some b =>
    constructor
    · intro failed
      exact .inr ⟨b, rfl, failed⟩
    · rintro (⟨⟨⟩⟩ | ⟨_, ⟨⟩, failed⟩)
      exact failed

theorem failsIn_within_bind_iff {c : Call CallError α} {context : String} {f : α → Call Failure β} :
    (c.within context >>= f).FailsIn w s ↔
      c.FailsIn w s ∨ ∃ a s', runIn w c s = (.ok a, s') ∧ (f a).FailsIn w s' := by
  simp only [failsIn_bind_iff, failsIn_within_iff, runIn_within_eq_ok_iff]

/-- What is made of a result does not fail. -/
theorem failsIn_within_map_iff {c : Call CallError α} {context : String} {g : α → β} :
    (c.within context >>= fun a => pure (g a)).FailsIn w s ↔ c.FailsIn w s := by
  rw [failsIn_within_bind_iff]
  exact or_iff_left fun ⟨_, _, _, failed⟩ => not_failsIn_pure failed

theorem asksIn_bind_of_ok {a : α} {s' : σ} (ended : runIn w c s = (.ok a, s')) (f : α → Call ε β) :
    (c >>= f).asksIn w s = c.asksIn w s ++ (f a).asksIn w s' := by
  rw [asksIn, eventsIn_bind_of_ok ended, List.filterMap_append, asksIn, asksIn]

theorem asksIn_bind_of_error {e : ε} {s' : σ} (ended : runIn w c s = (.error e, s'))
    (f : α → Call ε β) : (c >>= f).asksIn w s = c.asksIn w s := by
  rw [asksIn, eventsIn_bind_of_error ended, asksIn]

theorem Follows.of_silent (silent : c.asksIn w s = []) : Follows w [] c s where
  ordered := by rw [silent]
  whole _ _ := silent
  unanswered r reply mem _ := by
    have asked : r ∈ c.asksIn w s := List.mem_filterMap.mpr ⟨_, mem, rfl⟩
    rw [silent] at asked
    exact absurd asked List.not_mem_nil

theorem asksIn_ofOption (a : Option α) (message : String) : (ofOption a message).asksIn w s = [] := by
  cases a <;> rfl

theorem follows_throw {e : ε} : Follows w plan (throw e : Call ε α) s where
  ordered := List.nil_prefix
  whole a done := by
    rw [runIn_throw] at done
    cases done
  unanswered r reply mem _ := by
    rw [eventsIn_throw] at mem
    exact absurd mem List.not_mem_nil

theorem follows_judged {r : Request} {judge : Reply → Except ε α}
    (holds : ∀ reply a, judge reply = .ok a → ∃ bytes, reply.Holds bytes) :
    Follows w [r] (judged r judge) s where
  ordered := List.prefix_rfl
  whole _ _ := rfl
  unanswered r' reply mem none := by
    rw [eventsIn_judged, List.mem_singleton] at mem
    cases mem
    rw [FailsIn, runIn_judged]
    cases outcome : judge (w.follow s r).1 with
    | error e => exact ⟨e, rfl⟩
    | ok a =>
      obtain ⟨bytes, whole⟩ := holds _ a outcome
      exact absurd whole (none bytes)

theorem Follows.within {c : Call CallError α} (follows : Follows w plan c s) (context : String) :
    Follows w plan (c.within context) s := by
  have steps : eventsIn w (c.within context) s = eventsIn w c s := eventsIn_mapError ..
  have asked : (c.within context).asksIn w s = c.asksIn w s := congrArg _ steps
  refine ⟨?_, fun a done => ?_, fun r reply mem none => ?_⟩
  · rw [asked]
    exact follows.ordered
  · have ended : runIn w c s = (.ok a, (runIn w (c.within context) s).2) :=
      runIn_within_eq_ok_iff.mp (Prod.ext done rfl)
    rw [asked]
    exact follows.whole a (congrArg Prod.fst ended)
  · rw [steps] at mem
    exact failsIn_within_iff.mpr (follows.unanswered r reply mem none)

/-- A course follows one plan, and after a result the next one. -/
theorem Follows.bind (first : Follows w plan c s)
    (next : ∀ a s', runIn w c s = (.ok a, s') → Follows w later (f a) s') :
    Follows w (plan ++ later) (c >>= f) s := by
  rcases runIn_cases w c s with ⟨e, s', ended⟩ | ⟨a, s', ended⟩
  · have failed : (c >>= f).FailsIn w s := failsIn_bind_iff.mpr (.inl ⟨e, congrArg Prod.fst ended⟩)
    refine ⟨?_, fun b done => ?_, fun _ _ _ _ => failed⟩
    · rw [asksIn_bind_of_error ended]
      exact first.ordered.trans (List.prefix_append ..)
    · obtain ⟨e', eq⟩ := failed
      cases eq.symm.trans done
  · have rest := next a s' ended
    have asked : c.asksIn w s = plan := first.whole a (congrArg Prod.fst ended)
    have all : (c >>= f).asksIn w s = plan ++ (f a).asksIn w s' := by
      rw [asksIn_bind_of_ok ended, asked]
    refine ⟨?_, fun b done => ?_, fun r reply mem none => ?_⟩
    · rw [all, List.prefix_append_right_inj]
      exact rest.ordered
    · rw [runIn_bind_of_ok ended f] at done
      rw [all, rest.whole b done]
    · rw [failsIn_bind_iff]
      rw [eventsIn_bind_of_ok ended] at mem
      rcases List.mem_append.mp mem with mem | mem
      · exact .inl (first.unanswered r reply mem none)
      · exact .inr ⟨a, s', ended, rest.unanswered r reply mem none⟩

theorem writesNothing_ofOption (a : Option α) (message : String) :
    (ofOption a message).WritesNothing w s := by
  cases a <;> exact nofun

theorem WritesNothing.bind (first : c.WritesNothing w s) (next : ∀ a s', (f a).WritesNothing w s') :
    (c >>= f).WritesNothing w s := by
  intro path bytes mem
  rcases runIn_cases w c s with ⟨e, s', ended⟩ | ⟨a, s', ended⟩
  · rw [eventsIn_bind_of_error ended] at mem
    exact first path bytes mem
  · rw [eventsIn_bind_of_ok ended] at mem
    exact (List.mem_append.mp mem).elim (first path bytes) (next a s' path bytes)

end

end Call

end RackInventory
