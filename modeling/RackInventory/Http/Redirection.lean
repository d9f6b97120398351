import RackInventory.Http.Basic
import RackInventory.Url.Reference

/-!
# Redirections

Some responses say that what was asked for is elsewhere. The request is then made again, where the
location says, and only the last reply counts. A location that is no reference, or that no request can
be written with, says nothing: the response stands. Where nothing can be asked, the exchange has
failed, and so it has after too many redirections.
-/

namespace RackInventory

namespace Response

def redirects (status : Nat) : Bool := [301, 302, 303, 307, 308].contains status

theorem redirects_of_success {status : Nat} (success : isSuccess status = true) :
    redirects status = false := by
  rw [isSuccess, Bool.and_eq_true, decide_eq_true_iff, decide_eq_true_iff] at success
  simp [redirects]
  omega

/-- Whether a request is made again as it was, and not as one that reads. -/
def keepsMethod (status : Nat) : Bool := [307, 308].contains status

/-- Where a response says that what was asked for at an address is. -/
def destination? (asked : Url) (r : Response) : Option Reference := do
  guard (redirects r.status)
  let location ← r.location
  let _ ← Reference.ofText? { asked with fragment := none }.chars
  let reference ← Reference.ofText? location.toList
  guard reference.isWritable
  return reference

end Response

/-- What a reply is for its request: the last word, or a reason to make another request. -/
inductive Turn where
  | ends (last : Reply)
  | leads (next : Request)

namespace Request

def again (r : Request) (status : Nat) (url : Url) : Request :=
  { r with method := if Response.keepsMethod status then r.method else .get, url }

def after (r : Request) (reply : Reply) : Turn :=
  match reply.bind fun response => (response.destination? r.url).map (response.status, ·) with
  | none => .ends reply
  | some (status, reference) =>
    match reference.resolve? r.url with
    | some url => if url.isWeb then .leads (r.again status url) else .ends none
    | none => .ends none

/-- Only some statuses announce another place. -/
theorem after_of_stays (r : Request) {response : Response}
    (stays : Response.redirects response.status = false) :
    r.after (some response) = .ends (some response) := by
  have nowhere : response.destination? r.url = none := by
    rw [Response.destination?, stays]
    rfl
  rw [after, Option.bind_some, nowhere]
  rfl

/-- Asks, and goes on asking where the replies lead, some number of times at most. -/
def followed {m : Type → Type} [Monad m] (ask : Request → m Reply) : (hops : Nat) → Request → m Reply
  | 0, r => do
    match r.after (← ask r) with
    | .ends last => return last
    | .leads _ => return none
  | hops + 1, r => do
    match r.after (← ask r) with
    | .ends last => return last
    | .leads next => followed ask hops next

/-- How often the client goes on asking. -/
def hopLimit : Nat := 10

end Request

end RackInventory
