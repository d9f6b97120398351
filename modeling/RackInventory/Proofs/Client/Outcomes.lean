import Mathlib.Data.List.Infix
import RackInventory.Client.Basic
import RackInventory.Proofs.Http.Calls
import RackInventory.Proofs.Shape.ListText

/-!
# The reply decides the outcome

A call makes one request, and the reply that comes of it after redirections decides what comes of the
call, in one order: whether the exchange failed, whether the status announces success, whether the body
is the text of a list whose elements can all be read, and whether an element has the name that is asked
for. The conditions exclude each other, so each of them is the exact condition for its outcome.

Which of several faults of a body is reported is not described here.
-/

namespace RackInventory

variable {α β σ : Type}

def Response.Succeeds (r : Response) : Prop := 200 ≤ r.status ∧ r.status ≤ 299

namespace Reply

/-- The exchange failed: there is no response, or one that announces success and is cut. -/
def Lost (reply : Reply) : Prop := reply = none ∨ ∃ r, reply = some r ∧ r.Succeeds ∧ r.body = none

/-- The status does not announce success, whatever the body is. -/
def RefusedWith (reply : Reply) (code : Nat) : Prop :=
  ∃ r, reply = some r ∧ r.status = code ∧ ¬ r.Succeeds

/-- The response announces success and is whole. -/
def Holds (reply : Reply) (bytes : Bytes) : Prop :=
  ∃ r, reply = some r ∧ r.Succeeds ∧ r.body = some bytes

end Reply

/-- An outcome whose failures before the body is looked at are decided by the reply. -/
structure Decided (reply : Reply) (resource : String) (outcome : Except CallError α) : Prop where
  exchange : outcome = .error .exchange ↔ reply.Lost
  status : ∀ resource' code, outcome = .error (.status resource' code) ↔
    resource' = resource ∧ reply.RefusedWith code
  configured : ∀ cause, outcome ≠ .error (.configuration cause)

/-- An outcome whose failure to read the body is decided by the body. -/
structure ReadAsList (reply : Reply) (resource : String) (item : Shape β) (outcome : Except CallError α) :
    Prop extends Decided reply resource outcome where
  decode : ∀ resource', (∃ cause, outcome = .error (.decode resource' cause)) ↔
    resource' = resource ∧ ∃ bytes, reply.Holds bytes ∧ ¬ ∃ all, item.IsListText bytes all

structure Listed (reply : Reply) (resource : String) (item : Shape α)
    (outcome : Except CallError (List α)) : Prop extends ReadAsList reply resource item outcome where
  present : ∀ kind name, outcome ≠ .error (.notFound kind name)
  listed : ∀ all, outcome = .ok all ↔ ∃ bytes, reply.Holds bytes ∧ item.IsListText bytes all

/-- The outcome of a call for the element of a collection with a name. -/
structure Named (reply : Reply) (resource kind : String) (item : Shape α) (nameOf : α → String)
    (name : String) (outcome : Except CallError α) : Prop
    extends ReadAsList reply resource item outcome where
  absent : ∀ kind' name', outcome = .error (.notFound kind' name') ↔ kind' = kind ∧ name' = name ∧
    ∃ bytes all, reply.Holds bytes ∧ item.IsListText bytes all ∧ ∀ a ∈ all, nameOf a ≠ name
  named : ∀ a, outcome = .ok a ↔ ∃ bytes front back, reply.Holds bytes ∧
    item.IsListText bytes (front ++ a :: back) ∧ nameOf a = name ∧ ∀ b ∈ front, nameOf b ≠ name

structure Drawn (reply : Reply) (resource : String) (outcome : Except CallError Diagram) : Prop
    extends Decided reply resource outcome where
  readable : ∀ resource' cause, outcome ≠ .error (.decode resource' cause)
  present : ∀ kind name, outcome ≠ .error (.notFound kind name)
  drawn : ∀ d, outcome = .ok d ↔ ∃ r, reply = some r ∧ r.Succeeds ∧ r.body = some d.bytes ∧
    d.mediaType = Client.mediaTypeOf r

namespace Client

section Body

variable {resource : String} {reply : Reply} {r : Response} {bytes : Bytes}

theorem isSuccess_iff : Response.isSuccess r.status = true ↔ r.Succeeds := by
  rw [Response.isSuccess, Bool.and_eq_true, decide_eq_true_iff, decide_eq_true_iff, Nat.lt_succ_iff]
  rfl

theorem bodyOf_of_body (resource : String) (success : Response.isSuccess r.status = true)
    (body : r.body = some bytes) : bodyOf resource (some r) = .ok (r, bytes) := by
  have accepted : accepted resource (some r) = .ok r := if_pos success
  rw [bodyOf, accepted]
  dsimp only [bind, Except.bind]
  rw [body]

theorem bodyOf_of_lost (lost : reply.Lost) : bodyOf resource reply = .error .exchange := by
  obtain rfl | ⟨r, rfl, success, body⟩ := lost
  · rfl
  · have accepted : accepted resource (some r) = .ok r := if_pos (isSuccess_iff.mpr success)
    rw [bodyOf, accepted]
    dsimp only [bind, Except.bind]
    rw [body]

theorem bodyOf_of_refused {code : Nat} (refused : reply.RefusedWith code) :
    bodyOf resource reply = .error (.status resource code) := by
  obtain ⟨r, rfl, rfl, failure⟩ := refused
  have accepted : accepted resource (some r) = .error (.status resource r.status) :=
    if_neg (mt isSuccess_iff.mp failure)
  rw [bodyOf, accepted]
  rfl

/-- Every reply is of one of three kinds. -/
theorem reply_cases (reply : Reply) : reply.Lost ∨ (∃ code, reply.RefusedWith code) ∨
    ∃ r bytes, reply = some r ∧ r.Succeeds ∧ r.body = some bytes := by
  cases reply with
  | none => exact .inl (.inl rfl)
  | some r =>
    by_cases success : r.Succeeds
    · cases body : r.body with
      | none => exact .inl (.inr ⟨r, rfl, success, body⟩)
      | some bytes => exact .inr (.inr ⟨r, bytes, rfl, success, body⟩)
    · exact .inr (.inl ⟨r.status, r, rfl, rfl, success⟩)

theorem bodyOf_eq_ok_iff :
    bodyOf resource reply = .ok (r, bytes) ↔ reply = some r ∧ r.Succeeds ∧ r.body = some bytes := by
  constructor
  · intro eq
    rcases reply_cases reply with lost | ⟨code, refused⟩ | ⟨r', bytes', rfl, success, body⟩
    · cases (bodyOf_of_lost lost).symm.trans eq
    · cases (bodyOf_of_refused refused).symm.trans eq
    · cases (bodyOf_of_body resource (isSuccess_iff.mpr success) body).symm.trans eq
      exact ⟨rfl, success, body⟩
  · rintro ⟨rfl, success, body⟩
    exact bodyOf_of_body resource (isSuccess_iff.mpr success) body

theorem bodyOf_eq_error_iff {e : CallError} : bodyOf resource reply = .error e ↔
    e = .exchange ∧ reply.Lost ∨ ∃ code, e = .status resource code ∧ reply.RefusedWith code := by
  constructor
  · intro eq
    rcases reply_cases reply with lost | ⟨code, refused⟩ | ⟨r', bytes', rfl, success, body⟩
    · cases (bodyOf_of_lost lost).symm.trans eq
      exact .inl ⟨rfl, lost⟩
    · cases (bodyOf_of_refused refused).symm.trans eq
      exact .inr ⟨code, rfl, refused⟩
    · cases (bodyOf_of_body resource (isSuccess_iff.mpr success) body).symm.trans eq
  · rintro (⟨rfl, lost⟩ | ⟨code, rfl, refused⟩)
    · exact bodyOf_of_lost lost
    · exact bodyOf_of_refused refused

theorem decided_bodyOf : Decided reply resource (bodyOf resource reply) where
  exchange := by simp [bodyOf_eq_error_iff]
  status resource' code := by
    rw [bodyOf_eq_error_iff]
    constructor
    · rintro (⟨⟨⟩, -⟩ | ⟨_, ⟨⟩, refused⟩)
      exact ⟨rfl, refused⟩
    · rintro ⟨rfl, refused⟩
      exact .inr ⟨code, rfl, refused⟩
  configured cause := by simp [bodyOf_eq_error_iff]

end Body

end Client

/-- Whether an error is about what a body holds. -/
def CallError.IsLate : CallError → Prop
  | .decode _ _ => True
  | .notFound _ _ => True
  | _ => False

theorem bind_eq_error_iff {ε : Type} {x : Except ε β} {f : β → Except ε α} {e : ε} :
    (x >>= f) = .error e ↔ x = .error e ∨ ∃ b, x = .ok b ∧ f b = .error e := by
  cases x with
  | error e' =>
    change Except.error e' = .error e ↔ _
    simp
  | ok b =>
    change f b = .error e ↔ _
    simp

section

variable {ε ε' : Type} {x : Except ε α} {f : ε → ε'}

theorem mapError_eq_ok_iff {a : α} : x.mapError f = .ok a ↔ x = .ok a := by
  cases x with
  | error e => exact ⟨nofun, nofun⟩
  | ok b => exact ⟨fun eq => by cases eq; rfl, fun eq => by cases eq; rfl⟩

theorem mapError_eq_error_iff {e : ε'} :
    x.mapError f = .error e ↔ ∃ cause, x = .error cause ∧ e = f cause := by
  cases x with
  | error cause =>
    constructor
    · rintro ⟨⟩
      exact ⟨cause, rfl, rfl⟩
    · rintro ⟨_, ⟨⟩, rfl⟩
      rfl
  | ok b =>
    refine iff_of_false (fun eq => ?_) ?_
    · cases eq
    · rintro ⟨_, ⟨⟩, -⟩

theorem exists_mapError_eq_error_iff : (∃ e, x.mapError f = .error e) ↔ ∃ e, x = .error e := by
  simp only [mapError_eq_error_iff]
  constructor
  · rintro ⟨_, cause, eq, -⟩
    exact ⟨cause, eq⟩
  · rintro ⟨cause, eq⟩
    exact ⟨_, cause, eq, rfl⟩

end

/-- What is judged by the body changes nothing about what is decided before. -/
theorem Decided.bind {reply : Reply} {resource : String} {x : Except CallError β}
    (first : Decided reply resource x) {f : β → Except CallError α}
    (late : ∀ b e, f b = .error e → e.IsLate) : Decided reply resource (x >>= f) := by
  have early {e : CallError} (h : ¬ e.IsLate) : (x >>= f) = .error e ↔ x = .error e := by
    rw [bind_eq_error_iff]
    exact or_iff_left fun ⟨b, _, eq⟩ => h (late b e eq)
  exact ⟨(early id).trans first.exchange, fun _ _ => (early id).trans (first.status _ _),
    fun cause => mt (early id).mp (first.configured cause)⟩

namespace Client

section Lists

variable {item : Shape α} {resource : String} {reply : Reply} {bytes : Bytes}

theorem judgeList_eq_ok_iff {all : List α} : judgeList resource item reply = .ok all ↔
    ∃ bytes, reply.Holds bytes ∧ (Shape.list item).parse bytes = .ok all := by
  rw [judgeList, bind_eq_ok_iff]
  constructor
  · rintro ⟨⟨r, bytes⟩, body, eq⟩
    obtain ⟨rfl, success, body⟩ := bodyOf_eq_ok_iff.mp body
    exact ⟨bytes, ⟨r, rfl, success, body⟩, mapError_eq_ok_iff.mp eq⟩
  · rintro ⟨bytes, ⟨r, rfl, success, body⟩, eq⟩
    exact ⟨(r, bytes), bodyOf_eq_ok_iff.mpr ⟨rfl, success, body⟩, mapError_eq_ok_iff.mpr eq⟩

theorem judgeList_eq_error_iff {e : CallError} : judgeList resource item reply = .error e ↔
    bodyOf resource reply = .error e ∨ ∃ bytes cause, reply.Holds bytes ∧
      (Shape.list item).parse bytes = .error cause ∧ e = .decode resource cause := by
  rw [judgeList, bind_eq_error_iff]
  refine or_congr_right ?_
  constructor
  · rintro ⟨⟨r, bytes⟩, body, eq⟩
    obtain ⟨rfl, success, body⟩ := bodyOf_eq_ok_iff.mp body
    obtain ⟨cause, read, rfl⟩ := mapError_eq_error_iff.mp eq
    exact ⟨bytes, cause, ⟨r, rfl, success, body⟩, read, rfl⟩
  · rintro ⟨bytes, cause, ⟨r, rfl, success, body⟩, eq, rfl⟩
    exact ⟨(r, bytes), bodyOf_eq_ok_iff.mpr ⟨rfl, success, body⟩,
      mapError_eq_error_iff.mpr ⟨cause, eq, rfl⟩⟩

theorem judgeList_decided : Decided reply resource (judgeList resource item reply) := by
  refine decided_bodyOf.bind fun p e eq => ?_
  obtain ⟨cause, -, rfl⟩ := mapError_eq_error_iff.mp eq
  exact trivial

theorem judgeList_ne_notFound (kind name : String) :
    judgeList resource item reply ≠ .error (.notFound kind name) := by
  intro eq
  rcases judgeList_eq_error_iff.mp eq with early | ⟨_, _, _, _, ⟨⟩⟩
  rcases bodyOf_eq_error_iff.mp early with ⟨⟨⟩, _⟩ | ⟨_, ⟨⟩, _⟩

theorem judgeList_eq_decode_iff {resource' : String} {cause : Json.ReadError} :
    judgeList resource item reply = .error (.decode resource' cause) ↔ resource' = resource ∧
      ∃ bytes, reply.Holds bytes ∧ (Shape.list item).parse bytes = .error cause := by
  rw [judgeList_eq_error_iff]
  constructor
  · rintro (early | ⟨bytes, _, holds, eq, ⟨⟩⟩)
    · rcases bodyOf_eq_error_iff.mp early with ⟨⟨⟩, _⟩ | ⟨_, ⟨⟩, _⟩
    · exact ⟨rfl, bytes, holds, eq⟩
  · rintro ⟨rfl, bytes, holds, eq⟩
    exact .inr ⟨bytes, cause, holds, eq, rfl⟩

variable (isRecord : item.IsRecord) (shallow : item.height < 127)

include isRecord shallow

/-- A document that is refused is the text of no list. -/
theorem refused_iff : (∃ cause, (Shape.list item).parse bytes = .error cause) ↔
    ¬ ∃ all, item.IsListText bytes all := by
  simp only [← Shape.parse_list_eq_ok_iff isRecord shallow]
  cases (Shape.list item).parse bytes with
  | error cause => exact iff_of_true ⟨cause, rfl⟩ fun ⟨_, eq⟩ => nomatch eq
  | ok all => exact iff_of_false (fun ⟨_, eq⟩ => nomatch eq) fun none => none ⟨all, rfl⟩

theorem exists_decode_iff {resource' : String} :
    (∃ cause, judgeList resource item reply = .error (.decode resource' cause)) ↔
      resource' = resource ∧ ∃ bytes, reply.Holds bytes ∧ ¬ ∃ all, item.IsListText bytes all := by
  simp only [judgeList_eq_decode_iff, ← refused_iff isRecord shallow]
  constructor
  · rintro ⟨cause, rfl, bytes, holds, eq⟩
    exact ⟨rfl, bytes, holds, cause, eq⟩
  · rintro ⟨rfl, bytes, holds, cause, eq⟩
    exact ⟨cause, rfl, bytes, holds, eq⟩

theorem judgeList_listed : Listed reply resource item (judgeList resource item reply) where
  toDecided := judgeList_decided
  decode _ := exists_decode_iff isRecord shallow
  present := judgeList_ne_notFound
  listed all := by simp only [judgeList_eq_ok_iff, Shape.parse_list_eq_ok_iff isRecord shallow]

end Lists

def choose (kind : String) (nameOf : α → String) (name : String) (found : List α) :
    Except CallError α :=
  match found.find? (nameOf · = name) with
  | some a => .ok a
  | none => .error (.notFound kind name)

section Names

variable {item : Shape α} {resource kind name : String} {nameOf : α → String} {reply : Reply}

theorem judgeNamed_eq : judgeNamed resource kind item nameOf name reply =
    judgeList resource item reply >>= choose kind nameOf name := rfl

theorem choose_eq_ok_iff {found : List α} {a : α} : choose kind nameOf name found = .ok a ↔
    nameOf a = name ∧ ∃ front back, found = front ++ a :: back ∧ ∀ b ∈ front, nameOf b ≠ name := by
  have first : choose kind nameOf name found = .ok a ↔ found.find? (nameOf · = name) = some a := by
    rw [choose]
    cases found.find? (nameOf · = name) with
    | none => exact ⟨nofun, nofun⟩
    | some b => exact ⟨fun eq => by cases eq; rfl, fun eq => by cases eq; rfl⟩
  rw [first, List.find?_eq_some_iff_append]
  simp

theorem choose_eq_error_iff {found : List α} {e : CallError} :
    choose kind nameOf name found = .error e ↔
      e = .notFound kind name ∧ ∀ a ∈ found, nameOf a ≠ name := by
  have none : choose kind nameOf name found = .error e ↔
      e = .notFound kind name ∧ found.find? (nameOf · = name) = none := by
    rw [choose]
    cases found.find? (nameOf · = name) with
    | none => exact ⟨fun eq => by cases eq; exact ⟨rfl, rfl⟩, fun ⟨eq, _⟩ => by rw [eq]⟩
    | some b => exact ⟨nofun, nofun⟩
  rw [none, List.find?_eq_none]
  simp

theorem judgeNamed_eq_error_iff {e : CallError} :
    judgeNamed resource kind item nameOf name reply = .error e ↔
      judgeList resource item reply = .error e ∨ e = .notFound kind name ∧
        ∃ bytes all, reply.Holds bytes ∧ (Shape.list item).parse bytes = .ok all ∧
          ∀ a ∈ all, nameOf a ≠ name := by
  rw [judgeNamed_eq, bind_eq_error_iff]
  simp only [judgeList_eq_ok_iff, choose_eq_error_iff]
  refine or_congr_right ?_
  constructor
  · rintro ⟨all, ⟨bytes, holds, read⟩, rfl, none⟩
    exact ⟨rfl, bytes, all, holds, read, none⟩
  · rintro ⟨rfl, bytes, all, holds, read, none⟩
    exact ⟨all, ⟨bytes, holds, read⟩, rfl, none⟩

theorem judgeNamed_named (isRecord : item.IsRecord) (shallow : item.height < 127) :
    Named reply resource kind item nameOf name
      (judgeNamed resource kind item nameOf name reply) where
  toDecided := judgeList_decided.bind fun found e eq => by
    obtain ⟨rfl, -⟩ := choose_eq_error_iff.mp eq
    exact trivial
  decode resource' := by
    rw [← exists_decode_iff isRecord shallow]
    refine exists_congr fun cause => ?_
    rw [judgeNamed_eq_error_iff]
    exact or_iff_left fun ⟨eq, _⟩ => nomatch eq
  absent kind' name' := by
    rw [judgeNamed_eq_error_iff]
    simp only [Shape.parse_list_eq_ok_iff isRecord shallow]
    constructor
    · rintro (early | ⟨⟨⟩, none⟩)
      · exact absurd early (judgeList_ne_notFound kind' name')
      · exact ⟨rfl, rfl, none⟩
    · rintro ⟨rfl, rfl, none⟩
      exact .inr ⟨rfl, none⟩
  named a := by
    rw [judgeNamed_eq, bind_eq_ok_iff]
    simp only [judgeList_eq_ok_iff, Shape.parse_list_eq_ok_iff isRecord shallow, choose_eq_ok_iff]
    constructor
    · rintro ⟨_, ⟨bytes, holds, text⟩, named, front, back, rfl, others⟩
      exact ⟨bytes, front, back, holds, text, named, others⟩
    · rintro ⟨bytes, front, back, holds, text, named, others⟩
      exact ⟨_, ⟨bytes, holds, text⟩, named, front, back, rfl, others⟩

end Names

theorem judgeDiagram_drawn {resource : String} {reply : Reply} :
    Drawn reply resource (judgeDiagram resource reply) := by
  have decided : Decided reply resource (judgeDiagram resource reply) :=
    decided_bodyOf.bind fun _ _ eq => nomatch eq
  have early {e : CallError} : judgeDiagram resource reply = .error e ↔
      bodyOf resource reply = .error e := by
    rw [judgeDiagram, bind_eq_error_iff]
    exact or_iff_left fun ⟨_, _, eq⟩ => nomatch eq
  refine ⟨decided, fun resource' cause eq => ?_, fun kind name eq => ?_, fun d => ?_⟩
  · rcases bodyOf_eq_error_iff.mp (early.mp eq) with ⟨⟨⟩, _⟩ | ⟨_, ⟨⟩, _⟩
  · rcases bodyOf_eq_error_iff.mp (early.mp eq) with ⟨⟨⟩, _⟩ | ⟨_, ⟨⟩, _⟩
  · rw [judgeDiagram, bind_eq_ok_iff]
    constructor
    · rintro ⟨⟨r, bytes⟩, body, ⟨⟩⟩
      obtain ⟨rfl, success, body⟩ := bodyOf_eq_ok_iff.mp body
      exact ⟨r, rfl, success, body, rfl⟩
    · obtain ⟨mediaType, bytes⟩ := d
      rintro ⟨r, rfl, success, body, rfl⟩
      exact ⟨(r, bytes), bodyOf_eq_ok_iff.mpr ⟨rfl, success, body⟩, rfl⟩

/-- What comes back for a request, if the address allows one. -/
def reply (w : World σ) (s : σ) (method : Method) (url : Url) : Reply :=
  if url.isWeb then (w.follow s ⟨method, url, some agent⟩).1 else none

theorem runIn_send (w : World σ) (s : σ) (method : Method) (url : Url)
    {judge : Reply → Except CallError α} (lost : judge none = .error .exchange) :
    (Call.runIn w (send method url judge) s).1 = judge (reply w s method url) := by
  rw [send, reply]
  split
  · rfl
  · exact lost.symm

theorem runIn_list (c : Client) (w : World σ) (s : σ) {resource : String} {item : Shape α}
    (isRecord : item.IsRecord) (shallow : item.height < 127) :
    Listed (reply w s .get (c.collectionUrl resource none)) resource item
      (Call.runIn w (c.list resource item) s).1 := by
  rw [list, runIn_send _ _ _ _ rfl]
  exact judgeList_listed isRecord shallow

theorem runIn_find (c : Client) (w : World σ) (s : σ) {resource kind : String} {item : Shape α}
    {nameOf : α → String} (isRecord : item.IsRecord) (shallow : item.height < 127) (name : String) :
    Named (reply w s .get (c.collectionUrl resource (some name))) resource kind item nameOf name
      (Call.runIn w (c.find resource kind item nameOf name) s).1 := by
  rw [find, runIn_send _ _ _ _ rfl]
  exact judgeNamed_named isRecord shallow

/-- The reply to its request decides the outcome of every call. A call for one element fails if the
exchange does, then if the status is not one of success, then if the body is not the text of a list
whose elements can all be read, then if no element has exactly the name; otherwise it gives the first
such element. A call for a collection gives all elements in order, and a call for a diagram the bytes of
the body as they are. -/
theorem outcomes_decided (c : Client) (w : World σ) (s : σ) :
    (∀ name, Named (reply w s .get (c.collectionUrl "datacenters" (some name))) "datacenters" "datacenter"
      Datacenter.shape (·.name) name (Call.runIn w (c.datacenter name) s).1) ∧
    (∀ name, Named (reply w s .get (c.collectionUrl "infrastructures" (some name))) "infrastructures"
      "infrastructure" Infrastructure.shape (·.name) name (Call.runIn w (c.infrastructure name) s).1) ∧
    Listed (reply w s .get (c.collectionUrl "datacenters" none)) "datacenters" Datacenter.shape
      (Call.runIn w c.datacenters s).1 ∧
    Listed (reply w s .get (c.collectionUrl "infrastructures" none)) "infrastructures"
      Infrastructure.shape (Call.runIn w c.infrastructures s).1 ∧
    Listed (reply w s .get (c.collectionUrl "racks" none)) "racks" Rack.shape (Call.runIn w c.racks s).1 ∧
    ∀ kind name, Drawn (reply w s .post (c.diagramUrl kind name)) (kind.entity ++ " diagram " ++ name)
      (Call.runIn w (c.diagram kind name) s).1 := by
  refine ⟨c.runIn_find w s trivial (by decide), c.runIn_find w s trivial (by decide),
    c.runIn_list w s trivial (by decide), c.runIn_list w s trivial (by decide),
    c.runIn_list w s trivial (by decide), fun kind name => ?_⟩
  rw [diagram, runIn_send _ _ _ _ rfl]
  exact judgeDiagram_drawn

end Client

end RackInventory
