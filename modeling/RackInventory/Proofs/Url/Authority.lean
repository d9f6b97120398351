import Mathlib.Data.List.TakeWhile
import RackInventory.Proofs.Url.Host

/-!
# Authorities are read back as they are written

An authority that has been read holds a user whose encoding is finished, a host in its written form
and a port that is not the usual one. Reading its text gives it again.
-/

namespace RackInventory

namespace Url

def UserWritten (user : List Char) : Prop :=
  user = [] ∨ ∃ shown, user = shown ++ ['@'] ∧ userText shown = user ∧
    ∀ c ∈ shown, inAuthority c = true

theorem inAuthority_of_kept {s : List Char} (kept : Percent.Kept Percent.userinfoSet s) :
    ∀ c ∈ s, inAuthority c = true := by
  intro c mem
  obtain ⟨ascii, free⟩ := kept c mem
  have all : ∀ n < 0x80, Percent.userinfoSet (Char.ofNat n) = false →
      inAuthority (Char.ofNat n) = true := by decide
  exact Percent.forall_ascii
    (p := fun c => Percent.userinfoSet c = false → inAuthority c = true) all ascii free

theorem colon_free_of_kept {s : List Char} (kept : Percent.Kept Percent.userinfoSet s) :
    ∀ c ∈ s, decide (c ≠ ':') = true := by
  intro c mem
  have free := (kept c mem).2
  rw [decide_eq_true_iff]
  rintro rfl
  exact absurd free (by decide)

theorem userText_name {name : List Char} (kept : Percent.Kept Percent.userinfoSet name) :
    userText name = if name.isEmpty then [] else name ++ ['@'] := by
  have whole := colon_free_of_kept kept
  have first : name.takeWhile (· ≠ ':') = name := List.takeWhile_eq_self_iff.mpr whole
  have second : name.dropWhile (· ≠ ':') = [] := List.dropWhile_eq_nil_iff.mpr whole
  rw [userText, first, second, Percent.encode_of_kept kept]
  rfl

theorem userText_pair {name password : List Char} (keptName : Percent.Kept Percent.userinfoSet name)
    (keptPassword : Percent.Kept Percent.userinfoSet password) (present : password ≠ []) :
    userText (name ++ ':' :: password) = name ++ ':' :: password ++ ['@'] := by
  have whole := colon_free_of_kept keptName
  have first : (name ++ ':' :: password).takeWhile (· ≠ ':') = name := by
    rw [List.takeWhile_append_of_pos whole]
    simp
  have second : (name ++ ':' :: password).dropWhile (· ≠ ':') = ':' :: password := by
    rw [List.dropWhile_append_of_pos whole]
    simp
  have shown : password.isEmpty = false := by simpa using present
  simp only [userText, first, second, List.drop_one, List.tail_cons,
    Percent.encode_of_kept keptName, Percent.encode_of_kept keptPassword, shown]
  simp

/-- The user part that is read is finished. -/
theorem userText_written (s : List Char) : UserWritten (userText s) := by
  obtain ⟨name, hname⟩ : ∃ name, name =
      Percent.encode Percent.userinfoSet (s.takeWhile (· ≠ ':')) := ⟨_, rfl⟩
  obtain ⟨password, hpassword⟩ : ∃ password, password =
      Percent.encode Percent.userinfoSet ((s.dropWhile (· ≠ ':')).drop 1) := ⟨_, rfl⟩
  have keptName : Percent.Kept Percent.userinfoSet name :=
    hname ▸ Percent.kept_encode Percent.escapes_userinfoSet _
  have keptPassword : Percent.Kept Percent.userinfoSet password :=
    hpassword ▸ Percent.kept_encode Percent.escapes_userinfoSet _
  rw [userText, ← hname, ← hpassword]
  by_cases absent : password = []
  · subst absent
    by_cases nameless : name = []
    · subst nameless
      exact Or.inl rfl
    · have shown : name.isEmpty = false := by simpa using nameless
      refine Or.inr ⟨name, by simp [shown], ?_, inAuthority_of_kept keptName⟩
      rw [userText_name keptName]
      rfl
  · have shown : password.isEmpty = false := by simpa using absent
    refine Or.inr ⟨name ++ ':' :: password, by simp [shown], ?_, ?_⟩
    · rw [userText_pair keptName keptPassword absent]
      simp [shown]
    · intro c mem
      rcases List.mem_append.mp mem with mem | mem
      · exact inAuthority_of_kept keptName c mem
      · rcases List.mem_cons.mp mem with rfl | mem
        · decide
        · exact inAuthority_of_kept keptPassword c mem

theorem readPort_bound {scheme s rest : List Char} {port : Option Nat}
    (h : readPort scheme s = .ok (port, rest)) :
    ∀ n ∈ port, n ≤ 65535 ∧ defaultPort scheme ≠ some n := by
  unfold readPort at h
  extract_lets digits value left ended at h
  split at h
  · cases h
  · next small =>
    have found : _ = port := congrArg Prod.fst (Except.ok.inj h)
    intro n mem
    rw [← found] at mem
    split at mem
    · cases mem
    · next unusual =>
      cases mem
      rw [not_or] at small unusual
      exact ⟨Nat.le_of_not_lt small.1, unusual.2⟩

theorem readPort_text {scheme : List Char} {n : Nat} (small : n ≤ 65535)
    (unusual : defaultPort scheme ≠ some n) :
    readPort scheme (Nat.toDigits 10 n) = .ok (some n, []) := by
  have digits : ∀ c ∈ Nat.toDigits 10 n, c.isDigit = true :=
    fun _ mem => Nat.isDigit_of_mem_toDigits (by omega) (by omega) mem
  have value : (Nat.toDigits 10 n).foldl (fun n c => n * 10 + (c.toNat - 48)) 0 = n := by
    calc
      _ = Nat.ofDigitChars 10 (Nat.toDigits 10 n) 0 := by
        rw [Nat.ofDigitChars_eq_foldl]
        simp only [Nat.mul_comm 10]
        rfl
      _ = n := Nat.ofDigitChars_toDigits (by omega) (by omega)
  have taken := List.takeWhile_eq_self_iff.mpr digits
  have left := List.dropWhile_eq_nil_iff.mpr digits
  have present : (Nat.toDigits 10 n).isEmpty = false := by simp
  simp only [readPort, taken, left, value, present]
  rw [if_neg (by simp; omega), if_neg (by simp [unusual])]

end Url

/-- An authority as an address of a well-known scheme holds it after reading. -/
structure Authority.Written (scheme : List Char) (a : Authority) : Prop where
  user : Url.UserWritten a.user
  host : Host.Written a.host
  port : ∀ n ∈ a.port, n ≤ 65535 ∧ defaultPort scheme ≠ some n

namespace Url

/-- The authority of a user and a host, with the port that a text starts with. -/
def withPort (scheme user host : List Char) : List Char → Except Error (Authority × List Char)
  | ':' :: rest =>
    if host.isEmpty then .error .emptyHost
    else (readPort scheme rest).map fun (port, rest) => (⟨user, host, port⟩, rest)
  | rest =>
    if host.isEmpty ∧ user ≠ [] then .error .emptyHost else .ok (⟨user, host, none⟩, rest)

theorem readHostPort_eq {scheme : List Char}
    (special : (SchemeKind.ofScheme scheme).isSpecial = true) (user : List Char)
    {s written after : List Char} (span : spanHost false s = (written, after)) :
    readHostPort scheme user s =
      if written.isEmpty then .error .emptyHost
      else match Host.parse written with
        | .error cause => .error (.ofHost cause)
        | .ok host => withPort scheme user host after := by
  unfold readHostPort
  simp only [span, special, bind, Except.bind, pure, Except.pure, throw, throwThe,
    MonadExceptOf.throw, if_true, true_and]
  split
  · rfl
  · cases Host.parse written with
    | error cause => rfl
    | ok host =>
      simp only [Except.mapError]
      cases after with
      | nil => rfl
      | cons c rest =>
        by_cases colon : c = ':'
        · subst colon
          cases port : readPort scheme rest <;> simp [withPort, port, Except.map]
        · simp [withPort, colon]

theorem withPort_bound {scheme user host after left : List Char} {a : Authority}
    (h : withPort scheme user host after = .ok (a, left)) :
    a.user = user ∧ a.host = host ∧ ∀ n ∈ a.port, n ≤ 65535 ∧ defaultPort scheme ≠ some n := by
  unfold withPort at h
  split at h
  · next rest =>
    split at h
    · cases h
    · cases port : readPort scheme rest with
      | error cause =>
        rw [port] at h
        cases h
      | ok found =>
        rw [port] at h
        cases h
        exact ⟨rfl, rfl, readPort_bound port⟩
  · split at h
    · cases h
    · cases h
      exact ⟨rfl, rfl, fun _ mem => by cases mem⟩

theorem withPort_portText {scheme user host : List Char} (present : host ≠ []) {port : Option Nat}
    (bound : ∀ n ∈ port, n ≤ 65535 ∧ defaultPort scheme ≠ some n) :
    withPort scheme user host (Authority.portText port) = .ok (⟨user, host, port⟩, []) := by
  have shown : host.isEmpty = false := by simpa using present
  cases port with
  | none => simp [withPort, Authority.portText, present]
  | some n =>
    obtain ⟨small, unusual⟩ := bound n rfl
    rw [Authority.portText, withPort, shown, readPort_text small unusual]
    rfl

theorem readHostPort_written {scheme : List Char}
    (special : (SchemeKind.ofScheme scheme).isSpecial = true) {user s after : List Char}
    {a : Authority} (finished : UserWritten user)
    (h : readHostPort scheme user s = .ok (a, after)) : a.Written scheme := by
  obtain ⟨⟨written, left⟩, span⟩ : ∃ span, spanHost false s = span := ⟨_, rfl⟩
  rw [readHostPort_eq special user span] at h
  split at h
  · cases h
  · split at h
    · cases h
    · next host parsed =>
      obtain ⟨rfl, rfl, bound⟩ := withPort_bound h
      exact ⟨finished, Host.written_of_parse parsed, bound⟩

/-- The host and the port are read back. -/
theorem readHostPort_hostPort {scheme : List Char} {a : Authority} (h : a.Written scheme)
    (special : (SchemeKind.ofScheme scheme).isSpecial = true) :
    readHostPort scheme a.user a.hostPort = .ok (a, []) := by
  have stop : (Authority.portText a.port).head?.getD ':' = ':' := by
    cases a.port <;> rfl
  have span : spanHost false a.hostPort = (a.host, Authority.portText a.port) :=
    h.host.spanned _ stop
  have shown : a.host.isEmpty = false := by simpa using h.host.present
  rw [readHostPort_eq special a.user span, h.host.parsed, shown]
  exact withPort_portText h.host.present h.port

theorem inside_portText (port : Option Nat) :
    ∀ c ∈ Authority.portText port, inAuthority c = true ∧ c ≠ '@' := by
  cases port with
  | none =>
    intro c mem
    exact absurd mem List.not_mem_nil
  | some n =>
    intro c mem
    rcases List.mem_cons.mp mem with rfl | mem
    · decide
    · obtain ⟨d, hd, rfl⟩ := Host.digit_of_mem_toDigits mem
      have all : ∀ d < 10, inAuthority (Nat.digitChar d) = true ∧ Nat.digitChar d ≠ '@' := by decide
      exact all d hd

theorem inside_hostPort {scheme : List Char} {a : Authority} (h : a.Written scheme) :
    ∀ c ∈ a.hostPort, inAuthority c = true ∧ c ≠ '@' := by
  intro c mem
  rcases List.mem_append.mp mem with mem | mem
  · exact h.host.inside c mem
  · exact inside_portText a.port c mem

theorem inAuthority_text {scheme : List Char} {a : Authority} (h : a.Written scheme) :
    ∀ c ∈ a.user ++ a.hostPort, inAuthority c = true := by
  intro c mem
  rcases List.mem_append.mp mem with mem | mem
  · rcases h.user with none | ⟨shown, eq, _, inside⟩
    · exact absurd (none ▸ mem) List.not_mem_nil
    · rw [eq, List.mem_append, List.mem_singleton] at mem
      rcases mem with mem | rfl
      · exact inside c mem
      · decide
  · exact (inside_hostPort h c mem).1

theorem hostPort_ne_nil {scheme : List Char} {a : Authority} (h : a.Written scheme) :
    a.hostPort ≠ [] :=
  fun nil => h.host.present (List.append_eq_nil_iff.mp nil).1

theorem cutAtLastMark_unmarked {s : List Char} (unmarked : ∀ c ∈ s, c ≠ '@') :
    cutAtLastMark s = (none, s) := by
  have all : ∀ c ∈ s.reverse, decide (c ≠ '@') = true :=
    fun c mem => decide_eq_true (unmarked c (List.mem_reverse.mp mem))
  have host : (s.reverse.takeWhile (· ≠ '@')).reverse = s := by
    rw [List.takeWhile_eq_self_iff.mpr all, List.reverse_reverse]
  rw [cutAtLastMark, host, if_pos rfl]

theorem cutAtLastMark_mark (shown : List Char) {s : List Char} (unmarked : ∀ c ∈ s, c ≠ '@') :
    cutAtLastMark (shown ++ ['@'] ++ s) = (some shown, s) := by
  have all : ∀ c ∈ s.reverse, decide (c ≠ '@') = true :=
    fun c mem => decide_eq_true (unmarked c (List.mem_reverse.mp mem))
  have host : ((shown ++ ['@'] ++ s).reverse.takeWhile (· ≠ '@')).reverse = s := by
    rw [List.reverse_append, List.takeWhile_append_of_pos all]
    simp
  have length : (shown ++ ['@'] ++ s).length = shown.length + 1 + s.length := by
    rw [List.length_append, List.length_append, List.length_singleton]
  have cut : (shown ++ ['@'] ++ s).length - s.length - 1 = shown.length := by omega
  simp only [cutAtLastMark]
  rw [host, if_neg (by omega), cut, List.append_assoc, List.take_left]

/-- The user is told apart from the host again, and encoding it once more changes nothing. -/
theorem cutAtLastMark_text {scheme : List Char} {a : Authority} (h : a.Written scheme) :
    ∃ user, cutAtLastMark (a.user ++ a.hostPort) = (user, a.hostPort) ∧
      userText (user.getD []) = a.user := by
  have unmarked := fun c mem => (inside_hostPort h c mem).2
  rcases h.user with none | ⟨shown, eq, again, _⟩
  · refine ⟨Option.none, ?_, ?_⟩
    · rw [none, List.nil_append]
      exact cutAtLastMark_unmarked unmarked
    · rw [none]
      rfl
  · refine ⟨some shown, ?_, again⟩
    rw [eq]
    exact cutAtLastMark_mark shown unmarked

end Url

end RackInventory
