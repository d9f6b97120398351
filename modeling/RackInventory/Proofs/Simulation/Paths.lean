import RackInventory.Proofs.Configuration.BaseAddress
import RackInventory.Proofs.Text.Trimming
import RackInventory.Proofs.Url.Form
import RackInventory.Simulation.Scenario

/-!
# Where a client and a simulated server look for a collection

A version is a list of plain segments with single slashes between them and any slashes around them.
The server cuts off the slashes around it and reads the rest as a pattern of paths. The client puts its
segments behind the address of the server. Both come to the same path for a collection.

Versions with empty segments inside, and versions with parameters, are left out.
-/

namespace RackInventory

/-- A segment that stands for itself in addresses and in patterns: letters, digits, hyphens,
underscores and dots, and not one of the two segments of dots alone that mean something else. -/
structure Segment.PathSafe (s : Segment) : Prop where
  filled : s ≠ []
  plain : ∀ c ∈ s, c.isAlphanum = true ∨ c ∈ ['-', '_', '.']
  named : s ≠ ['.']
  staying : s ≠ ['.', '.']

/-- Segments with single slashes between them. -/
def joined (segments : List Segment) : List Char := List.intercalate ['/'] segments

def IsVersion (version : String) (segments : List Segment) : Prop :=
  (∀ s ∈ segments, s.PathSafe) ∧
    ∃ front back : Nat, version.toList =
      List.replicate front '/' ++ joined segments ++ List.replicate back '/'

namespace Segment

/-- A segment is tested character by character. -/
theorem PathSafe.of_all {s : Segment}
    (plain : s.all (fun c => c.isAlphanum || ['-', '_', '.'].contains c) = true) (filled : s ≠ [])
    (named : s ≠ ['.']) (staying : s ≠ ['.', '.']) : s.PathSafe where
  filled := filled
  plain := by simpa using plain
  named := named
  staying := staying

variable {s : Segment}

theorem PathSafe.ascii (h : s.PathSafe) {c : Char} (mem : c ∈ s) : c.toNat < 0x80 := by
  rcases h.plain c mem with alphanum | punctuation
  · change ((decide (c.val ≥ 'A'.val ∧ c.val ≤ 'Z'.val) ||
      decide (c.val ≥ 'a'.val) && decide (c.val ≤ 'z'.val)) ||
      decide (c.val ≥ '0'.val) && decide (c.val ≤ '9'.val)) = true at alphanum
    simp only [Bool.or_eq_true, Bool.and_eq_true, decide_eq_true_eq, UInt32.le_iff_toNat_le]
      at alphanum
    change (_ ∧ c.toNat ≤ 90 ∨ _ ∧ c.toNat ≤ 122) ∨ _ ∧ c.toNat ≤ 57 at alphanum
    omega
  · simp only [List.mem_cons, List.not_mem_nil, or_false] at punctuation
    rcases punctuation with rfl | rfl | rfl <;> decide

/-- The characters of a plain segment have no meaning of their own. -/
theorem PathSafe.apart (h : s.PathSafe) {c : Char} (mem : c ∈ s) :
    Percent.pathSet c = false ∧ Url.isSeparator true c = false ∧
      c ∉ ['%', ':', '*', '/', '{', '}'] ∧ Host.lowerAscii c ≠ '%' ∧
      (Host.lowerAscii c = '.' → c = '.') := by
  have all : ∀ n < 0x80, (Char.ofNat n).isAlphanum = true ∨ Char.ofNat n ∈ ['-', '_', '.'] →
      Percent.pathSet (Char.ofNat n) = false ∧ Url.isSeparator true (Char.ofNat n) = false ∧
        Char.ofNat n ∉ ['%', ':', '*', '/', '{', '}'] ∧ Host.lowerAscii (Char.ofNat n) ≠ '%' ∧
        (Host.lowerAscii (Char.ofNat n) = '.' → Char.ofNat n = '.') := by decide
  exact Percent.forall_ascii (p := fun c => c.isAlphanum = true ∨ c ∈ ['-', '_', '.'] →
      Percent.pathSet c = false ∧ Url.isSeparator true c = false ∧
        c ∉ ['%', ':', '*', '/', '{', '}'] ∧ Host.lowerAscii c ≠ '%' ∧
        (Host.lowerAscii c = '.' → c = '.')) all (h.ascii mem) (h.plain c mem)

theorem PathSafe.not_mem (h : s.PathSafe) {c : Char} (marked : c ∈ ['%', ':', '*', '/', '{', '}']) :
    c ∉ s :=
  fun mem => (h.apart mem).2.2.1 marked

/-- What is dots in small letters is the same dots. -/
theorem PathSafe.eq_of_lower (h : s.PathSafe) {t : Segment} (dots : ∀ d ∈ t, d = '.')
    (lower : s.map Host.lowerAscii = t) : s = t := by
  have same : s.map Host.lowerAscii = s.map id := by
    refine List.map_congr_left fun c mem => ?_
    have dot := dots _ (lower ▸ List.mem_map_of_mem mem)
    rw [dot]
    exact ((h.apart mem).2.2.2.2 dot).symm
  rw [← lower, same, List.map_id]

theorem PathSafe.lower_ne (h : s.PathSafe) {t : Segment} (escape : '%' ∈ t) :
    s.map Host.lowerAscii ≠ t := by
  rintro rfl
  obtain ⟨c, mem, eq⟩ := List.mem_map.mp escape
  exact (h.apart mem).2.2.2.1 eq

theorem PathSafe.written (h : s.PathSafe) : s.Written where
  kept c mem := ⟨h.ascii mem, (h.apart mem).1⟩
  whole c mem := (h.apart mem).2.1
  named := by
    rw [← Bool.not_eq_true, isDot, List.contains_iff_mem]
    simp only [List.mem_cons, List.not_mem_nil, or_false, not_or]
    exact ⟨fun lower => h.named (h.eq_of_lower (by simp) lower), h.lower_ne (by decide)⟩
  staying := by
    rw [← Bool.not_eq_true, isDoubleDot, List.contains_iff_mem]
    simp only [List.mem_cons, List.not_mem_nil, or_false, not_or]
    exact ⟨fun lower => h.staying (h.eq_of_lower (by simp) lower), h.lower_ne (by decide),
      h.lower_ne (by decide), h.lower_ne (by decide)⟩

end Segment

theorem joined_singleton (s : Segment) : joined [s] = s := List.intercalate_singleton

theorem joined_cons (s : Segment) {segments : List Segment} (more : segments ≠ []) :
    joined (s :: segments) = s ++ '/' :: joined segments := by
  rw [joined, List.intercalate_cons_of_ne_nil more]
  simp [joined]

theorem joined_concat {segments : List Segment} (some : segments ≠ []) (s : Segment) :
    joined (segments ++ [s]) = joined segments ++ '/' :: s := by
  induction segments with
  | nil => exact absurd rfl some
  | cons t segments ih =>
    by_cases last : segments = []
    · subst last
      have two := joined_cons t (List.cons_ne_nil s [])
      rw [joined_singleton] at two ⊢
      exact two
    · rw [List.cons_append, joined_cons t (List.append_ne_nil_of_left_ne_nil last _), ih last,
        joined_cons t last, List.append_assoc]
      rfl

/-- A path is its segments, each behind a slash. -/
theorem pathText_eq {segments : List Segment} (some : segments ≠ []) :
    (UrlPath.segments segments).text = '/' :: joined segments := by
  induction segments with
  | nil => exact absurd rfl some
  | cons s segments ih =>
    by_cases last : segments = []
    · subst last
      simp [UrlPath.text, joined]
    · have more := ih last
      rw [UrlPath.text] at more ⊢
      rw [List.flatMap_cons, more, joined_cons s last]
      rfl

theorem split_joined {segments : List Segment} (whole : ∀ s ∈ segments, '/' ∉ s)
    (some : segments ≠ []) : Form.split '/' (joined segments) = segments := by
  induction segments with
  | nil => exact absurd rfl some
  | cons s segments ih =>
    rw [List.forall_mem_cons] at whole
    by_cases last : segments = []
    · subst last
      rw [joined_singleton]
      exact Form.split_of_whole whole.1
    · rw [joined_cons s last, Form.split_append whole.1, ih whole.2 last]

section Versions

variable {segments : List Segment} (safe : ∀ s ∈ segments, s.PathSafe)

include safe

theorem joined_eq_nil_iff : joined segments = [] ↔ segments = [] := by
  constructor
  · intro nil
    by_contra some
    obtain ⟨s, more, rfl⟩ := List.exists_cons_of_ne_nil some
    have filled := (safe s List.mem_cons_self).filled
    by_cases last : more = []
    · subst last
      rw [joined_singleton] at nil
      exact filled nil
    · rw [joined_cons s last] at nil
      exact filled (List.append_eq_nil_iff.mp nil).1
  · rintro rfl
    rfl

theorem head?_joined : ∀ c ∈ (joined segments).head?, c ≠ '/' := by
  rintro c first rfl
  cases segments with
  | nil => cases first
  | cons s more =>
    have here := safe s List.mem_cons_self
    obtain ⟨d, t, rfl⟩ := List.exists_cons_of_ne_nil here.filled
    have start : (joined ((d :: t) :: more)).head? = some d := by
      by_cases last : more = []
      · subst last
        rw [joined_singleton]
        rfl
      · rw [joined_cons _ last]
        rfl
    rw [start] at first
    cases first
    exact here.not_mem (by decide) List.mem_cons_self

theorem getLast?_joined : ∀ c ∈ (joined segments).getLast?, c ≠ '/' := by
  rintro c final rfl
  rcases List.eq_nil_or_concat segments with rfl | ⟨front, s, rfl⟩
  · cases final
  · have here := safe s (by simp)
    have last : (joined (front ++ [s])).getLast? = s.getLast? := by
      by_cases only : front = []
      · subst only
        exact congrArg List.getLast? (joined_singleton s)
      · obtain ⟨d, t, rfl⟩ := List.exists_cons_of_ne_nil here.filled
        rw [joined_concat only, List.getLast?_append_of_ne_nil _ (List.cons_ne_nil _ _),
          List.getLast?_cons_cons]
    rw [List.concat_eq_append, last] at final
    exact here.not_mem (by decide) (List.mem_of_getLast? final)

end Versions

/-- What stands around a text that neither starts nor ends with it is cut off. -/
theorem trimBoth_around {α : Type} {p : α → Bool} {front text back : List α}
    (before : ∀ a ∈ front, p a = true) (after : ∀ a ∈ back, p a = true)
    (first : ∀ a ∈ text.head?, p a = false) (last : ∀ a ∈ text.getLast?, p a = false) :
    trimBoth p (front ++ text ++ back) = text := by
  have kept : ∀ l : List α, (∀ a ∈ l.head?, p a = false) → l.dropWhile p = l := by
    intro l first
    cases l with
    | nil => rfl
    | cons a l => exact List.dropWhile_cons_of_neg (by simp [first a rfl])
  have none : back.dropWhile p = [] := List.dropWhile_eq_nil_iff.mpr after
  rw [trimBoth, List.append_assoc, List.dropWhile_append_of_pos before]
  by_cases empty : text = []
  · subst empty
    rw [List.nil_append, none]
    rfl
  · have start : (text ++ back).dropWhile p = text ++ back := kept _ (by
      rwa [List.head?_append_of_ne_nil _ empty])
    rw [start, List.reverse_append,
      List.dropWhile_append_of_pos fun a mem => after a (List.mem_reverse.mp mem),
      kept _ (by rwa [List.head?_reverse]), List.reverse_reverse]

/-- Cutting off the slashes around a version leaves its segments. -/
theorem trimBoth_version {version : String} {segments : List Segment}
    (h : IsVersion version segments) :
    trimBoth (· = '/') version.toList = joined segments := by
  obtain ⟨safe, front, back, eq⟩ := h
  rw [eq]
  apply trimBoth_around
  · exact fun c mem => decide_eq_true (List.eq_of_mem_replicate mem)
  · exact fun c mem => decide_eq_true (List.eq_of_mem_replicate mem)
  · exact fun c mem => decide_eq_false (head?_joined safe c mem)
  · exact fun c mem => decide_eq_false (getLast?_joined safe c mem)

/-- A plain segment is a pattern that fits itself alone. -/
theorem SegmentPattern.ofChars?_safe {s : Segment} (h : s.PathSafe) :
    SegmentPattern.ofChars? s = some ⟨s, none⟩ := by
  have rest : ∀ t : List Char, '{' ∉ t → '}' ∉ t → SegmentPattern.ofRest? t = some ⟨t, none⟩ := by
    intro t
    induction t with
    | nil => exact fun _ _ => rfl
    | cons c t ih =>
      intro opening closing
      rw [List.mem_cons, not_or] at opening closing
      rw [SegmentPattern.ofRest?, if_neg (fun eq => closing.1 eq.symm), ih opening.2 closing.2]
      · rfl
      · rintro _ rfl
        exact absurd rfl opening.1
      · rintro _ rfl
        exact absurd rfl closing.1
      · rintro rfl
        exact absurd rfl opening.1
  have head (c : Char) (marked : c ∈ ['%', ':', '*', '/', '{', '}']) : s.head? ≠ some c :=
    fun first => h.not_mem marked (List.mem_of_mem_head? first)
  rw [SegmentPattern.ofChars?, if_neg (not_or.mpr ⟨head ':' (by decide), head '*' (by decide)⟩)]
  exact rest s (h.not_mem (by decide)) (h.not_mem (by decide))

theorem SegmentPattern.match?_self (s : List Char) :
    SegmentPattern.match? ⟨s, none⟩ s = some [] := by
  have whole : s.isPrefixOf? s = some [] := by
    induction s with
    | nil => rfl
    | cons c s ih => simp [List.isPrefixOf?, ih]
  rw [SegmentPattern.match?, whole]

def PathPattern.plain (segments : List Segment) : PathPattern := segments.map fun s => ⟨s, none⟩

theorem PathPattern.match?_plain (segments rest : List Segment) :
    (PathPattern.plain segments).match? (segments ++ rest) = some ([], rest) := by
  induction segments with
  | nil => rfl
  | cons s segments ih =>
    rw [plain, List.map_cons, List.cons_append, PathPattern.match?, SegmentPattern.match?_self]
    change ((plain segments).match? (segments ++ rest)).bind _ = _
    rw [ih]
    rfl

section Server

variable {segments : List Segment} (safe : ∀ s ∈ segments, s.PathSafe)

include safe

theorem isEmpty_joined : (String.ofList (joined segments)).isEmpty = segments.isEmpty := by
  rw [Bool.eq_iff_iff, String.isEmpty_iff, List.isEmpty_iff, ← joined_eq_nil_iff safe,
    ← String.toList_inj, String.toList_ofList]
  rfl

theorem PathPattern.ofString?_joined :
    PathPattern.ofString? (String.ofList (joined segments)) = some (plain segments) := by
  rw [PathPattern.ofString?, isEmpty_joined safe]
  split_ifs with none
  · rw [List.isEmpty_iff.mp none]
    rfl
  · rw [String.toList_ofList, split_joined (fun s mem => (safe s mem).not_mem (by decide)) (by
      simpa using none)]
    clear none
    induction segments with
    | nil => rfl
    | cons s segments ih =>
      rw [List.forall_mem_cons] at safe
      rw [List.mapM_cons, SegmentPattern.ofChars?_safe safe.1, ih safe.2]
      rfl

/-- A resource stands behind the segments of the version. -/
theorem resourcePath_eq (resource : String) :
    resourcePath (String.ofList (joined segments)) resource =
      String.ofList ('/' :: joined (segments ++ [resource.toList])) := by
  apply String.toList_inj.mp
  rw [resourcePath, isEmpty_joined safe, String.toList_ofList]
  cases segments with
  | nil => simp [joined_singleton]
  | cons s segments =>
    rw [joined_concat (List.cons_ne_nil s segments)]
    simp

theorem split_resourcePath {resource : String} (whole : '/' ∉ resource.toList) :
    Form.split '/' (resourcePath (String.ofList (joined segments)) resource).toList =
      [] :: (segments ++ [resource.toList]) := by
  have each : ∀ s ∈ segments ++ [resource.toList], '/' ∉ s := by
    intro s mem
    rcases List.mem_append.mp mem with mem | mem
    · exact (safe s mem).not_mem (by decide)
    · rw [List.mem_singleton.mp mem]
      exact whole
  rw [resourcePath_eq safe, String.toList_ofList, Form.split, if_pos rfl,
    split_joined each (List.append_ne_nil_of_right_ne_nil _ (List.cons_ne_nil _ _))]

/-- The path of a collection leads to the collection. -/
theorem Route.ofPath?_collection (c : Collection) :
    Route.ofPath? (String.ofList (joined segments))
      (resourcePath (String.ofList (joined segments)) c.name) = some (.collection c) := by
  have whole : '/' ∉ c.name.toList := by cases c <;> decide
  have split := split_resourcePath safe whole
  have other : resourcePath (String.ofList (joined segments)) c.name ≠ "/config.json" := by
    intro eq
    rw [eq] at split
    have last := congrArg List.getLast? split
    rw [← List.cons_append, List.getLast?_concat] at last
    cases c <;> exact absurd last (by decide)
  rw [Route.ofPath?, if_neg other, PathPattern.ofString?_joined safe]
  simp only [Option.bind_eq_bind, Option.bind_some, split, PathPattern.match?_plain]
  cases c <;> rfl

end Server

end RackInventory
