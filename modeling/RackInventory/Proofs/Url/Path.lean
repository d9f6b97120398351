import RackInventory.Proofs.Url.Encoding
import RackInventory.Url.Parser

/-!
# Paths of well-known schemes

A path that has been read is a list of written segments: encoded, without separators, none of them
made of dots. Such a list, written with a slash in front of each segment, is read back as it is.
Files are left out; drives have rules of their own.
-/

namespace RackInventory

structure Segment.Written (s : Segment) : Prop where
  kept : Percent.Kept Percent.pathSet s
  whole : ∀ c ∈ s, Url.isSeparator true c = false
  named : s.isDot = false
  staying : s.isDoubleDot = false

namespace Segment

theorem not_isIgnored {c : Char} (high : 0x20 < c.toNat) : isIgnored c = false := by
  rw [← Bool.not_eq_true]
  intro ignored
  simp only [isIgnored, Bool.or_eq_true, beq_iff_eq] at ignored
  rcases ignored with (rfl | rfl) | rfl <;> exact absurd high (by decide)

def marks (all : List Segment) : Nat := all.flatten.count '%'

theorem marks_append (xs ys : List Segment) : marks (xs ++ ys) = marks xs + marks ys := by
  rw [marks, List.flatten_append, List.count_append]
  rfl

theorem marks_singleton (s : Segment) : marks [s] = s.count '%' := by simp [marks]

theorem marks_cons (s : Segment) (all : List Segment) :
    marks (s :: all) = s.count '%' + marks all := by
  rw [← List.singleton_append, marks_append, marks_singleton]

theorem marks_eq_zero_iff {all : List Segment} : marks all = 0 ↔ ∀ s ∈ all, '%' ∉ s := by
  rw [marks, List.count_eq_zero, List.mem_flatten, not_exists]
  exact forall_congr' fun s => not_and

/-- Dots are written with few characters. -/
theorem not_dots_of_mem {s : Segment} {c : Char} (mem : c ∈ s)
    (other : Host.lowerAscii c ∉ ['.', '%', '2', 'e']) :
    s.isDot = false ∧ s.isDoubleDot = false := by
  have lower : Host.lowerAscii c ∈ s.map Host.lowerAscii := List.mem_map_of_mem mem
  constructor <;> rw [← Bool.not_eq_true] <;> intro dots
  · have texts : ∀ t ∈ [['.'], ['%', '2', 'e']],
        t.all (['.', '%', '2', 'e'].contains ·) = true := by decide
    have few := List.all_eq_true.mp (texts _ (List.contains_iff_mem.mp dots)) _ lower
    exact other (List.contains_iff_mem.mp few)
  · have texts : ∀ t ∈ [['.', '.'], ['%', '2', 'e', '.'], ['.', '%', '2', 'e'],
        ['%', '2', 'e', '%', '2', 'e']], t.all (['.', '%', '2', 'e'].contains ·) = true := by decide
    have few := List.all_eq_true.mp (texts _ (List.contains_iff_mem.mp dots)) _ lower
    exact other (List.contains_iff_mem.mp few)

theorem Written.visible {s : Segment} (h : s.Written) {c : Char} (mem : c ∈ s) :
    Url.isVisible c = true ∧ Url.endsPath c = false := by
  obtain ⟨ascii, free⟩ := h.kept c mem
  have each : ∀ n < 0x80, Percent.pathSet (Char.ofNat n) = false →
      Url.isVisible (Char.ofNat n) = true ∧ Url.endsPath (Char.ofNat n) = false := by decide
  exact Percent.forall_ascii (p := fun c => Percent.pathSet c = false →
    Url.isVisible c = true ∧ Url.endsPath c = false) each ascii free

theorem written_nil : Written [] :=
  ⟨fun _ mem => absurd mem List.not_mem_nil, fun _ mem => absurd mem List.not_mem_nil, rfl, rfl⟩

theorem mem_of_mem_takeBack {done : List Segment} {s : Segment} (mem : s ∈ takeBack done) :
    s ∈ done := by
  unfold takeBack at mem
  split at mem
  · split at mem
    · exact mem
    · exact (List.dropLast_sublist done).mem mem
  · exact absurd mem List.not_mem_nil

theorem add_written {done : List Segment} (earlier : ∀ t ∈ done, t.Written) {s : Segment}
    (kept : Percent.Kept Percent.pathSet s) (whole : ∀ c ∈ s, Url.isSeparator true c = false)
    (isLast : Bool) : ∀ t ∈ add false done s isLast, t.Written := by
  have ending : ∀ t ∈ (if isLast then [[]] else ([] : List Segment)), Written t := by
    intro t mem
    cases isLast with
    | false => exact absurd mem List.not_mem_nil
    | true => exact List.mem_singleton.mp mem ▸ written_nil
  intro t mem
  unfold add at mem
  split at mem
  · rcases List.mem_append.mp mem with mem | mem
    · exact earlier t (mem_of_mem_takeBack mem)
    · exact ending t mem
  · split at mem
    · rcases List.mem_append.mp mem with mem | mem
      · exact earlier t mem
      · exact ending t mem
    · next staying named =>
      rcases List.mem_append.mp mem with mem | mem
      · exact earlier t mem
      · have same : t = s := List.mem_singleton.mp mem
        subst same
        exact ⟨kept, whole, by simpa using named, by simpa using staying⟩

theorem addAll_written {done list : List Segment} (earlier : ∀ t ∈ done, t.Written)
    (encoded : ∀ s ∈ list, Percent.Kept Percent.pathSet s ∧
      ∀ c ∈ s, Url.isSeparator true c = false) :
    ∀ t ∈ addAll false done list, t.Written := by
  induction list generalizing done with
  | nil => exact earlier
  | cons s rest ih =>
    obtain ⟨kept, whole⟩ := encoded s List.mem_cons_self
    cases rest with
    | nil => exact add_written earlier kept whole true
    | cons r rest =>
      exact ih (add_written earlier kept whole false)
        fun t mem => encoded t (List.mem_cons_of_mem s mem)

/-- The last segment that is read leaves one in the path, even if it stands for nothing. -/
theorem addAll_ne_nil {done list : List Segment} (some : list ≠ []) :
    addAll false done list ≠ [] := by
  induction list generalizing done with
  | nil => exact absurd rfl some
  | cons s rest ih =>
    cases rest with
    | nil =>
      unfold addAll add
      split
      · simp
      · split <;> simp
    | cons r rest => exact ih (List.cons_ne_nil r rest)

theorem addAll_of_written {done list : List Segment} (written : ∀ s ∈ list, s.Written) :
    addAll false done list = done ++ list := by
  induction list generalizing done with
  | nil => exact (List.append_nil done).symm
  | cons s rest ih =>
    obtain ⟨_, _, named, staying⟩ := written s List.mem_cons_self
    have one : ∀ isLast, add false done s isLast = done ++ [s] := by
      intro isLast
      rw [add, staying, named]
      rfl
    cases rest with
    | nil => exact one true
    | cons r rest =>
      rw [addAll, one, ih fun t mem => written t (List.mem_cons_of_mem s mem)]
      · simp
      · simp

end Segment

namespace Url

theorem splitSegments_ne_nil (special : Bool) (s : List Char) : splitSegments special s ≠ [] := by
  induction s with
  | nil => exact List.cons_ne_nil _ _
  | cons c rest ih =>
    unfold splitSegments
    split
    · exact List.cons_ne_nil _ _
    · split <;> exact List.cons_ne_nil _ _

theorem not_separator_of_mem_split {special : Bool} {s part : List Char}
    (mem : part ∈ splitSegments special s) : ∀ c ∈ part, isSeparator special c = false := by
  induction s generalizing part with
  | nil =>
    intro c hc
    have none : part = [] := List.mem_singleton.mp mem
    exact absurd (none ▸ hc) List.not_mem_nil
  | cons d rest ih =>
    unfold splitSegments at mem
    split at mem
    · rcases List.mem_cons.mp mem with rfl | mem
      · intro c hc
        exact absurd hc List.not_mem_nil
      · exact ih mem
    · next plain =>
      split at mem
      · next nil => exact absurd nil (splitSegments_ne_nil special rest)
      · next first more eq =>
        rcases List.mem_cons.mp mem with rfl | mem
        · intro c hc
          rcases List.mem_cons.mp hc with rfl | hc
          · simpa using plain
          · exact ih (eq ▸ List.mem_cons_self) c hc
        · exact ih (eq ▸ List.mem_cons_of_mem first mem)

theorem splitSegments_append {special : Bool} {part : List Char}
    (whole : ∀ c ∈ part, isSeparator special c = false) {s first : List Char}
    {more : List (List Char)} (eq : splitSegments special s = first :: more) :
    splitSegments special (part ++ s) = (part ++ first) :: more := by
  induction part with
  | nil => exact eq
  | cons c part ih =>
    have later := ih fun d mem => whole d (List.mem_cons_of_mem c mem)
    rw [List.cons_append, splitSegments, whole c List.mem_cons_self, later]
    rfl

/-- Written with slashes, segments without separators are told apart again. -/
theorem splitSegments_join {special : Bool} {first : List Char} {more : List (List Char)}
    (whole : ∀ part ∈ first :: more, ∀ c ∈ part, isSeparator special c = false) :
    splitSegments special (first ++ more.flatMap ('/' :: ·)) = first :: more := by
  induction more generalizing first with
  | nil =>
    rw [splitSegments_append (whole first List.mem_cons_self) rfl]
    simp
  | cons next more ih =>
    have later := ih fun part mem => whole part (List.mem_cons_of_mem first mem)
    have cut : splitSegments special ('/' :: (next ++ more.flatMap ('/' :: ·))) =
        [] :: next :: more := by
      rw [splitSegments, later]
      rfl
    rw [List.flatMap_cons, List.cons_append,
      splitSegments_append (whole first List.mem_cons_self) cut]
    simp

theorem readSegments_written (s : List Char) : ∀ t ∈ readSegments .special s, t.Written := by
  apply Segment.addAll_written
  · intro t mem
    exact absurd mem List.not_mem_nil
  · intro t mem
    obtain ⟨part, hpart, rfl⟩ := List.mem_map.mp mem
    have whole := not_separator_of_mem_split hpart
    have escapes : Percent.Escapes fun c => isSeparator true c = false := ⟨by decide, by decide⟩
    exact ⟨Percent.kept_encode Percent.escapes_pathSet part,
      Percent.forall_mem_encode escapes fun c hc _ _ => whole c hc⟩

theorem readSegments_ne_nil (s : List Char) : readSegments .special s ≠ [] :=
  Segment.addAll_ne_nil fun nil =>
    splitSegments_ne_nil true s (List.map_eq_nil_iff.mp nil)

theorem readSegments_join {first : Segment} {more : List Segment}
    (written : ∀ s ∈ first :: more, s.Written) :
    readSegments .special (first ++ more.flatMap ('/' :: ·)) = first :: more := by
  have same : (first :: more).map (Percent.encode Percent.pathSet) = first :: more := by
    have each : ∀ s ∈ first :: more, Percent.encode Percent.pathSet s = id s :=
      fun s mem => Percent.encode_of_kept (written s mem).kept
    rw [List.map_congr_left each, List.map_id]
  have parts : splitSegments true (first ++ more.flatMap ('/' :: ·)) = first :: more :=
    splitSegments_join fun s mem => (written s mem).whole
  change Segment.addAll false [] ((splitSegments true _).map _) = _
  rw [parts, same, Segment.addAll_of_written written]
  rfl

/-- Reading a path gives written segments, at least one. -/
theorem readPath_written (s : List Char) :
    ∃ all, readPath .special s = .segments all ∧ all ≠ [] ∧ ∀ t ∈ all, t.Written := by
  cases s with
  | nil =>
    refine ⟨[[]], rfl, List.cons_ne_nil _ _, ?_⟩
    intro t mem
    exact List.mem_singleton.mp mem ▸ Segment.written_nil
  | cons c rest => exact ⟨_, rfl, readSegments_ne_nil _, readSegments_written _⟩

/-- Written segments are read back. -/
theorem readPath_text {all : List Segment} (some : all ≠ []) (written : ∀ s ∈ all, s.Written) :
    readPath .special (UrlPath.text (.segments all)) = .segments all := by
  obtain ⟨first, more, rfl⟩ := List.exists_cons_of_ne_nil some
  exact congrArg UrlPath.segments (readSegments_join written)

end Url

end RackInventory
