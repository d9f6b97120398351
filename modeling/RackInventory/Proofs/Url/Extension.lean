import RackInventory.Proofs.Text.Utf8
import RackInventory.Proofs.Url.Path

/-!
# Adding segments to a path

A text that is added to a path becomes one segment, whatever it holds: separators and percent signs
are encoded, and encoding makes no dots of what is none. Two texts are left out, one dot and two
dots. Tabs and line breaks are dropped, but only after it has been decided whether a text is dots.

A segment that was taken from a path is encoded a second time. Nothing of it is reserved any more
but the percent sign: the second encoding replaces each one by its own escape and leaves the rest
alone.
-/

namespace RackInventory

namespace Segment

def reencoded (s : Segment) : Segment := s.flatMap fun c => if c = '%' then ['%', '2', '5'] else [c]

theorem reencoded_cons (c : Char) (s : Segment) :
    reencoded (c :: s) = (if c = '%' then ['%', '2', '5'] else [c]) ++ reencoded s := rfl

theorem mem_reencoded {s : Segment} {c : Char} (mem : c ∈ reencoded s) :
    c ∈ s ∨ c = '2' ∨ c = '5' := by
  obtain ⟨d, hd, mem⟩ := List.mem_flatMap.mp mem
  split at mem
  · next sign =>
    subst sign
    rcases List.mem_cons.mp mem with rfl | mem
    · exact Or.inl hd
    · exact Or.inr (by simpa using mem)
  · rw [List.mem_singleton.mp mem]
    exact Or.inl hd

theorem five_mem_reencoded {s : Segment} (mem : '%' ∈ s) : '5' ∈ reencoded s :=
  List.mem_flatMap.mpr ⟨'%', mem, by decide⟩

theorem reencoded_of_unmarked {s : Segment} (unmarked : '%' ∉ s) : reencoded s = s := by
  induction s with
  | nil => rfl
  | cons c s ih =>
    rw [List.mem_cons, not_or] at unmarked
    rw [reencoded_cons, if_neg (fun eq => unmarked.1 eq.symm), ih unmarked.2]
    rfl

/-- Each percent sign makes the segment longer. -/
theorem length_reencoded (s : Segment) : (reencoded s).length = s.length + 2 * s.count '%' := by
  induction s with
  | nil => rfl
  | cons c s ih =>
    rw [reencoded_cons, List.length_append, ih, List.length_cons, List.count_cons]
    by_cases sign : c = '%'
    · simp [sign]
      omega
    · simp [sign]
      omega

theorem count_reencoded (s : Segment) : (reencoded s).count '%' = s.count '%' := by
  induction s with
  | nil => rfl
  | cons c s ih =>
    rw [reencoded_cons, List.count_append, ih, List.count_cons]
    by_cases sign : c = '%'
    · simp [sign]
      omega
    · simp [sign]

theorem reencoded_eq_self_iff {s : Segment} : reencoded s = s ↔ '%' ∉ s := by
  constructor
  · intro eq mem
    have length := length_reencoded s
    have present := List.count_pos_iff.mpr mem
    rw [eq] at length
    omega
  · exact reencoded_of_unmarked

theorem reencoded_eq_nil_iff {s : Segment} : reencoded s = [] ↔ s = [] := by
  constructor
  · intro eq
    have length := length_reencoded s
    rw [eq, List.length_nil] at length
    exact List.length_eq_zero_iff.mp (by omega)
  · rintro rfl
    rfl

/-- Encoding once more changes the segments exactly when there is a percent sign in one. -/
theorem map_reencoded_eq_self_iff {all : List Segment} :
    all.map reencoded = all ↔ ∀ s ∈ all, '%' ∉ s := by
  have each : all.map reencoded = all ↔ ∀ s ∈ all, reencoded s = id s := by
    rw [← List.map_inj_left, List.map_id]
  rw [each]
  exact forall₂_congr fun s _ => reencoded_eq_self_iff

theorem marks_map_reencoded (all : List Segment) : marks (all.map reencoded) = marks all := by
  induction all with
  | nil => rfl
  | cons s all ih => rw [List.map_cons, marks_cons, marks_cons, count_reencoded, ih]

theorem Written.unreserved {s : Segment} (h : s.Written) {c : Char} (mem : c ∈ s) :
    Percent.segmentSet true c = decide (c = '%') := by
  have free := (h.kept c mem).2
  have whole := h.whole c mem
  simp only [Url.isSeparator, Bool.or_eq_false_iff, Bool.true_and, beq_eq_false_iff_ne] at whole
  by_cases sign : c = '%' <;> simp [Percent.segmentSet, free, whole, sign]

/-- The second encoding of a segment. -/
theorem encode_written {s : Segment} (h : s.Written) :
    Percent.encode (Percent.segmentSet true) s = reencoded s := by
  have each : ∀ t : Segment, (∀ c ∈ t, c ∈ s) →
      Percent.encode (Percent.segmentSet true) t = reencoded t := by
    intro t part
    induction t with
    | nil => rfl
    | cons c t ih =>
      have mem := part c List.mem_cons_self
      rw [Percent.encode_ascii (h.kept c mem).1, h.unreserved mem,
        ih fun d hd => part d (List.mem_cons_of_mem c hd), reencoded_cons]
      by_cases sign : c = '%'
      · subst sign
        rfl
      · simp [sign]
  exact each s fun _ mem => mem

/-- The second encoding of a segment can stand in a path like the first. -/
theorem written_reencoded {s : Segment} (h : s.Written) : (reencoded s).Written where
  kept c mem := by
    rcases mem_reencoded mem with mem | rfl | rfl
    · exact h.kept c mem
    · decide
    · decide
  whole c mem := by
    rcases mem_reencoded mem with mem | rfl | rfl
    · exact h.whole c mem
    · decide
    · decide
  named := by
    by_cases mark : '%' ∈ s
    · exact (not_dots_of_mem (five_mem_reencoded mark) (by decide)).1
    · rw [reencoded_of_unmarked mark]
      exact h.named
  staying := by
    by_cases mark : '%' ∈ s
    · exact (not_dots_of_mem (five_mem_reencoded mark) (by decide)).2
    · rw [reencoded_of_unmarked mark]
      exact h.staying

/-- The characters that dots are written with, and what becomes one of them in small letters. -/
theorem of_lowerAscii (c : Char) :
    (Host.lowerAscii c = '.' → c = '.') ∧ (Host.lowerAscii c = '%' → c = '%') ∧
      (Host.lowerAscii c = '2' → c = '2') ∧ (Host.lowerAscii c = 'e' → c = 'e' ∨ c = 'E') := by
  have each : ∀ n < 0x80, (Host.lowerAscii (Char.ofNat n) = '.' → Char.ofNat n = '.') ∧
      (Host.lowerAscii (Char.ofNat n) = '%' → Char.ofNat n = '%') ∧
      (Host.lowerAscii (Char.ofNat n) = '2' → Char.ofNat n = '2') ∧
      (Host.lowerAscii (Char.ofNat n) = 'e' → Char.ofNat n = 'e' ∨ Char.ofNat n = 'E') := by decide
  by_cases ascii : c.toNat < 0x80
  · exact Percent.forall_ascii (p := fun c =>
      (Host.lowerAscii c = '.' → c = '.') ∧ (Host.lowerAscii c = '%' → c = '%') ∧
        (Host.lowerAscii c = '2' → c = '2') ∧ (Host.lowerAscii c = 'e' → c = 'e' ∨ c = 'E'))
      each ascii
  · have high : ¬ c ≤ 'Z' := by
      intro le
      have order : c.toNat ≤ 90 := le
      omega
    rw [Host.lowerAscii, if_neg fun upper => high upper.2]
    exact ⟨id, id, id, .inl⟩

/-- A dot is read back, however it is written. -/
theorem decode_dot {s : Segment} (h : s.isDot = true) (rest : List Char) :
    Percent.decode (s ++ rest) = 0x2E :: Percent.decode rest := by
  have texts := List.contains_iff_mem.mp h
  simp only [List.mem_cons, List.not_mem_nil, or_false, List.map_eq_cons_iff,
    List.map_eq_nil_iff] at texts
  rcases texts with ⟨c, _, rfl, dot, rfl⟩ |
    ⟨c, _, rfl, mark, d, _, rfl, two, e, _, rfl, letter, rfl⟩
  · obtain rfl := (of_lowerAscii c).1 dot
    exact Percent.decode_cons_of_ne (by decide) rest
  · obtain rfl := (of_lowerAscii c).2.1 mark
    obtain rfl := (of_lowerAscii d).2.2.1 two
    rcases (of_lowerAscii e).2.2.2 letter with rfl | rfl
    · rfl
    · rfl

theorem dots_of_isDoubleDot {s : Segment} (h : s.isDoubleDot = true) :
    ∃ a b : Segment, s = a ++ b ∧ a.isDot = true ∧ b.isDot = true := by
  have texts : ∀ t ∈ [['.', '.'], ['%', '2', 'e', '.'], ['.', '%', '2', 'e'],
      ['%', '2', 'e', '%', '2', 'e']], ∃ x ∈ [['.'], ['%', '2', 'e']],
        ∃ y ∈ [['.'], ['%', '2', 'e']], t = x ++ y := by decide
  obtain ⟨x, hx, y, hy, eq⟩ := texts _ (List.contains_iff_mem.mp h)
  obtain ⟨a, b, rfl, rfl, rfl⟩ := List.map_eq_append_iff.mp eq
  exact ⟨a, b, rfl, List.contains_iff_mem.mpr hx, List.contains_iff_mem.mpr hy⟩

/-- Encoding makes no dots of a text that is none. -/
theorem not_dots_encode {reserved : Char → Bool} (mark : reserved '%' = true) {text : List Char}
    (plain : text ≠ ['.'] ∧ text ≠ ['.', '.']) :
    isDot (Percent.encode reserved text) = false ∧
      isDoubleDot (Percent.encode reserved text) = false := by
  have read := Percent.decode_encode mark text
  constructor <;> rw [← Bool.not_eq_true] <;> intro dots
  · have one := decode_dot dots []
    rw [List.append_nil, read] at one
    exact plain.1 (Utf8.encode_inj.mp one)
  · -- Each of the two dots can be written in its own way.
    obtain ⟨a, b, eq, first, second⟩ := dots_of_isDoubleDot dots
    have two := decode_dot second []
    rw [List.append_nil] at two
    rw [eq, decode_dot first, two] at read
    exact plain.2 (Utf8.encode_inj.mp read.symm)

/-- A path that is about to get one more segment: a lone empty segment gives way. -/
def opened (path : List Segment) : List Segment := if path = [[]] then [] else path

theorem opened_ne (path : List Segment) : opened path ≠ [[]] := by
  unfold opened
  split
  · exact (List.cons_ne_nil _ _).symm
  · assumption

theorem mem_of_mem_opened {path : List Segment} {s : Segment} (mem : s ∈ opened path) : s ∈ path := by
  unfold opened at mem
  split at mem
  · exact absurd mem List.not_mem_nil
  · exact mem

theorem opened_concat {path : List Segment} {s : Segment} (some : s ≠ []) :
    opened (path ++ [s]) = path ++ [s] := by
  rw [opened, if_neg]
  intro eq
  have last := congrArg List.getLast? eq
  rw [List.getLast?_concat] at last
  exact some (by simpa using last)

/-- An empty segment behind a path gives way. -/
theorem opened_dropEmptyLast {front : List Segment} (h : front ≠ [[]]) :
    opened (dropEmptyLast (front ++ [[]])) = front := by
  by_cases none : front = []
  · subst none
    rfl
  · have long : 1 < (front ++ [[]]).length := by
      have some := List.length_pos_iff.mpr none
      rw [List.length_append, List.length_singleton]
      omega
    rw [dropEmptyLast, if_pos ⟨long, List.getLast?_concat⟩, List.dropLast_concat, opened, if_neg h]

/-- One more segment, for any scheme but that of files. -/
theorem append_shown {path : List Segment} {text : List Char} (special : Bool)
    (plain : text ≠ ['.'] ∧ text ≠ ['.', '.']) {s : Segment}
    (shown : Percent.encode (Percent.segmentSet special) (text.filter (!isIgnored ·)) = s)
    (named : s.isDot = false) (staying : s.isDoubleDot = false) :
    append false special path text = opened path ++ [s] := by
  have dots : ¬(text = ['.'] ∨ text = ['.', '.']) := fun h => h.elim plain.1 plain.2
  rw [append, if_neg dots]
  simp only [shown, addAll, add, named, staying, normalDrive, trimStart, opened]
  rfl

theorem segmentSet_mark (special : Bool) : Percent.segmentSet special '%' = true := by
  cases special <;> rfl

/-- A text without tabs and line breaks that is not dots. -/
theorem append_text {path : List Segment} {text : List Char} (special : Bool)
    (unbroken : ∀ c ∈ text, isIgnored c = false) (plain : text ≠ ['.'] ∧ text ≠ ['.', '.']) :
    append false special path text =
      opened path ++ [Percent.encode (Percent.segmentSet special) text] := by
  have whole : text.filter (!isIgnored ·) = text :=
    List.filter_eq_self.mpr fun c mem => by rw [unbroken c mem]; rfl
  obtain ⟨named, staying⟩ := not_dots_encode (segmentSet_mark special) plain
  exact append_shown special plain (by rw [whole]) named staying

/-- The empty segment that ends a path. -/
theorem append_nil (path : List Segment) (special : Bool) :
    append false special path [] = opened path ++ [[]] :=
  append_text special (fun _ mem => absurd mem List.not_mem_nil) ⟨by decide, by decide⟩

/-- The texts that become segments. -/
def undotted (texts : List (List Char)) : List (List Char) :=
  texts.filter fun text => text ≠ ['.'] ∧ text ≠ ['.', '.']

theorem mem_undotted {texts : List (List Char)} {text : List Char} :
    text ∈ undotted texts ↔ text ∈ texts ∧ text ≠ ['.'] ∧ text ≠ ['.', '.'] := by
  rw [undotted, List.mem_filter, decide_eq_true_eq]

/-- Texts that are added one after the other become segments one after the other. -/
theorem opened_foldl_append {path : List Segment} {texts : List (List Char)} (special : Bool)
    (unbroken : ∀ text ∈ texts, ∀ c ∈ text, isIgnored c = false)
    (full : ∀ text ∈ texts, text ≠ []) :
    opened (texts.foldl (append false special) path) =
      opened path ++ (undotted texts).map (Percent.encode (Percent.segmentSet special)) := by
  induction texts generalizing path with
  | nil => exact (List.append_nil _).symm
  | cons text rest ih =>
    rw [List.foldl_cons, ih (fun t mem => unbroken t (List.mem_cons_of_mem text mem))
      fun t mem => full t (List.mem_cons_of_mem text mem)]
    by_cases plain : text ≠ ['.'] ∧ text ≠ ['.', '.']
    · have some : Percent.encode (Percent.segmentSet special) text ≠ [] := by
        rw [Ne, Percent.encode_eq_nil_iff (segmentSet_mark special)]
        exact full text List.mem_cons_self
      have kept : undotted (text :: rest) = text :: undotted rest :=
        List.filter_cons_of_pos (decide_eq_true plain)
      rw [append_text special (unbroken text List.mem_cons_self) plain, opened_concat some, kept,
        List.map_cons, List.append_assoc, List.singleton_append]
    · have left : undotted (text :: rest) = undotted rest :=
        List.filter_cons_of_neg (mt of_decide_eq_true plain)
      have dots : text = ['.'] ∨ text = ['.', '.'] :=
        Decidable.or_iff_not_imp_left.mpr fun one =>
          Decidable.byContradiction fun two => plain ⟨one, two⟩
      rw [append, if_pos dots, left]

theorem Written.unbroken {s : Segment} (h : s.Written) : ∀ c ∈ s, isIgnored c = false :=
  fun _ mem => not_isIgnored (Url.isVisible_iff.mp (h.visible mem).1).1

theorem Written.plain {s : Segment} (h : s.Written) : s ≠ ['.'] ∧ s ≠ ['.', '.'] := by
  constructor
  · rintro rfl
    exact absurd h.named (by decide)
  · rintro rfl
    exact absurd h.staying (by decide)

theorem append_written {path : List Segment} {s : Segment} (h : s.Written) :
    append false true path s = opened path ++ [reencoded s] := by
  rw [append_text true h.unbroken h.plain, encode_written h]

theorem undotted_written {all : List Segment} (written : ∀ s ∈ all, s.Written) :
    undotted all = all :=
  List.filter_eq_self.mpr fun s mem => decide_eq_true (written s mem).plain

theorem opened_foldl_append_written {path all : List Segment} (written : ∀ s ∈ all, s.Written)
    (full : ∀ s ∈ all, s ≠ []) :
    opened (all.foldl (append false true) path) = opened path ++ all.map reencoded := by
  rw [opened_foldl_append true (fun s mem => (written s mem).unbroken) full,
    undotted_written written, List.map_congr_left fun s mem => encode_written (written s mem)]

theorem kept_encode (text : List Char) :
    Percent.Kept Percent.pathSet (Percent.encode (Percent.segmentSet true) text) ∧
      ∀ c ∈ Percent.encode (Percent.segmentSet true) text, Url.isSeparator true c = false := by
  have free : ∀ c : Char, Percent.segmentSet true c = false →
      Percent.pathSet c = false ∧ Url.isSeparator true c = false := by
    intro c free
    simp_all [Percent.segmentSet, Url.isSeparator]
  exact ⟨Percent.forall_mem_encode Percent.escapes_pathSet
      fun c _ ascii kept => ⟨ascii, (free c kept).1⟩,
    Percent.forall_mem_encode ⟨by decide, by decide⟩ fun c _ _ kept => (free c kept).2⟩

/-- Whatever text is added, the path stays written. -/
theorem written_append {path : List Segment} (written : ∀ s ∈ path, s.Written)
    (text : List Char) : ∀ s ∈ append false true path text, s.Written := by
  intro s mem
  unfold append at mem
  split at mem
  · exact written s mem
  · refine addAll_written ?_ ?_ s mem
    · exact fun t earlier => written t (mem_of_mem_opened earlier)
    · exact fun t added => List.mem_singleton.mp added ▸ kept_encode _

theorem written_foldl_append {path : List Segment} (written : ∀ s ∈ path, s.Written)
    (texts : List (List Char)) : ∀ s ∈ texts.foldl (append false true) path, s.Written := by
  induction texts generalizing path with
  | nil => exact written
  | cons text rest ih => exact ih (written_append written text)

end Segment

/-- Texts and an empty one behind them, added to the path of an address. -/
theorem Url.extended_concat {u : Url} (special : u.kind = .special) (path : List Segment)
    (texts : List (List Char)) :
    u.extended path (texts ++ [[]]) =
      Segment.opened (texts.foldl (Segment.append false true) path) ++ [[]] := by
  rw [Url.extended, special, List.foldl_append]
  exact Segment.append_nil _ true

end RackInventory
