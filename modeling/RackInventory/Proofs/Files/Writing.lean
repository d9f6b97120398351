import RackInventory.Files
import RackInventory.Proofs.Shape.Members

/-!
# A file that has been written is there

Writing a file changes what is at one place, which was no directory. Every directory of the tree
stays one, so the path leads to that place afterwards as it did before, and what is found there are
the bytes that were written. Other files are left out here.
-/

namespace RackInventory.Files

variable {files : Files} {place : Place}

/-- The tree with a file at a place. -/
def holding (files : Files) (place : Place) (bytes : Bytes) : Files :=
  (place, .file bytes) :: files.filter (·.1 ≠ place)

theorem lookup_holding_of_ne {other : Place} (ne : other ≠ place) (bytes : Bytes) :
    (files.holding place bytes).lookup other = files.lookup other := by
  have head : (other == place) = false := beq_false_of_ne ne
  rw [holding, List.lookup_cons, head]
  induction files with
  | nil => rfl
  | cons f files ih =>
    by_cases here : f.1 = place
    · have apart : (other == f.1) = false := by rw [here, head]
      rw [List.filter_cons_of_neg (by simpa using here), List.lookup_cons, apart]
      exact ih
    · rw [List.filter_cons_of_pos (by simpa using here), List.lookup_cons, List.lookup_cons]
      cases other == f.1 with
      | true => rfl
      | false => exact ih

theorem entry?_holding_self (bytes : Bytes) :
    entry? (files.holding place bytes) place = some (.file bytes) := by
  have found : (files.holding place bytes).lookup place = some (.file bytes) := by
    rw [holding, List.lookup_cons, beq_self_eq_true]
  rw [ entry?, found]

/-- What is on the way to something is still on the way to it, or to the file in its place. -/
theorem any_holding {dir : Place} (bytes : Bytes)
    (onWay : files.any (fun f => dir.isPrefixOf f.1) = true) :
    (files.holding place bytes).any (fun f => dir.isPrefixOf f.1) = true := by
  obtain ⟨f, mem, here⟩ := List.any_eq_true.mp onWay
  rw [List.any_eq_true]
  by_cases same : f.1 = place
  · exact ⟨_, List.mem_cons_self, same ▸ here⟩
  · exact ⟨f, List.mem_cons_of_mem _ (List.mem_filter.mpr ⟨mem, by simpa using same⟩), here⟩

/-- A place without an entry is a directory when it is on the way to something. -/
theorem entry?_of_lookup_none {dir : Place} (none : files.lookup dir = none) :
    files.entry? dir = some .directory ↔
      dir.isEmpty ∨ dir = root ∨ files.any (fun f => dir.isPrefixOf f.1) := by
  rw [ entry?, none]
  exact Option.ite_none_right_eq_some.trans (and_iff_left rfl)

theorem directory_holding (free : files.entry? place ≠ some .directory) {dir : Place}
    (found : files.entry? dir = some .directory) (bytes : Bytes) :
    entry? (files.holding place bytes) dir = some .directory := by
  have apart : dir ≠ place := by
    rintro rfl
    exact free found
  have same : (files.holding place bytes).lookup dir = files.lookup dir :=
    lookup_holding_of_ne apart bytes
  cases known : files.lookup dir with
  | some e =>
    rw [known] at same
    rw [ entry?, known] at found
    rw [ entry?, same]
    exact found
  | none =>
    rw [known] at same
    rw [entry?_of_lookup_none known] at found
    rw [entry?_of_lookup_none same]
    exact found.imp_right (Or.imp_right (any_holding bytes))

/-- Whatever a path led to, it leads to it still. -/
theorem walk_holding (free : files.entry? place ≠ some .directory) (bytes : Bytes) {start : Place}
    {names : List (List Char)} {place' : Place} (way : files.walk start names = .ok place') :
    (files.holding place bytes).walk start names = .ok place' := by
  induction names generalizing start with
  | nil => exact way
  | cons name names ih =>
    rw [walk] at way ⊢
    cases found : files.entry? start with
    | none => rw [found] at way; cases way
    | some e =>
      rw [found] at way
      cases e with
      | file _ => cases way
      | directory =>
        rw [directory_holding free found]
        dsimp only at way ⊢
        split at way
        · cases way
        · next short =>
          rw [if_neg short]
          exact ih way

theorem split_ne_nil (c : Char) (s : List Char) : Form.split c s ≠ [] := by
  cases s with
  | nil => exact List.cons_ne_nil _ _
  | cons d s =>
    unfold Form.split
    split
    · exact List.cons_ne_nil _ _
    · split <;> exact List.cons_ne_nil _ _

/-- A path that does not mean a directory ends with a name. -/
theorem trimmed_names {path : String} (file : namesDirectory path = false) :
    ((names path).reverse.dropWhile (·.isEmpty)).reverse = names path := by
  obtain ⟨front, last, eq⟩ := (List.eq_nil_or_concat (names path)).resolve_left (split_ne_nil _ _)
  rw [List.concat_eq_append] at eq
  have filled : last.isEmpty = false := by
    rw [namesDirectory, eq, List.getLast?_concat] at file
    cases last with
    | nil => simp at file
    | cons c last => rfl
  rw [eq, List.reverse_concat, List.dropWhile_cons_of_neg (by simp [filled]), List.reverse_cons,
    List.reverse_reverse]

/-- What writing a file does, if it succeeds. -/
theorem write_eq_ok {path : String} {bytes : Bytes} {tree : Files}
    (written : files.write path bytes = .ok tree) :
    (path.isEmpty || hasNull path || isTooLong path) = false ∧
      ∃ place, files.walk (startOf path) (names path) = .ok place ∧
        files.entry? place ≠ some .directory ∧ tree = files.holding place bytes := by
  unfold write at written
  split at written
  · cases written
  next filled =>
  split at written
  · cases written
  next clean =>
  split at written
  · cases written
  next short =>
  refine ⟨by simp [filled, clean, short], ?_⟩
  obtain ⟨place, way, put⟩ := bind_eq_ok_iff.mp written
  split at put
  · cases put
  next file =>
  obtain ⟨named, free⟩ := not_or.mp file
  rw [trimmed_names (eq_false_of_ne_true named)] at way
  cases put
  exact ⟨place, way, free, rfl⟩

theorem bytes?_write {path : String} {bytes : Bytes} {tree : Files}
    (written : files.write path bytes = .ok tree) : tree.bytes? path = some bytes := by
  obtain ⟨possible, place, way, free, rfl⟩ := write_eq_ok written
  rw [bytes?, find?, possible]
  simp only [Bool.false_eq_true, if_false, walk_holding free bytes way, entry?_holding_self]

end RackInventory.Files
