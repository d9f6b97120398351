import Mathlib.Algebra.Group.Nat.Even
import Mathlib.Order.Nat
import RackInventory.Proofs.View.Consistency

/-!
# How a rack came to be expanded or collapsed

One gesture gives a rack that is shown afterwards the state that it had, inverted if the gesture was
to flip it; a rack that had no state had none to invert and starts expanded. While a rack stays
shown its state therefore depends on the number of flips alone, and flips from before the rack came
into sight do not count.
-/

namespace RackInventory

namespace ViewState

def after (first : Loaded Infrastructure) (gestures : List Gesture) (k : Nat) : ViewState :=
  (initial first).run (gestures.take k)

theorem after_settled (first : Loaded Infrastructure) (gestures : List Gesture) (k : Nat) :
    (after first gestures k).Settled :=
  run_settled (initial_settled first) _

theorem run_append (v : ViewState) (before rest : List Gesture) :
    v.run (before ++ rest) = (v.run before).run rest :=
  List.foldl_append

theorem after_succ {first : Loaded Infrastructure} {gestures : List Gesture} {k : Nat}
    (h : k < gestures.length) :
    after first gestures (k + 1) = (after first gestures k).step gestures[k] := by
  rw [after, List.take_succ_eq_append_getElem h, run_append]
  rfl

/-- Two views of one history, the later one reached from the earlier one. -/
theorem after_eq_run {first : Loaded Infrastructure} {gestures : List Gesture} {i j : Nat}
    (h : i ≤ j) :
    after first gestures j = (after first gestures i).run ((gestures.take j).drop i) := by
  have split : gestures.take j = gestures.take i ++ (gestures.take j).drop i := by
    have := (List.take_append_drop i (gestures.take j)).symm
    rwa [List.take_take, Nat.min_eq_left h] at this
  unfold after
  rw [← run_append, ← split]

theorem isExpanded?_eq {v : ViewState} (h : v.Settled) (rack : String) :
    v.arrangement.isExpanded? rack =
      if rack ∈ v.shownRacks then some ((v.arrangement.isExpanded? rack).getD true) else none := by
  by_cases shown : rack ∈ v.shownRacks
  · obtain ⟨expanded, eq⟩ := Option.isSome_iff_exists.mp ((isExpanded?_isSome_iff h).mpr shown)
    rw [if_pos shown, eq]
    rfl
  · rw [if_neg shown, Arrangement.isExpanded?_eq_none_iff, h.known]
    exact shown

theorem isExpanded?_step {v : ViewState} (h : v.Settled) (g : Gesture) (rack : String) :
    (v.step g).arrangement.isExpanded? rack =
      if rack ∈ (v.step g).shownRacks then
        some (if g = .flipRack rack then !(v.arrangement.isExpanded? rack).getD true
          else (v.arrangement.isExpanded? rack).getD true)
      else none := by
  cases g with
  | load source => exact Arrangement.isExpanded?_showing ..
  | refine change => exact Arrangement.isExpanded?_showing ..
  | flipRack flipped =>
    change (v.arrangement.flip flipped).isExpanded? rack = if rack ∈ v.shownRacks then _ else none
    rw [Arrangement.isExpanded?_flip, isExpanded?_eq h rack]
    by_cases same : rack = flipped
    · subst same
      by_cases shown : rack ∈ v.shownRacks <;> simp [shown]
    · have other : Gesture.flipRack flipped ≠ .flipRack rack := by
        intro e
        exact same (Gesture.flipRack.inj e).symm
      by_cases shown : rack ∈ v.shownRacks <;> simp [same, other, shown]
  | reverseRacks => exact isExpanded?_eq h rack
  | flipPanel => exact isExpanded?_eq h rack
  | searchFacets q => exact isExpanded?_eq h rack
  | openType t => exact isExpanded?_eq h rack
  | closeDialog => exact isExpanded?_eq h rack

/-- A rack that comes into sight starts expanded. -/
theorem isExpanded?_step_of_hidden {v : ViewState} (h : v.Settled) {g : Gesture} {rack : String}
    (hidden : rack ∉ v.shownRacks) (shown : rack ∈ (v.step g).shownRacks) :
    (v.step g).arrangement.isExpanded? rack = some true := by
  have unflipped : g ≠ .flipRack rack := by
    rintro rfl
    exact hidden shown
  have unknown : v.arrangement.isExpanded? rack = none := by
    rw [Arrangement.isExpanded?_eq_none_iff, h.known]
    exact hidden
  rw [isExpanded?_step h, if_pos shown, if_neg unflipped, unknown]
  rfl

theorem isExpanded?_initial (source : Loaded Infrastructure) {rack : String}
    (shown : rack ∈ (initial source).shownRacks) :
    (initial source).arrangement.isExpanded? rack = some true := by
  have state := Arrangement.isExpanded?_showing .initial (initial source).shownRacks rack
  rw [if_pos shown, Arrangement.isExpanded?_initial] at state
  exact state

/-- The invariant of a run: as many inversions as there were flips. -/
theorem isExpanded?_run {v : ViewState} (h : v.Settled) {rack : String} {expanded : Bool}
    (now : v.arrangement.isExpanded? rack = some expanded) (gestures : List Gesture)
    (shown : ∀ j ≤ gestures.length, rack ∈ (v.run (gestures.take j)).shownRacks) :
    (v.run gestures).arrangement.isExpanded? rack =
      some (if Even (gestures.count (.flipRack rack)) then expanded else !expanded) := by
  induction gestures generalizing v expanded with
  | nil => simpa [run] using now
  | cons g rest ih =>
    have still : rack ∈ (v.step g).shownRacks := shown 1 (by simp)
    have next := isExpanded?_step h g rack
    rw [if_pos still, now, Option.getD_some] at next
    have later := ih (step_settled h g) next fun j hj => shown (j + 1) (by simpa using hj)
    rw [run_cons, later, List.count_cons]
    by_cases flips : g = .flipRack rack
    · subst flips
      by_cases even : Even (rest.count (.flipRack rack)) <;> simp [even, Nat.even_add_one]
    · simp [flips]

theorem section_of_shown {v : ViewState} (h : v.Settled) {rack : String} {expanded : Bool}
    (now : v.arrangement.isExpanded? rack = some expanded) :
    ∃ s, v.sections.filter (·.rack = rack) = [s] ∧ s.expanded = expanded := by
  have shown : rack ∈ v.shownRacks := (isExpanded?_isSome_iff h).mp (by simp [now])
  refine ⟨v.arrangement.sectionOf v.shown rack, ?_, ?_⟩
  · rw [sections, Arrangement.sections_of_rack]
    exact if_pos shown
  · simp [Arrangement.sectionOf, now]

/-- A rack is shown at the end of a history, and has been since its first `k` gestures. -/
def ShownSince (first : Loaded Infrastructure) (gestures : List Gesture) (rack : String)
    (k : Nat) : Prop :=
  ∀ j, k ≤ j → j ≤ gestures.length → rack ∈ (after first gestures j).shownRacks

/-- When the gestures since which a rack is shown are as many as can be, it was expanded then. -/
theorem isExpanded?_of_isLeast {first : Loaded Infrastructure} {gestures : List Gesture}
    {rack : String} {k : Nat} (least : IsLeast {k | ShownSince first gestures rack k} k)
    (bound : k ≤ gestures.length) :
    (after first gestures k).arrangement.isExpanded? rack = some true := by
  have shown := least.1 k (Nat.le_refl k) bound
  cases k with
  | zero => exact isExpanded?_initial first shown
  | succ j =>
    have hidden : rack ∉ (after first gestures j).shownRacks := by
      intro earlier
      have since : ShownSince first gestures rack j := by
        intro i hi hn
        rcases Nat.eq_or_lt_of_le hi with rfl | hj
        · exact earlier
        · exact least.1 i hj hn
      have := least.2 since
      omega
    rw [after_succ bound] at shown ⊢
    exact isExpanded?_step_of_hidden (after_settled first gestures j) hidden shown

theorem exists_least_shownSince {first : Loaded Infrastructure} {gestures : List Gesture}
    {rack : String} (shown : rack ∈ (after first gestures gestures.length).shownRacks) :
    ∃ k ≤ gestures.length, IsLeast {k | ShownSince first gestures rack k} k := by
  classical
  have now : ShownSince first gestures rack gestures.length := by
    intro j low high
    rwa [Nat.le_antisymm high low]
  have least := Nat.isLeast_find ⟨_, now⟩
  exact ⟨_, least.2 now, least⟩

/-- Only the flips since a rack came into sight count. -/
theorem isExpanded?_of_flips {first : Loaded Infrastructure} {gestures : List Gesture}
    {rack : String} {k : Nat} (least : IsLeast {k | ShownSince first gestures rack k} k)
    (bound : k ≤ gestures.length) :
    (after first gestures gestures.length).arrangement.isExpanded? rack =
      some (decide (Even ((gestures.drop k).count (.flipRack rack)))) := by
  have whole : after first gestures gestures.length =
      (after first gestures k).run (gestures.drop k) := by
    rw [after_eq_run bound, List.take_length]
  have shown : ∀ j ≤ (gestures.drop k).length,
      rack ∈ ((after first gestures k).run ((gestures.drop k).take j)).shownRacks := by
    intro j hj
    rw [List.length_drop] at hj
    have later := least.1 (k + j) (by omega) (by omega)
    rwa [after_eq_run (Nat.le_add_right k j), List.drop_take, Nat.add_sub_cancel_left] at later
  rw [whole, isExpanded?_run (after_settled first gestures k)
    (isExpanded?_of_isLeast least bound) _ shown]
  by_cases even : Even ((gestures.drop k).count (.flipRack rack)) <;> simp [even]

/-- No gesture but its own flip changes the state of a rack while it stays shown. -/
theorem isExpanded?_survives {first : Loaded Infrastructure} {gestures : List Gesture}
    {rack : String} {i j : Nat} (hij : i ≤ j) (hj : j ≤ gestures.length)
    (shown : ∀ m, i ≤ m → m ≤ j → rack ∈ (after first gestures m).shownRacks)
    (unflipped : .flipRack rack ∉ (gestures.take j).drop i) :
    (after first gestures j).arrangement.isExpanded? rack =
      (after first gestures i).arrangement.isExpanded? rack := by
  have start := isExpanded?_eq (after_settled first gestures i) rack
  rw [if_pos (shown i (Nat.le_refl i) hij)] at start
  have between : ∀ m ≤ ((gestures.take j).drop i).length,
      rack ∈ ((after first gestures i).run (((gestures.take j).drop i).take m)).shownRacks := by
    intro m hm
    rw [List.length_drop, List.length_take] at hm
    have later := shown (i + m) (by omega) (by omega)
    rw [after_eq_run (Nat.le_add_right i m)] at later
    rwa [List.take_drop, List.take_take, Nat.min_eq_left (by omega)]
  rw [after_eq_run hij, isExpanded?_run (after_settled first gestures i) start _ between, start,
    List.count_eq_zero.mpr unflipped]
  simp

/-- The flips since a rack last came into sight decide whether it is expanded. Flips before that, and
all other gestures, do not matter. -/
theorem expansion_follows_history (first : Loaded Infrastructure) (gestures : List Gesture)
    (rack : String) :
    (rack ∈ (after first gestures gestures.length).shownRacks →
      ∃ k ≤ gestures.length, IsLeast {k | ShownSince first gestures rack k} k ∧
        ∃ s, (after first gestures gestures.length).sections.filter (·.rack = rack) = [s] ∧
          (s.expanded = true ↔ Even ((gestures.drop k).count (.flipRack rack)))) ∧
    (rack ∉ (after first gestures gestures.length).shownRacks →
      (after first gestures gestures.length).arrangement.isExpanded? rack = none ∧
        (after first gestures gestures.length).sections.filter (·.rack = rack) = []) ∧
    (∀ i j, i ≤ j → j ≤ gestures.length →
      (∀ m, i ≤ m → m ≤ j → rack ∈ (after first gestures m).shownRacks) →
      .flipRack rack ∉ (gestures.take j).drop i →
      (after first gestures j).arrangement.isExpanded? rack =
        (after first gestures i).arrangement.isExpanded? rack) ∧
    (∀ j < gestures.length, rack ∉ (after first gestures j).shownRacks →
      rack ∈ (after first gestures (j + 1)).shownRacks →
      (after first gestures (j + 1)).arrangement.isExpanded? rack = some true) := by
  have final := after_settled first gestures gestures.length
  refine ⟨?_, ?_, fun i j => isExpanded?_survives, ?_⟩
  · intro shown
    obtain ⟨k, bound, least⟩ := exists_least_shownSince shown
    obtain ⟨s, one, expanded⟩ := section_of_shown final (isExpanded?_of_flips least bound)
    exact ⟨k, bound, least, s, one, by rw [expanded, decide_eq_true_eq]⟩
  · intro hidden
    refine ⟨Arrangement.isExpanded?_eq_none_iff.mpr (fun h => hidden ((final.known rack).mp h)), ?_⟩
    rw [sections, Arrangement.sections_of_rack]
    exact if_neg hidden
  · intro j hj hidden shown
    rw [after_succ hj] at shown ⊢
    exact isExpanded?_step_of_hidden (after_settled first gestures j) hidden shown

end ViewState

end RackInventory
