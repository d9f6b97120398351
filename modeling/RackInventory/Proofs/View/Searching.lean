import RackInventory.Proofs.Filter.Matching
import RackInventory.Proofs.Text.Lowering
import RackInventory.View.Basic
import RackInventory.View.Listing

/-!
# What a search text finds

A text and a query are lowered apart from each other, so a query need not be found in a text that has
it as a part, letter by letter: a capital sigma at the end of the query can have one form there and
another one in the text. A query is found in every text that has it as a part exactly when none of
its sigmas can be changed from outside. All that can be searched, the names of items, the facets and
the names in lists, hides what has the query as a part under no other condition.
-/

namespace RackInventory

namespace Lowercase

/-- A query that is decided is found wherever it is written. -/
theorem occursIn_of_decided {s : List Char} (decided : Decided s) (a b : List Char) :
    occursIn (lower s) (lower (a ++ s ++ b)) = true := by
  rw [occursIn_iff, lower_append, lowerBetween_of_decided decided]
  exact ⟨_, _, rfl⟩

theorem count_le_of_occursIn {s t : List Char} (found : occursIn (lower s) (lower t) = true)
    (c : Char) : (lower s).count c ≤ (lower t).count c := by
  obtain ⟨before, after, eq⟩ := occursIn_iff.mp found
  rw [eq, List.count_append, List.count_append]
  omega

theorem meetsCased_letter : meetsCased ['A'] = true := by decide +kernel

/-- A cased letter in front of a query makes an open sigma final, and the form that it has in the
query is missing then. -/
theorem not_occursIn_of_skipped {before after : List Char} (skipped : Skipped before)
    (stopped : meetsCased after = false) :
    ¬ occursIn (lower (before ++ 'Σ' :: after)) (lower (['A'] ++ (before ++ 'Σ' :: after) ++ [])) := by
  intro found
  have skipped := skipped_reverse.mpr skipped
  have fewer := (count_lowerBetween_lt (p := []) (q := ['A']) (t := []) (fun _ => meetsCased_letter) id
    before after (by simp [meetsCased_of_skipped skipped])
    (by simp [meetsCased_append_of_skipped skipped, meetsCased_letter, stopped])).1
  have counts := count_le_of_occursIn found 'σ'
  have first : (lowerBetween [] ['A'] ((before ++ 'Σ' :: after) ++ [])).count 'σ' = 0 := rfl
  rw [lower_append, List.count_append, List.count_append, first, lower_eq_lowerBetween] at counts
  simp only [lowerFrom, List.count_nil, List.reverse_singleton] at counts
  omega

/-- A cased letter behind a query keeps an open sigma from being final. -/
theorem not_occursIn_of_cased {before after : List Char} (cased : meetsCased before.reverse = true)
    (skipped : Skipped after) :
    ¬ occursIn (lower (before ++ 'Σ' :: after)) (lower ([] ++ (before ++ 'Σ' :: after) ++ ['A'])) := by
  intro found
  have fewer := (count_lowerBetween_lt (p := []) (q := []) (t := ['A']) (u := []) id
    (fun _ => meetsCased_letter) before after
    (by simp [meetsCased_append_of_skipped skipped, meetsCased_letter])
    (by simp [cased, meetsCased_of_skipped skipped])).2
  have counts := count_le_of_occursIn found 'ς'
  have last : ∀ p, (lowerFrom p ['A']).count 'ς' = 0 := fun _ => rfl
  rw [lower_append, List.count_append, List.count_append, last, lower_eq_lowerBetween] at counts
  simp only [lowerBetween, List.count_nil, List.reverse_nil] at counts
  omega

/-- The queries that are found wherever they are written are those that are decided. -/
theorem occursIn_iff_decided {s : List Char} :
    (∀ a b, occursIn (lower s) (lower (a ++ s ++ b)) = true) ↔ Decided s := by
  constructor
  · intro found
    rw [decided_iff]
    rintro before after rfl (⟨skipped, stopped⟩ | ⟨cased, skipped⟩)
    · exact not_occursIn_of_skipped skipped stopped (found _ _)
    · exact not_occursIn_of_cased cased skipped (found _ _)
  · exact occursIn_of_decided

end Lowercase

/-- Whether a text has another one as a part, as it is written. -/
def HasPart (text part : String) : Prop := ∃ a b, text = a ++ part ++ b

theorem containsIgnoringCase_iff_decided {query : String} :
    (∀ text, HasPart text query → containsIgnoringCase text query = true) ↔
      Lowercase.Decided query.toList := by
  rw [← Lowercase.occursIn_iff_decided]
  constructor
  · intro found a b
    have here := found _ ⟨String.ofList a, String.ofList b, rfl⟩
    rwa [containsIgnoringCase, String.toList_append, String.toList_append, String.toList_ofList,
      String.toList_ofList] at here
  · rintro found _ ⟨a, b, rfl⟩
    rw [containsIgnoringCase, String.toList_append, String.toList_append]
    exact found a.toList b.toList

/-- Whether a search text hides nothing that has it as a part. -/
structure NeverHides (query : String) : Prop where
  /-- The query is found wherever it is written. -/
  found : ∀ a b, containsIgnoringCase (a ++ query ++ b) query = true
  /-- An item whose name has the query as a part is kept by any criteria that keep it without the
  query. -/
  items : ∀ (c : Criteria) (items : List PlacedItem), ∀ e ∈ items, HasPart e.name query →
    (e ∈ (c.seeking query).select items ↔ e ∈ (c.seeking "").select items)
  /-- A facet that has the query as a part stays, in each of the four lists. -/
  racks : ∀ (f : Facets) (q : FacetQueries), q.racks = query →
    ∀ v ∈ f.racks, HasPart v query → v ∈ (f.restricted q).racks
  equipmentTypes : ∀ (f : Facets) (q : FacetQueries), q.equipmentTypes = query →
    ∀ v ∈ f.equipmentTypes, HasPart v query → v ∈ (f.restricted q).equipmentTypes
  categories : ∀ (f : Facets) (q : FacetQueries), q.categories = query →
    ∀ v ∈ f.categories, HasPart v.key query → v ∈ (f.restricted q).categories
  tags : ∀ (f : Facets) (q : FacetQueries), q.tags = query →
    ∀ v ∈ f.tags, HasPart v query → v ∈ (f.restricted q).tags
  /-- So does a name in a list of datacenters or infrastructures, a room and a rack of a room. -/
  names : ∀ (names : List String), ∀ n ∈ names, HasPart n query → n ∈ matchingNames names query
  rooms : ∀ (d : Datacenter), ∀ r ∈ d.rooms, HasPart r.name query → r.entry ∈ d.roomEntries query
  roomRacks : ∀ (r : Room) (infrastructures : List Infrastructure), ∀ k ∈ r.racks,
    HasPart k.name query → ∃ e ∈ r.rackEntries infrastructures query, e.name = k.name

/-- A search text hides nothing that has it as a part exactly when no sigma of it can be changed from
outside. -/
theorem neverHides_iff_decided (query : String) :
    NeverHides query ↔ Lowercase.Decided query.toList := by
  rw [← containsIgnoringCase_iff_decided]
  constructor
  · rintro hides _ ⟨a, b, rfl⟩
    exact hides.found a b
  · intro found
    refine ⟨fun a b => found _ ⟨a, b, rfl⟩, ?_, ?_, ?_, ?_, ?_, ?_, ?_, ?_⟩
    · intro c items e mem part
      have named := found _ part
      simp only [Criteria.select, List.mem_filter, Criteria.keeps_iff, Criteria.seeking, named, ne_eq,
        implies_true, not_true, false_implies]
    · rintro f q rfl v mem part
      exact List.mem_filter.mpr ⟨mem, found v part⟩
    · rintro f q rfl v mem part
      exact List.mem_filter.mpr ⟨mem, found v part⟩
    · rintro f q rfl v mem part
      exact List.mem_filter.mpr ⟨mem, found v.key part⟩
    · rintro f q rfl v mem part
      exact List.mem_filter.mpr ⟨mem, found v part⟩
    · intro names n mem part
      exact List.mem_filter.mpr ⟨mem, found n part⟩
    · intro d r mem part
      exact List.mem_map_of_mem (List.mem_filter.mpr ⟨mem, found r.name part⟩)
    · intro r infrastructures k mem part
      exact ⟨_, List.mem_map_of_mem (List.mem_filter.mpr ⟨mem, found k.name part⟩), rfl⟩

/-- At the end of a word the sigma is final, alone it is not. -/
theorem final_sigma_not_found : containsIgnoringCase ("Α" ++ "Σ" ++ "") "Σ" = false := by
  decide +kernel

/-- A search text without a capital sigma hides nothing that has it as a part. -/
example : Lowercase.Decided "R-01".toList := Lowercase.decided_of_not_mem (by decide)

end RackInventory
