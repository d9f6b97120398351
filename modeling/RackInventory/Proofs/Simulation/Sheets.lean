import Mathlib.Data.List.Induction
import RackInventory.Simulation.Sheets

/-!
# What a sheet says

A sheet on which entries have been made has the document of a draft. A rack has the items of each
category in the order in which they were entered, whatever was entered in between. An infrastructure
has the description and the tags that were entered last and every rack that was entered, and a
datacenter likewise has its last location, its last tags and every room.

Each entry changes the sheet of a draft into the sheet of the draft that it changes.
-/

namespace RackInventory

namespace Json

variable {name other : String} {v w : Json} {rest : Members}

theorem setMember_of_lt (h : name < other) :
    setMember name v ((other, w) :: rest) = (name, v) :: (other, w) :: rest :=
  if_pos h

theorem setMember_of_gt (h : other < name) :
    setMember name v ((other, w) :: rest) = (other, w) :: setMember name v rest :=
  (if_neg (String.lt_asymm h)).trans (if_pos h)

theorem setMember_self : setMember name v ((name, w) :: rest) = (name, v) :: rest :=
  (if_neg (String.lt_irrefl name)).trans (if_neg (String.lt_irrefl name))

theorem setMember_nil : setMember name v [] = [(name, v)] := rfl

@[simp]
theorem memberOf_none {α : Type} (f : α → Json) : memberOf name f none = [] := rfl

@[simp]
theorem memberOf_some {α : Type} (f : α → Json) (a : α) :
    memberOf name f (some a) = [(name, f a)] :=
  rfl

end Json

namespace RackDraft

def listed (r : RackDraft) (c : EquipmentCategory) : List EquipmentDraft :=
  r.items.filter (·.category = c)

theorem sheet_append (rack : String) (items : List EquipmentDraft) (e : EquipmentDraft) :
    sheet ⟨rack, items ++ [e]⟩ = (sheet ⟨rack, items⟩).enter e :=
  List.foldl_append

theorem sheet_eq (r : RackDraft) :
    r.sheet =
      { rack := r.rack
        nodes := (r.listed .node).map (·.document r.rack)
        network := (r.listed .network).map (·.document r.rack)
        storage := (r.listed .storage).map (·.document r.rack)
        misc := (r.listed .misc).map (·.document r.rack) } := by
  obtain ⟨rack, items⟩ := r
  induction items using List.reverseRecOn with
  | nil => rfl
  | append_singleton items e ih =>
    rw [sheet_append, ih]
    cases category : e.category <;> simp [RackSheet.enter, listed, List.filter_append, category]

theorem document_sheet (r : RackDraft) : r.sheet.document = r.document := by
  rw [sheet_eq]
  rfl

end RackDraft

namespace InfrastructureEntry

def description? : InfrastructureEntry → Option String
  | .description text => some text
  | _ => none

def tags? : InfrastructureEntry → Option (List String)
  | .tags values => some values
  | _ => none

def rack? : InfrastructureEntry → Option RackDraft
  | .rack r => some r
  | _ => none

end InfrastructureEntry

namespace InfrastructureDraft

def ofEntries (name : String) (entries : List InfrastructureEntry) : InfrastructureDraft where
  name := name
  description := (entries.filterMap (·.description?)).getLast?
  tags := (entries.filterMap (·.tags?)).getLast?
  racks := entries.filterMap (·.rack?)

def sheet (d : InfrastructureDraft) : InfrastructureSheet where
  members := Json.memberOf "description" .string d.description ++
    ("name", .string d.name) :: Json.memberOf "tags" .strings d.tags
  layout := d.racks.map (·.document)

def enter (d : InfrastructureDraft) : InfrastructureEntry → InfrastructureDraft
  | .description text => { d with description := some text }
  | .tags tags => { d with tags := some tags }
  | .rack r => { d with racks := d.racks ++ [r] }

theorem enter_sheet (d : InfrastructureDraft) (e : InfrastructureEntry) :
    d.sheet.enter e = (d.enter e).sheet := by
  obtain ⟨name, description, tags, racks⟩ := d
  cases e with
  | description text =>
    cases description <;>
      simp (disch := decide) [sheet, enter, InfrastructureSheet.enter, Json.setMember_of_lt,
        Json.setMember_self]
  | tags values =>
    cases description <;> cases tags <;>
      simp (disch := decide) [sheet, enter, InfrastructureSheet.enter, Json.setMember_of_gt,
        Json.setMember_self, Json.setMember_nil]
  | rack r => simp [sheet, enter, InfrastructureSheet.enter, RackDraft.document_sheet]

theorem ofEntries_append (name : String) (entries : List InfrastructureEntry)
    (e : InfrastructureEntry) :
    ofEntries name (entries ++ [e]) = (ofEntries name entries).enter e := by
  cases e <;>
    simp [ofEntries, enter, InfrastructureEntry.description?, InfrastructureEntry.tags?,
      InfrastructureEntry.rack?]

theorem sheet_ofEntries (name : String) (entries : List InfrastructureEntry) :
    InfrastructureSheet.ofEntries name entries = (ofEntries name entries).sheet := by
  induction entries using List.reverseRecOn with
  | nil => rfl
  | append_singleton entries e ih =>
    rw [ofEntries_append, ← enter_sheet, ← ih]
    exact List.foldl_append

theorem document_sheet (d : InfrastructureDraft) : d.sheet.document = d.document := by
  obtain ⟨name, description, tags, racks⟩ := d
  cases description <;>
    simp (disch := decide) [sheet, document, InfrastructureSheet.document, Json.setMember_of_lt,
      Json.setMember_of_gt]

theorem document_entered (name : String) (entries : List InfrastructureEntry) :
    (InfrastructureSheet.ofEntries name entries).document = (ofEntries name entries).document := by
  rw [sheet_ofEntries, document_sheet]

end InfrastructureDraft

namespace DatacenterEntry

def tags? : DatacenterEntry → Option (List String)
  | .tags values => some values
  | _ => none

def location? : DatacenterEntry → Option (Float × Float)
  | .location latitude longitude => some (latitude, longitude)
  | _ => none

def room? : DatacenterEntry → Option RoomDraft
  | .room r => some r
  | _ => none

end DatacenterEntry

namespace DatacenterDraft

def ofEntries (name : String) (entries : List DatacenterEntry) : DatacenterDraft where
  name := name
  tags := (entries.filterMap (·.tags?)).getLast?
  location := (entries.filterMap (·.location?)).getLast?
  rooms := entries.filterMap (·.room?)

def sheet (d : DatacenterDraft) : DatacenterSheet where
  members := Json.memberOf "location"
      (fun (latitude, longitude) => .location latitude longitude) d.location ++
    ("name", .string d.name) :: Json.memberOf "tags" .strings d.tags
  rooms := d.rooms.map (·.document)

def enter (d : DatacenterDraft) : DatacenterEntry → DatacenterDraft
  | .tags tags => { d with tags := some tags }
  | .location latitude longitude => { d with location := some (latitude, longitude) }
  | .room r => { d with rooms := d.rooms ++ [r] }

theorem enter_sheet (d : DatacenterDraft) (e : DatacenterEntry) :
    d.sheet.enter e = (d.enter e).sheet := by
  obtain ⟨name, tags, location, rooms⟩ := d
  cases e with
  | tags values =>
    cases location <;> cases tags <;>
      simp (disch := decide) [sheet, enter, DatacenterSheet.enter, Json.setMember_of_gt,
        Json.setMember_self, Json.setMember_nil]
  | location latitude longitude =>
    cases location <;>
      simp (disch := decide) [sheet, enter, DatacenterSheet.enter, Json.setMember_of_lt,
        Json.setMember_self]
  | room r => simp [sheet, enter, DatacenterSheet.enter]

theorem ofEntries_append (name : String) (entries : List DatacenterEntry) (e : DatacenterEntry) :
    ofEntries name (entries ++ [e]) = (ofEntries name entries).enter e := by
  cases e <;>
    simp [ofEntries, enter, DatacenterEntry.tags?, DatacenterEntry.location?, DatacenterEntry.room?]

theorem sheet_ofEntries (name : String) (entries : List DatacenterEntry) :
    DatacenterSheet.ofEntries name entries = (ofEntries name entries).sheet := by
  induction entries using List.reverseRecOn with
  | nil => rfl
  | append_singleton entries e ih =>
    rw [ofEntries_append, ← enter_sheet, ← ih]
    exact List.foldl_append

theorem document_sheet (d : DatacenterDraft) : d.sheet.document = d.document := by
  obtain ⟨name, tags, location, rooms⟩ := d
  cases location <;> cases tags <;>
    simp (disch := decide) [sheet, document, DatacenterSheet.document, Json.setMember_of_lt,
      Json.setMember_of_gt, Json.setMember_nil]

theorem document_entered (name : String) (entries : List DatacenterEntry) :
    (DatacenterSheet.ofEntries name entries).document = (ofEntries name entries).document := by
  rw [sheet_ofEntries, document_sheet]

end DatacenterDraft

end RackInventory
