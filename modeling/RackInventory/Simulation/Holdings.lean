import RackInventory.Simulation.Drafts

/-!
# An inventory for a simulated server

Holdings are the documents of the three collections, as they are served. They need not be documents
that a client understands. The sample is a small consistent inventory: one datacenter with two rooms,
two infrastructures and two racks.
-/

namespace RackInventory

inductive Collection where
  | datacenters
  | infrastructures
  | racks
deriving DecidableEq, Repr

namespace Collection

def all : List Collection := [.datacenters, .infrastructures, .racks]

def name : Collection → String
  | .datacenters => "datacenters"
  | .infrastructures => "infrastructures"
  | .racks => "racks"

end Collection

structure Holdings where
  datacenters : List Json
  infrastructures : List Json
  racks : List Json

namespace Holdings

def empty : Holdings := ⟨[], [], []⟩

def documents (h : Holdings) : Collection → List Json
  | .datacenters => h.datacenters
  | .infrastructures => h.infrastructures
  | .racks => h.racks

instance : Append Holdings where
  append h k := ⟨h.datacenters ++ k.datacenters, h.infrastructures ++ k.infrastructures,
    h.racks ++ k.racks⟩

def mercury : InfrastructureDraft :=
  { name := "mercury"
    description := some "HPC cluster"
    tags := some ["hpc"]
    racks :=
      [⟨"R01",
          [⟨.node, "mecn0001", Preset.node.document "sm220bt", ["compute", "prod"]⟩,
            ⟨.node, "mecn0002", Preset.node.document "sm220bt", ["compute"]⟩,
            ⟨.network, "mesw0001", Preset.switch.document "cisco-x", ["infra"]⟩]⟩,
        ⟨"R02",
          [⟨.node, "megpu0001", Preset.node.document "dgx", ["gpu", "prod"]⟩,
            ⟨.storage, "mestor0001", Preset.storage.document "netapp", []⟩,
            ⟨.misc, "mepdu0001", Preset.misc.document "apc-pdu", ["infra"]⟩]⟩] }

def core : InfrastructureDraft :=
  ⟨"core", none, none, [⟨"R01", [⟨.network, "coresw1", Preset.switch.document "cisco-x", []⟩]⟩]⟩

def paris : DatacenterDraft :=
  { name := "paris"
    tags := some ["tier3"]
    location := some (48.85, 2.35)
    rooms :=
      [⟨"noisy", 10000, 8000, [⟨"A", [("R01", 0.5), ("R02", 0.25)]⟩, ⟨"B", [("R10", 0)]⟩]⟩,
        ⟨"quiet", 5000, 4000, []⟩] }

def sample : Holdings :=
  { datacenters := [paris.document]
    infrastructures := [mercury.document, core.document]
    racks :=
      [RackEntryDraft.document ⟨"R01", "paris", "noisy", 0.5, ["mecn0001", "coresw1"]⟩,
        RackEntryDraft.document ⟨"R02", "paris", "noisy", 0.25, ["megpu0001"]⟩] }

end Holdings

end RackInventory
