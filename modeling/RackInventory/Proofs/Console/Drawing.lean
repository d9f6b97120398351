import RackInventory.Console.Execution
import RackInventory.Proofs.Client.Diagrams
import RackInventory.Proofs.Client.Outcomes
import RackInventory.Proofs.Http.Calls

/-!
# Diagrams that are printed, and diagrams in files

A diagram has been received as bytes. In a file it has these bytes, whatever they are. On the
terminal it is a text, with the replacement character for what is ill-formed, so there it has the
bytes that were received exactly when these are the bytes of a text.

The notice that is shown in place of a written diagram is left out, and so are responses without
success.
-/

namespace RackInventory

/-- The bytes of a text, and no others, come through the printing. -/
theorem Utf8.printed_iff {bytes : Bytes} :
    ofString (String.ofList (decodeLossy bytes)) = bytes ↔ ∃ text, ofString text = bytes := by
  constructor
  · intro same
    exact ⟨_, same⟩
  · rintro ⟨text, rfl⟩
    rw [ofString, String.toList_ofList, ofString, decodeLossy_encode]

namespace Client

variable {r : Response} {bytes : Bytes} (resource : String)

theorem judgeDiagram_of_body (success : Response.isSuccess r.status = true)
    (body : r.body = some bytes) :
    judgeDiagram resource (some r) = .ok ⟨mediaTypeOf r, bytes⟩ := by
  rw [judgeDiagram, bodyOf_of_body resource success body]
  rfl

end Client

namespace Command

open Call

def drawRequest (client : Client) (kind : DiagramSubject) (name : String) : Request :=
  ⟨.post, client.diagramUrl kind name, some Client.agent⟩

section Drawing

variable {σ : Type} {w : World σ} {s s' : σ} {client : Client} {kind : DiagramSubject}
  {name : String} {r : Response} {bytes : Bytes}
  (web : client.base.isWeb = true)
  (served : w.serve s (drawRequest client kind name) = (some r, s'))
  (success : Response.isSuccess r.status = true) (body : r.body = some bytes)

include web served success body

/-- A diagram that has been received. -/
theorem runIn_diagram :
    runIn w ((client.diagram kind name).within ("Failed to draw " ++ name)) s =
      (.ok ⟨Client.mediaTypeOf r, bytes⟩, s') := by
  have reached : w.follow s (drawRequest client kind name) = (some r, s') :=
    World.follow_of_stays served (Response.redirects_of_success success)
  rw [drawRequest] at reached
  rw [within, runIn_mapError, Client.diagram_eq web, runIn_judged, reached,
    Client.judgeDiagram_of_body _ success body]
  rfl

theorem runIn_printed :
    runIn w (execute client (.draw kind name none)) s =
      (.ok (String.ofList (Utf8.decodeLossy bytes)), s') := by
  rw [execute, runIn_bind_of_ok (runIn_diagram web served success body)]
  exact runIn_pure ..

theorem runIn_written {path : String} {s'' : σ}
    (stored : w.store s' path bytes = (.ok (), s'')) :
    ∃ notice, runIn w (execute client (.draw kind name (some path))) s = (.ok notice, s'') := by
  have saved : ∀ failed : FileError → Failure, runIn w (save path bytes failed) s' = (.ok (), s'') := by
    intro failed
    rw [runIn_save, stored]
    rfl
  rw [execute, runIn_bind_of_ok (runIn_diagram web served success body)]
  dsimp only
  rw [runIn_bind_of_ok (saved _)]
  exact ⟨_, runIn_pure ..⟩

theorem runIn_unwritten {path : String} {e : FileError} {s'' : σ}
    (refused : w.store s' path bytes = (.error e, s'')) :
    runIn w (execute client (.draw kind name (some path))) s =
      (.error ⟨["Failed to write " ++ path, e.message], none⟩, s'') := by
  have failed : runIn w (save path bytes fun e =>
      (⟨["Failed to write " ++ path, e.message], none⟩ : Failure)) s' =
      (.error ⟨["Failed to write " ++ path, e.message], none⟩, s'') := by
    rw [runIn_save, refused]
    rfl
  rw [execute, runIn_bind_of_ok (runIn_diagram web served success body)]
  dsimp only
  rw [runIn_bind_of_error failed]

/-- A diagram that has been received is printed as a text. The text has the bytes that were received
exactly when these are the bytes of some text. In a file the diagram has the bytes that were received,
whatever they are; if it cannot be written there, the command fails. -/
theorem printed_and_written {files : σ → Files} (keeps : w.KeepsFiles files) :
    (∃ printed, runIn w (execute client (.draw kind name none)) s = (.ok printed, s') ∧
      files s' = files s ∧
      (Utf8.ofString printed = bytes ↔ ∃ text, Utf8.ofString text = bytes)) ∧
    ∀ path,
      (∀ tree, (files s).write path bytes = .ok tree →
        ∃ notice after,
          runIn w (execute client (.draw kind name (some path))) s = (.ok notice, after) ∧
          files after = tree ∧ tree.bytes? path = some bytes) ∧
      (∀ e, (files s).write path bytes = .error e →
        ∃ after, runIn w (execute client (.draw kind name (some path))) s =
          (.error ⟨["Failed to write " ++ path, e.message], none⟩, after) ∧
          files after = files s) := by
  have same : files s' = files s := by
    have unchanged := keeps.served s (drawRequest client kind name)
    rwa [served] at unchanged
  refine ⟨⟨_, runIn_printed web served success body, same, Utf8.printed_iff⟩, ?_⟩
  intro path
  constructor
  · intro tree written
    obtain ⟨done, kept⟩ := keeps.stored s' path bytes tree (same ▸ written)
    obtain ⟨notice, ended⟩ := runIn_written web served success body (Prod.ext done rfl)
    exact ⟨notice, _, ended, kept, Files.bytes?_write written⟩
  · intro e failed
    obtain ⟨refused, kept⟩ := keeps.refused s' path bytes e (same ▸ failed)
    exact ⟨_, runIn_unwritten web served success body (Prod.ext refused rfl), kept.trans same⟩

end Drawing

namespace Sample

def client : Client := ⟨⟨"http".toList, some ⟨[], ['h'], none⟩, false, .segments [[]], none, none⟩⟩

def playback (bytes : Bytes) : Playback :=
  ⟨['h'], [some { status := 200, mediaType := none, body := some bytes }], [], []⟩

def answered (name : String) : Playback := ⟨['h'], [], [drawRequest client .room name], []⟩

theorem accents_printed_and_written :
    (∃ printed, (runIn Playback.world (execute client (.draw .room "a" none))
        (playback (Utf8.ofString "<é/>"))).1 = .ok printed ∧
      Utf8.ofString printed = Utf8.ofString "<é/>") ∧
    ∃ notice after, runIn Playback.world (execute client (.draw .room "a" (some "d.svg")))
        (playback (Utf8.ofString "<é/>")) = (.ok notice, after) ∧
      after.files.bytes? "d.svg" = some (Utf8.ofString "<é/>") := by
  have served : Playback.world.serve (playback (Utf8.ofString "<é/>"))
      (drawRequest client .room "a") =
        (some { status := 200, mediaType := none, body := some (Utf8.ofString "<é/>") },
          answered "a") := rfl
  obtain ⟨⟨printed, ended, _, same⟩, written⟩ :=
    printed_and_written (by decide) served (by decide) rfl Playback.keepsFiles
  obtain ⟨notice, after, done, kept, found⟩ := (written "d.svg").1 _ rfl
  exact ⟨⟨printed, by rw [ended], same.mpr ⟨_, rfl⟩⟩, notice, after, done, kept ▸ found⟩

/-- Three bytes, the second of which begins no character. -/
def noise : Bytes := [0x3C, 0xFF, 0x73]

/-- What is printed has other bytes than what was received and is written. -/
theorem noise_printed_otherwise :
    (∃ after, runIn Playback.world (execute client (.draw .room "noisy" none)) (playback noise) =
      (.ok "<\uFFFDs", after)) ∧
    Utf8.ofString "<\uFFFDs" ≠ noise ∧
    ∃ notice after, runIn Playback.world (execute client (.draw .room "noisy" (some "d.svg")))
        (playback noise) = (.ok notice, after) ∧
      after.files.bytes? "d.svg" = some noise := by
  have served : Playback.world.serve (playback noise) (drawRequest client .room "noisy") =
      (some { status := 200, mediaType := none, body := some noise }, answered "noisy") := rfl
  have text : String.ofList (Utf8.decodeLossy noise) = "<\uFFFDs" := by
    simp [Utf8.decodeLossy, noise, Utf8.pieces, Utf8.step, Utf8.lead]
  have printed := runIn_printed (by decide) served (by decide) rfl
  have saved : (answered "noisy").files.write "d.svg" noise =
      .ok (Files.holding [] ["d.svg".toList] noise) := rfl
  obtain ⟨after, stored, found⟩ : ∃ after,
      Playback.world.store (answered "noisy") "d.svg" noise = (.ok (), after) ∧
        after.files.bytes? "d.svg" = some noise := by
    obtain ⟨done, kept⟩ := Playback.keepsFiles.stored _ _ _ _ saved
    exact ⟨_, Prod.ext done rfl, kept.symm ▸ Files.bytes?_write saved⟩
  obtain ⟨notice, ended⟩ := runIn_written (by decide) served (by decide) rfl stored
  exact ⟨⟨_, text ▸ printed⟩, by decide, notice, after, ended, found⟩

end Sample

end Command

end RackInventory
