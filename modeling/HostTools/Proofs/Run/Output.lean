import Mathlib
import HostTools.Report.Printer
import HostTools.Run.Status
import HostTools.Proofs.Text.Subparts

set_option autoImplicit false

namespace HostTools

namespace Utf8

theorem lossy_loses_ill_formed_only :
    (∀ bytes, ∃ pieces, (∀ others, Splits bytes others ↔ others = pieces) ∧
      lossy bytes = String.ofList (pieces.map Piece.shown) ∧
      (∀ argv code, (RunFailure.failed argv code bytes).outputText? = some (String.ofList (pieces.map Piece.shown))) ∧
      (∀ success code, (Report.exec success code bytes).json =
        .object [("command", .text "exec"), ("success", .bool success), ("exit_code", .number code),
          ("output", .text (String.ofList (pieces.map Piece.shown)))]) ∧
      ∀ url, (Report.fetch url (some bytes)).json =
        .object [("command", .text "fetch"), ("url", .text url),
          ("body", .text (String.ofList (pieces.map Piece.shown)))]) ∧
    (∀ text, lossy (Bytes.ofText text) = text) ∧
    ∀ (child : Finished) (command : Command) (text : String), child.status.success = false →
      child.stdout = Bytes.ofText text → ∃ failure, child.result command = .error failure ∧
        failure.outputText? = some (text ++ lossy child.stderr) := by
  refine ⟨?_, lossy_of_text, ?_⟩
  · intro bytes
    obtain ⟨pieces, splits, shown⟩ := taken_apart bytes
    have text : lossy bytes = String.ofList (pieces.map Piece.shown) := by rw [lossy, shown]
    refine ⟨pieces, ?_, text, ?_, ?_, ?_⟩
    · intro others
      constructor
      · intro other
        exact splits_unique bytes others pieces other splits
      · rintro rfl
        exact splits
    · intro argv code
      rw [← text]
      rfl
    · intro success code
      rw [← text]
      rfl
    · intro url
      rw [← text]
      rfl
  · intro child command text failed stdout
    refine ⟨_, child.result_failed command failed, ?_⟩
    rw [stdout, ← lossy_text_append]
    rfl

-- A character cut short at the end of the error output is one subpart; a stray octet at its start does not reach back.
theorem lossy_loses_ill_formed_only_joint :
    ∃ failure, Finished.result ⟨⟨256⟩, Bytes.ofText "é", [0xac, 0xe2, 0x82]⟩ ⟨"cat", [], none, none⟩ = .error failure ∧
      failure.outputText? = some ("é" ++ lossy [0xac, 0xe2, 0x82]) ∧
      lossy [0xac, 0xe2, 0x82] = String.ofList [replacement, replacement] := by
  obtain ⟨failure, failed, shown⟩ :=
    lossy_loses_ill_formed_only.2.2 ⟨⟨256⟩, Bytes.ofText "é", [0xac, 0xe2, 0x82]⟩ ⟨"cat", [], none, none⟩ "é" rfl rfl
  exact ⟨failure, failed, shown, by decide⟩

end Utf8

end HostTools
