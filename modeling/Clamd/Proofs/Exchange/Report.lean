import Clamd.Exchange
import Clamd.Proofs.Text.Utf8
import Clamd.Proofs.Text.Visible

/-!
# What a report shows

The report of an exchange is shown to people and written to logs, while the reply in it comes from
the other side and may hold anything. It is shown on one line all the same, and its command still
tells what was sent.

* `RunReport.controlFree_text`: a report shows no control characters if there are none in its
  command, whatever its response is;
* `RunReport.Legible` are the frames that can be told from their commands, and
  `RunReport.eq_of_command` tells them;
* `RunReport.shown_faithfully` puts this together with what is said of visible texts.
-/

namespace Clamd.RunReport

open Text

/-- **A report shows no control characters** if its command has none. -/
theorem controlFree_text {r : RunReport} (h : ControlFree r.command) : ControlFree r.text := by
  have harrow : ControlFree " -> " := by simp [ControlFree, isControl]
  have hopening : ControlFree " (" := by simp [ControlFree, isControl]
  have hclosing : ControlFree " ms)" := by simp [ControlFree, isControl]
  exact ((((h.append harrow).append (controlFree_visible r.response)).append hopening).append
    (controlFree_toString r.elapsed.inMillis)).append hclosing

/-- **A legible frame**: it is a text without backslashes. -/
structure Legible (frame : ByteArray) : Prop where
  utf8 : frame.IsValidUTF8
  backslash : '\\'.toUInt8 ∉ frame.data.toList

/-- A legible frame is the bytes of a text without backslashes. -/
theorem Legible.exists_encode {frame : ByteArray} (h : Legible frame) :
    ∃ s : String, frame = Utf8.encode s ∧ '\\' ∉ s.toList := by
  obtain ⟨cs, rfl⟩ := h.utf8
  have hencode : cs.utf8Encode = Utf8.encode (String.ofList cs) := by
    rw [Utf8.encode, String.toUTF8_eq_toByteArray, String.toByteArray_ofList]
  refine ⟨String.ofList cs, hencode, fun hmem => h.backslash ?_⟩
  rw [hencode]
  exact (Utf8.mem_bytes_iff (by decide)).2 hmem

/-- **Legible frames are told by their commands**, whatever was replied to them. -/
theorem eq_of_command {f g : ByteArray} (hf : Legible f) (hg : Legible g)
    {response other : String} {elapsed span : Span}
    (h : (ofExchange f response elapsed).command = (ofExchange g other span).command) : f = g := by
  obtain ⟨s, rfl, hs⟩ := hf.exists_encode
  obtain ⟨t, rfl, ht⟩ := hg.exists_encode
  simp only [ofExchange, Utf8.decodeLenient_encode] at h
  rw [(visible_inj hs ht).1 h]

/-- **Reports are shown safely and faithfully.** The visible form of a text has no control
characters, it is the text itself exactly if the text has none, and it is its own visible form; and
texts without backslashes are known from it. So the report of an exchange is shown on one line
without control characters, whatever was sent and replied, and legible frames of which the same
command is reported are the same. -/
theorem shown_faithfully :
    (∀ s : String, ControlFree (visible s) ∧ (visible s = s ↔ ControlFree s) ∧
      visible (visible s) = visible s) ∧
    (∀ s t : String, '\\' ∉ s.toList → '\\' ∉ t.toList → visible s = visible t → s = t) ∧
    (∀ (frame : ByteArray) (response : String) (elapsed : Span),
      let shown := (ofExchange frame response elapsed).text
      ControlFree shown ∧ pieces (· == '\n') shown.toList = [shown.toList]) ∧
    ∀ (f g : ByteArray) (response other : String) (elapsed span : Span), Legible f → Legible g →
      (ofExchange f response elapsed).command = (ofExchange g other span).command → f = g := by
  refine ⟨fun s => ⟨controlFree_visible s, visible_eq_self_iff, ?_⟩, fun s t hs ht h => ?_,
    fun frame response elapsed => ?_, fun f g response other elapsed span hf hg h => ?_⟩
  · exact visible_eq_self_iff.2 (controlFree_visible s)
  · exact (visible_inj hs ht).1 h
  · have hshown : ControlFree (ofExchange frame response elapsed).text :=
      controlFree_text (controlFree_visible _)
    exact ⟨hshown, hshown.pieces_lineEnd⟩
  · exact eq_of_command hf hg h

/-- A text in which a digit and a brace follow a control character, and the frame of a request
beside the bytes that were sent. -/
theorem shown_faithfully_ping :
    let text := "\x011\x7d"
    let other := String.ofList ['\x01', '1', '}']
    let frame := Request.frame { framing := .null, verb := "PING" }
    let sent : ByteArray := ⟨#[0x7A, 0x50, 0x49, 0x4E, 0x47, 0x00]⟩
    '\\' ∉ text.toList ∧ '\\' ∉ other.toList ∧ visible text = "\\u\x7b1\x7d1\x7d" ∧
      visible text = visible other ∧ text = other ∧ Legible frame ∧ Legible sent ∧
      (ofExchange frame "PONG\x00" {}).command = "zPING\\0" ∧
      (ofExchange frame "PONG\x00" {}).command = (ofExchange sent "" (.ofSeconds 1)).command ∧
      frame = sent := by
  intro text other frame sent
  obtain ⟨-, htexts, -, hframes⟩ := shown_faithfully
  have htext : '\\' ∉ text.toList := by decide
  have hother : '\\' ∉ other.toList := by decide
  have hvisible : visible text = visible other := by decide
  have hframe : Legible frame := ⟨String.isValidUTF8 _, by decide⟩
  have hsent : Legible sent := ⟨⟨"zPING\x00".toList, by decide⟩, by decide⟩
  have hcommand : (ofExchange frame "PONG\x00" {}).command = "zPING\\0" := by decide +kernel
  have hsame : (ofExchange sent "" (.ofSeconds 1)).command = "zPING\\0" := by decide +kernel
  exact ⟨htext, hother, by decide, hvisible, htexts text other htext hother hvisible, hframe, hsent,
    hcommand, hcommand.trans hsame.symm,
    hframes frame sent _ _ _ _ hframe hsent (hcommand.trans hsame.symm)⟩

end Clamd.RunReport
