import Clamd.Proofs.Client.CutOff
import Clamd.Proofs.Client.Snapshot
import Clamd.Proofs.CommandLine.Number
import Clamd.Proofs.Toml.Document
import Clamd.Settings.Load

/-!
# Where chunk sizes are checked

A chunk size has to be positive and to fit the header of a chunk. It is checked in four places: on
the command line, when settings are loaded, before a connection for an upload is made, and before
the first chunk. Zero is refused in all of them. A size that is too great for the header is refused
on the command line and before the first chunk only, that is after the request has gone over the
connection.

* `Settings.ofToml_chunkSize` says what becomes of a document that sets the chunk size;
* `Upload.isOk_send_iff` says which uploads from a steady source succeed;
* `Client.exchangeUpload_of_tooGreat` says how an upload in chunks that are too great goes;
* `Client.chunkSize_checks` puts the four places side by side, for every number of 64 bits, and
  `Client.chunkSize_checks_disagree` is a number on which they disagree.
-/

namespace Clamd

/-! ### Settings -/

namespace Settings

/-- **A document that sets the chunk size.** The number has to be positive and to fit 64 bits with a
sign; whether it fits the header of a chunk does not matter. -/
theorem ofToml_chunkSize (n : Nat) :
    ofToml (Field.chunkSize.name ++ " = " ++ toString n) =
      if n < Word.end63 then
        if n = 0 then .error .emptyChunks else .ok { chunkSize := n }
      else .error .syntaxError := by
  have hkey : Toml.IsBareWord Field.chunkSize.name.toList := by decide +kernel
  rw [ofToml, Toml.Document.parse_number hkey]
  by_cases hn : n < Word.end63
  · have hrange : (0 : Int) ≤ n ∧ (n : Int) ≤ Range.size.top := by
      have hend : Word.end63 ≤ Range.size.top := by decide
      omega
    have htake : take {} Field.chunkSize.name (.integer n) = .ok { chunkSize := n } := by
      rw [take, show Field.ofName? Field.chunkSize.name = some .chunkSize by decide +kernel]
      simp only [readNumber, if_pos hrange, Int.toNat_natCast]
      rfl
    have hentries : ofEntries [(Field.chunkSize.name, .integer n)] = .ok { chunkSize := n } := by
      rw [ofEntries, List.foldlM_cons, htake]
      rfl
    simp only [if_pos hn, hentries, Except.bind, check]
  · simp only [if_neg hn]

/-- Settings of a document have no empty chunks. -/
theorem one_le_chunkSize {text : String} {s : Settings} (h : ofToml text = .ok s) :
    1 ≤ s.chunkSize := by
  rw [ofToml] at h
  split at h
  · cases h
  next entries _ =>
    rcases hentries : ofEntries entries with problem | t
    · rw [hentries] at h
      cases h
    · rw [hentries, Except.bind, check] at h
      split at h
      · cases h
      next hne =>
        cases h
        exact Nat.one_le_iff_ne_zero.2 hne

end Settings

/-! ### Uploads -/

/-- **An upload from a steady source** to a sink that takes everything succeeds exactly if its chunk
size fits the header of a chunk. -/
theorem Upload.isOk_send_iff {n : Nat} {source : Source} {sink : Sink} (hsteady : source.Steady)
    (hending : source.ending = none) (hsink : sink.AcceptsAll) :
    (∃ total, (send n source sink).result = .ok total) ↔ 1 ≤ n ∧ n < Word.end32 := by
  constructor
  · rintro ⟨total, htotal⟩
    by_contra hvalid
    rw [send_of_invalid (mt isValidSize_iff.1 hvalid)] at htotal
    cases htotal
  · rintro ⟨hpos, hfit⟩
    obtain ⟨pieces, left, hyields, -⟩ := hsteady.exists_yields hpos hending
    exact ⟨_, (send_of_yields hpos hfit hyields hsink).1⟩

namespace Client

variable {c : Client} {net : Network} {frame : ByteArray} {payload : Payload} {s : Session}
  {connection : Connection}

/-- **An upload in chunks that are too great for their header.** The connection is made and the
frame goes over it; only then the upload is refused, and nothing is read from its source. -/
theorem exchangeUpload_of_tooGreat (hsize : Word.end32 ≤ payload.chunkSize)
    (hhost : c.hasUsableHost = true)
    (hmet : net s.contacts.length (.exchange frame (some payload)) = .ok connection)
    (hframe : connection.outgoing.room frame.size = frame.size) :
    c.exchangeUpload net frame payload s =
      (.error (.communication (.chunkSize payload.chunkSize)),
        s.record (.exchange frame (some payload))
          (.ok { connection with outgoing := connection.outgoing.append frame })) := by
  have hne : payload.chunkSize ≠ 0 := by
    have : 0 < Word.end32 := by decide
    omega
  have hinvalid : ¬ Chunk.isValidSize payload.chunkSize = true := by
    rw [Upload.isValidSize_iff]
    omega
  have hupload : Connection.writeUpload (some payload)
      { connection with outgoing := connection.outgoing.append frame } =
        (.error (.chunkSize payload.chunkSize),
          { connection with outgoing := connection.outgoing.append frame }) := by
    simp only [Connection.writeUpload, Upload.send_of_invalid hinvalid]
    rfl
  -- a chunk size that is refused is no hang-up, so no reply is waited for
  have hconverse : connection.converse frame (some payload) =
      (.error (.chunkSize payload.chunkSize),
        { connection with outgoing := connection.outgoing.append frame }) := by
    rw [Connection.converse, Sink.writeAll_of_room hframe]
    simp only [hupload]
    rfl
  rw [exchangeUpload, if_neg hne, exchange, if_pos hhost]
  simp only [hmet, hconverse]

/-- **A source that is scanned in chunks that are too great** fails in the same way. -/
theorem scanSource_of_tooGreat {source : Source} (hsize : Word.end32 ≤ c.chunkSize)
    (hhost : c.hasUsableHost = true)
    (hmet : net s.contacts.length (.exchange Command.stream.request.frame
      (some { source, chunkSize := c.chunkSize })) = .ok connection)
    (hframe : connection.outgoing.room Command.stream.request.frame.size =
      Command.stream.request.frame.size) :
    c.scanSource net source s =
      (.error (.communication (.chunkSize c.chunkSize)),
        s.record (.exchange Command.stream.request.frame
            (some { source, chunkSize := c.chunkSize }))
          (.ok { connection with
            outgoing := connection.outgoing.append Command.stream.request.frame })) := by
  rw [scanSource, scanPayload_eq, exchangeUpload_of_tooGreat hsize hhost hmet hframe]
  rfl

/-! ### All places together -/

/-- **Where chunk sizes are checked.** Let `n` be a number of 64 bits.

* The command line takes `n`, if it is positive and fits the header of a chunk, and nothing but `n`.
* An upload from a steady source to a sink that takes everything succeeds for the same numbers. For
  all others it is refused before anything is read or written, whatever the source and the sink are.
* A document gives settings with `n` for the chunk size, if it is positive and TOML has a number for
  it. The settings of any document have a positive chunk size. If it does not fit the header, a
  source that is scanned with them is not uploaded, although the request has been sent.
* An exchange with an upload in chunks of no bytes is refused before an attempt to connect. One in
  chunks that are too great for the header is refused when the frame has been sent. -/
theorem chunkSize_checks {n : Nat} (hn : n < Word.end64) :
    (∀ m, CommandLine.Kind.readChunkSize (toString n) = .ok m ↔
        (1 ≤ n ∧ n < Word.end32) ∧ m = n) ∧
      (∀ source sink, Source.Steady source → source.ending = none → Sink.AcceptsAll sink →
        ((∃ total, (Upload.send n source sink).result = .ok total) ↔ 1 ≤ n ∧ n < Word.end32)) ∧
      (¬ (1 ≤ n ∧ n < Word.end32) → ∀ source sink,
        Upload.send n source sink = { result := .error (.chunkSize n), source, sink }) ∧
      (∀ loaded, Settings.ofToml (Settings.Field.chunkSize.name ++ " = " ++ toString n) =
          .ok loaded ↔ (1 ≤ n ∧ n < Word.end63) ∧ loaded = { chunkSize := n }) ∧
      (∀ text loaded, Settings.ofToml text = .ok loaded →
        1 ≤ loaded.chunkSize ∧
        ∀ (net : Network) (source : Source) (s : Session) (connection : Connection),
          let frame := Command.stream.request.frame
          let errand := .exchange frame (some { source, chunkSize := loaded.chunkSize })
          Word.end32 ≤ loaded.chunkSize → loaded.client.hasUsableHost = true →
          net s.contacts.length errand = .ok connection →
          connection.outgoing.room frame.size = frame.size →
          loaded.client.scanSource net source s =
            (.error (.communication (.chunkSize loaded.chunkSize)),
              s.record errand
                (.ok { connection with outgoing := connection.outgoing.append frame }))) ∧
      ∀ (c : Client) (net : Network) (frame : ByteArray) (source : Source) (s : Session),
        let payload : Payload := { source, chunkSize := n }
        (n = 0 → c.exchangeUpload net frame payload s = (.error (.communication .emptyChunks), s)) ∧
        ∀ connection, Word.end32 ≤ n → c.hasUsableHost = true →
          net s.contacts.length (.exchange frame (some payload)) = .ok connection →
          connection.outgoing.room frame.size = frame.size →
          c.exchangeUpload net frame payload s =
            (.error (.communication (.chunkSize n)),
              s.record (.exchange frame (some payload))
                (.ok { connection with outgoing := connection.outgoing.append frame })) := by
  refine ⟨CommandLine.Kind.readChunkSize_toString hn, fun _ _ => Upload.isOk_send_iff, ?_, ?_, ?_,
    ?_⟩
  · intro hsize source sink
    exact Upload.send_of_invalid (mt Upload.isValidSize_iff.1 hsize) sink
  · intro loaded
    rw [Settings.ofToml_chunkSize]
    split
    next hfits =>
      split
      next hzero => simp [hzero]
      next hpos =>
        rw [Except.ok.injEq, and_iff_right ⟨Nat.one_le_iff_ne_zero.2 hpos, hfits⟩, eq_comm]
    next hfits => simp [hfits]
  · -- settings are checked for empty chunks only
    intro text loaded hloaded
    refine ⟨Settings.one_le_chunkSize hloaded, fun net source s connection => ?_⟩
    intro frame errand hsize hhost hmet hframe
    exact scanSource_of_tooGreat hsize hhost hmet hframe
  · intro c net frame source s payload
    exact ⟨fun hzero => exchangeUpload_of_empty hzero, fun _ hsize hhost hmet hframe =>
      exchangeUpload_of_tooGreat hsize hhost hmet hframe⟩

/-- Chunks of one byte, of none, and of one byte more than their header can tell. -/
theorem chunkSize_checks_bounds :
    let c : Client := { host := "localhost", port := 3310, style := .unix, chunkSize := 1 }
    let frame := Command.stream.request.frame
    let source : Source := { bytes := ⟨#[1, 2, 3]⟩ }
    let payload (n : Nat) : Payload := { source, chunkSize := n }
    let upload (n : Nat) := c.exchangeUpload (fun _ _ => .ok {}) frame (payload n) {}
    (1 < Word.end64 ∧ 0 < Word.end64 ∧ Word.end32 < Word.end64) ∧
      CommandLine.Kind.readChunkSize (toString 1) = .ok 1 ∧
      (∃ total, (Upload.send 1 source {}).result = .ok total) ∧
      Settings.ofToml (Settings.Field.chunkSize.name ++ " = " ++ toString 1) =
        .ok { chunkSize := 1 } ∧
      Upload.send 0 source {} = { result := .error (.chunkSize 0), source, sink := {} } ∧
      upload 0 = (.error (.communication .emptyChunks), {}) ∧
      upload Word.end32 = (.error (.communication (.chunkSize Word.end32)),
        Session.record {} (.exchange frame (some (payload Word.end32)))
          (.ok { outgoing := { received := .empty ++ frame } })) := by
  intro c frame source payload upload
  have hone : 1 < Word.end64 := by decide
  have hnone : 0 < Word.end64 := by decide
  have hgreat : Word.end32 < Word.end64 := by decide
  have hhost : c.hasUsableHost = true := by decide
  obtain ⟨hargument, hsent, -, hsettings, -, -⟩ := chunkSize_checks hone
  obtain ⟨-, -, hrefused, -, -, hempty⟩ := chunkSize_checks hnone
  obtain ⟨-, -, -, -, -, htooGreat⟩ := chunkSize_checks hgreat
  refine ⟨⟨hone, hnone, hgreat⟩, (hargument 1).2 ⟨by decide, rfl⟩,
    (hsent source {} nofun rfl ⟨rfl, rfl⟩).2 (by decide), (hsettings _).2 ⟨by decide, rfl⟩,
    hrefused (by decide) source {}, (hempty c _ frame source {}).1 rfl, ?_⟩
  exact (htooGreat c _ frame source {}).2 {} (Nat.le_refl _) hhost rfl rfl

/-- **A number on which the places disagree**: it is refused on the command line, but settings are
loaded with it. With these settings the request of an upload is sent, and then the upload is
refused. -/
theorem chunkSize_checks_disagree :
    let settings : Settings := { chunkSize := 4294967296 }
    let frame := Command.stream.request.frame
    let source : Source := { bytes := ⟨#[1, 2, 3]⟩ }
    let x := settings.client.scanSource (fun _ _ => .ok {}) source {}
    Settings.ofToml "chunk_size = 4294967296" = .ok settings ∧
      (¬ ∃ m, CommandLine.Kind.readChunkSize "4294967296" = .ok m) ∧
      (Upload.send 4294967296 source {}).result = .error (.chunkSize 4294967296) ∧
      x.1 = .error (.communication (.chunkSize 4294967296)) ∧
      (x.2.contacts.map fun a => a.outcome.toOption.map (·.outgoing.received)) = [some frame] := by
  intro settings frame source x
  have hsettings : Settings.ofToml "chunk_size = 4294967296" = .ok settings := by
    have htext : "chunk_size = 4294967296" =
        Settings.Field.chunkSize.name ++ " = " ++ toString 4294967296 := by decide +kernel
    rw [htext, Settings.ofToml_chunkSize]
    rfl
  have hargument : ¬ ∃ m, CommandLine.Kind.readChunkSize "4294967296" = .ok m := by
    rintro ⟨m, hread⟩
    have hsize := CommandLine.Kind.readChunkSize_toString (n := 4294967296) (by decide) m
    exact absurd (hsize.1 hread).1.2 (by decide)
  have hrefused : (Upload.send 4294967296 source {}).result = .error (.chunkSize 4294967296) := by
    rw [Upload.send_of_invalid (by decide)]
  have hscan : x = (.error (.communication (.chunkSize 4294967296)), Session.record {} _ (.ok _)) :=
    scanSource_of_tooGreat (by decide) (by decide) rfl rfl
  rw [hscan]
  exact ⟨hsettings, hargument, hrefused, rfl, rfl⟩

end Client

end Clamd
