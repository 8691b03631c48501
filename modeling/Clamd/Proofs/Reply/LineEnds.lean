import Clamd.Proofs.Reply.ScanReply
import Mathlib.Data.List.TakeWhile
import Mathlib.Logic.Relation

/-!
# Line ends

How the lines of a scan reply are ended does not matter: by NULs or by line feeds, with carriage
returns before them or without, with empty lines between, and with a line end behind the last line
or none. A change of any of these leaves the lines what they are (`Reply.LineEndChange.lines_eq`),
and all that is read from a reply is read from its lines (`Reply.sameKind_verdict`), although one of
the tests looks at the whole body.

* `Reply.LineEndChange` are the changes, one at a time;
* `Reply.SameKind` says that two outcomes are the same but for the text of a failure;
* `Command.sameKind_read`: a reply that is changed so is read as before. A refusal of the verb has to
  be left out, since that is told from the whole text.
-/

namespace Clamd

namespace Reply

/-- **One change of how the lines of a text are ended.** -/
inductive LineEndChange : List Char → List Char → Prop where
  /-- A line end takes the place of another. -/
  | exchange {c d : Char} (front back : List Char) (hc : isLineEnd c = true)
      (hd : isLineEnd d = true) : LineEndChange (front ++ c :: back) (front ++ d :: back)
  /-- A line end comes behind the text. -/
  | terminate {c : Char} (text : List Char) (hc : isLineEnd c = true) :
      LineEndChange text (text ++ [c])
  /-- A line of blanks comes in, at the start of the text or behind a line end. -/
  | insertBlank {c : Char} {front blank : List Char} (back : List Char)
      (hfront : front = [] ∨ ∃ text d, front = text ++ [d] ∧ isLineEnd d = true)
      (hblank : ∀ b ∈ blank, Text.isBlank b = true) (hc : isLineEnd c = true) :
      LineEndChange (front ++ back) (front ++ (blank ++ c :: back))
  /-- A carriage return comes in, at the end of the text or before a line end. -/
  | insertReturn {back : List Char} (front : List Char)
      (hback : back = [] ∨ ∃ d text, back = d :: text ∧ isLineEnd d = true) :
      LineEndChange (front ++ back) (front ++ '\r' :: back)

/-! ### The lines stay -/

/-- Carriage returns at the end of a piece make no difference. -/
theorem withoutReturns_concat_return (piece : List Char) :
    withoutReturns (piece ++ ['\r']) = withoutReturns piece := by
  rw [withoutReturns, List.reverse_concat, List.dropWhile_cons_of_pos rfl]
  rfl

/-- A text without line ends is one line, or none. -/
theorem lines_of_not_isLineEnd {text : List Char} (h : ∀ c ∈ text, isLineEnd c = false) :
    lines text = [withoutReturns text].filter fun l => !(Text.trim l).isEmpty := by
  rw [lines, Text.pieces_of_not_separator _ h, List.map_singleton]

/-- A carriage return behind a text adds no line and takes none away. -/
theorem lines_concat_return (text : List Char) : lines (text ++ ['\r']) = lines text := by
  induction text using Text.cut_induction isLineEnd with
  | plain text h =>
    have hreturn : ∀ c ∈ text ++ ['\r'], isLineEnd c = false := by
      intro c hc
      rcases List.mem_append.1 hc with hc | hc
      · exact h c hc
      · rw [List.mem_singleton.1 hc]
        rfl
    rw [lines_of_not_isLineEnd hreturn, lines_of_not_isLineEnd h, withoutReturns_concat_return]
  | cut before c behind _ hc ih =>
    rw [List.append_assoc, List.cons_append, lines_append_cons hc, lines_append_cons hc, ih]

/-- A text of blanks has no lines. -/
theorem lines_of_blank {text : List Char} (h : ∀ c ∈ text, Text.isBlank c = true) :
    lines text = [] := by
  rw [lines, List.filter_eq_nil_iff]
  intro line hline
  obtain ⟨piece, hpiece, rfl⟩ := List.mem_map.1 hline
  -- what is left of a piece is made of blanks, of which trimming leaves nothing
  have hblank : ∀ c ∈ withoutReturns piece, Text.isBlank c = true := fun c hc =>
    h c ((Text.infix_of_mem_pieces _ hpiece).subset ((prefix_of_withoutReturns piece).subset hc))
  rw [Text.trim, List.dropWhile_eq_nil_iff.2 hblank]
  decide

/-- **A change of line ends leaves the lines.** -/
theorem LineEndChange.lines_eq {text changed : List Char} (h : LineEndChange text changed) :
    lines text = lines changed := by
  cases h with
  | exchange front back hc hd => rw [lines_append_cons hc, lines_append_cons hd]
  | terminate text hc => rw [lines_append_cons hc, lines_nil, List.append_nil]
  | @insertBlank c front blank back hfront hblank hc =>
    have hadded : lines (blank ++ c :: back) = lines back := by
      rw [lines_append_cons hc, lines_of_blank hblank, List.nil_append]
    rcases hfront with rfl | ⟨text, d, rfl, hd⟩
    · exact hadded.symm
    · rw [List.append_assoc, List.append_assoc, List.singleton_append, List.singleton_append,
        lines_append_cons hd, lines_append_cons hd, hadded]
  | insertReturn front hback =>
    rcases hback with rfl | ⟨d, text, rfl, hd⟩
    · rw [List.append_nil, lines_concat_return]
    · have hsplit : front ++ '\r' :: d :: text = (front ++ ['\r']) ++ d :: text := by simp
      rw [hsplit, lines_append_cons hd, lines_append_cons hd, lines_concat_return]

/-- Any number of changes, made or taken back, leave the lines. -/
theorem lines_eq_of_eqvGen {text changed : List Char}
    (h : Relation.EqvGen LineEndChange text changed) : lines text = lines changed := by
  induction h with
  | rel _ _ hchange => exact hchange.lines_eq
  | refl => rfl
  | symm _ _ _ ih => exact ih.symm
  | trans _ _ _ _ _ hfirst hsecond => exact hfirst.trans hsecond

/-! ### What is read stays -/

/-- **Two outcomes of one kind**: the same verdict, or two scans that failed, or two invalid replies
to one verb. The texts of failures may differ. -/
inductive SameKind : Except Failure Verdict → Except Failure Verdict → Prop where
  | verdict (v : Verdict) : SameKind (.ok v) (.ok v)
  | scanFailed (text other : String) :
      SameKind (.error (.scanFailed text)) (.error (.scanFailed other))
  | invalid (verb reply other : String) :
      SameKind (.error (.invalidReply verb reply)) (.error (.invalidReply verb other))

/-- **A verdict depends on the lines only**, but for the text of a failure. -/
theorem sameKind_verdict {body other : String} (verb : String)
    (h : lines body.toList = lines other.toList) :
    SameKind (verdict verb body) (verdict verb other) := by
  -- the test on the whole body is one on its lines
  have hoccurs : Text.occurs ['F', 'O', 'U', 'N', 'D'] body.toList =
      Text.occurs ['F', 'O', 'U', 'N', 'D'] other.toList := by
    rw [Bool.eq_iff_iff]
    exact occurs_foundWord_iff.trans (h ▸ occurs_foundWord_iff.symm)
  simp only [verdict, h, hoccurs]
  split
  · exact .verdict _
  · split
    · split
      · exact .invalid _ _ _
      · exact .invalid _ _ _
      · exact .verdict _
    · split
      · exact .scanFailed _ _
      · exact .invalid _ _ _

/-- A reply refuses the verb: between blanks, and before one terminator, there is nothing but the
refusal. -/
def Refuses (raw : String) : Prop :=
  Text.trim (Framing.null.strip raw).toList = refusal

instance (raw : String) : Decidable (Refuses raw) :=
  inferInstanceAs (Decidable (_ = _))

end Reply

namespace Command

/-- The commands that ask for a scan. -/
inductive IsScan : Command Verdict → Prop where
  | scan (mode : ScanMode) (path : String) : IsScan (.scan mode path)
  | stream : IsScan .stream

/-- A reply to a scan that is no refusal is read without its terminator. -/
theorem IsScan.read_eq {c : Command Verdict} (hc : c.IsScan) {raw : String}
    (hraw : ¬ Reply.Refuses raw) :
    c.read raw = Reply.verdict c.request.verb (Framing.null.strip raw) := by
  have hbody : Reply.body c.request raw = .ok (Framing.null.strip raw) := by
    cases hc <;> exact if_neg hraw
  rw [read, hbody]
  cases hc <;> rfl

/-- **A change of line ends does not change what is read.** Let the line ends of a scan reply be
changed in any number of places: NULs for line feeds or the other way round, a line end behind the
text added or dropped, lines of blanks inserted or removed, carriage returns at the ends of lines
added or removed. Then the outcome is of the same kind with the same detections, unless one of the
two replies refuses the verb. -/
theorem sameKind_read {c : Command Verdict} (hc : c.IsScan) {raw changed : String}
    (hchange : Relation.EqvGen Reply.LineEndChange raw.toList changed.toList)
    (hraw : ¬ Reply.Refuses raw) (hchanged : ¬ Reply.Refuses changed) :
    Reply.SameKind (c.read raw) (c.read changed) := by
  rw [hc.read_eq hraw, hc.read_eq hchanged]
  refine Reply.sameKind_verdict c.request.verb ?_
  calc Reply.lines (Framing.null.strip raw).toList
      = Reply.lines raw.toList := Reply.lines_strip _ raw
    _ = Reply.lines changed.toList := Reply.lines_eq_of_eqvGen hchange
    _ = Reply.lines (Framing.null.strip changed).toList := (Reply.lines_strip _ changed).symm

/-- A reply with a carriage return and an empty line, and one with a terminator. The second has its
carriage return in another place, and a NUL for the line feed. -/
theorem sameKind_read_terminated :
    let raw := "/a: OK\r\n\n/b: Eicar FOUND"
    let changed := "/a: OK\x00/b: Eicar FOUND\r\x00"
    Relation.EqvGen Reply.LineEndChange raw.toList changed.toList ∧
      ¬ Reply.Refuses raw ∧ ¬ Reply.Refuses changed ∧
      Reply.SameKind (stream.read raw) (stream.read changed) ∧
      (stream.read changed).toOption.map Verdict.findings = some ["/b: Eicar FOUND"] := by
  intro raw changed
  let first := "/a: OK".toList
  let second := "/b: Eicar FOUND".toList
  have hends : Reply.isLineEnd '\n' = true ∧ Reply.isLineEnd '\x00' = true := ⟨rfl, rfl⟩
  have hrawText : raw.toList = first ++ '\r' :: '\n' :: '\n' :: second := by decide +kernel
  have hchangedText : changed.toList = first ++ '\x00' :: (second ++ ['\r', '\x00']) := by
    decide +kernel
  have hchange : Relation.EqvGen Reply.LineEndChange raw.toList changed.toList := by
    rw [hrawText, hchangedText]
    -- the carriage return of the first line goes, and then the empty line
    have hreturn : Reply.LineEndChange (first ++ '\n' :: '\n' :: second)
        (first ++ '\r' :: '\n' :: '\n' :: second) :=
      .insertReturn first (.inr ⟨'\n', '\n' :: second, rfl, rfl⟩)
    have hempty : Reply.LineEndChange (first ++ '\n' :: second) (first ++ '\n' :: '\n' :: second) :=
      @Reply.LineEndChange.insertBlank '\n' (first ++ ['\n']) [] second
        (.inr ⟨first, '\n', rfl, rfl⟩) nofun hends.1
    -- the second line gets a carriage return and a terminator
    have hlast : Reply.LineEndChange (first ++ '\n' :: second) (first ++ '\n' :: second ++ ['\r']) :=
      @Reply.LineEndChange.insertReturn [] (first ++ '\n' :: second) (.inl rfl)
    have hbehind : Reply.LineEndChange (first ++ '\n' :: second ++ ['\r'])
        (first ++ '\n' :: (second ++ ['\r', '\x00'])) :=
      .terminate (first ++ '\n' :: second ++ ['\r']) hends.2
    have hexchange : Reply.LineEndChange (first ++ '\n' :: (second ++ ['\r', '\x00']))
        (first ++ '\x00' :: (second ++ ['\r', '\x00'])) :=
      .exchange first (second ++ ['\r', '\x00']) hends.1 hends.2
    exact .trans _ _ _ (.symm _ _ (.rel _ _ hreturn)) <|
      .trans _ _ _ (.symm _ _ (.rel _ _ hempty)) <|
      .trans _ _ _ (.rel _ _ hlast) <| .trans _ _ _ (.rel _ _ hbehind) (.rel _ _ hexchange)
  have hraw : ¬ Reply.Refuses raw := by decide +kernel
  have hchanged : ¬ Reply.Refuses changed := by decide +kernel
  exact ⟨hchange, hraw, hchanged, sameKind_read .stream hchange hraw hchanged, by decide +kernel⟩

end Command

end Clamd
