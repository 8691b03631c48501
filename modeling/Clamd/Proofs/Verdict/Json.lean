import Clamd.Proofs.Verdict

/-!
# JSON text determines the verdict

A way of writing is self-delimiting if it is always clear what has been written and where it ends,
whatever is put behind it (`Json.SelfDelimiting`). The escaped form of a character is
self-delimiting, as it can be read back (`Json.readStringChar?_append`); and so is what is put
together of self-delimiting parts, as long as no part can be taken for the end of what holds it:

* `Json.SelfDelimiting.both` and `Json.SelfDelimiting.series`: parts one behind the other;
* `Json.selfDelimiting_string`: strings, whatever quotes and backslashes their text holds;
* `Json.SelfDelimiting.block` and `Json.SelfDelimiting.pair`: arrays, objects and their members.

So detections can be told from their text, and `Verdict.json_determines` says that verdicts are equal
exactly if their texts are, in either layout.
-/

namespace Clamd.Json

variable {α β : Type}

/-- **Self-delimiting writing.** Whatever is put behind it, it is clear what has been written and
where it ends. -/
def SelfDelimiting (write : α → List Char) : Prop :=
  ∀ ⦃a b : α⦄ ⦃r t : List Char⦄, write a ++ r = write b ++ t → a = b ∧ r = t

namespace SelfDelimiting

variable {write : α → List Char} {other : β → List Char}

/-- What is the same in front of everything can be left out. -/
theorem behind (h : SelfDelimiting write) (front : List Char) :
    SelfDelimiting fun a => front ++ write a := by
  intro a b r t heq
  apply h
  rwa [List.append_assoc, List.append_assoc, List.append_cancel_left_eq] at heq

/-- Different things are written by way of different things. -/
theorem comp (h : SelfDelimiting write) {f : β → α} (hf : Function.Injective f) :
    SelfDelimiting fun b => write (f b) := by
  intro a b r t heq
  obtain ⟨hsame, hrest⟩ := h heq
  exact ⟨hf hsame, hrest⟩

/-- **Two things**, one behind the other. -/
theorem both (h : SelfDelimiting write) (h' : SelfDelimiting other) :
    SelfDelimiting fun p : α × β => write p.1 ++ other p.2 := by
  intro p q r t heq
  rw [List.append_assoc, List.append_assoc] at heq
  obtain ⟨hfirst, hrest⟩ := h heq
  obtain ⟨hsecond, hrest⟩ := h' hrest
  exact ⟨Prod.ext hfirst hsecond, hrest⟩

/-- **A series of things** with an ending for which none of them can be taken. -/
theorem series (h : SelfDelimiting write) {ending : List Char}
    (hending : ∀ a r t, write a ++ r ≠ ending ++ t) :
    SelfDelimiting fun items : List α => items.flatMap write ++ ending := by
  intro items
  induction items with
  | nil =>
    intro others r t heq
    cases others with
    | nil => exact ⟨rfl, List.append_cancel_left heq⟩
    | cons b others =>
      simp only [List.flatMap_cons, List.append_assoc] at heq
      exact absurd heq.symm (hending _ _ _)
  | cons a items ih =>
    intro others r t heq
    cases others with
    | nil =>
      simp only [List.flatMap_cons, List.append_assoc] at heq
      exact absurd heq (hending _ _ _)
    | cons b others =>
      -- the first things are the same, and then so are the others
      simp only [List.flatMap_cons, List.append_assoc] at heq
      obtain ⟨rfl, hbehind⟩ := h heq
      simp only [← List.append_assoc] at hbehind
      obtain ⟨rfl, hrest⟩ := ih hbehind
      exact ⟨rfl, hrest⟩

end SelfDelimiting

/-! ### Strings -/

/-- The value of a hexadecimal digit. -/
def hexValue (c : Char) : Nat :=
  if c.isDigit then c.toNat - '0'.toNat else c.toNat - 'a'.toNat + 10

/-- Reads one character of a JSON string in the form in which it is written there. Neither the quote
that ends the string nor a backslash without its letter is one. -/
def readStringChar? : List Char → Option (Char × List Char)
  | '\\' :: '"' :: r => some ('"', r)
  | '\\' :: '\\' :: r => some ('\\', r)
  | '\\' :: 'b' :: r => some ('\x08', r)
  | '\\' :: 'f' :: r => some ('\x0C', r)
  | '\\' :: 'n' :: r => some ('\n', r)
  | '\\' :: 'r' :: r => some ('\r', r)
  | '\\' :: 't' :: r => some ('\t', r)
  | '\\' :: 'u' :: '0' :: '0' :: a :: b :: r =>
    some (Char.ofNat (16 * hexValue a + hexValue b), r)
  | '\\' :: _ => none
  | '"' :: _ => none
  | c :: r => some (c, r)
  | [] => none

/-- Two hexadecimal digits hold any number of which a control character may be written. -/
theorem hexValue_twoHexDigits :
    ∀ n < 0x20, 16 * hexValue (Nat.digitChar (n / 16)) + hexValue (Nat.digitChar (n % 16)) = n := by
  decide

/-- **A character is read back** from its form inside a string, whatever stands behind it. -/
theorem readStringChar?_append (c : Char) (r : List Char) :
    readStringChar? (stringChar c ++ r) = some (c, r) := by
  -- by the form in which the character is written
  unfold stringChar
  split
  · rfl
  · rfl
  · rfl
  · rfl
  · rfl
  · rfl
  · rfl
  next hquote hbackslash _ _ _ _ _ =>
    split
    next hcontrol =>
      calc readStringChar? (['\\', 'u', '0', '0'] ++ twoHexDigits c.toNat ++ r)
          = some (Char.ofNat (16 * hexValue (Nat.digitChar (c.toNat / 16)) +
              hexValue (Nat.digitChar (c.toNat % 16))), r) := rfl
        _ = some (c, r) := by rw [hexValue_twoHexDigits _ hcontrol, Char.ofNat_toNat]
    next =>
      -- it is written as it is, and is none of the two that mean something else
      rw [List.singleton_append]
      unfold readStringChar?
      split <;> simp_all

theorem selfDelimiting_stringChar : SelfDelimiting stringChar := by
  intro c d r t heq
  have hread := readStringChar?_append c r
  rw [heq, readStringChar?_append] at hread
  cases hread
  exact ⟨rfl, rfl⟩

/-- No character is written so that it could be taken for the end of the string. -/
theorem stringChar_append_ne (c : Char) (r t : List Char) : stringChar c ++ r ≠ ['"'] ++ t := by
  intro heq
  have hread := readStringChar?_append c r
  rw [heq] at hread
  cases hread

/-- **Strings are self-delimiting**, whatever characters their text holds. -/
theorem selfDelimiting_string : SelfDelimiting string :=
  ((selfDelimiting_stringChar.series stringChar_append_ne).behind ['"']).comp
    fun _ _ h => String.toList_inj.1 h

/-! ### Arrays and objects -/

/-- Where a line starts, no line break is taken for something else. -/
theorem Layout.lineStart_append_ne (layout : Layout) (depth : Nat) {text t : List Char} {c : Char}
    (hline : c ≠ '\n') (htext : text ≠ c :: t) : layout.lineStart depth ++ text ≠ c :: t := by
  cases layout with
  | compact => exact htext
  | indented =>
    intro heq
    exact hline (List.cons.inj heq).1.symm

section Parts

variable {write : α → List Char}

/-- The items of a block behind the first one, and its end. -/
def blockRest (layout : Layout) (depth : Nat) (closing : Char) (write : α → List Char)
    (items : List α) : List Char :=
  items.flatMap (fun a => [','] ++ (layout.lineStart (depth + 1) ++ write a)) ++
    (layout.lineStart depth ++ [closing])

theorem block_cons (layout : Layout) (depth : Nat) (opening closing : Char) (a : α)
    (items : List α) :
    layout.block depth opening closing ((a :: items).map write) =
      [opening] ++ (layout.lineStart (depth + 1) ++
        (write a ++ blockRest layout depth closing write items)) := by
  simp only [Layout.block, blockRest, List.map_cons, List.flatMap_map, List.append_assoc,
    List.singleton_append]

/-- **An array or object is self-delimiting** if its items are and none of them can be taken for the
closing bracket. -/
theorem SelfDelimiting.block (h : SelfDelimiting write) (layout : Layout) (depth : Nat)
    (opening : Char) {closing : Char} (hclosing : ∀ a r t, write a ++ r ≠ closing :: t)
    (hcomma : closing ≠ ',') (hline : closing ≠ '\n') :
    SelfDelimiting fun items : List α =>
      layout.block depth opening closing (items.map write) := by
  -- behind each item stands a comma, or the block is closed
  have hrest : SelfDelimiting (blockRest layout depth closing write) := by
    refine ((h.behind _).behind [',']).series fun a r t heq => ?_
    have hend : [closing] ++ t ≠ ',' :: (layout.lineStart (depth + 1) ++ write a ++ r) := by
      intro hsame
      exact hcomma (List.cons.inj hsame).1
    refine layout.lineStart_append_ne depth (by decide) hend ?_
    rw [← List.append_assoc, ← heq]
    rfl
  have hcons : SelfDelimiting fun p : α × List α => [opening] ++
      (layout.lineStart (depth + 1) ++ (write p.1 ++ blockRest layout depth closing write p.2)) :=
    ((h.both hrest).behind _).behind _
  -- an empty block is closed where another one has its first item
  have hnil : ∀ a items r t, layout.block depth opening closing ((a :: items).map write) ++ r ≠
      layout.block depth opening closing (([] : List α).map write) ++ t := by
    intro a items r t heq
    rw [block_cons, List.append_assoc, List.append_assoc, List.append_assoc] at heq
    exact layout.lineStart_append_ne _ hline (hclosing a _ t) (List.cons.inj heq).2
  intro items others r t heq
  cases items with
  | nil =>
    cases others with
    | nil => exact ⟨rfl, List.append_cancel_left heq⟩
    | cons b others => exact absurd heq.symm (hnil b others t r)
  | cons a items =>
    cases others with
    | nil => exact absurd heq (hnil a items r t)
    | cons b others =>
      simp only [block_cons] at heq
      obtain ⟨hitems, hbehind⟩ := @hcons (a, items) (b, others) r t heq
      cases hitems
      exact ⟨rfl, hbehind⟩

/-- **A member of an object is self-delimiting** if its value is. -/
theorem SelfDelimiting.pair (h : SelfDelimiting write) (layout : Layout) :
    SelfDelimiting fun e : String × α => layout.pair e.1 (write e.2) := by
  intro e f r t heq
  apply (selfDelimiting_string.both (h.behind (if layout = .compact then [':'] else [':', ' '])))
  simpa only [Layout.pair, List.append_assoc] using heq

end Parts

/-- No string is taken for a bracket. -/
theorem string_append_ne {c : Char} (hquote : c ≠ '"') (s : String) (r t : List Char) :
    string s ++ r ≠ c :: t := by
  intro heq
  exact hquote (List.cons.inj heq).1.symm

/-- No member of an object is taken for a bracket. -/
theorem pair_append_ne {c : Char} (hquote : c ≠ '"') (layout : Layout) (name : String)
    (value r t : List Char) : layout.pair name value ++ r ≠ c :: t := by
  intro heq
  exact hquote (List.cons.inj heq).1.symm

end Clamd.Json

namespace Clamd.Verdict

open Json

/-! ### Verdicts -/

/-- **Detections are self-delimiting**, whatever texts the objects and signatures are. -/
theorem selfDelimiting_detectionsText (layout : Layout) (depth : Nat) :
    SelfDelimiting (detectionsText layout depth) := by
  have hlists : SelfDelimiting fun signatures : List String =>
      layout.block (depth + 1) '[' ']' (signatures.map string) :=
    selfDelimiting_string.block layout _ _ (string_append_ne (by decide)) (by decide) (by decide)
  have hmember : ∀ (e : String × List String) (r t : List Char), layout.pair e.1
      (layout.block (depth + 1) '[' ']' (e.2.map string)) ++ r ≠ '}' :: t :=
    fun e => pair_append_ne (by decide) layout e.1 _
  have hentries := (hlists.pair layout).block layout depth '{' hmember (by decide) (by decide)
  refine hentries.comp (f := Detections.entries) fun d e h => ?_
  cases d
  cases e
  cases h
  rfl

/-- What a verdict says of its status. -/
def status (v : Verdict) : String :=
  if v.isClean then "ok" else "virus"

theorem status_eq_ok_iff {v : Verdict} : v.status = "ok" ↔ v.isClean := by
  rw [status]
  split
  next hclean => exact iff_of_true rfl hclean
  next hclean => exact iff_of_false (by decide) hclean

/-- Behind the status stand the detections, if there are any. -/
def jsonBehind (layout : Layout) (v : Verdict) : List Char :=
  (match v.detections? with
    | none => []
    | some found =>
      [','] ++ (layout.lineStart 1 ++
        layout.pair "detections" (detectionsText layout 1 found))) ++
    (layout.lineStart 0 ++ ['}'])

theorem jsonText_eq (layout : Layout) (v : Verdict) :
    v.jsonText layout = ['{'] ++ (layout.lineStart 1 ++
      (layout.pair "status" (string v.status) ++ v.jsonBehind layout)) := by
  rw [jsonText, status, isClean_eq_isNone, jsonBehind]
  cases v.detections? <;> simp [Layout.block]

/-- **The detections of a verdict are known from its text.** -/
theorem detections?_eq_of_jsonText {layout : Layout} {a b : Verdict}
    (h : a.jsonText layout = b.jsonText layout) : a.detections? = b.detections? := by
  rw [jsonText_eq, jsonText_eq, List.append_cancel_left_eq, List.append_cancel_left_eq] at h
  have hmember := selfDelimiting_string.pair layout
  obtain ⟨hstatus, hbehind⟩ := @hmember ("status", a.status) ("status", b.status) _ _ h
  have hclean : a.isClean = b.isClean := by
    have hsame : a.status = b.status := congrArg Prod.snd hstatus
    rw [Bool.eq_iff_iff, ← status_eq_ok_iff, ← status_eq_ok_iff, hsame]
  rw [isClean_eq_isNone, isClean_eq_isNone] at hclean
  rw [jsonBehind, jsonBehind] at hbehind
  cases ha : a.detections? with
  | none =>
    rw [ha, Option.isNone_none, Eq.comm, Option.isNone_iff_eq_none] at hclean
    exact hclean.symm
  | some found =>
    cases hb : b.detections? with
    | none =>
      rw [ha, hb] at hclean
      cases hclean
    | some more =>
      simp only [ha, hb, List.append_assoc, List.append_cancel_left_eq] at hbehind
      have hmember := (selfDelimiting_detectionsText layout 1).pair layout
      obtain ⟨hfound, -⟩ := @hmember ("detections", found) ("detections", more) _ _ hbehind
      exact congrArg (some ∘ Prod.snd) hfound

/-- **Verdicts have one text** exactly if they are equal. -/
theorem json_eq_iff (layout : Layout) (a b : Verdict) :
    a.json layout = b.json layout ↔ a == b := by
  rw [json, json, String.ofList_inj, beq_iff]
  refine ⟨detections?_eq_of_jsonText, fun h => ?_⟩
  rw [jsonText, jsonText, h]

/-- The text of a clean verdict. -/
def cleanText : Layout → String
  | .compact => "\x7b\"status\":\"ok\"\x7d"
  | .indented => "\x7b\n  \"status\": \"ok\"\n\x7d"

/-- **JSON text determines the verdict.** In either layout two verdicts have the same text exactly if
they are equal, and a verdict has the text of a clean one exactly if it is clean. -/
theorem json_determines :
    (∀ (layout : Layout) (a b : Verdict), a.json layout = b.json layout ↔ a == b) ∧
    ∀ (layout : Layout) (v : Verdict), v.json layout = cleanText layout ↔ v.isClean := by
  refine ⟨json_eq_iff, fun layout v => ?_⟩
  have hclean : cleanText layout = clean.json layout := by
    cases layout <;> rfl
  rw [hclean, json_eq_iff, beq_iff, isClean_eq_isNone, Option.isNone_iff_eq_none]
  rfl

end Clamd.Verdict
