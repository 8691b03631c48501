import Clamd.Proofs.Text.Pieces
import Clamd.Proofs.Toml.Number
import Clamd.Text.Quoted

/-!
# Visible text

A text whose control characters are made visible has none of them left, and a text that has none to
begin with stays as it is. The visible form of a character can be told from what stands behind it: a
short form ends with its letter, and a code point with the brace behind its digits. So a text can be
read back from its visible form, unless it has backslashes of its own, which look like the beginning
of such a form.

* `Text.ControlFree` are the texts without control characters;
* `Text.controlFree_visible`: the visible form of a text is one;
* `Text.visible_eq_self_iff`: and they are the texts that are their own visible form;
* `Text.readVisibleChar?_append`: a character is read back from its visible form, whatever stands
  behind it;
* `Text.readVisible_visible`: and so is a text, character by character;
* `Text.visible_inj`: so texts without backslashes are equal if their visible forms are.
-/

namespace Clamd.Text

/-! ### Texts without control characters -/

/-- **A text without control characters.** -/
def ControlFree (s : String) : Prop :=
  ∀ c ∈ s.toList, isControl c = false

theorem ControlFree.append {s t : String} (hs : ControlFree s) (ht : ControlFree t) :
    ControlFree (s ++ t) := by
  rw [ControlFree, String.toList_append]
  exact List.forall_mem_append.2 ⟨hs, ht⟩

/-- A text without control characters is not cut by a line end. -/
theorem ControlFree.pieces_lineEnd {s : String} (h : ControlFree s) :
    pieces (· == '\n') s.toList = [s.toList] := by
  refine pieces_of_not_separator _ fun c hc => ?_
  rw [beq_eq_false_iff_ne]
  rintro rfl
  exact Bool.noConfusion (h _ hc)

theorem isControl_digitChar : ∀ k < 16, isControl k.digitChar = false := by
  decide

/-- No digit is a control character. -/
theorem isControl_of_mem_toDigits {base n : Nat} (hlow : 1 < base) (hhigh : base ≤ 16) {c : Char}
    (hc : c ∈ Nat.toDigits base n) : isControl c = false := by
  obtain ⟨k, hk, rfl⟩ := Toml.exists_digitChar_of_mem_toDigits hlow hc
  exact isControl_digitChar k (by omega)

theorem controlFree_toString (n : Nat) : ControlFree (toString n) := by
  intro c hc
  rw [Nat.toString_eq_repr, Nat.toList_repr] at hc
  exact isControl_of_mem_toDigits (by decide) (by decide) hc

/-! ### What is left of control characters -/

theorem isControl_of_mem_codePointEscape {c d : Char} (hd : d ∈ codePointEscape c) :
    isControl d = false := by
  simp only [codePointEscape, List.mem_append, List.mem_cons, List.not_mem_nil, or_false] at hd
  rcases hd with ((rfl | rfl | rfl) | hdigit) | rfl
  · rfl
  · rfl
  · rfl
  · exact isControl_of_mem_toDigits (by decide) (by decide) hdigit
  · rfl

/-- **No control character** stands in the visible form of a character. -/
theorem isControl_of_mem_visibleChar {c d : Char} (hd : d ∈ visibleChar c) :
    isControl d = false := by
  have hshort : ∀ letter, isControl letter = false → d ∈ ['\\', letter] → isControl d = false := by
    intro letter hletter hmem
    rcases List.mem_pair.1 hmem with rfl | rfl
    · rfl
    · exact hletter
  -- by the form in which the character is written
  unfold visibleChar at hd
  split at hd
  · exact hshort _ rfl hd
  · exact hshort _ rfl hd
  · exact hshort _ rfl hd
  · exact hshort _ rfl hd
  · split at hd
    next => exact isControl_of_mem_codePointEscape hd
    next hplain =>
      rw [List.mem_singleton.1 hd]
      exact Bool.eq_false_iff.2 hplain

/-- **No control character** is left in the visible form of a text. -/
theorem controlFree_visible (s : String) : ControlFree (visible s) := by
  intro d hd
  rw [visible, String.toList_ofList, List.mem_flatMap] at hd
  obtain ⟨c, -, hmem⟩ := hd
  exact isControl_of_mem_visibleChar hmem

theorem visibleChar_of_not_isControl {c : Char} (h : isControl c = false) :
    visibleChar c = [c] := by
  unfold visibleChar
  split
  · cases h
  · cases h
  · cases h
  · cases h
  · rw [if_neg (Bool.eq_false_iff.1 h)]

/-- **A text is its own visible form** exactly if it has no control characters. -/
theorem visible_eq_self_iff {s : String} : visible s = s ↔ ControlFree s := by
  constructor
  · intro h
    rw [← h]
    exact controlFree_visible s
  · intro h
    calc visible s
        = String.ofList (s.toList.flatMap fun c => [c]) :=
          congrArg String.ofList
            (List.flatMap_congr fun c hc => visibleChar_of_not_isControl (h c hc))
      _ = s := by rw [List.flatMap_singleton', String.ofList_toList]

/-! ### Reading the visible form -/

/-- Reads one character in the visible form in which it is written. A backslash is only read as the
beginning of such a form. -/
def readVisibleChar? : List Char → Option (Char × List Char)
  | '\\' :: '0' :: r => some ('\x00', r)
  | '\\' :: 'n' :: r => some ('\n', r)
  | '\\' :: 'r' :: r => some ('\r', r)
  | '\\' :: 't' :: r => some ('\t', r)
  | '\\' :: 'u' :: '{' :: r =>
    some (Char.ofNat (Toml.ofDigits 16 (r.takeWhile (· != '}'))), (r.dropWhile (· != '}')).tail)
  | '\\' :: _ => none
  | c :: r => some (c, r)
  | [] => none

/-- The code point of a character is read back: its digits go up to the closing brace. -/
theorem readVisibleChar?_codePointEscape (c : Char) (r : List Char) :
    readVisibleChar? (codePointEscape c ++ r) = some (c, r) := by
  have hbrace : ∀ k < 16, k.digitChar ≠ '}' := by decide
  have hdigit : ∀ d ∈ Nat.toDigits 16 c.toNat, (d != '}') = true := by
    intro d hd
    obtain ⟨k, hk, rfl⟩ := Toml.exists_digitChar_of_mem_toDigits (by decide) hd
    exact bne_iff_ne.2 (hbrace k hk)
  have htext : codePointEscape c ++ r =
      '\\' :: 'u' :: '{' :: (Nat.toDigits 16 c.toNat ++ '}' :: r) := by
    simp [codePointEscape]
  rw [htext]
  simp only [readVisibleChar?]
  -- the digits go up to the brace, which is none of them
  rw [List.takeWhile_append_of_pos hdigit, List.dropWhile_append_of_pos hdigit,
    List.takeWhile_cons_of_neg (by decide), List.dropWhile_cons_of_neg (by decide),
    List.append_nil, List.tail_cons, Toml.ofDigits_toDigits (by decide) (by decide),
    Char.ofNat_toNat]

/-- **A character is read back** from its visible form, whatever stands behind it, unless it is a
backslash. -/
theorem readVisibleChar?_append {c : Char} (hc : c ≠ '\\') (r : List Char) :
    readVisibleChar? (visibleChar c ++ r) = some (c, r) := by
  -- by the form in which the character is written
  unfold visibleChar
  split
  · rfl
  · rfl
  · rfl
  · rfl
  · split
    next => exact readVisibleChar?_codePointEscape c r
    next =>
      rw [List.singleton_append]
      unfold readVisibleChar?
      split <;> simp_all

/-- Reading a character takes up some of the text. -/
theorem length_lt_of_readVisibleChar? {c : Char} {cs rest : List Char}
    (h : readVisibleChar? cs = some (c, rest)) : rest.length < cs.length := by
  unfold readVisibleChar? at h
  split at h
  case h_5 r =>
    have hdrop : (r.dropWhile (· != '}')).length ≤ r.length := (List.dropWhile_suffix _).length_le
    cases h
    simp only [List.length_tail, List.length_cons]
    omega
  case h_6 | h_8 => cases h
  all_goals
    cases h
    simp only [List.length_cons]
    omega

/-- Reads the characters of a visible text, one after another. -/
def readVisible (cs : List Char) : List Char :=
  match h : readVisibleChar? cs with
  | none => []
  | some (c, rest) =>
    have := length_lt_of_readVisibleChar? h
    c :: readVisible rest
termination_by cs.length

/-- **A text without backslashes is read back** from its visible form. -/
theorem readVisible_visible {cs : List Char} (h : '\\' ∉ cs) :
    readVisible (cs.flatMap visibleChar) = cs := by
  induction cs with
  | nil =>
    rw [List.flatMap_nil, readVisible]
    rfl
  | cons c cs ih =>
    -- the first character is read, and the visible form of the others is left
    have hread := readVisibleChar?_append (List.ne_of_not_mem_cons h).symm (cs.flatMap visibleChar)
    rw [List.flatMap_cons, readVisible]
    split
    next hnone => cases hnone.symm.trans hread
    next hsome =>
      cases hsome.symm.trans hread
      rw [ih (List.not_mem_of_not_mem_cons h)]

/-- **Texts without backslashes** are equal exactly if their visible forms are. -/
theorem visible_inj {s t : String} (hs : '\\' ∉ s.toList) (ht : '\\' ∉ t.toList) :
    visible s = visible t ↔ s = t := by
  refine ⟨fun h => String.toList_inj.1 ?_, congrArg visible⟩
  calc s.toList
      = readVisible (s.toList.flatMap visibleChar) := (readVisible_visible hs).symm
    _ = readVisible (t.toList.flatMap visibleChar) := congrArg readVisible (String.ofList_inj.1 h)
    _ = t.toList := readVisible_visible ht

/-- A backslash of a text is not told from that of a visible form. -/
example : visible "\\n" = visible "\n" := by decide

end Clamd.Text
