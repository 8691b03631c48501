import Clamd.CommandLine.Invocation
import Clamd.Proofs.CommandLine.Number

/-!
# Options with values

An option may have its value in the next argument, if that does not look like an option. What is
read then is pending, and the next option or the end of the arguments takes it over.

* `Reading.foldlM_take_option` reads an option with its value, `Reading.settle_option` takes it over;
* `Task.ofArgs_watch`: the arguments of a watch, with a number of seconds for each pause. Every
  number of 64 bits is taken.
-/

namespace Clamd.CommandLine

/-! ### What arguments look like -/

/-- An option is seen to be one, with its name. -/
theorem Word.ofArg_written (f : Flag) : Word.ofArg f.written = .long f.name none := by
  cases f <;> decide +kernel

/-- An argument that begins with no dash looks like no option. -/
theorem Word.ofArg_plain {arg : String} (h : arg.toList.head? ≠ some '-') :
    Word.ofArg arg = .plain := by
  rw [Word.ofArg]
  split
  next heq => exact absurd (congrArg List.head? heq) h
  next heq => exact absurd (congrArg List.head? heq) h
  next heq => exact absurd (congrArg List.head? heq) h
  next => rfl

/-- A number that is written out begins with no dash. -/
theorem head?_toString_ne (n : Nat) : (toString n).toList.head? ≠ some '-' := by
  intro h
  have hmem : '-' ∈ Nat.toDigits 10 n := by
    rw [← Nat.toList_repr]
    exact List.mem_of_mem_head? h
  exact absurd (Nat.isDigit_of_mem_toDigits (by decide) (by decide) hmem) (by decide)

namespace Reading

variable {r s : Reading} {f : Flag} {text : String}

/-- **An option with its value in the next argument** is pending when both have been read, and what
was pending before is taken over. -/
theorem foldlM_take_option (hsettle : r.settle = .ok s) (hr : r.literal = false)
    (hs : s.literal = false) (hflag : r.level.flag? f.name = some f)
    (hvalue : f.kind.hasValue = true) (htext : text.toList.head? ≠ some '-')
    (args : List String) :
    (f.written :: text :: args).foldlM take r =
      args.foldlM take { s with pending := .flag f (some text) } := by
  have hname : r.take f.written = .ok { s with pending := .flag f none } := by
    rw [take, if_neg (by simp [hr]), Word.ofArg_written]
    simp only [takeLong, hflag, hvalue, if_true, hsettle]
    rfl
  have htake : take { s with pending := .flag f none } text =
      .ok { s with pending := .flag f (some text) } := by
    rw [take, if_neg (by simp [hs]), Word.ofArg_plain htext]
    simp only [awaited?, hs, Bool.false_eq_true, if_false]
  rw [List.foldlM_cons, hname]
  show List.foldlM take { s with pending := .flag f none } (text :: args) = _
  rw [List.foldlM_cons, htake]
  rfl

/-- An option with its value is taken over, if it was not given before. -/
theorem settle_option (hpending : r.pending = .flag f (some text))
    (hhas : r.given.has f = false) {value : f.Value} (hread : f.kind.read text = .ok value) :
    r.settle = .ok { r with pending := .nothing, given := r.given.set f value } := by
  rw [settle, hpending]
  simp only [give, hhas, Bool.false_eq_true, if_false, hread]

end Reading

/-! ### The arguments of a watch -/

/-- **Every number of 64 bits is taken for the seconds of a pause.** -/
theorem Task.ofArgs_watch {root : String} (hne : root ≠ "") (hroot : root.toList.head? ≠ some '-')
    {idle rollover backOff : Nat} (hidle : idle < Word.end64) (hrollover : rollover < Word.end64)
    (hbackOff : backOff < Word.end64) :
    Task.ofArgs .watch [root, Flag.idle.written, toString idle, Flag.rollover.written,
        toString rollover, Flag.backOff.written, toString backOff] =
      .ok (.watch root .pooled
        { idle := .ofSeconds idle, rollover := .ofSeconds rollover,
          backOff := .ofSeconds backOff } none none) := by
  -- the root is an operand, and the first option takes it over
  let begun : Reading := { level := .behind .watch, pending := .operands [root] }
  let settled (given : Given) : Reading :=
    { level := .behind .watch, operands := [root], given }
  have htake : Reading.take { level := .behind .watch } root = .ok begun := by
    rw [Reading.take, if_neg Bool.false_ne_true, Word.ofArg_plain hroot]
    rfl
  have hoperand : begun.settle = .ok (settled {}) := by
    have hread : Kind.path.read root = .ok root := if_neg (by simpa using hne)
    show Except.bind (Reading.giveOperand _ root) _ = _
    rw [Reading.giveOperand, hread]
    rfl
  -- each further option takes over the one before, and the end takes over the last one
  let first := Given.set {} .idle idle
  let second := first.set .rollover rollover
  have hfirst : Reading.settle { settled {} with pending := .flag .idle (some (toString idle)) } =
      .ok (settled first) :=
    Reading.settle_option rfl rfl (Kind.readCount_toString hidle)
  have hsecond : Reading.settle
      { settled first with pending := .flag .rollover (some (toString rollover)) } =
        .ok (settled second) :=
    Reading.settle_option rfl rfl (Kind.readCount_toString hrollover)
  have hthird : Reading.settle
      { settled second with pending := .flag .backOff (some (toString backOff)) } =
        .ok (settled (second.set .backOff backOff)) :=
    Reading.settle_option rfl rfl (Kind.readCount_toString hbackOff)
  have hflag : ∀ f ∈ [Flag.idle, .rollover, .backOff],
      (Level.behind .watch).flag? f.name = some f := by decide +kernel
  have hread : [root, Flag.idle.written, toString idle, Flag.rollover.written, toString rollover,
      Flag.backOff.written, toString backOff].foldlM Reading.take { level := .behind .watch } =
        .ok { settled second with pending := .flag .backOff (some (toString backOff)) } := by
    rw [List.foldlM_cons, htake]
    show List.foldlM Reading.take begun _ = _
    rw [Reading.foldlM_take_option hoperand rfl rfl (hflag _ (by simp)) rfl (head?_toString_ne _),
      Reading.foldlM_take_option hfirst rfl rfl (hflag _ (by simp)) rfl (head?_toString_ne _),
      Reading.foldlM_take_option hsecond rfl rfl (hflag _ (by simp)) rfl (head?_toString_ne _)]
    rfl
  rw [Task.ofArgs, hread]
  show Except.bind (Reading.settle _) _ = _
  rw [hthird]
  rfl

end Clamd.CommandLine
