import Clamd.Detections

/-!
# Verdicts

The outcome of a scan: clean, or infected with the detections. An infected verdict without any
detection is clean in every respect that can be observed: two verdicts are compared by their
detections only.

Verdicts are merged from left to right, starting from clean; nothing is dropped, so the signatures
of an object that several verdicts name come one after another.
-/

namespace Clamd

/-- The outcome of a scan. -/
inductive Verdict where
  | clean
  | infected (found : Detections)
  deriving Repr

namespace Verdict

instance : Inhabited Verdict := ⟨clean⟩

/-- The verdict on some detections: without any it is clean. -/
def ofDetections (found : Detections) : Verdict :=
  if found.isEmpty then clean else infected found

/-- Whether nothing was found. -/
def isClean : Verdict → Bool
  | clean => true
  | infected found => found.isEmpty

/-- The detections, if there are any. -/
def detections? : Verdict → Option Detections
  | clean => none
  | infected found => if found.isEmpty then none else some found

/-- Verdicts are equal when their detections are. -/
instance : BEq Verdict := ⟨fun a b => a.detections? == b.detections?⟩

/-- Both verdicts together. Where both name an object, the signatures of `a` come first. -/
def merge (a b : Verdict) : Verdict :=
  match a, b with
  | clean, b => b
  | a, clean => a
  | infected found, infected more => infected (found.union more)

/-- All of the verdicts together, in their order. -/
def collect (verdicts : List Verdict) : Verdict :=
  verdicts.foldl merge clean

/-- The lines that list the detections: one per signature, objects in increasing order. -/
def findings (v : Verdict) : List String :=
  match v.detections? with
  | none => []
  | some found => found.entries.flatMap fun e => e.2.map fun s => e.1 ++ ": " ++ s ++ " FOUND"

@[simp] theorem clean_merge (b : Verdict) : clean.merge b = b := rfl

@[simp] theorem merge_clean (a : Verdict) : a.merge clean = a := by
  cases a <;> rfl

theorem isClean_eq_isNone (v : Verdict) : v.isClean = v.detections?.isNone := by
  cases v with
  | clean => rfl
  | infected found => cases h : found.isEmpty <;> simp [isClean, detections?, h]

end Verdict

end Clamd
