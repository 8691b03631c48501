import Clamd.Proofs.Verdict

/-!
# The order in which verdicts are collected

Verdicts are known by what they list: the objects, and the signatures of each object in their order
(`Verdict.beq_iff_listed`). Collecting verdicts puts the signatures of an object one behind the other
(`Verdict.signatures_collect`), so another order of the verdicts changes the order of signatures and
nothing else.

* `Verdict.collect_beq_of_apart`: where no object is listed twice, the order makes no difference;
* `Verdict.collect_beq_iff_of_perm`: in general it makes none exactly if the lists of every object
  come to the same one after another;
* `Verdict.collect_perm`: what another order leaves as it was, and when it changes something.
-/

namespace Clamd.Verdict

/-! ### Verdicts known by what they list -/

/-- A clean verdict lists nothing, and only a clean one does. -/
theorem isClean_iff_listed {v : Verdict} : v.isClean ↔ ∀ object, v.listed object = none := by
  rw [isClean_eq_isNone, Option.isNone_iff_eq_none]
  constructor
  · intro hclean object
    rw [listed, hclean]
    rfl
  · intro hnone
    cases v with
    | clean => rfl
    | infected found =>
      cases hentries : found.entries with
      | nil =>
        rw [detections?_infected, Detections.isEmpty, hentries]
        rfl
      | cons e rest =>
        -- the first entry is listed under its object
        have he : e ∈ found.entries := by
          rw [hentries]
          exact List.mem_cons_self
        have hlisted : (infected found).listed e.1 = some e.2 := by
          rw [listed, detections?_infected, Detections.isEmpty, hentries]
          exact Detections.mem_entries_iff.1 he
        cases hlisted.symm.trans (hnone e.1)

/-- **Verdicts are equal exactly if they list the same** for every object. -/
theorem beq_iff_listed {a b : Verdict} :
    a == b ↔ ∀ object, a.listed object = b.listed object := by
  rw [beq_iff]
  constructor
  · intro h object
    rw [listed, listed, h]
  · intro h
    have hclean : a.isClean ↔ b.isClean := by
      rw [isClean_iff_listed, isClean_iff_listed]
      exact forall_congr' fun object => by rw [h]
    rw [isClean_eq_isNone, isClean_eq_isNone, Option.isNone_iff_eq_none,
      Option.isNone_iff_eq_none] at hclean
    cases ha : a.detections? with
    | none => exact (hclean.1 ha).symm
    | some found =>
      cases hb : b.detections? with
      | none => exact ha.symm.trans (hclean.2 hb)
      | some more =>
        -- both list something, and detections are known by looking up
        apply congrArg some
        apply Detections.ext_lookup
        intro object
        have hobject := h object
        rwa [listed, listed, ha, hb] at hobject

/-- The signatures that a verdict lists for an object. -/
def signatures (v : Verdict) (object : String) : List String :=
  (v.listed object).getD []

/-! ### What is listed by all -/

theorem signatures_merge (a b : Verdict) (object : String) :
    (a.merge b).signatures object = a.signatures object ++ b.signatures object := by
  rw [signatures, listed_merge, signatures, signatures]
  cases a.listed object with
  | none => rw [Option.merge_none_left, Option.getD_none, List.nil_append]
  | some mine =>
    cases b.listed object with
    | none => rw [Option.merge_none_right, Option.getD_none, List.append_nil]
    | some more => rfl

/-- **The signatures of an object** come one behind the other. -/
theorem signatures_collect (verdicts : List Verdict) (object : String) :
    (collect verdicts).signatures object = verdicts.flatMap (·.signatures object) := by
  induction verdicts with
  | nil => rfl
  | cons v verdicts ih => rw [collect_cons, signatures_merge, ih, List.flatMap_cons]

/-- An object is listed as soon as one of the verdicts lists it. -/
theorem isSome_listed_collect (verdicts : List Verdict) (object : String) :
    ((collect verdicts).listed object).isSome =
      verdicts.any fun v => (v.listed object).isSome := by
  induction verdicts with
  | nil => rfl
  | cons v verdicts ih =>
    rw [collect_cons, listed_merge, List.any_cons, ← ih]
    cases v.listed object <;> cases (collect verdicts).listed object <;> rfl

/-! ### Another order -/

section Order

variable {verdicts others : List Verdict}

/-- Another order lists the same objects. -/
theorem isSome_listed_collect_of_perm (h : verdicts.Perm others) (object : String) :
    ((collect verdicts).listed object).isSome = ((collect others).listed object).isSome := by
  rw [isSome_listed_collect, isSome_listed_collect, h.any_eq]

/-- **Another order changes nothing** exactly if the lists of each object come to the same one behind
the other. -/
theorem collect_beq_iff_of_perm (h : verdicts.Perm others) :
    collect verdicts == collect others ↔
      ∀ object, verdicts.flatMap (·.signatures object) = others.flatMap (·.signatures object) := by
  rw [beq_iff_listed]
  refine forall_congr' fun object => ?_
  rw [← signatures_collect, ← signatures_collect, signatures, signatures]
  -- both list the object or neither does, so the signatures tell whether they list the same
  have hsome := isSome_listed_collect_of_perm h object
  cases hfirst : (collect verdicts).listed object with
  | none =>
    rw [hfirst, Option.isSome_none, Eq.comm, Option.isSome_eq_false_iff,
      Option.isNone_iff_eq_none] at hsome
    rw [hsome]
    exact iff_of_true rfl rfl
  | some mine =>
    rw [hfirst, Option.isSome_some] at hsome
    obtain ⟨theirs, hsecond⟩ := Option.isSome_iff_exists.1 hsome.symm
    rw [hsecond, Option.some_inj]
    rfl

/-- No object is listed by two of the verdicts. -/
def Apart (verdicts : List Verdict) : Prop :=
  verdicts.Pairwise fun a b => ∀ object, a.listed object = none ∨ b.listed object = none

/-- **Where no object is listed twice**, the order makes no difference. -/
theorem collect_beq_of_apart (h : verdicts.Perm others) (hapart : Apart verdicts) :
    collect verdicts == collect others := by
  rw [beq_iff_listed]
  intro object
  -- there is at most one list for the object, which any order leaves as it is
  have hone : ∀ {vs : List Verdict}, Apart vs →
      (vs.filterMap (·.listed object)).Pairwise fun _ _ => False := by
    intro vs hvs
    rw [List.pairwise_filterMap]
    refine hvs.imp fun hab mine hmine theirs htheirs => ?_
    rcases hab object with hnone | hnone
    · cases hnone.symm.trans hmine
    · cases hnone.symm.trans htheirs
  have hothers : Apart others :=
    (h.pairwise_iff fun hab object => (hab object).symm).1 hapart
  have hlists : verdicts.filterMap (·.listed object) = others.filterMap (·.listed object) :=
    (h.filterMap _).eq_of_pairwise (fun _ _ _ _ hfalse => hfalse.elim) (hone hapart) (hone hothers)
  rw [listed_collect, listed_collect, listedByAll, listedByAll, hlists]

/-- **Collecting verdicts in another order** changes at most the order of signatures. Both outcomes
are clean or neither is, they list the same objects, and for each object the same signatures, each as
often. They are equal if no object is listed by two of the verdicts. Collecting from the other end
gives an equal outcome exactly if for every object the lists, one behind the other, are what they are
from the other end. -/
theorem collect_perm (h : verdicts.Perm others) :
    (collect verdicts).isClean = (collect others).isClean ∧
    (∀ object, ((collect verdicts).listed object).isSome =
      ((collect others).listed object).isSome) ∧
    (∀ object, ((collect verdicts).signatures object).Perm ((collect others).signatures object)) ∧
    (Apart verdicts → collect verdicts == collect others) ∧
    (collect verdicts == collect verdicts.reverse ↔ ∀ object,
      verdicts.flatMap (·.signatures object) = verdicts.reverse.flatMap (·.signatures object)) := by
  refine ⟨?_, isSome_listed_collect_of_perm h, ?_, collect_beq_of_apart h,
    collect_beq_iff_of_perm (List.reverse_perm verdicts).symm⟩
  · rw [isClean_collect, isClean_collect, h.all_eq]
  · intro object
    rw [signatures_collect, signatures_collect]
    exact h.flatMap_right _

/-- Two verdicts on one object, with a third between them that lists another object without any
signature. -/
theorem collect_perm_sameObject :
    let first := infected (.ofEntries [("/a", ["Eicar", "Worm"])])
    let between := infected (.ofEntries [("/b", [])])
    let last := infected (.ofEntries [("/a", ["Eicar"])])
    [first, between, last].Perm [last, between, first] ∧
    ((collect [first, between, last]).signatures "/a").Perm
      ((collect [last, between, first]).signatures "/a") ∧
    (collect [first, between, last]).signatures "/a" = ["Eicar", "Worm", "Eicar"] ∧
    (collect [last, between, first]).signatures "/a" = ["Eicar", "Eicar", "Worm"] ∧
    ((collect [last, between, first]).listed "/b").isSome ∧
    ¬ collect [first, between, last] == collect [last, between, first] := by
  intro first between last
  have hperm : [first, between, last].Perm [last, between, first] :=
    (List.reverse_perm [first, between, last]).symm
  obtain ⟨-, -, hsignatures, -, hreverse⟩ := collect_perm hperm
  refine ⟨hperm, hsignatures "/a", by decide, by decide, by decide, fun hbeq => ?_⟩
  exact absurd (hreverse.1 hbeq "/a") (by decide)

end Order

end Clamd.Verdict
