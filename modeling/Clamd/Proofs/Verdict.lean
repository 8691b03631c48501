import Clamd.Proofs.Detections
import Clamd.Verdict.Json

/-!
# Merged verdicts

There are two ways to be clean: the verdict that says so, and an infected one without detections.
Every view of a verdict goes through its detections (`Verdict.detections?`), which are the same for
both, and merging is described by what it does to them: where both sides have detections these are
united, and where one side has none the other is left as it is (`Verdict.detections?_merge`). Both
forms of clean are therefore neutral, and nothing that is seen of a merged verdict depends on which
of the two went into it.

* `Verdict.beq_iff`: verdicts are equal exactly if their detections are, and then they cannot be
  told apart (`Verdict.alike_iff`);
* `Verdict.isClean_merge`: two verdicts together are clean exactly if both are;
* `Verdict.isClean_collect`: so are any number of them;
* `Verdict.merge_assoc` and `Verdict.collect_cons`: it makes no difference whether the first verdict
  is merged with the others one by one or with all of them at once;
* `Verdict.listed_collect`: together they list for an object what each of them lists for it, in
  their order;
* `Verdict.merge_monoid`: merging is a monoid up to equality.
-/

namespace Clamd.Verdict

/-! ### What is seen of a verdict -/

theorem detections?_infected (found : Detections) :
    (infected found).detections? = if found.isEmpty then none else some found := rfl

/-- Verdicts are equal exactly if their detections are. -/
theorem beq_iff {a b : Verdict} : a == b ↔ a.detections? = b.detections? := by
  change (a.detections? == b.detections?) = true ↔ a.detections? = b.detections?
  exact beq_iff_eq

instance : EquivBEq Verdict where
  rfl := beq_iff.2 rfl
  symm h := beq_iff.2 (beq_iff.1 h).symm
  trans h g := beq_iff.2 ((beq_iff.1 h).trans (beq_iff.1 g))

/-- Two verdicts that cannot be told apart. -/
structure Alike (a b : Verdict) : Prop where
  /-- They are equal. -/
  equal : a == b
  /-- Any verdict is equal to both or to neither. -/
  compared : ∀ c : Verdict, (a == c) = (b == c) ∧ (c == a) = (c == b)
  /-- Both are clean or neither is. -/
  clean : a.isClean = b.isClean
  /-- They have the same detections. -/
  detections : a.detections? = b.detections?
  /-- The same lines are printed for them. -/
  findings : a.findings = b.findings
  /-- They have the same text in either layout. -/
  json : ∀ layout, a.json layout = b.json layout

/-- **Equal verdicts cannot be told apart.** -/
theorem alike_iff {a b : Verdict} : Alike a b ↔ a == b := by
  refine ⟨Alike.equal, fun h => ?_⟩
  have hdetections := beq_iff.1 h
  exact {
    equal := h
    compared := fun _ => ⟨BEq.congr_left h, BEq.congr_right h⟩
    clean := by rw [isClean_eq_isNone, isClean_eq_isNone, hdetections]
    detections := hdetections
    findings := by rw [findings, findings, hdetections]
    json := fun layout => by rw [json, json, jsonText, jsonText, hdetections] }

/-- Being infected with nothing is being clean. -/
theorem clean_beq_infected_empty : clean == infected ∅ :=
  beq_iff.2 rfl

/-! ### Two verdicts together -/

/-- **The detections of two verdicts together** are united where both have some; a verdict without
any adds nothing, in whichever form it comes. -/
theorem detections?_merge (a b : Verdict) :
    (a.merge b).detections? = Option.merge Detections.union a.detections? b.detections? := by
  cases a with
  | clean => exact Option.merge_none_left.symm
  | infected found =>
    cases b with
    | clean => exact Option.merge_none_right.symm
    | infected more =>
      rw [merge, detections?_infected, detections?_infected, detections?_infected,
        Detections.isEmpty_union]
      -- infected with nothing counts as clean, and uniting with nothing changes nothing
      cases hfound : found.isEmpty with
      | true =>
        rw [Detections.isEmpty_iff.1 hfound, Detections.empty_union, Bool.true_and, if_pos rfl,
          Option.merge_none_left]
      | false =>
        cases hmore : more.isEmpty with
        | true =>
          rw [Detections.isEmpty_iff.1 hmore, Detections.union_empty]
          rfl
        | false => rfl

/-- **Two verdicts together are clean** exactly if both are. -/
theorem isClean_merge (a b : Verdict) : (a.merge b).isClean = (a.isClean && b.isClean) := by
  rw [isClean_eq_isNone, isClean_eq_isNone, isClean_eq_isNone, detections?_merge,
    Option.isNone_merge]

/-- **Merging respects equality** on both sides. -/
theorem merge_beq_merge {a a' b b' : Verdict} (ha : a == a') (hb : b == b') :
    a.merge b == a'.merge b' := by
  rw [beq_iff] at ha hb ⊢
  rw [detections?_merge, detections?_merge, ha, hb]

theorem merge_assoc (a b c : Verdict) : (a.merge b).merge c = a.merge (b.merge c) := by
  cases a with
  | clean => rw [clean_merge, clean_merge]
  | infected found =>
    cases b with
    | clean => rw [merge_clean, clean_merge]
    | infected more =>
      cases c with
      | clean => rw [merge_clean, merge_clean]
      | infected others => exact congrArg infected (Detections.union_assoc found more others)

instance : Std.Associative merge := ⟨merge_assoc⟩

/-! ### Any number of verdicts together -/

/-- The first of some verdicts is merged with what the others come to. -/
theorem collect_cons (v : Verdict) (verdicts : List Verdict) :
    collect (v :: verdicts) = v.merge (collect verdicts) := by
  calc collect (v :: verdicts) = verdicts.foldl merge (v.merge clean) := by
        rw [collect, List.foldl_cons, clean_merge, merge_clean]
    _ = v.merge (collect verdicts) := List.foldl_assoc

/-- **Two series of verdicts together** are what the two come to, merged. -/
theorem collect_append (front back : List Verdict) :
    collect (front ++ back) = (collect front).merge (collect back) := by
  induction front with
  | nil => rfl
  | cons v front ih => rw [List.cons_append, collect_cons, collect_cons, ih, merge_assoc]

/-- **All verdicts together are clean** exactly if each of them is. -/
theorem isClean_collect (verdicts : List Verdict) :
    (collect verdicts).isClean = verdicts.all isClean := by
  induction verdicts with
  | nil => rfl
  | cons v verdicts ih => rw [collect_cons, isClean_merge, ih, List.all_cons]

/-- Verdicts that are equal one by one come to equal verdicts. -/
theorem collect_beq_collect {verdicts others : List Verdict}
    (h : List.Forall₂ (fun a b : Verdict => a == b) verdicts others) :
    collect verdicts == collect others := by
  induction h with
  | nil => exact beq_iff.2 rfl
  | cons hfirst _ ih =>
    rw [collect_cons, collect_cons]
    exact merge_beq_merge hfirst ih

/-! ### What is listed for an object -/

/-- The signatures a verdict lists for `object`, if it lists it. -/
def listed (v : Verdict) (object : String) : Option (List String) :=
  v.detections?.bind (·.lookup object)

/-- What some verdicts list for `object`, one list after another; nothing if none of them lists
it. -/
def listedByAll (verdicts : List Verdict) (object : String) : Option (List String) :=
  match verdicts.filterMap (·.listed object) with
  | [] => none
  | lists => some lists.flatten

theorem listed_merge (a b : Verdict) (object : String) :
    (a.merge b).listed object =
      Option.merge (· ++ ·) (a.listed object) (b.listed object) := by
  rw [listed, listed, listed, detections?_merge]
  cases a.detections? with
  | none => rw [Option.merge_none_left, Option.bind_none, Option.merge_none_left]
  | some found =>
    cases b.detections? with
    | none => rw [Option.merge_none_right, Option.bind_none, Option.merge_none_right]
    | some more =>
      rw [Option.merge_some_some, Option.bind_some, Option.bind_some, Option.bind_some,
        Detections.lookup_union, Detections.signatures]
      cases found.lookup object <;> cases more.lookup object <;> simp

theorem listedByAll_cons (v : Verdict) (verdicts : List Verdict) (object : String) :
    listedByAll (v :: verdicts) object =
      Option.merge (· ++ ·) (v.listed object) (listedByAll verdicts object) := by
  rw [listedByAll, listedByAll, List.filterMap_cons]
  cases v.listed object with
  | none => rw [Option.merge_none_left]
  | some mine =>
    -- whether the others list it decides whether anything is put behind
    cases verdicts.filterMap (·.listed object) <;> simp

/-- **All verdicts together list** for an object what each of them lists, in their order, and no
object that none of them lists. -/
theorem listed_collect (verdicts : List Verdict) (object : String) :
    (collect verdicts).listed object = listedByAll verdicts object := by
  induction verdicts with
  | nil => rfl
  | cons v verdicts ih => rw [collect_cons, listed_merge, ih, listedByAll_cons]

/-- **Merging is a monoid up to equality**, and both forms of being clean are the same to it.

* It is associative, and being clean is neutral on either side.
* Replacing a verdict by an equal one, such as one form of being clean by the other, leaves nothing
  to tell the outcomes apart, neither for two verdicts nor for any number of them.
* All verdicts together list for every object the lists of each, in their order, and nothing else;
  two series together come to what they come to one by one; and all together are clean exactly if
  each verdict is. -/
theorem merge_monoid :
    (∀ a b c : Verdict, (a.merge b).merge c == a.merge (b.merge c)) ∧
    (∀ a : Verdict, clean.merge a == a ∧ a.merge clean == a) ∧
    (clean == infected ∅ ∧
      (∀ a a' b b' : Verdict, a == a' → b == b' → Alike (a.merge b) (a'.merge b')) ∧
      ∀ verdicts others : List Verdict, List.Forall₂ (fun a b => a == b) verdicts others →
        Alike (collect verdicts) (collect others)) ∧
    (∀ verdicts object, (collect verdicts).listed object = listedByAll verdicts object) ∧
    (∀ front back, collect (front ++ back) = (collect front).merge (collect back)) ∧
    ∀ verdicts, (collect verdicts).isClean ↔ ∀ v ∈ verdicts, v.isClean := by
  refine ⟨fun a b c => ?_, fun a => ?_, ⟨clean_beq_infected_empty, ?_, ?_⟩, listed_collect,
    collect_append, fun verdicts => ?_⟩
  · rw [merge_assoc]
    exact BEq.rfl
  · rw [clean_merge, merge_clean]
    exact ⟨BEq.rfl, BEq.rfl⟩
  · exact fun a a' b b' ha hb => alike_iff.2 (merge_beq_merge ha hb)
  · exact fun verdicts others h => alike_iff.2 (collect_beq_collect h)
  · rw [isClean_collect, List.all_eq_true]

/-- An object without signatures is still listed, and it is so beside either form of being clean. -/
theorem merge_monoid_unsigned :
    clean == infected ∅ ∧
    Alike (clean.merge (infected (.ofEntries [("/a", [])])))
      ((infected ∅).merge (infected (.ofEntries [("/a", [])]))) ∧
    ((infected ∅).merge (infected (.ofEntries [("/a", [])]))).listed "/a" = some [] :=
  ⟨clean_beq_infected_empty,
    merge_monoid.2.2.1.2.1 _ _ _ _ clean_beq_infected_empty BEq.rfl, by decide⟩

end Clamd.Verdict
