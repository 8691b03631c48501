import Clamd.Detections
import Mathlib.Data.List.Sort

/-!
# What detections hold

Detections are looked at through two views: the signatures of one object, in their order
(`Detections.signatures`), and the number of signatures in all (`Detections.total`). Each operation
is described by what it does to both.

* `Detections.signatures_ofReports`: a series of reports gives each object the signatures that were
  reported for it, in the order of the reports;
* `Detections.total_ofReports`: no report is dropped and none is counted twice;
* `Detections.mem_entries_iff`: an entry is what is looked up under its object, so detections are
  known by looking up (`Detections.ext_lookup`);
* `Detections.lookup_union`: what two sides list for an object together; they list nothing exactly
  if neither does (`Detections.isEmpty_union`);
* `Detections.ofReports_append`: reports in two series give what the two series give together;
* `Detections.ofReports_reported`: detections are what they report themselves, one signature after
  another.
-/

namespace Clamd.Detections

/-- The signatures of one object. -/
def signatures (d : Detections) (object : String) : List String :=
  (d.lookup object).getD []

/-- The number of signatures of all objects. -/
def total (d : Detections) : Nat :=
  (d.entries.flatMap fun e => e.2).length

/-! ### The signatures of an object -/

@[simp] theorem signatures_precede (d : Detections) (object : String) (more : List String)
    (o : String) :
    (d.precede object more).signatures o =
      if o = object then more ++ d.signatures o else d.signatures o := by
  rw [signatures, lookup_precede]
  split
  next h =>
    rw [h]
    rfl
  next => rfl

/-- The entry of an object is the one that is found under it. -/
theorem mem_entries_iff {d : Detections} {e : String × List String} :
    e ∈ d.entries ↔ d.lookup e.1 = some e.2 := by
  rw [lookup, Option.map_eq_some_iff]
  constructor
  · intro hmem
    refine ⟨e, ?_, rfl⟩
    obtain ⟨before, behind, hsplit⟩ := List.append_of_mem hmem
    have hincreasing := d.increasing
    rw [hsplit, List.pairwise_append] at hincreasing
    -- what stands before the entry is smaller, so it is not found first
    have hnone : before.find? (fun x => x.1 == e.1) = none := by
      rw [List.find?_eq_none]
      intro x hx hsame
      have hbefore : x.1 < e.1 := hincreasing.2.2 x hx e List.mem_cons_self
      rw [beq_iff_eq.1 hsame] at hbefore
      exact String.lt_irrefl _ hbefore
    rw [hsplit, List.find?_append, hnone, Option.none_or]
    exact List.find?_cons_of_pos (beq_self_eq_true e.1)
  · rintro ⟨x, hfind, hsame⟩
    have hfound := List.find?_some hfind
    have hobject : x.1 = e.1 := beq_iff_eq.1 hfound
    have heq : x = e := Prod.ext hobject hsame
    exact heq ▸ List.mem_of_find?_eq_some hfind

instance : Std.Irrefl Before := ⟨fun e => String.lt_irrefl e.1⟩

instance : Std.Antisymm Before :=
  ⟨fun _ _ hab hba => absurd (String.lt_trans hab hba) (String.lt_irrefl _)⟩

/-- **Detections are known by looking up**: two of them are the same as soon as every object has the
same signatures in both, or none in both. -/
theorem ext_lookup {d e : Detections} (h : ∀ object, d.lookup object = e.lookup object) :
    d = e := by
  have hentries : d.entries = e.entries := by
    apply d.increasing.eq_of_mem_iff e.increasing
    intro entry
    rw [mem_entries_iff, mem_entries_iff, h]
  cases d
  cases e
  cases hentries
  rfl

/-! ### The number of signatures -/

@[simp] theorem total_precede (d : Detections) (object : String) (more : List String) :
    (d.precede object more).total = more.length + d.total := by
  -- wherever the signatures are put, nothing else changes
  have hentries : ∀ entries : List (String × List String),
      ((precedeEntry object more entries).flatMap fun e => e.2).length =
        more.length + (entries.flatMap fun e => e.2).length := by
    intro entries
    induction entries with
    | nil => simp [precedeEntry]
    | cons x rest ih =>
      rw [precedeEntry]
      split
      · rw [List.flatMap_cons, List.length_append]
      · split
        · simp only [List.flatMap_cons, List.length_append, Nat.add_assoc]
        · simp only [List.flatMap_cons, List.length_append, ih]
          omega
  exact hentries d.entries

/-! ### Series of reports -/

/-- What some reports say about one object, in their order. -/
def reportsOf (reports : List (String × String)) (object : String) : List String :=
  (reports.filter fun r => r.1 == object).map (·.2)

theorem ofReports_cons (report : String × String) (reports : List (String × String)) :
    ofReports (report :: reports) = (ofReports reports).precede report.1 [report.2] := rfl

/-- **The signatures of an object are those that were reported for it**, in the order of the
reports. -/
theorem signatures_ofReports (reports : List (String × String)) (object : String) :
    (ofReports reports).signatures object = reportsOf reports object := by
  induction reports with
  | nil => rfl
  | cons report reports ih =>
    rw [ofReports_cons, signatures_precede, ih, reportsOf, reportsOf, List.filter_cons]
    by_cases h : object = report.1
    · rw [if_pos h, if_pos (beq_iff_eq.2 h.symm)]
      rfl
    · rw [if_neg h, if_neg (by simpa using Ne.symm h)]

/-- **No report is dropped and none is counted twice.** -/
theorem total_ofReports (reports : List (String × String)) :
    (ofReports reports).total = reports.length := by
  induction reports with
  | nil => rfl
  | cons report reports ih =>
    rw [ofReports_cons, total_precede, ih, List.length_singleton, List.length_cons, Nat.add_comm]

/-- No object of a series of reports is without a signature. -/
theorem ne_nil_of_mem_ofReports {reports : List (String × String)} {e : String × List String}
    (h : e ∈ (ofReports reports).entries) : e.2 ≠ [] := by
  rw [mem_entries_iff] at h
  induction reports with
  | nil => cases h
  | cons report reports ih =>
    rw [ofReports_cons, lookup_precede] at h
    split at h
    next =>
      rw [← Option.some.inj h]
      exact List.cons_ne_nil _ _
    next => exact ih h

/-- Detections without empty lists are known by the signatures of each object. -/
theorem ext_signatures {d e : Detections} (hd : ∀ entry ∈ d.entries, entry.2 ≠ [])
    (he : ∀ entry ∈ e.entries, entry.2 ≠ [])
    (h : ∀ object, d.signatures object = e.signatures object) : d = e := by
  -- an object is listed exactly if it has signatures
  have hlookup : ∀ {d : Detections}, (∀ entry ∈ d.entries, entry.2 ≠ []) → ∀ object,
      d.lookup object = if d.signatures object = [] then none else some (d.signatures object) := by
    intro d hd object
    cases hlisted : d.lookup object with
    | none => rw [signatures, hlisted, if_pos Option.getD_none]
    | some listed =>
      have hne : listed ≠ [] := hd (object, listed) (mem_entries_iff.2 hlisted)
      rw [signatures, hlisted, Option.getD_some, if_neg hne]
  apply ext_lookup
  intro object
  rw [hlookup hd, hlookup he, h]

/-! ### Two sides together -/

section Cons

variable {entry : String × List String} {rest : List (String × List String)}

theorem lookup_cons (h : (entry :: rest).Pairwise Before) (object : String) :
    lookup ⟨entry :: rest, h⟩ object =
      if object = entry.1 then some entry.2 else lookup ⟨rest, h.of_cons⟩ object := by
  unfold lookup
  split
  next heq => rw [List.find?_cons_of_pos (by simp [heq])]; rfl
  next hne => rw [List.find?_cons_of_neg (by simpa using Ne.symm hne)]

/-- The first object is not listed again. -/
theorem lookup_tail_eq_none (h : (entry :: rest).Pairwise Before) :
    lookup ⟨rest, h.of_cons⟩ entry.1 = none := by
  rw [lookup, Option.map_eq_none_iff, List.find?_eq_none]
  intro later hlater hsame
  have hlt : entry.1 < later.1 := (List.pairwise_cons.1 h).1 later hlater
  rw [beq_iff_eq.1 hsame] at hlt
  exact String.lt_irrefl _ hlt

theorem union_cons (h : (entry :: rest).Pairwise Before) (other : Detections) :
    union ⟨entry :: rest, h⟩ other = (union ⟨rest, h.of_cons⟩ other).precede entry.1 entry.2 := rfl

end Cons

/-- **What two sides list for an object together**: the signatures of the first side, and behind
them those of the other one. It is listed as soon as one side lists it. -/
theorem lookup_union (d other : Detections) (object : String) :
    (d.union other).lookup object =
      (d.lookup object).elim (other.lookup object)
        fun mine => some (mine ++ other.signatures object) := by
  obtain ⟨entries, h⟩ := d
  induction entries with
  | nil => rfl
  | cons entry rest ih =>
    rw [union_cons, lookup_precede, lookup_cons, ih]
    by_cases hobject : object = entry.1
    · -- the object is not listed again, so behind its signatures stand those of the other side
      rw [if_pos hobject, if_pos hobject, hobject, lookup_tail_eq_none h]
      rfl
    · rw [if_neg hobject, if_neg hobject]

@[simp] theorem signatures_union (d other : Detections) (object : String) :
    (d.union other).signatures object = d.signatures object ++ other.signatures object := by
  rw [signatures, lookup_union, signatures.eq_1 d]
  cases d.lookup object <;> rfl

theorem union_assoc (a b c : Detections) : (a.union b).union c = a.union (b.union c) := by
  apply ext_lookup
  intro object
  rw [lookup_union, lookup_union, lookup_union a, signatures_union]
  cases a.lookup object with
  | none => rw [Option.elim_none, Option.elim_none, lookup_union]
  | some mine => rw [Option.elim_some, Option.elim_some, Option.elim_some, List.append_assoc]

/-- Signatures put before those of one side come before those of both. -/
theorem union_precede (d other : Detections) (object : String) (more : List String) :
    (d.precede object more).union other = (d.union other).precede object more := by
  apply ext_lookup
  intro o
  rw [lookup_union, lookup_precede, lookup_precede, lookup_union]
  by_cases h : o = object
  · rw [if_pos h, if_pos h, Option.elim_some, List.append_assoc]
    cases d.lookup o <;> rfl
  · rw [if_neg h, if_neg h]

/-- **Reports in two series** give what the two series give together. -/
theorem ofReports_append (front back : List (String × String)) :
    ofReports (front ++ back) = (ofReports front).union (ofReports back) := by
  induction front with
  | nil => rfl
  | cons report front ih => rw [List.cons_append, ofReports_cons, ofReports_cons, ih, union_precede]

/-! ### Back to reports -/

/-- **The detections as reports**, one for each signature, objects in increasing order. -/
def reported (d : Detections) : List (String × String) :=
  d.entries.flatMap fun e => e.2.map (e.1, ·)

theorem reportsOf_append (front back : List (String × String)) (object : String) :
    reportsOf (front ++ back) object = reportsOf front object ++ reportsOf back object := by
  rw [reportsOf, List.filter_append, List.map_append]
  rfl

/-- What is reported of one object says nothing of another. -/
theorem reportsOf_map (listed object : String) (more : List String) :
    reportsOf (more.map (listed, ·)) object = if object = listed then more else [] := by
  rw [reportsOf, List.filter_map, List.map_map]
  split
  next h => simp [h, Function.comp_def]
  next h => simp [Ne.symm h, Function.comp_def]

/-- The reports on an object are its signatures, in their order. -/
theorem reportsOf_reported (d : Detections) (object : String) :
    reportsOf d.reported object = d.signatures object := by
  obtain ⟨entries, h⟩ := d
  induction entries with
  | nil => rfl
  | cons entry rest ih =>
    have hrest := ih h.of_cons
    rw [reported] at hrest ⊢
    rw [List.flatMap_cons, reportsOf_append, reportsOf_map, hrest, signatures, signatures,
      lookup_cons]
    split
    next hobject =>
      -- the object is not listed again
      rw [hobject, lookup_tail_eq_none h, Option.getD_none, List.append_nil]
      rfl
    next => rfl

/-- **Detections are what their reports give**, if each object has a signature. -/
theorem ofReports_reported {d : Detections} (h : ∀ e ∈ d.entries, e.2 ≠ []) :
    ofReports d.reported = d := by
  refine ext_signatures (fun _ => ne_nil_of_mem_ofReports) h fun object => ?_
  rw [signatures_ofReports, reportsOf_reported]

/-- The reports of what some reports give are among these. -/
theorem mem_of_mem_reported_ofReports {reports : List (String × String)} {r : String × String}
    (h : r ∈ (ofReports reports).reported) : r ∈ reports := by
  obtain ⟨e, he, hr⟩ := List.mem_flatMap.1 h
  obtain ⟨signature, hsignature, rfl⟩ := List.mem_map.1 hr
  -- the signatures of an entry are those that were reported for its object
  have hlisted : (ofReports reports).signatures e.1 = e.2 := by
    rw [signatures, mem_entries_iff.1 he]
    rfl
  rw [← hlisted, signatures_ofReports, reportsOf, List.mem_map] at hsignature
  obtain ⟨r, hmem, rfl⟩ := hsignature
  obtain ⟨hmem, hobject⟩ := List.mem_filter.1 hmem
  rw [← beq_iff_eq.1 hobject]
  exact hmem

/-! ### Listing nothing -/

/-- An object is listed as soon as signatures are put before its own, even if there are none. -/
@[simp] theorem isEmpty_precede (d : Detections) (object : String) (more : List String) :
    (d.precede object more).isEmpty = false := by
  rw [isEmpty, List.isEmpty_eq_false_iff]
  intro hnil
  have hlookup := lookup_precede d object more object
  rw [lookup, hnil, if_pos rfl] at hlookup
  cases hlookup

/-- Reports leave something to be listed. -/
theorem isEmpty_ofReports (reports : List (String × String)) :
    (ofReports reports).isEmpty = reports.isEmpty := by
  cases reports with
  | nil => rfl
  | cons report reports => rw [ofReports_cons, isEmpty_precede, List.isEmpty_cons]

/-- Detections that list nothing are the empty ones. -/
theorem isEmpty_iff {d : Detections} : d.isEmpty = true ↔ d = ∅ := by
  rw [isEmpty, List.isEmpty_iff]
  constructor
  · intro h
    cases d
    cases h
    rfl
  · rintro rfl
    rfl

@[simp] theorem empty_union (other : Detections) : union ∅ other = other := rfl

@[simp] theorem union_empty (d : Detections) : d.union ∅ = d := by
  apply ext_lookup
  intro object
  rw [lookup_union]
  cases d.lookup object with
  | none => rfl
  | some mine => exact congrArg some (List.append_nil mine)

/-- **Two sides together list nothing** exactly if neither does. -/
theorem isEmpty_union (d other : Detections) :
    (d.union other).isEmpty = (d.isEmpty && other.isEmpty) := by
  rw [union, isEmpty.eq_1 d]
  cases d.entries with
  | nil => rfl
  | cons e rest => rw [List.foldr_cons, isEmpty_precede, List.isEmpty_cons, Bool.false_and]

end Clamd.Detections
