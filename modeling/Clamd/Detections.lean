/-!
# Detections

The signatures that were found, by object. Objects are kept in increasing order of their text, which
is also the order of their UTF-8 bytes; the signatures of one object keep the order in which they
were reported, and none is dropped. A series of reports is taken from its end, so that each report
only goes in front of the later ones.

* `lookup_precede`: putting signatures before those of an object touches no other object.
-/

namespace Clamd

/-- The order of two entries is the order of their objects. -/
def Detections.Before (a b : String × List String) : Prop :=
  a.1 < b.1

instance : DecidableRel Detections.Before :=
  fun a b => inferInstanceAs (Decidable (a.1 < b.1))

/-- Signatures by object, each object once and in increasing order. -/
structure Detections where
  /-- The objects with their signatures. -/
  entries : List (String × List String)
  /-- Each object comes once, and the objects increase. -/
  increasing : entries.Pairwise Detections.Before
  deriving DecidableEq

namespace Detections

instance : Repr Detections := ⟨fun d n => reprPrec d.entries n⟩

/-- Nothing was found. -/
def empty : Detections := ⟨[], .nil⟩

instance : EmptyCollection Detections := ⟨empty⟩
instance : Inhabited Detections := ⟨empty⟩

/-- Whether no object is listed. -/
def isEmpty (d : Detections) : Bool := d.entries.isEmpty

/-- The signatures listed for `object`, if it is listed. -/
def lookup (d : Detections) (object : String) : Option (List String) :=
  (d.entries.find? (·.1 == object)).map (·.2)

/-- Puts `signatures` before those of the entry of `object`, which is inserted in its place if it is
new. -/
def precedeEntry (object : String) (signatures : List String) :
    List (String × List String) → List (String × List String)
  | [] => [(object, signatures)]
  | entry :: rest =>
    if object < entry.1 then (object, signatures) :: entry :: rest
    else if object = entry.1 then (entry.1, signatures ++ entry.2) :: rest
    else entry :: precedeEntry object signatures rest

theorem mem_precedeEntry {object : String} {signatures : List String}
    {entries : List (String × List String)} {e : String × List String}
    (h : e ∈ precedeEntry object signatures entries) :
    e.1 = object ∨ ∃ e' ∈ entries, e'.1 = e.1 := by
  induction entries with
  | nil =>
    rw [precedeEntry, List.mem_singleton] at h
    exact .inl (by rw [h])
  | cons x rest ih =>
    rw [precedeEntry] at h
    split at h
    · rcases List.mem_cons.1 h with rfl | h
      · exact .inl rfl
      · exact .inr ⟨e, h, rfl⟩
    · split at h
      · rcases List.mem_cons.1 h with rfl | h
        · exact .inr ⟨x, List.mem_cons_self, rfl⟩
        · exact .inr ⟨e, List.mem_cons_of_mem _ h, rfl⟩
      · rcases List.mem_cons.1 h with rfl | h
        · exact .inr ⟨_, List.mem_cons_self, rfl⟩
        · rcases ih h with h | ⟨e', he', h⟩
          · exact .inl h
          · exact .inr ⟨e', List.mem_cons_of_mem _ he', h⟩

private theorem lt_of_not_lt_of_ne {a b : String} (h : ¬ a < b) (hne : a ≠ b) : b < a :=
  Std.lt_of_le_of_ne (String.not_lt.1 h) (Ne.symm hne)

/-- Entries that increase do so afterwards. -/
theorem pairwise_precedeEntry {object : String} {signatures : List String}
    {entries : List (String × List String)} (h : entries.Pairwise Before) :
    (precedeEntry object signatures entries).Pairwise Before := by
  induction entries with
  | nil => simp [precedeEntry]
  | cons x rest ih =>
    obtain ⟨hx, hrest⟩ := List.pairwise_cons.1 h
    rw [precedeEntry]
    split
    next hlt =>
      refine List.pairwise_cons.2 ⟨?_, h⟩
      intro e he
      rcases List.mem_cons.1 he with rfl | he
      · exact hlt
      · exact String.lt_trans hlt (hx e he)
    next hlt =>
      split
      next heq => exact List.pairwise_cons.2 ⟨hx, hrest⟩
      next hne =>
        refine List.pairwise_cons.2 ⟨?_, ih hrest⟩
        intro e he
        rcases mem_precedeEntry he with h | ⟨e', he', h⟩
        · show x.1 < e.1
          rw [h]
          exact lt_of_not_lt_of_ne hlt hne
        · show x.1 < e.1
          rw [← h]
          exact hx e' he'

/-- Puts `signatures` before those of `object`. An object may be listed without any signature. -/
def precede (d : Detections) (object : String) (signatures : List String) : Detections :=
  ⟨precedeEntry object signatures d.entries, pairwise_precedeEntry d.increasing⟩

/-- What both sides list, the signatures of `d` first for an object that both list. -/
def union (d other : Detections) : Detections :=
  d.entries.foldr (fun e acc => acc.precede e.1 e.2) other

/-- The detections of a series of entries. Those with one object are put together in their order. -/
def ofEntries (entries : List (String × List String)) : Detections :=
  entries.foldr (fun e acc => acc.precede e.1 e.2) empty

/-- The detections of a series of reports, one signature each. -/
def ofReports (reports : List (String × String)) : Detections :=
  ofEntries (reports.map fun r => (r.1, [r.2]))

private theorem lookup_precedeEntry (object : String) (signatures : List String)
    {entries : List (String × List String)} (h : entries.Pairwise Before) (o : String) :
    ((precedeEntry object signatures entries).find? (·.1 == o)).map (·.2) =
      if o = object then
        some (signatures ++ ((entries.find? (·.1 == o)).map (·.2)).getD [])
      else (entries.find? (·.1 == o)).map (·.2) := by
  induction entries with
  | nil =>
    by_cases ho : o = object
    · simp [precedeEntry, ho]
    · simp [precedeEntry, ho, Ne.symm ho]
  | cons x rest ih =>
    obtain ⟨hx, hrest⟩ := List.pairwise_cons.1 h
    rw [precedeEntry]
    split
    next hlt =>
      by_cases ho : o = object
      · subst ho
        have hnone : rest.find? (·.1 == o) = none := by
          rw [List.find?_eq_none]
          intro e he hbe
          have := String.lt_trans hlt (hx e he)
          rw [beq_iff_eq.1 hbe] at this
          exact String.lt_irrefl _ this
        have hne : x.1 ≠ o := fun he => by
          rw [he] at hlt
          exact String.lt_irrefl _ hlt
        simp [hne, hnone]
      · simp [ho, Ne.symm ho]
    next hlt =>
      split
      next heq =>
        subst heq
        by_cases ho : o = x.1
        · subst ho
          simp
        · simp [Ne.symm ho, ho]
      next hne =>
        by_cases hxo : x.1 = o
        · subst hxo
          simp [Ne.symm hne]
        · simp only [List.find?_cons, beq_eq_false_iff_ne.2 hxo]
          exact ih hrest

/-- **Putting signatures before those of one object.** Its list grows at the front, and no other
list changes. -/
@[simp] theorem lookup_precede (d : Detections) (object : String) (signatures : List String)
    (o : String) :
    (d.precede object signatures).lookup o =
      if o = object then some (signatures ++ (d.lookup o).getD []) else d.lookup o :=
  lookup_precedeEntry object signatures d.increasing o

@[simp] theorem lookup_empty (o : String) : empty.lookup o = none := rfl

end Detections

end Clamd
