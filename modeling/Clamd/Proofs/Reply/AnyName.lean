import Clamd.Proofs.Reply.Verdict

/-!
# Replies on objects of any name

The daemon's reply on one object begins with the object's name, which is chosen by whoever made the
object, and may hold the very words by which replies are told apart. Clean objects and infected ones
are told all the same, for their replies are recognised by how the line ends. A scan that failed is
not: the word by which detections are recognised is looked for in the whole text.

* `Reply.verdict_of_line_ok`, `Reply.verdict_of_line_found` and `Reply.verdict_of_line_error` say
  what replies of one line come to;
* `Reply.verdict_anyName` says it of replies on an object of any name. A scan that failed is told as
  one exactly if that word is not in the name;
* `Reply.not_verdict_anyName` is such a name.
-/

namespace Clamd.Reply

/-- A text on one line. -/
def OneLine (text : String) : Prop :=
  ∀ c ∈ text.toList, isLineEnd c = false

theorem OneLine.append {front back : String} (hfront : OneLine front) (hback : OneLine back) :
    OneLine (front ++ back) := by
  intro c hc
  rw [String.toList_append] at hc
  exact (List.mem_append.1 hc).elim (hfront c) (hback c)

/-- How a line ends that says that a scan failed. -/
def errorEnding : List Char := [' ', 'E', 'R', 'R', 'O', 'R']

/-! ### Replies of one line -/

section Line

variable {verb body : String}

/-- A line is read as clean if it says so. -/
theorem verdict_of_line_ok (hline : OneLine body) (hending : okEnding <:+ body.toList) :
    verdict verb body = .ok .clean := by
  have hword : ['O', 'K'] <:+ okEnding := by decide
  have hlines : lines body.toList = [body.toList] :=
    lines_of_suffix hline (by decide) (by decide) (hword.trans hending)
  refine verdict_of_all_ok (by simp [hlines]) fun line hmem => ?_
  rw [hlines, List.mem_singleton] at hmem
  exact hmem ▸ hending

/-- **A line that has the shape of a report** is read as the one signature that it reports. -/
theorem verdict_of_line_found {found : FoundLine} (hline : OneLine body)
    (hending : FoundLine.ending <:+ body.toList) (hfits : FoundLine.Fits body.toList found) :
    ∃ object signature,
      verdict verb body = .ok (.infected (.ofReports [(object, signature)])) := by
  have hlines : lines body.toList = [body.toList] := lines_of_found hline hending
  obtain ⟨read, hread⟩ := Option.isSome_iff_exists.1 (FoundLine.isSome_ofLine?_iff.2 ⟨_, hfits⟩)
  refine ⟨String.ofList read.object, String.ofList read.signature, ?_⟩
  have hreports : reports (lines body.toList) =
      some [(String.ofList read.object, String.ofList read.signature)] := by
    rw [hlines, reports, List.filter_cons_of_pos (isFound_iff.2 hending), List.filter_nil]
    simp [hread]
  refine verdict_eq_infected_iff.2 ⟨⟨body.toList, ?_, hending⟩, _, hreports, rfl⟩
  rw [hlines]
  exact List.mem_singleton.2 rfl

/-- **A line that says that a scan failed** is read so, unless the word of detections is in it. -/
theorem verdict_of_line_error (hline : OneLine body) (hending : errorEnding <:+ body.toList) :
    verdict verb body =
      if Text.occurs foundWord body.toList then .error (.invalidReply verb body)
      else .error (.scanFailed (Text.trimmed body)) := by
  have hword : ['E', 'R', 'R', 'O', 'R'] <:+ errorEnding := by decide
  have hlines : lines body.toList = [body.toList] :=
    lines_of_suffix hline (by decide) (by decide) (hword.trans hending)
  have hnotOk : isOk body.toList = false := by
    rw [Bool.eq_false_iff, Ne, isOk_iff]
    exact not_suffix_of_suffix hending (by decide) (by decide)
  have hnotFound : isFound body.toList = false := by
    rw [Bool.eq_false_iff, Ne, isFound_iff]
    exact not_suffix_of_suffix hending (by decide) (by decide)
  have hnone : reports [body.toList] = some [] := by
    rw [reports, List.filter_cons_of_neg (by simp [hnotFound])]
    rfl
  have herror : isError body.toList = true := List.isSuffixOf_iff_suffix.2 hending
  simp only [verdict, hlines, hnone, List.all_cons, List.all_nil, hnotOk, herror, List.any_cons,
    List.any_nil, Bool.and_true, Bool.or_false]
  rfl

end Line

/-! ### Any name -/

/-- The word of detections is in a reply to a scan that failed exactly if it is in the name or in the
reason. -/
theorem foundWord_infix_error_iff {name reason : List Char} :
    foundWord <:+: name ++ FoundLine.separator ++ reason ++ errorEnding ↔
      foundWord <:+: name ∨ foundWord <:+: reason := by
  have hsplit : name ++ FoundLine.separator ++ reason ++ errorEnding =
      name ++ ':' :: ([] ++ ' ' :: (reason ++ ' ' :: ['E', 'R', 'R', 'O', 'R'])) := by
    simp [FoundLine.separator, errorEnding]
  -- none of the characters between the parts is in the word
  rw [hsplit, Text.infix_append_cons_iff (by decide), Text.infix_append_cons_iff (by decide),
    Text.infix_append_cons_iff (by decide)]
  have hnil : ¬ foundWord <:+: [] := by decide
  have hrest : ¬ foundWord <:+: ['E', 'R', 'R', 'O', 'R'] := by decide
  simp only [hnil, hrest, false_or, or_false]

/-- **A reply on an object of any name.** Let the name be a text on one line that is not empty.

* The reply that says that the object is clean is read so.
* The reply that reports a signature in it is read as one signature of one object.
* The reply that says that its scan failed, for a reason without the word of detections, is read so
  and the failure has its text, if the word is not in the name. Otherwise the reply is invalid. -/
theorem verdict_anyName {name : String} (hne : name ≠ "") (hname : OneLine name) (verb : String) :
    verdict verb (name ++ ": OK") = .ok .clean ∧
      (∀ signature, signature ≠ "" → OneLine signature →
        ∃ found object read,
          verdict verb (name ++ ": " ++ signature ++ " FOUND") = .ok (.infected found) ∧
            found.entries = [(object, [read])]) ∧
      ∀ reason, OneLine reason → ¬ foundWord <:+: reason.toList →
        let body := name ++ ": " ++ reason ++ " ERROR"
        (¬ foundWord <:+: name.toList →
          verdict verb body = .error (.scanFailed (Text.trimmed body))) ∧
        (foundWord <:+: name.toList →
          verdict verb body = .error (.invalidReply verb body)) := by
  have hseparator : OneLine ": " := by simp [OneLine, isLineEnd]
  have hok : OneLine ": OK" := by simp [OneLine, isLineEnd]
  have hfound : OneLine " FOUND" := by simp [OneLine, isLineEnd]
  have herror : OneLine " ERROR" := by simp [OneLine, isLineEnd]
  refine ⟨?_, fun signature hsignature hone => ?_, fun reason hone hreason => ?_⟩
  · refine verdict_of_line_ok (hname.append hok) ⟨name.toList ++ [':'], ?_⟩
    simp [okEnding]
  · have htext : (name ++ ": " ++ signature ++ " FOUND").toList =
        FoundLine.text ⟨name.toList, signature.toList⟩ := by
      simp [FoundLine.text, FoundLine.separator, FoundLine.ending]
    -- the whole name may be the object, although another division of the line may be preferred
    have hfits : FoundLine.Fits (name ++ ": " ++ signature ++ " FOUND").toList
        ⟨name.toList, signature.toList⟩ := by
      rw [htext, FoundLine.fits_iff]
      exact ⟨[], by simpa using hne, by simpa using hsignature, .inl rfl, rfl⟩
    have hending : FoundLine.ending <:+ (name ++ ": " ++ signature ++ " FOUND").toList := by
      rw [htext]
      exact List.suffix_append _ _
    obtain ⟨object, read, hread⟩ : ∃ object read, verdict verb _ = _ :=
      verdict_of_line_found (((hname.append hseparator).append hone).append hfound) hending hfits
    exact ⟨_, object, read, hread, rfl⟩
  · intro body
    have htext : body.toList =
        name.toList ++ FoundLine.separator ++ reason.toList ++ errorEnding := by
      simp [body, FoundLine.separator, errorEnding]
    have hword : Text.occurs foundWord body.toList = true ↔ foundWord <:+: name.toList := by
      rw [Text.occurs_iff, htext, foundWord_infix_error_iff, or_iff_left hreason]
    have hread : verdict verb body = _ :=
      verdict_of_line_error (((hname.append hseparator).append hone).append herror)
        (by rw [htext]; exact List.suffix_append _ _)
    rw [hread]
    exact ⟨fun h => if_neg (h ∘ hword.1), fun h => if_pos (hword.2 h)⟩

/-- A name with the words of clean objects and of failures, a separator, and a blank at its end. -/
theorem verdict_anyName_words :
    let name := "/a: OK 1 ERROR "
    let failed := name ++ ": " ++ "Access denied." ++ " ERROR"
    name ≠ "" ∧ OneLine name ∧ "Eicar" ≠ "" ∧ OneLine "Eicar" ∧ OneLine "Access denied." ∧
      ¬ foundWord <:+: "Access denied.".toList ∧ ¬ foundWord <:+: name.toList ∧
      verdict "SCAN" (name ++ ": OK") = .ok .clean ∧
      (∃ found object read, verdict "SCAN" (name ++ ": " ++ "Eicar" ++ " FOUND") =
        .ok (.infected found) ∧ found.entries = [(object, [read])]) ∧
      verdict "SCAN" failed = .error (.scanFailed (Text.trimmed failed)) := by
  intro name failed
  have hne : name ≠ "" := by decide
  have hname : OneLine name := by simp [name, OneLine, isLineEnd]
  have hsignature : OneLine "Eicar" := by simp [OneLine, isLineEnd]
  have hone : OneLine "Access denied." := by simp [OneLine, isLineEnd]
  have hreason : ¬ foundWord <:+: "Access denied.".toList := by decide +kernel
  have hword : ¬ foundWord <:+: name.toList := by decide +kernel
  obtain ⟨hclean, hinfected, hfailed⟩ := verdict_anyName hne hname "SCAN"
  exact ⟨hne, hname, by decide, hsignature, hone, hreason, hword, hclean,
    hinfected "Eicar" (by decide) hsignature, (hfailed "Access denied." hone hreason).1 hword⟩

/-- Not every scan that failed is told as one: a file may be called so that its reply is invalid. -/
theorem not_verdict_anyName :
    ¬ ∀ name reason : String, name ≠ "" → OneLine name → OneLine reason →
      ¬ foundWord <:+: reason.toList →
      verdict "SCAN" (name ++ ": " ++ reason ++ " ERROR") =
        .error (.scanFailed (Text.trimmed (name ++ ": " ++ reason ++ " ERROR"))) := by
  intro h
  have hfailed := h "/srv/FOUND.txt" "Access denied." (by decide)
    (by simp [OneLine, isLineEnd]) (by simp [OneLine, isLineEnd]) (by decide +kernel)
  have hread : verdict "SCAN" ("/srv/FOUND.txt" ++ ": " ++ "Access denied." ++ " ERROR") =
      .error (.invalidReply "SCAN" "/srv/FOUND.txt: Access denied. ERROR") := by rfl
  rw [hread] at hfailed
  -- an invalid reply is another failure than a scan that failed
  cases hfailed

end Clamd.Reply
