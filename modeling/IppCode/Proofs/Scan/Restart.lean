import IppCode.Proofs.Scan.Answers
import IppCode.Proofs.Scan.Append

/-!
# A newline restarts the scanner

Whatever stands before a newline, and however its scan ended there, in a comment, at a stray
character, in a word or behind a failure, what comes next is scanned as a source of its own, on
later lines (`Scanner.newline_restarts`). Of the text before, only the number of its lines matters.

That nothing else is carried over is known of complete lines (`scan_append`); here the text before
is any text, and the newline behind it completes its last line (`scan_newline`).
-/

namespace IppCode

/-- **Behind a newline a text is scanned as if it stood alone**, whatever stands before. -/
theorem scan_append_newline (before more : String) :
    scan (before ++ "\n" ++ more) =
      (scan before).dropLast ++
        (scan more).map (movedResult (1 + before.toList.count '\n')) := by
  have htoList : (before ++ "\n").toList = before.toList ++ ['\n'] := by
    rw [String.toList_append]
    rfl
  have hlast : (before ++ "\n").toList.getLast? = some '\n' := by
    rw [htoList, List.getLast?_concat]
  have hcount : (before ++ "\n").toList.count '\n' = 1 + before.toList.count '\n' := by
    rw [htoList, List.count_append, List.count_singleton_self, Nat.add_comm]
  rw [scan_append hlast, hcount, scan_newline htoList, List.dropLast_concat, scan_eq before,
    List.dropLast_concat]

namespace Scanner

/-- The answers are what is scanned, and behind it the end for ever. -/
theorem answer_ofSource (source : String) (n : Nat) :
    (ofSource source).answer n =
      ((scan source).dropLast[n]?).getD (.ok ⟨.endOfStream, 1 + source.toList.count '\n'⟩) := by
  rw [scan_eq, List.dropLast_concat, ← Cursor.lastLine_start]
  exact answer_eq (Cursor.start source) n

/-- **A newline restarts the scanner.** Behind the answers to the text before it, but for the end of
that text, come the answers to the text behind it, on lines that are later by those of the text
before and the newline. -/
theorem newline_restarts (a b : String) :
    ∃ before : List (Except Failure Token),
      (∀ token, .ok token ∈ before → token.isEnd = false) ∧
      scan a = before ++ [.ok ⟨.endOfStream, 1 + a.toList.count '\n'⟩] ∧
      scan (a ++ "\n" ++ b) =
        before ++ (scan b).map (movedResult (1 + a.toList.count '\n')) ∧
      (∀ n, (ofSource a).answer n =
        (before[n]?).getD (.ok ⟨.endOfStream, 1 + a.toList.count '\n'⟩)) ∧
      (∀ n (hn : n < before.length), (ofSource (a ++ "\n" ++ b)).answer n = before[n]) ∧
      ∀ n, (ofSource (a ++ "\n" ++ b)).answer (before.length + n) =
        movedResult (1 + a.toList.count '\n') ((ofSource b).answer n) := by
  obtain ⟨line, hb⟩ := scan_eq_dropLast b
  have ha : scan a = (scan a).dropLast ++ [.ok ⟨.endOfStream, 1 + a.toList.count '\n'⟩] := by
    rw [scan_eq, List.dropLast_concat, Cursor.lastLine_start]
  have hboth : (scan (a ++ "\n" ++ b)).dropLast =
      (scan a).dropLast ++ (scan b).dropLast.map (movedResult (1 + a.toList.count '\n')) := by
    rw [scan_append_newline, hb, List.map_append, ← List.append_assoc, List.map_singleton,
      List.dropLast_concat, List.dropLast_concat]
  refine ⟨(scan a).dropLast, fun token htoken ↦ ?_, ha, scan_append_newline a b,
    answer_ofSource a, fun n hn ↦ ?_, fun n ↦ ?_⟩
  · exact isEnd_of_scan_eq_append ha (List.cons_ne_nil _ _) htoken
  · rw [answer_ofSource, hboth, List.getElem?_append_left hn, List.getElem?_eq_getElem hn]
    rfl
  · have hlines : 1 + (a ++ "\n" ++ b).toList.count '\n' =
        1 + b.toList.count '\n' + (1 + a.toList.count '\n') := by
      rw [String.toList_append, String.toList_append, List.count_append, List.count_append]
      show 1 + (a.toList.count '\n' + 1 + b.toList.count '\n') = _
      omega
    rw [answer_ofSource, hboth, List.getElem?_append_right (Nat.le_add_right _ n),
      Nat.add_sub_cancel_left, List.getElem?_map, answer_ofSource, hlines]
    rcases (scan b).dropLast[n]? with - | result <;> rfl

end Scanner

end IppCode
