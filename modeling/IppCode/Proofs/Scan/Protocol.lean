import IppCode.Proofs.Scan.Answers

/-!
# Calls of both kinds

A scanner is asked for what comes next in two ways. `Scanner.nextToken` goes on behind a failure,
and `Scanner.next` stops there; the scanner they work on, and whether it is finished, is the same.
`Scanner.answers` lists what a sequence of calls of either kind is answered.

Main statement: `Scanner.interleaved_calls`. As long as the scanner is not finished, the kind of the
call does not matter: it is answered by the next of the results that `nextToken` alone gives
(`Scanner.call_of_open`). The kind matters only for whether the result is the last (`Call.Closes`),
and from then on nothing is read any more (`Scanner.call_of_finished`).

The calls are counted, and not the results: behind `n` calls a scanner that is not finished has the
results ahead but for the first `n` (`Scanner.results_afterAll`), so the place of a call is the
place of its result.

A failure may be delivered by a call of either kind, and which one it was decides what comes after.
Behind `nextToken` there is more to come, and behind `next` there is not, also for `nextToken`: it
then answers with the end of the stream on the line of the failure, which need not be the last line
of the source. So the line in the answers of a finished scanner is part of the statement
(`Served.stays`), and it is the line that the last result was on.
-/

namespace IppCode

/-! ### The line of a lexeme

A lexeme does not go over a newline, so the scanner is still on its line when it is delivered. This
is the line that a scanner finished by the lexeme stays on. -/

/-- Behind a lexeme the cursor is still on its line. -/
theorem Cursor.line_of_next_eq_some {cursor behind : Cursor} {item : Located}
    (h : cursor.next = (some item, behind)) : behind.line = item.line := by
  induction cursor using Cursor.induction with
  | nil offset line first =>
    rw [next_nil] at h
    cases h
  | newline rest offset line first ih => exact ih (next_newline ▸ h)
  | comment rest offset line first ih => exact ih (next_comment ▸ h)
  | blank c rest offset line first hc ih => exact ih (next_blank hc ▸ h)
  | stray c rest offset line first hc ih =>
    rw [next_stray hc] at h
    cases h
    rfl
  | word c rest offset line first hc ih =>
    rw [next_word hc] at h
    cases h
    rfl

/-! ### Calls

A call of either kind has an answer and leaves a scanner, and a sequence of calls is gone through
from the left. -/

/-- The two ways of asking a scanner for what comes next. -/
inductive Call
  /-- Asks for a token, and goes on asking after a failure. -/
  | nextToken
  /-- Asks for what is left to deliver, of which a failure is the last. -/
  | next
  deriving DecidableEq

/-- The result is the last one if a call of this kind delivers it: the end of the stream for both,
and a failure for `next`. -/
def Call.Closes (call : Call) : Except Failure Token → Prop
  | .ok token => token.isEnd = true
  | .error _ => call = .next

/-- What is the last result for `nextToken` is the last for both. -/
theorem Call.Closes.of_nextToken {result : Except Failure Token}
    (h : Call.Closes .nextToken result) (kind : Call) : kind.Closes result := by
  rcases result with failure | token
  · cases h
  · exact h

/-- The answer that the stream ends on the line. -/
def endOfStream (line : Nat) : Option (Except Failure Token) :=
  some (.ok ⟨.endOfStream, line⟩)

/-- What a call is answered when the stream is over, on the line that was reached. -/
def Call.answerBehind (line : Nat) : Call → Option (Except Failure Token)
  | .nextToken => endOfStream line
  | .next => none

/-- The token or the failure is on the line. -/
def OnLine (line : Nat) : Except Failure Token → Prop
  | .ok token => token.line = line
  | .error failure => failure.line? = some line

/-- The results up to the first failure, which is the last of them. -/
def upToFailure : List (Except Failure Token) → List (Except Failure Token)
  | [] => []
  | .ok token :: results => .ok token :: upToFailure results
  | .error failure :: _ => [.error failure]

namespace Scanner

/-- The answer to a call, and the scanner behind it. -/
def call (scanner : Scanner) : Call → Option (Except Failure Token) × Scanner
  | .nextToken => scanner.nextToken.map some id
  | .next => scanner.next

/-- The answers to calls, one after the other. -/
def answers (scanner : Scanner) : List Call → List (Option (Except Failure Token))
  | [] => []
  | kind :: calls => (scanner.call kind).1 :: (scanner.call kind).2.answers calls

/-- The scanner behind calls. -/
def afterAll (scanner : Scanner) : List Call → Scanner
  | [] => scanner
  | kind :: calls => (scanner.call kind).2.afterAll calls

/-! ### One call

An open scanner and a finished one are treated apart. Both kinds of calls read the same way, and
differ in what they make of the scanner at a failure. -/

section Call

variable {scanner : Scanner}

/-- A finished scanner stays as it is. -/
theorem call_of_finished (h : scanner.finished = true) (kind : Call) :
    scanner.call kind = (kind.answerBehind scanner.cursor.line, scanner) := by
  cases kind with
  | nextToken =>
    rw [call, nextToken_of_finished h]
    rfl
  | next => exact if_pos h

/-- The result of a step is on the line that the scanner has reached with it. -/
theorem onLine_read (h : scanner.finished = false) :
    OnLine scanner.read.after.cursor.line scanner.read.result := by
  obtain ⟨cursor, finished⟩ := scanner
  obtain rfl : finished = false := h
  rcases hnext : cursor.next with ⟨- | item, behind⟩
  · rw [read_of_next_eq_none hnext]
    rfl
  · rw [read_of_next_eq_some hnext, readLexeme_result, readLexeme_after, Located.result,
      Cursor.line_of_next_eq_some hnext]
    rcases TokenKind.ofLexeme item.lexeme with fault | kind <;> rfl

/-- A step finishes the scanner at the end of the stream, and a failure does not. -/
theorem finished_read_after_iff (h : scanner.finished = false) :
    scanner.read.after.finished = true ↔ Call.Closes .nextToken scanner.read.result := by
  rcases hread : scanner.read.result with failure | token
  · obtain ⟨cursor, finished⟩ := scanner
    obtain rfl : finished = false := h
    rcases hnext : cursor.next with ⟨- | item, behind⟩
    · rw [read_of_next_eq_none hnext] at hread
      cases hread
    · rw [read_of_next_eq_some hnext, readLexeme_after]
      simp [Call.Closes]
  · rw [finished_read_after h hread, Call.Closes]

/-- **A call of either kind delivers the next result.** It finishes the scanner if the result is the
last for its kind, and otherwise leaves it behind the step. -/
theorem call_of_open (h : scanner.finished = false) (kind : Call) :
    (scanner.call kind).1 = some scanner.read.result ∧
      ((scanner.call kind).2.finished = true ↔ kind.Closes scanner.read.result) ∧
      (scanner.call kind).2.cursor = scanner.read.after.cursor := by
  cases kind with
  | nextToken => exact ⟨rfl, finished_read_after_iff h, rfl⟩
  | next =>
    have hiff := finished_read_after_iff h
    rw [call, next, if_neg (by simp [h])]
    rcases hread : scanner.read with ⟨failure | token, event?, after⟩
    · exact ⟨rfl, iff_of_true rfl rfl, rfl⟩
    · rw [hread] at hiff
      exact ⟨rfl, hiff, rfl⟩

/-- Unless the result is the last, a call of either kind is a step. -/
theorem call_snd_of_not_closes (h : scanner.finished = false) {kind : Call}
    (hopen : ¬ kind.Closes scanner.read.result) :
    (scanner.call kind).2 = scanner.read.after := by
  obtain ⟨-, hfinished, hcursor⟩ := call_of_open h kind
  have hcall : (scanner.call kind).2.finished = false := by
    simpa using mt hfinished.1 hopen
  have hread : scanner.read.after.finished = false := by
    simpa using mt (fun hread ↦ ((finished_read_after_iff h).1 hread).of_nextToken kind) hopen
  rw [Scanner.mk.injEq] at *
  exact ⟨hcursor, hcall.trans hread.symm⟩

end Call

/-! ### Many calls

Everything is said by the position of a call in the sequence. The results that `nextToken` alone
would give are the reference, and the sequence is followed along them until it is closed. -/

section Calls

variable {scanner : Scanner} {calls : List Call}

theorem afterAll_append (calls more : List Call) :
    scanner.afterAll (calls ++ more) = (scanner.afterAll calls).afterAll more := by
  induction calls generalizing scanner with
  | nil => rfl
  | cons kind calls ih => exact ih

/-- No call brings a finished scanner back. -/
theorem afterAll_of_finished (h : scanner.finished = true) (calls : List Call) :
    scanner.afterAll calls = scanner := by
  induction calls with
  | nil => rfl
  | cons kind calls ih => rw [afterAll, call_of_finished h, ih]

/-- Behind one more call is behind the calls and then the call. -/
theorem afterAll_take_succ (scanner : Scanner) {i : Nat} {kind : Call}
    (hkind : calls[i]? = some kind) :
    scanner.afterAll (calls.take (i + 1)) = ((scanner.afterAll (calls.take i)).call kind).2 := by
  rw [List.take_add_one, hkind, afterAll_append]
  rfl

/-- A call is answered by the scanner behind those before it. -/
theorem getElem?_answers (i : Nat) :
    (scanner.answers calls)[i]? =
      calls[i]?.map fun kind ↦ ((scanner.afterAll (calls.take i)).call kind).1 := by
  induction calls generalizing scanner i with
  | nil => rfl
  | cons kind calls ih =>
    rcases i with - | i
    · rfl
    · rw [answers, List.getElem?_cons_succ, ih]
      rfl

theorem length_answers : (scanner.answers calls).length = calls.length := by
  induction calls generalizing scanner with
  | nil => rfl
  | cons kind calls ih => rw [answers, List.length_cons, ih, List.length_cons]

/-- **A scanner that is not finished has lost one result to each call.** -/
theorem results_afterAll (h : (scanner.afterAll calls).finished = false) :
    (scanner.afterAll calls).results = scanner.results.drop calls.length := by
  induction calls generalizing scanner with
  | nil => rfl
  | cons kind calls ih =>
    -- a scanner that is finished on the way would still be
    have hcall : (scanner.call kind).2.finished = false := by
      rw [Bool.eq_false_iff]
      intro hcall
      rw [afterAll, afterAll_of_finished hcall, hcall] at h
      cases h
    have hscanner : scanner.finished = false := by
      rw [Bool.eq_false_iff]
      intro hscanner
      rw [call_of_finished hscanner, hscanner] at hcall
      cases hcall
    have hopen : ¬ kind.Closes scanner.read.result := by
      rw [← (call_of_open hscanner kind).2.1, hcall]
      exact Bool.false_ne_true
    rw [afterAll] at h ⊢
    rw [ih h, call_snd_of_not_closes hscanner hopen, results_of_not_finished hscanner]
    rfl

/-- Where a scanner is not finished, its next result is the one in the place of the next call. -/
theorem getElem?_results {i : Nat} (h : (scanner.afterAll (calls.take i)).finished = false)
    (hi : i ≤ calls.length) :
    scanner.results[i]? = some (scanner.afterAll (calls.take i)).read.result := by
  have hresults := results_afterAll h
  rw [results_of_not_finished h, List.length_take_of_le hi] at hresults
  -- what is left behind so many calls begins with the result in this place
  rw [← Nat.add_zero i, ← List.getElem?_drop, ← hresults]
  rfl

end Calls

/-- How a scanner answers calls of either kind when these results are to be delivered. -/
structure Served (results : List (Except Failure Token)) (calls : List Call) (scanner : Scanner) :
    Prop where
  /-- Every call is answered. -/
  length : (scanner.answers calls).length = calls.length
  /-- As long as the scanner is not finished, a call delivers the result in its place, and finishes
  the scanner if this is the last for its kind. -/
  delivers : ∀ i kind, calls[i]? = some kind → (scanner.afterAll (calls.take i)).finished = false →
    ∃ result, results[i]? = some result ∧ (scanner.answers calls)[i]? = some (some result) ∧
      ((scanner.afterAll (calls.take (i + 1))).finished = true ↔ kind.Closes result)
  /-- Behind the call that finishes it, the scanner stays finished, and every answer is that the
  stream is over, on the line of the last result. -/
  stays : ∀ i kind result, calls[i]? = some kind →
    (scanner.afterAll (calls.take i)).finished = false → results[i]? = some result →
    kind.Closes result → ∃ line, OnLine line result ∧ ∀ j, i < j →
      (scanner.afterAll (calls.take j)).finished = true ∧
      ∀ later, calls[j]? = some later →
        (scanner.answers calls)[j]? = some (later.answerBehind line)

section Served

variable {scanner : Scanner}

/-- One lemma about one call, and one about how many calls lie in front of it, give all three. -/
theorem served (scanner : Scanner) (calls : List Call) : Served scanner.results calls scanner where
  length := length_answers
  delivers i kind hkind hopen := by
    obtain ⟨hi, -⟩ := List.getElem?_eq_some_iff.1 hkind
    obtain ⟨hanswer, hfinished, -⟩ := call_of_open hopen kind
    refine ⟨_, getElem?_results hopen (Nat.le_of_lt hi), ?_, ?_⟩
    · rw [getElem?_answers, hkind, Option.map_some, hanswer]
    · rw [afterAll_take_succ scanner hkind, hfinished]
  stays i kind result hkind hopen hresult hcloses := by
    obtain ⟨hi, -⟩ := List.getElem?_eq_some_iff.1 hkind
    obtain ⟨-, hfinished, hcursor⟩ := call_of_open hopen kind
    rw [getElem?_results hopen (Nat.le_of_lt hi), Option.some.injEq] at hresult
    subst hresult
    -- the scanner behind the call is the one behind all later calls
    have hlast := afterAll_take_succ scanner hkind
    have hover : (scanner.afterAll (calls.take (i + 1))).finished = true := by
      rw [hlast, hfinished]
      exact hcloses
    refine ⟨(scanner.afterAll (calls.take (i + 1))).cursor.line, ?_, fun j hj ↦ ?_⟩
    · rw [hlast, hcursor]
      exact onLine_read hopen
    have hsame : scanner.afterAll (calls.take j) = scanner.afterAll (calls.take (i + 1)) := by
      obtain ⟨more, hmore⟩ := List.take_prefix_take_left (l := calls) (Nat.succ_le_of_lt hj)
      rw [← hmore, afterAll_append, afterAll_of_finished hover]
    refine ⟨hsame ▸ hover, fun later hlater ↦ ?_⟩
    rw [getElem?_answers, hlater, Option.map_some, hsame, call_of_finished hover]

/-- `next` delivers the end of the stream no more than once. -/
theorem Served.end_unique {results : List (Except Failure Token)} {calls : List Call}
    (h : Served results calls scanner) {i j line line' : Nat} (hi : calls[i]? = some .next)
    (hj : calls[j]? = some .next)
    (hend : (scanner.answers calls)[i]? = some (endOfStream line))
    (hend' : (scanner.answers calls)[j]? = some (endOfStream line')) : i = j := by
  have hlater : ∀ {i j line line' : Nat}, calls[i]? = some .next → calls[j]? = some .next →
      (scanner.answers calls)[i]? = some (endOfStream line) →
      (scanner.answers calls)[j]? = some (endOfStream line') → ¬ i < j := by
    intro i j line line' hi hj hend hend' hlt
    rcases hopen : (scanner.afterAll (calls.take i)).finished with - | -
    · obtain ⟨result, hresult, hanswer, -⟩ := h.delivers i .next hi hopen
      rw [hend, endOfStream, Option.some.injEq, Option.some.injEq] at hanswer
      subst hanswer
      obtain ⟨last, -, hstays⟩ := h.stays i .next _ hi hopen hresult rfl
      rw [(hstays j hlt).2 .next hj] at hend'
      cases hend'
    · rw [getElem?_answers, hi, Option.map_some, call_of_finished hopen] at hend
      cases hend
  rcases Nat.lt_trichotomy i j with hlt | heq | hlt
  · exact absurd hlt (hlater hi hj hend hend')
  · exact heq
  · exact absurd hlt (hlater hj hi hend' hend)

/-- `next` alone delivers the results up to the first failure, and then nothing. -/
theorem getElem?_answers_next {n i : Nat} (hi : i < n) :
    (scanner.answers (List.replicate n .next))[i]? = some (upToFailure scanner.results)[i]? := by
  induction n generalizing scanner i with
  | zero => exact absurd hi (Nat.not_lt_zero i)
  | succ n ih =>
    rw [List.replicate_succ, answers]
    rcases hopen : scanner.finished with - | -
    · obtain ⟨hanswer, hfinished, -⟩ := call_of_open hopen .next
      rw [hanswer, results_of_not_finished hopen]
      rcases hread : scanner.read.result with failure | token
      · rw [hread] at hfinished
        have hnone : (scanner.call .next).2.results = [] := results_of_finished (hfinished.2 rfl)
        rcases i with - | i
        · rfl
        · rw [List.getElem?_cons_succ, ih (Nat.lt_of_succ_lt_succ hi), hnone]
          rfl
      · have hcall : (scanner.call .next).2 = scanner.read.after := by
          rw [call, next, if_neg (by simp [hopen])]
          rcases hstep : scanner.read with ⟨failure | other, event?, after⟩
          · rw [hstep] at hread
            cases hread
          · rfl
        rcases i with - | i
        · rfl
        · rw [List.getElem?_cons_succ, ih (Nat.lt_of_succ_lt_succ hi), hcall]
          rfl
    · rw [call_of_finished hopen, results_of_finished hopen]
      rcases i with - | i
      · rfl
      · rw [List.getElem?_cons_succ, ih (Nat.lt_of_succ_lt_succ hi), results_of_finished hopen]
        rfl

end Served

/-- **Calls of either kind, in any order, share one stream.** The results are those that `nextToken`
alone gives, and behind them is the end of the stream. How far the stream goes depends on which kind
of call comes upon the first failure; what it gives up to there does not. -/
theorem interleaved_calls (source : String) :
    ∃ (results : List (Except Failure Token)) (last : Token),
      last = ⟨.endOfStream, 1 + source.toList.count '\n'⟩ ∧
      (∀ token, .ok token ∈ results → token.isEnd = false) ∧
      (∀ n, (ofSource source).answer n = (results[n]?).getD (.ok last)) ∧
      (ofSource source).finished = false ∧
      (∀ calls, Served (results ++ [.ok last]) calls (ofSource source)) ∧
      (∀ (calls : List Call) (i j line line' : Nat), calls[i]? = some Call.next →
        calls[j]? = some Call.next →
        ((ofSource source).answers calls)[i]? = some (endOfStream line) →
        ((ofSource source).answers calls)[j]? = some (endOfStream line') → i = j) ∧
      ∀ n i, i < n → ((ofSource source).answers (List.replicate n .next))[i]? =
        some (upToFailure (results ++ [.ok last]))[i]? := by
  have hscan := scan_eq source
  refine ⟨(Cursor.start source).items.map Located.result, _, rfl, fun token htoken ↦ ?_,
    answer_eq (Cursor.start source), rfl, fun calls ↦ ?_, fun calls i j line line' ↦ ?_,
    fun n i hi ↦ ?_⟩
  · obtain ⟨item, -, hresult⟩ := List.mem_map.1 htoken
    exact Located.isEnd_of_result_eq_ok hresult
  · exact hscan ▸ served (ofSource source) calls
  · exact (served (ofSource source) calls).end_unique
  · exact hscan ▸ getElem?_answers_next hi

end Scanner

end IppCode
