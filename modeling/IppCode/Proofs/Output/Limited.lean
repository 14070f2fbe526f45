import IppCode.Proofs.Command.Files
import IppCode.Transfer.Sink

/-!
# Documents in limited sinks

What becomes of a document that is sent to a sink which takes a limited number of bytes in all, and
some number of them at once. `Sink.Limited` asks no more of the sink than that: how many bytes it
takes, what it answers at the limit, and how it is flushed may depend on its state.

A sink is offered what is left of the bytes again and again. `Sink.Offers` follows these calls,
`Sink.Limited.exists_offers` says where they come to, by induction on what is left, and there the
last call decides: the flush if nothing is left (`send_of_empty`), else the write that is refused
(`Limited.send_of_refused`). The main statement, `Document.writeTo_limited`, puts the two together.
How many bytes are taken at once does not show in it. Sinks with a quota are limited sinks
(`Quota.limited_sink`).

The state of a sink is its own business, and `tally` is what can be seen of it from outside: the
bytes that have come to it, and how often it was flushed. A sink that is offered nothing is not
written to, and so an empty rest is the end of the writing also at the limit. For this reason a
document that just fits is flushed, and one that is a byte longer is not.

The limit may lie within a character, and then the sink has the first bytes of its encoding. What
has been written is no text then, but it is still a beginning of the document.
-/

namespace IppCode

namespace Sink

variable {σ : Type}

/-! ### Limited sinks

What is assumed of a sink. Below the limit it has to take something, or the writing could go on for
ever or end early; how much it takes at a time is left open. -/

/-- The sink takes `limit` bytes in all, and no more than `chunk` at once. What has come to it shows
in `tally`. -/
structure Limited (sink : Sink σ) (tally : σ → Tally) (chunk limit : Nat) : Prop where
  /-- Below the limit some of the bytes are taken, from the front. -/
  takes : ∀ bytes state, bytes.size ≠ 0 → (tally state).written.size < limit →
    ∃ n after, sink.write bytes state = (.ok n, after) ∧ 0 < n ∧ n ≤ chunk ∧ n ≤ bytes.size ∧
      (tally state).written.size + n ≤ limit ∧
      tally after = ⟨(tally state).written ++ bytes.extract 0 n, (tally state).flushes⟩
  /-- At the limit none is, with an error or without. An interruption would be no answer, since what
  was interrupted is tried again. -/
  refuses : ∀ bytes state, bytes.size ≠ 0 → limit ≤ (tally state).written.size →
    tally (sink.write bytes state).2 = tally state ∧
      ((sink.write bytes state).1 = .ok 0 ∨
        ∃ error, (sink.write bytes state).1 = .error error ∧ error.isInterruption = false)
  /-- A flush is one, whatever it answers. -/
  flushes : ∀ state, tally (sink.flush state).2 =
    ⟨(tally state).written, (tally state).flushes + 1⟩

/-! ### Repeated offers

The offers of one transfer, as a relation between what there is at first and what is left later. It
is followed until nothing is left or nothing is taken. -/

/-- A sink that is offered bytes in a state, and then always what is left of them, comes to be
offered the bytes `rest` in the state `last`. -/
inductive Offers (sink : Sink σ) : ByteArray → σ → ByteArray → σ → Prop
  /-- What is left after no offers is everything. -/
  | refl (bytes : ByteArray) (state : σ) : Offers sink bytes state bytes state
  /-- An offer of which something is taken, and then the offers of what is left. -/
  | step {bytes rest : ByteArray} {state after last : σ} {n : Nat} (hbytes : bytes.size ≠ 0)
      (hwrite : sink.write bytes state = (.ok n, after)) (hn : 0 < n)
      (hrest : Offers sink (bytes.extract n bytes.size) after rest last) :
    Offers sink bytes state rest last

variable {sink : Sink σ} {tally : σ → Tally} {chunk limit : Nat} {bytes rest : ByteArray}
  {state last : σ}

/-- Writing goes on from where the offers have come to. -/
theorem Offers.writeAll_eq (h : sink.Offers bytes state rest last) :
    sink.writeAll bytes state = sink.writeAll rest last := by
  induction h with
  | refl => rfl
  | step hbytes hwrite hn _ ih =>
    obtain ⟨n, rfl⟩ := Nat.exists_eq_succ_of_ne_zero (Nat.ne_of_gt hn)
    rw [writeAll, if_neg hbytes, hwrite]
    exact ih

/-- A limited sink takes the bytes up to its limit, or all of them. -/
theorem Limited.exists_offers (h : sink.Limited tally chunk limit) (bytes : ByteArray) (state : σ)
    (hstate : (tally state).written.size ≤ limit) :
    ∃ last, ∃ taken ≤ bytes.size, taken = min (limit - (tally state).written.size) bytes.size ∧
      sink.Offers bytes state (bytes.extract taken bytes.size) last ∧
      tally last = ⟨(tally state).written ++ bytes.extract 0 taken, (tally state).flushes⟩ := by
  induction hsize : bytes.size using Nat.strongRecOn generalizing bytes state with
  | ind size ih =>
    subst hsize
    by_cases hend : bytes.size = 0 ∨ limit ≤ (tally state).written.size
    · -- nothing is left, or nothing more is taken
      refine ⟨state, 0, Nat.zero_le _, by omega, ?_, ?_⟩
      · rw [ByteArray.extract_zero_size]
        exact .refl bytes state
      · rw [ByteArray.extract_same, ByteArray.append_empty]
    -- some bytes are taken, and the induction goes on with the others behind them
    obtain ⟨hbytes, hlimit⟩ := not_or.1 hend
    obtain ⟨n, after, hwrite, hpos, -, hn, hsum, hafter⟩ :=
      h.takes bytes state hbytes (Nat.lt_of_not_le hlimit)
    have hwritten : (tally after).written.size = (tally state).written.size + n := by
      rw [hafter, ByteArray.size_append, ByteArray.size_extract]
      omega
    have hleft : (bytes.extract n bytes.size).size = bytes.size - n := by
      rw [ByteArray.size_extract, Nat.min_self]
    obtain ⟨last, more, hle, hmore, hoffers, hlast⟩ := ih (bytes.size - n) (by omega)
      (bytes.extract n bytes.size) after (by omega) hleft
    rw [hwritten] at hmore
    refine ⟨last, n + more, by omega, by omega, .step hbytes hwrite hpos ?_, ?_⟩
    · rw [ByteArray.extract_extract] at hoffers
      rwa [Nat.add_sub_cancel' hn, Nat.min_self] at hoffers
    · rw [hlast, hafter, ByteArray.append_assoc, ByteArray.extract_extract, Nat.add_zero,
        Nat.min_eq_left (by omega),
        ← ByteArray.extract_eq_extract_append_extract n (Nat.zero_le n) (Nat.le_add_right n more)]

/-! ### The last call

Two calls can end a transfer: the flush, and a write that takes nothing. What came before shows in
the tally only. -/

theorem Offers.send_eq (h : sink.Offers bytes state rest last) :
    sink.send bytes state = sink.send rest last := by
  rw [send, send, h.writeAll_eq]

/-- Where nothing is left to be written there is a flush. -/
theorem send_of_empty (hrest : rest.size = 0) : sink.send rest last = sink.flush last := by
  rw [send, writeAll, if_pos hrest]

/-- At the limit the answer of the next write is final, and there is no flush. -/
theorem Limited.send_of_refused (h : sink.Limited tally chunk limit) (hrest : rest.size ≠ 0)
    (hlast : limit ≤ (tally last).written.size) :
    ∃ error after, sink.send rest last = (.error error, after) ∧ tally after = tally last ∧
      ((sink.write rest last).1 = .error error ∨
        (sink.write rest last).1 = .ok 0 ∧ error = .writeZero) := by
  obtain ⟨hkept, hanswer⟩ := h.refuses rest last hrest hlast
  rcases hwrite : sink.write rest last with ⟨answer, after⟩
  rw [hwrite] at hkept hanswer
  obtain rfl | ⟨error, rfl, herror⟩ := hanswer
  · refine ⟨.writeZero, after, ?_, hkept, .inr ⟨rfl, rfl⟩⟩
    rw [send, writeAll, if_neg hrest, hwrite]
  · exact ⟨error, after, send_of_write_error hrest herror hwrite, hkept, .inl rfl⟩

end Sink

/-! ### Sinks with a quota

The sinks that a quota describes are limited, as long as they take something at once and do not
refuse by an interruption. They are one family among others, and what follows is not about them
alone. -/

namespace Quota

variable {quota : Quota} {tally : Tally} {bytes : ByteArray}

theorem sink_write_of_pos {n : Nat} (hn : min bytes.size (quota.room tally) = n) (hpos : 0 < n) :
    quota.sink.write bytes tally =
      (.ok n, ⟨tally.written ++ bytes.extract 0 n, tally.flushes⟩) := by
  obtain ⟨n, rfl⟩ := Nat.exists_eq_succ_of_ne_zero (Nat.ne_of_gt hpos)
  simp only [sink, hn]

/-- Without room the answer is the refusal of the quota, or that nothing was taken. -/
theorem sink_write_of_room_eq_zero (hroom : quota.room tally = 0) :
    quota.sink.write bytes tally =
      (match quota.refusal? with | some error => .error error | none => .ok 0, tally) := by
  simp only [sink, hroom, Nat.min_zero]
  rcases quota.refusal? with - | error
  · show (Except.ok 0, (⟨tally.written ++ bytes.extract 0 0, tally.flushes⟩ : Tally)) = _
    rw [ByteArray.extract_same, ByteArray.append_empty]
  · rfl

/-- A quota makes a limited sink, if it lets some bytes through at once. -/
theorem limited_sink {limit : Nat} (hchunk : 0 < quota.chunk) (hlimit : quota.limit? = some limit)
    (hrefusal : ∀ error, quota.refusal? = some error → error.isInterruption = false) :
    quota.sink.Limited id quota.chunk limit := by
  have hroom : ∀ tally, quota.room tally = min quota.chunk (limit - tally.written.size) := by
    intro tally
    rw [room, hlimit]
  refine ⟨fun bytes tally hbytes hfree ↦ ?_, fun bytes tally _ hfull ↦ ?_, fun tally ↦ ?_⟩
  · have hfree : tally.written.size < limit := hfree
    have hn := hroom tally
    refine ⟨_, _, sink_write_of_pos rfl (by omega), by omega, by omega, by omega, ?_, rfl⟩
    show tally.written.size + _ ≤ limit
    omega
  · have hfull : limit ≤ tally.written.size := hfull
    have hn := hroom tally
    rw [sink_write_of_room_eq_zero (by omega)]
    rcases hcase : quota.refusal? with - | error
    · exact ⟨rfl, .inl rfl⟩
    · exact ⟨rfl, .inr ⟨error, rfl, hrefusal error hcase⟩⟩
  · simp only [sink]
    rcases quota.flushError? with - | error <;> rfl

end Quota

/-! ### Documents

A document is a text, but it is sent as its bytes, and the limit is one on bytes. -/

/-- A failure to write names the target, and keeps the error. -/
theorem Document.writeTo_eq {σ : Type} (document : Document) (sink : Sink σ) (target : Target)
    (state : σ) : document.writeTo sink target state =
      ((sink.send document.render.toUTF8 state).1.mapError (.transfer .write target),
        (sink.send document.render.toUTF8 state).2) := by
  rw [writeTo]
  rcases sink.send document.render.toUTF8 state with ⟨error | u, after⟩ <;> rfl

section

variable {σ : Type} {sink : Sink σ} {tally : σ → Tally} {chunk limit : Nat} {state : σ}

/-- **A limited sink gets the bytes of a document up to its limit.** If these are all, then it is
flushed, once, and the flush decides; else the write that is refused does. In neither case does it
show in the result how many bytes were taken at once. -/
theorem Document.writeTo_limited (document : Document) (target : Target)
    (hlimited : sink.Limited tally chunk limit) (hstate : tally state = Tally.zero) :
    let bytes := document.render.toUTF8
    let rest := bytes.extract (min limit bytes.size) bytes.size
    let sent := document.writeTo sink target state
    tally sent.2 =
        ⟨bytes.extract 0 (min limit bytes.size), if bytes.size ≤ limit then 1 else 0⟩ ∧
      ∃ last, sink.Offers bytes state rest last ∧
        (sent.1 = .ok () ↔ bytes.size ≤ limit ∧ (sink.flush last).1 = .ok ()) ∧
        ∀ failure, sent.1 = .error failure →
          failure.exitStatus.code = 12 ∧ ∃ error, failure = .transfer .write target error ∧
            failure.message = s!"I/O error writing to {target.description}: {error.message}" ∧
            (bytes.size ≤ limit ∧ (sink.flush last).1 = .error error ∨
              limit < bytes.size ∧ ((sink.write rest last).1 = .error error ∨
                (sink.write rest last).1 = .ok 0 ∧
                  error.message = "failed to write whole buffer")) := by
  intro bytes rest sent
  obtain ⟨last, taken, -, htaken, hoffers, hlast⟩ := hlimited.exists_offers bytes state
    (by rw [hstate]; exact Nat.zero_le limit)
  rw [hstate] at htaken hlast
  obtain rfl : taken = min limit bytes.size := htaken
  rw [show (Tally.zero.written ++ bytes.extract 0 (min limit bytes.size)) =
    bytes.extract 0 (min limit bytes.size) from ByteArray.empty_append] at hlast
  have hsent : sent = ((sink.send rest last).1.mapError (.transfer .write target),
      (sink.send rest last).2) := by
    rw [← hoffers.send_eq]
    exact document.writeTo_eq sink target state
  have hsize : rest.size = bytes.size - limit := by
    rw [ByteArray.size_extract]
    omega
  by_cases hfits : bytes.size ≤ limit
  · rw [Sink.send_of_empty (by omega)] at hsent
    refine ⟨?_, last, hoffers, ?_, fun failure hfailure ↦ ?_⟩
    · rw [hsent, if_pos hfits, hlimited.flushes, hlast]
      rfl
    · rw [hsent, mapError_eq_ok_iff, and_iff_right hfits]
    · rcases hflush : (sink.flush last).1 with error | u
      · rw [hsent, hflush] at hfailure
        obtain rfl := Except.error.inj hfailure
        exact ⟨rfl, error, rfl, rfl, .inl ⟨hfits, rfl⟩⟩
      · rw [hsent, hflush] at hfailure
        cases hfailure
  · have hlimit : limit ≤ (tally last).written.size := by
      rw [hlast, ByteArray.size_extract]
      omega
    have hrest : rest.size ≠ 0 := by omega
    obtain ⟨error, after, hsend, hafter, herror⟩ := hlimited.send_of_refused hrest hlimit
    rw [hsend] at hsent
    refine ⟨?_, last, hoffers, ?_, fun failure hfailure ↦ ?_⟩
    · rw [hsent, if_neg hfits, hafter, hlast]
      rfl
    · rw [hsent]
      exact ⟨nofun, fun h ↦ absurd h.1 hfits⟩
    · rw [hsent] at hfailure
      obtain rfl := Except.error.inj hfailure
      refine ⟨rfl, error, rfl, rfl, .inr ⟨Nat.lt_of_not_le hfits, ?_⟩⟩
      exact herror.imp_right fun ⟨hanswer, hzero⟩ ↦ ⟨hanswer, congrArg TransferError.message hzero⟩

/-- The sink takes three bytes at once and 59 in all, so that it has the first byte of a character
of two. -/
theorem Document.writeTo_limited_inside_character :
    let document : Document := ⟨"é", []⟩
    let quota : Quota := ⟨3, some 59, none, none⟩
    let sent := document.writeTo quota.sink .stdout Tally.zero
    quota.sink.Limited id 3 59 ∧ document.render.toUTF8.size = 74 ∧
      sent.2 = ⟨document.render.toUTF8.extract 0 59, 0⟩ ∧ sent.1 ≠ .ok () := by
  intro document quota sent
  have hlimited : quota.sink.Limited id 3 59 := Quota.limited_sink (by decide) rfl nofun
  have hsize : document.render.toUTF8.size = 74 := by decide +kernel
  obtain ⟨hsent, last, -, hok, -⟩ := document.writeTo_limited .stdout hlimited rfl
  rw [hsize] at hsent hok
  exact ⟨hlimited, hsize, hsent, fun h ↦ absurd (hok.1 h).1 (by decide)⟩

end

end IppCode
