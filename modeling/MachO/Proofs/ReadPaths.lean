import MachO.Proofs.FieldTable
import MachO.Proofs.RandomAccess

/-!
# Two ways to read

Bytes are read by draining the medium and counting afterwards, and section
headers by filling a buffer of their size.  The two loops make the same
requests and get the same answers, so that they stop at the same place for the
same reason.  They only keep different accounts of it.

Where that place is follows from the stop of the medium, however large its
portions are: a request that ends before the stop is met, and any other goes
on to the stop.  An error names the place where the request began.
-/

namespace MachO

namespace Medium

/-- What filling a buffer comes to, by the account of a drain. -/
def Drained.outcome (drained : Drained) (wanted : Nat) (filled : Bytes) :
    Except Shortage Bytes :=
  match drained.fault? with
  | some fault => .error (.broken fault)
  | none =>
      if drained.bytes.length < wanted then .error .ended
      else .ok (filled ++ drained.bytes)

theorem Drained.outcome_append (given : Bytes) (rest : Drained)
    (wanted : Nat) (filled : Bytes) :
    outcome ⟨given ++ rest.bytes, rest.fault?⟩ wanted filled =
      rest.outcome (wanted - given.length) (filled ++ given) := by
  unfold outcome
  cases rest.fault? with
  | some fault => rfl
  | none =>
      have hmissing : (given ++ rest.bytes).length < wanted ↔
          rest.bytes.length < wanted - given.length := by
        rw [List.length_append]
        omega
      simp only [hmissing, List.append_assoc]

/-- Both loops make the same requests, one after the other. -/
theorem fill_eq_drain (medium : Medium) (position wanted : Nat)
    (filled : Bytes) :
    medium.fill position wanted filled =
      ((medium.drain position wanted).outcome wanted filled,
        position + (medium.drain position wanted).bytes.length) := by
  induction wanted using Nat.strong_induction_on
    generalizing position filled with
  | h wanted ih =>
      rw [fill, drain]
      by_cases hzero : wanted = 0
      · simp [hzero, Drained.outcome]
      · rw [if_neg hzero, if_neg hzero]
        cases hfetch : medium.fetch position wanted with
        | error fault => rfl
        | ok given =>
            by_cases hend : given.length = 0
            · have hpos : 0 < wanted := Nat.pos_of_ne_zero hzero
              simp [hend, Drained.outcome, hpos]
            · have hrest := ih (wanted - given.length) (by omega)
                (position + given.length) (filled ++ given)
              simp only [if_neg hend]
              rw [hrest, Drained.outcome_append, List.length_append,
                Nat.add_assoc]

theorem shortageAt_error (medium : Medium)
    (position expected reached : Nat) :
    (medium.shortageAt reached).error position expected =
      if medium.failsAt reached then .readFailure position .readFailed
      else .shortRead position expected := by
  unfold shortageAt
  cases medium.failsAt reached <;> rfl

end Medium

namespace Stream

variable {stream : Stream}

theorem read_eq_fill (htell : stream.medium.canTell = true) (count : Nat) :
    stream.read count =
      ((stream.medium.fill stream.cursor count []).1.mapError
          (Medium.Shortage.error stream.cursor count),
        { stream with
          cursor := (stream.medium.fill stream.cursor count []).2 }) := by
  rw [Medium.fill_eq_drain]
  unfold read Medium.Drained.outcome
  simp only [tell, htell, if_true]
  cases (stream.medium.drain stream.cursor count).fault? with
  | some fault => rfl
  | none =>
      by_cases hmissing :
          (stream.medium.drain stream.cursor count).bytes.length < count
      · simp only [if_pos hmissing]
        rfl
      · simp only [if_neg hmissing, List.nil_append]
        rfl

theorem read_of_untold (htell : stream.medium.canTell = false)
    (count : Nat) :
    stream.read count =
      (.error (.positionUnknown .positionUnknown), stream) := by
  simp only [read, tell, htell, Bool.false_eq_true, if_false]

theorem read_of_met (htell : stream.medium.canTell = true) {count : Nat}
    (hmet : count = 0 ∨ stream.cursor + count ≤ stream.medium.stop) :
    stream.read count =
      (.ok ((stream.medium.data.drop stream.cursor).take count),
        { stream with cursor := stream.cursor + count }) := by
  rw [read_eq_fill htell, Medium.fill_eq, if_pos hmet, List.nil_append]
  rfl

theorem read_of_unmet (htell : stream.medium.canTell = true) {count : Nat}
    (hunmet : ¬ (count = 0 ∨
      stream.cursor + count ≤ stream.medium.stop)) :
    stream.read count =
      (.error
          (if stream.medium.failsAt
              (max stream.cursor stream.medium.stop) then
            .readFailure stream.cursor .readFailed
          else
            .shortRead stream.cursor count),
        { stream with
          cursor := max stream.cursor stream.medium.stop }) := by
  rw [read_eq_fill htell, Medium.fill_eq, if_neg hunmet,
    ← Medium.shortageAt_error]
  rfl

/-- Both ways to read come to the same: the position cannot be told, or the
bytes before the stop are taken, or the cursor goes on to the stop.  A section
header is what the bytes of its size are decoded to. -/
theorem read_paths_agree (stream : Stream) :
    (∀ count, stream.read count =
      if stream.medium.canTell = false then
        (.error (.positionUnknown .positionUnknown), stream)
      else if count = 0 ∨ stream.cursor + count ≤ stream.medium.stop then
        (.ok ((stream.medium.data.drop stream.cursor).take count),
          { stream with cursor := stream.cursor + count })
      else
        (.error
            (if stream.medium.failsAt
                (max stream.cursor stream.medium.stop) then
              .readFailure stream.cursor .readFailed
            else
              .shortRead stream.cursor count),
          { stream with
            cursor := max stream.cursor stream.medium.stop })) ∧
      ∀ width, match stream.read width.sectionHeaderSize with
        | (.error failure, after) =>
            stream.readSection width = (.error failure, after)
        | (.ok bytes, after) =>
            ∃ header,
              Section.decodeFront? stream.order bytes width =
                  .ok (some header) ∧
                stream.readSection width = (.ok header, after) := by
  constructor
  · intro count
    cases htell : stream.medium.canTell with
    | false =>
        rw [if_pos rfl]
        exact read_of_untold htell count
    | true =>
        rw [if_neg (by simp)]
        by_cases hmet : count = 0 ∨
            stream.cursor + count ≤ stream.medium.stop
        · rw [if_pos hmet]
          exact read_of_met htell hmet
        · rw [if_neg hmet]
          exact read_of_unmet htell hmet
  · intro width
    rcases stream.readSection_cases width with
      ⟨htell, hread⟩ | ⟨htell, hfits, header, hdecode, hread⟩ |
        ⟨htell, hover, hread⟩
    · rw [read_of_untold htell]
      exact hread
    · have hlength := Medium.length_take_drop hfits
      rw [read_of_met htell (Or.inr hfits)]
      refine ⟨header, ?_, hread⟩
      rw [Section.decodeFront?_of_length stream.order hlength, hdecode]
      rfl
    · have hsize := width.sectionHeaderSize_ne_zero
      rw [read_of_unmet htell (by omega)]
      rw [Medium.shortageAt_error] at hread
      exact hread

end Stream

end MachO
