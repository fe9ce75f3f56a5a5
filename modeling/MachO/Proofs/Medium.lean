import MachO.Stream.Medium
import Mathlib.Tactic

/-!
# Where media stop

A medium gives bytes up to its stop: its end, or the position from which on it
fails, whichever comes first.  A request for a number of bytes succeeds exactly
when all of them lie before the stop, in however many portions they come, and
one that does not succeed comes to the stop unless it started behind it.
-/

namespace MachO.Medium

/-- The end of what can be read. -/
def stop (medium : Medium) : Nat :=
  match medium.failAt? with
  | none => medium.data.length
  | some limit => min medium.data.length limit

/-- Why nothing comes at a position behind the stop. -/
def shortageAt (medium : Medium) (position : Nat) : Shortage :=
  if medium.failsAt position then .broken .readFailed else .ended

variable (medium : Medium)

theorem stop_le_length : medium.stop ≤ medium.data.length := by
  unfold stop
  split
  · exact le_rfl
  · exact min_le_left _ _

variable {medium}

theorem stop_le_of_failsAt {position : Nat}
    (hfails : medium.failsAt position = true) :
    medium.stop ≤ position := by
  cases hlimit : medium.failAt? with
  | none => simp [failsAt, hlimit] at hfails
  | some limit =>
      simp only [failsAt, hlimit, decide_eq_true_eq] at hfails
      simp only [stop, hlimit]
      omega

theorem length_le_of_stop_le {position : Nat}
    (hfails : medium.failsAt position = false)
    (hstop : medium.stop ≤ position) :
    medium.data.length ≤ position := by
  cases hlimit : medium.failAt? with
  | none => simpa only [stop, hlimit] using hstop
  | some limit =>
      simp only [failsAt, hlimit, decide_eq_false_iff_not] at hfails
      simp only [stop, hlimit] at hstop
      omega

theorem allowance_bounds {position wanted : Nat}
    (hfails : medium.failsAt position = false) (hwanted : 0 < wanted) :
    0 < medium.allowance position wanted ∧
      medium.allowance position wanted ≤ wanted := by
  unfold failsAt at hfails
  unfold allowance
  cases hportion : medium.portion? with
  | none =>
      cases hlimit : medium.failAt? with
      | none => simp only; omega
      | some limit =>
          simp only [hlimit, decide_eq_false_iff_not] at hfails ⊢
          omega
  | some portion =>
      cases hlimit : medium.failAt? with
      | none => simp only; omega
      | some limit =>
          simp only [hlimit, decide_eq_false_iff_not] at hfails ⊢
          omega

theorem add_allowance_le {position wanted limit : Nat}
    (hlimit : medium.failAt? = some limit) (hposition : position ≤ limit) :
    position + medium.allowance position wanted ≤ limit := by
  unfold allowance
  simp only [hlimit]
  omega

theorem length_take_drop {position count : Nat}
    (hbefore : position + count ≤ medium.stop) :
    ((medium.data.drop position).take count).length = count := by
  have hdata := medium.stop_le_length
  rw [List.length_take, List.length_drop]
  omega

/-- One request: nothing comes behind the stop, and before it some of the
wanted bytes come, which lie before it, too. -/
theorem fetch_cases (medium : Medium) (position : Nat) {wanted : Nat}
    (hwanted : 0 < wanted) :
    (medium.stop ≤ position ∧
        medium.fetch position wanted =
          match medium.shortageAt position with
          | .broken fault => .error fault
          | .ended => .ok []) ∨
      ∃ count, 0 < count ∧ count ≤ wanted ∧
        position + count ≤ medium.stop ∧
        medium.fetch position wanted =
          .ok ((medium.data.drop position).take count) := by
  cases hfails : medium.failsAt position with
  | true =>
      refine Or.inl ⟨stop_le_of_failsAt hfails, ?_⟩
      simp only [fetch, shortageAt, hfails, if_true]
  | false =>
      have hallowance := allowance_bounds hfails hwanted
      by_cases hstop : medium.stop ≤ position
      · have hend := length_le_of_stop_le hfails hstop
        refine Or.inl ⟨hstop, ?_⟩
        simp only [fetch, shortageAt, hfails, Bool.false_eq_true, if_false,
          List.drop_of_length_le hend, List.take_nil]
      · refine Or.inr ⟨min (medium.allowance position wanted)
          (medium.data.length - position), ?_, ?_, ?_, ?_⟩
        · have hlength := medium.stop_le_length
          omega
        · omega
        · unfold stop at hstop ⊢
          split
          · next hlimit =>
            simp only [hlimit] at hstop
            omega
          · next limit hlimit =>
            simp only [hlimit] at hstop
            have hbound : position + medium.allowance position wanted ≤
                limit :=
              add_allowance_le hlimit (by omega)
            omega
        · simp only [fetch, hfails, Bool.false_eq_true, if_false]
          rw [List.take_eq_take_min, List.length_drop]

/-- A request is filled exactly when its bytes lie before the stop.  The
portions do not show, since each of them lies before the stop as well. -/
theorem fill_eq (medium : Medium) (position wanted : Nat) (filled : Bytes) :
    medium.fill position wanted filled =
      if wanted = 0 ∨ position + wanted ≤ medium.stop then
        (.ok (filled ++ (medium.data.drop position).take wanted),
          position + wanted)
      else
        (.error (medium.shortageAt (max position medium.stop)),
          max position medium.stop) := by
  induction wanted using Nat.strong_induction_on
    generalizing position filled with
  | h wanted ih =>
      rw [fill]
      by_cases hzero : wanted = 0
      · subst hzero
        simp
      rw [if_neg hzero]
      rcases medium.fetch_cases position (Nat.pos_of_ne_zero hzero) with
        ⟨hstop, hfetch⟩ | ⟨count, hpos, hle, hbefore, hfetch⟩
      · have hmax : max position medium.stop = position :=
          max_eq_left hstop
        rw [if_neg (by omega), hmax]
        cases hshortage : medium.shortageAt position with
        | broken fault => simp only [hfetch, hshortage]
        | ended => simp only [hfetch, hshortage, List.length_nil, if_true]
      · have hlength := length_take_drop hbefore
        have hmax : max (position + count) medium.stop =
            max position medium.stop := by
          omega
        simp only [hfetch, hlength, if_neg (Nat.pos_iff_ne_zero.mp hpos)]
        rw [ih (wanted - count) (by omega), hmax]
        by_cases hfits : position + wanted ≤ medium.stop
        · have htotal : count + (wanted - count) = wanted := by omega
          rw [if_pos (by omega), if_pos (Or.inr hfits), List.append_assoc,
            ← List.drop_drop, ← List.take_add, Nat.add_assoc, htotal]
        · rw [if_neg (by omega), if_neg (by omega)]

end MachO.Medium
