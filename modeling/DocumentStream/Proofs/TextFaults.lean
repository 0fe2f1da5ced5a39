import Mathlib.Logic.Basic
import Mathlib.Tactic.SplitIfs
import DocumentStream.Text.Undecodable

/-!
Bytes stand for a text exactly if there is no fault in them. For the sequences of bytes that faults
are looked for between are the ones that decoding takes for characters.
-/

namespace DocumentStream.Utf8

theorem isSome_charAtLeast? {least code : Nat} :
    (charAtLeast? least code).isSome = true ↔ least ≤ code ∧ code.isValidChar := by
  unfold charAtLeast?
  split <;> simp_all

theorem isTail_iff {b : UInt8} : isTail b = true ↔ 0x80 ≤ b.toNat ∧ b.toNat < 0xC0 := by
  rw [isTail, Bool.and_eq_true, decide_eq_true_iff, decide_eq_true_iff, UInt8.le_iff_toNat_le,
    UInt8.le_iff_toNat_le]
  exact and_congr_right' Nat.lt_succ_iff.symm

theorem isSecond_iff {a b : UInt8} : isSecond a b = true ↔
    (if a.toNat = 0xE0 then 0xA0 else if a.toNat = 0xF0 then 0x90 else 0x80) ≤ b.toNat ∧
      b.toNat ≤ if a.toNat = 0xED then 0x9F else if a.toNat = 0xF4 then 0x8F else 0xBF := by
  have hnat : ∀ x : UInt8, a = x ↔ a.toNat = x.toNat := fun x => UInt8.toNat_inj.symm
  rw [isSecond, Bool.and_eq_true, decide_eq_true_iff, decide_eq_true_iff, UInt8.le_iff_toNat_le,
    UInt8.le_iff_toNat_le]
  simp only [hnat, apply_ite UInt8.toNat]
  rfl

theorem sequenceLength?_eq (a : UInt8) : sequenceLength? a =
    if a.toNat < 0x80 then some 1 else if a.toNat < 0xC2 then none
    else if a.toNat < 0xE0 then some 2 else if a.toNat < 0xF0 then some 3
    else if a.toNat < 0xF5 then some 4 else none := by
  simp only [sequenceLength?, UInt8.lt_iff_toNat_lt]
  rfl

theorem tailBits?_eq_some {b : UInt8} (h : isTail b = true) :
    tailBits? b = some (b.toNat - 0x80) := if_pos (isTail_iff.mp h)

theorem tailBits?_eq_none {b : UInt8} (h : ¬ isTail b = true) : tailBits? b = none :=
  if_neg (isTail_iff.not.mp h)

theorem isSome_cons {c : Option Char} {text : Option Text} :
    (c.bind fun c => text.bind fun text => pure (c :: text)).isSome = true ↔
      c.isSome = true ∧ text.isSome = true := by
  cases c <;> cases text <;> simp

section

variable {a b c d : UInt8} {rest : Bytes}

theorem isTail_of_isSecond (h : isSecond a b = true) : isTail b = true := by
  rw [isSecond_iff] at h
  rw [isTail_iff]
  split_ifs at h <;> omega

theorem isSome_decode_one (ha : a.toNat < 0x80) :
    (decode (a :: rest)).isSome = true ↔ (decode rest).isSome = true := by
  have hvalid : (charAtLeast? 0 a.toNat).isSome = true :=
    isSome_charAtLeast?.mpr ⟨Nat.zero_le _, .inl (by omega)⟩
  rw [decode.eq_def]
  simp only [if_pos ha, Option.bind_eq_bind, isSome_cons, hvalid, true_and]

/-- What a sequence of two bytes has to be. -/
theorem isSome_decode_two (ha : 0xC0 ≤ a.toNat) (ha' : a.toNat < 0xE0) :
    (decode (a :: b :: rest)).isSome = true ↔
      (0xC2 ≤ a.toNat ∧ isSecond a b = true) ∧ (decode rest).isSome = true := by
  rw [decode.eq_def]
  simp only [if_neg (show ¬ a.toNat < 0x80 by omega), if_neg (show ¬ a.toNat < 0xC0 by omega),
    if_pos ha']
  by_cases hb : isTail b = true
  · simp only [tailBits?_eq_some hb, Option.bind_eq_bind, Option.bind_some, isSome_cons]
    refine and_congr_left' ?_
    rw [isTail_iff] at hb
    rw [isSome_charAtLeast?, isSecond_iff, Nat.isValidChar]
    split_ifs <;> omega
  · have hsecond : ¬ isSecond a b = true := fun h => hb (isTail_of_isSecond h)
    simp [tailBits?_eq_none hb, hsecond]

/-- What a sequence of three bytes has to be. -/
theorem isSome_decode_three (ha : 0xE0 ≤ a.toNat) (ha' : a.toNat < 0xF0) :
    (decode (a :: b :: c :: rest)).isSome = true ↔
      (isSecond a b = true ∧ isTail c = true) ∧ (decode rest).isSome = true := by
  rw [decode.eq_def]
  simp only [if_neg (show ¬ a.toNat < 0x80 by omega), if_neg (show ¬ a.toNat < 0xC0 by omega),
    if_neg (show ¬ a.toNat < 0xE0 by omega), if_pos ha']
  by_cases hb : isTail b = true
  · by_cases hc : isTail c = true
    · simp only [tailBits?_eq_some hb, tailBits?_eq_some hc, Option.bind_eq_bind, Option.bind_some,
        isSome_cons, hc, and_true]
      refine and_congr_left' ?_
      rw [isTail_iff] at hb hc
      rw [isSome_charAtLeast?, isSecond_iff, Nat.isValidChar]
      split_ifs <;> omega
    · simp [tailBits?_eq_none hc, hc]
  · have hsecond : ¬ isSecond a b = true := fun h => hb (isTail_of_isSecond h)
    simp [tailBits?_eq_none hb, hsecond]

/-- What a sequence of four bytes has to be. -/
theorem isSome_decode_four (ha : 0xF0 ≤ a.toNat) :
    (decode (a :: b :: c :: d :: rest)).isSome = true ↔
      (a.toNat < 0xF5 ∧ isSecond a b = true ∧ isTail c = true ∧ isTail d = true) ∧
        (decode rest).isSome = true := by
  rw [decode.eq_def]
  simp only [if_neg (show ¬ a.toNat < 0x80 by omega), if_neg (show ¬ a.toNat < 0xC0 by omega),
    if_neg (show ¬ a.toNat < 0xE0 by omega), if_neg (show ¬ a.toNat < 0xF0 by omega)]
  by_cases ha' : a.toNat < 0xF8
  · rw [if_pos ha']
    by_cases hb : isTail b = true
    · by_cases hc : isTail c = true
      · by_cases hd : isTail d = true
        · simp only [tailBits?_eq_some hb, tailBits?_eq_some hc, tailBits?_eq_some hd,
            Option.bind_eq_bind, Option.bind_some, isSome_cons, hc, hd, and_true]
          refine and_congr_left' ?_
          rw [isTail_iff] at hb hc hd
          rw [isSome_charAtLeast?, isSecond_iff, Nat.isValidChar]
          split_ifs <;> omega
        · simp [tailBits?_eq_none hd, hd]
      · simp [tailBits?_eq_none hc, hc]
    · have hsecond : ¬ isSecond a b = true := fun h => hb (isTail_of_isSecond h)
      simp [tailBits?_eq_none hb, hsecond]
  · rw [if_neg ha']
    have hbeyond : ¬ a.toNat < 0xF5 := by omega
    simp [hbeyond]

theorem one_or_more_of_sequenceLength? {n : Nat} (ha : sequenceLength? a = some n) :
    (n = 1 ∧ a.toNat < 0x80) ∨ ∃ m, n = m + 2 := by
  rw [sequenceLength?_eq] at ha
  split_ifs at ha with hone
  · exact .inl ⟨(Option.some.inj ha).symm, hone⟩
  all_goals exact .inr ⟨_, (Option.some.inj ha).symm⟩

/-- A byte that begins no sequence begins no character. -/
theorem decode_eq_none (ha : sequenceLength? a = none) : decode (a :: rest) = none := by
  have hrange : (0x80 ≤ a.toNat ∧ a.toNat < 0xC2) ∨ 0xF5 ≤ a.toNat := by
    rw [sequenceLength?_eq] at ha
    split_ifs at ha <;> omega
  rw [← Option.not_isSome_iff_eq_none]
  by_cases hlow : a.toNat < 0xC0
  · rw [decode.eq_def]
    simp [show ¬ a.toNat < 0x80 by omega, hlow]
  by_cases hshort : a.toNat < 0xE0
  · cases rest with
    | nil => simp [decode.eq_def [a], show ¬ a.toNat < 0x80 by omega, hlow]
    | cons b rest =>
      rw [isSome_decode_two (by omega) hshort]
      omega
  · have hhigh : 0xF5 ≤ a.toNat := by omega
    rcases rest with _ | ⟨b, _ | ⟨c, _ | ⟨d, rest⟩⟩⟩
    · simp [decode.eq_def [a], show ¬ a.toNat < 0x80 by omega, hlow]
    · simp [decode.eq_def [a, b], show ¬ a.toNat < 0x80 by omega, hlow, hshort]
    · simp [decode.eq_def [a, b, c], show ¬ a.toNat < 0x80 by omega, hlow, hshort,
        show ¬ a.toNat < 0xF0 by omega]
    · rw [isSome_decode_four (by omega)]
      omega

/-- A longer sequence stands for a character if all its bytes continue it. -/
theorem isSome_decode_sequence {n : Nat} (ha : sequenceLength? a = some (n + 2)) :
    (decode (a :: rest)).isSome = true ↔
      tailLength a (n + 1) rest = n + 1 ∧ (decode (rest.drop (n + 1))).isSome = true := by
  rw [sequenceLength?_eq] at ha
  split_ifs at ha with h1 h2 h3 h4 h5
  · cases ha
  · obtain rfl : n = 0 := by simpa using ha.symm
    cases rest with
    | nil => simp [decode.eq_def [a], h1, tailLength]
    | cons b rest =>
      rw [isSome_decode_two (by omega) h3]
      simp [tailLength, show 0xC2 ≤ a.toNat by omega]
  · obtain rfl : n = 1 := by simpa using ha.symm
    rcases rest with _ | ⟨b, _ | ⟨c, rest⟩⟩
    · simp [decode.eq_def [a], h1, tailLength]
    · by_cases hb : isSecond a b = true <;> simp [decode.eq_def [a, b], h1, h3, tailLength, hb]
    · rw [isSome_decode_three (by omega) h4]
      by_cases hb : isSecond a b = true <;> by_cases hc : isTail c = true <;>
        simp [tailLength, hb, hc]
  · obtain rfl : n = 2 := by simpa using ha.symm
    rcases rest with _ | ⟨b, _ | ⟨c, _ | ⟨d, rest⟩⟩⟩
    · simp [decode.eq_def [a], h1, tailLength]
    · by_cases hb : isSecond a b = true <;> simp [decode.eq_def [a, b], h1, h3, tailLength, hb]
    · by_cases hb : isSecond a b = true <;> by_cases hc : isTail c = true <;>
        simp [decode.eq_def [a, b, c], h1, h3, h4, tailLength, hb, hc]
    · rw [isSome_decode_four (by omega)]
      by_cases hb : isSecond a b = true <;> by_cases hc : isTail c = true <;>
        by_cases hd : isTail d = true <;> simp [tailLength, h5, hb, hc, hd]

end

theorem faultFrom?_eq_none_iff {fuel position : Nat} {content : Bytes}
    (hfuel : content.length < fuel) :
    faultFrom? fuel position content = none ↔ (decode content).isSome = true := by
  induction fuel generalizing position content with
  | zero => omega
  | succ fuel ih =>
    cases content with
    | nil => exact iff_of_true rfl rfl
    | cons a rest =>
      have hrest : rest.length < fuel := Nat.lt_of_succ_lt_succ hfuel
      rw [faultFrom?]
      cases ha : sequenceLength? a with
      | none => simp [decode_eq_none ha]
      | some length =>
        obtain ⟨rfl, hone⟩ | ⟨n, rfl⟩ := one_or_more_of_sequenceLength? ha
        · rw [isSome_decode_one hone]
          exact ih hrest
        · have hdropped : (rest.drop (n + 1)).length < fuel := by
            rw [List.length_drop]
            omega
          rw [isSome_decode_sequence ha]
          change (if tailLength a (n + 1) rest = n + 1 then
              faultFrom? fuel (position + (n + 2)) (rest.drop (tailLength a (n + 1) rest))
            else _) = none ↔ _
          by_cases hgood : tailLength a (n + 1) rest = n + 1
          · rw [if_pos hgood, hgood, ih hdropped, and_iff_right rfl]
          · rw [if_neg hgood]
            split <;> simp [hgood]

/-- There is a fault exactly in the bytes that are no text. -/
theorem fault?_eq_none_iff {content : Bytes} :
    fault? content = none ↔ (decode content).isSome = true :=
  faultFrom?_eq_none_iff (Nat.lt_succ_self _)

end DocumentStream.Utf8
