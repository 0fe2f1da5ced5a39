/-!
Searches whose question can fail. They end at the first element with a positive answer or without
any answer.
-/

namespace DocumentStream

variable {ε α : Type}

instance decidableEqExcept [DecidableEq ε] [DecidableEq α] : DecidableEq (Except ε α)
  | .ok a, .ok b => decidable_of_iff (a = b) ⟨congrArg _, Except.ok.inj⟩
  | .error a, .error b => decidable_of_iff (a = b) ⟨congrArg _, Except.error.inj⟩
  | .ok _, .error _ => .isFalse nofun
  | .error _, .ok _ => .isFalse nofun

theorem eq_ok_of_toOption {result : Except ε α} {a : α} (h : result.toOption = some a) :
    result = .ok a := by
  cases result with
  | ok b => exact congrArg _ (Option.some.inj h)
  | error e => cases h

variable {p : α → Except ε Bool}

theorem findM?_append (as bs : List α) :
    (as ++ bs).findM? p =
      as.findM? p >>= fun found => found.elim (bs.findM? p) fun a => .ok (some a) := by
  induction as with
  | nil => rfl
  | cons a as ih =>
    simp only [List.cons_append, List.findM?]
    cases p a with
    | error e => rfl
    | ok taken =>
      cases taken with
      | true => rfl
      | false => exact ih

/-- Where every answer is known, the first element with a positive one is found. -/
theorem findM?_eq_find? {q : α → Bool} {as : List α} (h : ∀ a ∈ as, p a = .ok (q a)) :
    as.findM? p = .ok (as.find? q) := by
  induction as with
  | nil => rfl
  | cons a as ih =>
    obtain ⟨ha, has⟩ := List.forall_mem_cons.mp h
    rw [List.findM?, ha]
    cases hq : q a with
    | true => simp [bind, Except.bind, pure, Except.pure, hq]
    | false => simpa [bind, Except.bind, hq] using ih has

/-- A search fails where an element yields an error and none before it has a positive answer. -/
theorem findM?_eq_error_iff {as : List α} :
    (∃ e, as.findM? p = .error e) ↔
      ∃ before a after, as = before ++ a :: after ∧ (∀ b ∈ before, p b ≠ .ok true) ∧
        ∃ e, p a = .error e := by
  induction as with
  | nil =>
    refine iff_of_false ?_ (by simp)
    rintro ⟨e, he⟩
    cases he
  | cons a as ih =>
    rw [List.findM?]
    cases ha : p a with
    | error e => exact iff_of_true ⟨e, rfl⟩ ⟨[], a, as, rfl, by simp, e, ha⟩
    | ok taken =>
      cases taken with
      | true =>
        refine iff_of_false ?_ ?_
        · rintro ⟨e, he⟩
          cases he
        · rintro ⟨before, b, after, has, hbefore, e, hb⟩
          cases before with
          | nil =>
            obtain ⟨rfl, -⟩ := List.cons.inj has
            cases ha.symm.trans hb
          | cons c before =>
            obtain ⟨rfl, -⟩ := List.cons.inj has
            exact hbefore a List.mem_cons_self ha
      | false =>
        refine ih.trans ⟨?_, ?_⟩
        · rintro ⟨before, b, after, rfl, hbefore, hb⟩
          refine ⟨a :: before, b, after, rfl, List.forall_mem_cons.mpr ⟨?_, hbefore⟩, hb⟩
          rw [ha]
          exact fun h => Bool.false_ne_true (Except.ok.inj h)
        · rintro ⟨before, b, after, has, hbefore, e, hb⟩
          cases before with
          | nil =>
            obtain ⟨rfl, -⟩ := List.cons.inj has
            cases ha.symm.trans hb
          | cons c before =>
            obtain ⟨rfl, rfl⟩ := List.cons.inj has
            exact ⟨before, b, after, rfl, (List.forall_mem_cons.mp hbefore).2, e, hb⟩

end DocumentStream
