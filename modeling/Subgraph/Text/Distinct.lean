/-!
# Text — distinct names

Overloaded declarations share a name.  A register hands out a name for each request: the first
request for a name gets it, a later one gets the name with a suffix `1`, `2`, … that makes a name
not handed out before.  For each name the register remembers where the search for a suffix ended,
and goes on from there when the name is asked for again.

* `freeSuffix`: the search, which ends since it meets no taken name twice.
* `Register.give`: the name handed out for a request.
* `distinctNames`: the names handed out for a list of requests, one for each.
* `distinctNames_eq`: these are the same as if each search began at the suffix `1`.
* `nodup_distinctNames`: they differ from each other.
-/

namespace Subgraph.Text

/-- The name with a numeric suffix. -/
def suffixed (name : String) (k : Nat) : String := name ++ k.repr

/-- Different numbers are written differently. -/
theorem eq_of_repr_eq {j k : Nat} (h : j.repr = k.repr) : j = k := by
  have value : ∀ n : Nat, Nat.ofDigitChars 10 n.repr.toList 0 = n := fun n => by
    rw [Nat.repr_eq_ofList_toDigits, String.toList_ofList]
    exact Nat.ofDigitChars_toDigits (by decide) (by decide)
  rw [← value j, h, value k]

/-- Different suffixes make different names. -/
theorem suffixed_inj {name : String} {j k : Nat} (h : suffixed name j = suffixed name k) :
    j = k :=
  eq_of_repr_eq ((String.append_right_inj name).mp h)

/-! ### The search for a suffix -/

/-- The taken names that a search which has come to the suffix `k` has not met. -/
def unmet (taken : List String) (name : String) (k : Nat) : List String :=
  taken.filter fun x => ∀ j < k, x ≠ suffixed name j

theorem length_unmet_lt {taken : List String} {name : String} {k : Nat}
    (h : suffixed name k ∈ taken) :
    (unmet taken name (k + 1)).length < (unmet taken name k).length := by
  have step : unmet taken name (k + 1) =
      (unmet taken name k).filter fun x => x ≠ suffixed name k := by
    simp only [unmet, List.filter_filter, Nat.forall_lt_succ_right, Bool.decide_and, Bool.and_comm]
  rw [step, List.length_filter_lt_length_iff_exists]
  refine ⟨suffixed name k, List.mem_filter.mpr ⟨h, decide_eq_true fun j hj he => ?_⟩, by simp⟩
  exact Nat.ne_of_gt hj (suffixed_inj he)

/-- The least suffix from `k` on whose name is not taken. -/
def freeSuffix (taken : List String) (name : String) (k : Nat) : Nat :=
  if suffixed name k ∈ taken then freeSuffix taken name (k + 1) else k
termination_by (unmet taken name k).length
decreasing_by exact length_unmet_lt ‹_›

variable {taken : List String} {name : String} {j k : Nat}

theorem le_freeSuffix : k ≤ freeSuffix taken name k := by
  fun_induction freeSuffix taken name k with
  | case1 k _ ih => exact Nat.le_of_succ_le ih
  | case2 k _ => exact Nat.le_refl k

theorem suffixed_freeSuffix_notMem : suffixed name (freeSuffix taken name k) ∉ taken := by
  fun_induction freeSuffix taken name k with
  | case1 k _ ih => exact ih
  | case2 k free => exact free

/-- The search passes over taken names only. -/
theorem mem_of_lt_freeSuffix (from_le : k ≤ j) (h : j < freeSuffix taken name k) :
    suffixed name j ∈ taken := by
  fun_induction freeSuffix taken name k with
  | case1 k here ih =>
      rcases Nat.eq_or_lt_of_le from_le with rfl | later
      · exact here
      · exact ih later h
  | case2 k _ => exact absurd h (Nat.not_lt.mpr from_le)

/-- A search may begin behind names that are all taken. -/
theorem freeSuffix_eq_of_taken (le : j ≤ k)
    (passed : ∀ i, j ≤ i → i < k → suffixed name i ∈ taken) :
    freeSuffix taken name j = freeSuffix taken name k := by
  induction le with
  | refl => rfl
  | @step k le ih =>
      have here : suffixed name k ∈ taken := passed k le (Nat.lt_succ_self k)
      have before := ih fun i hi hk => passed i hi (Nat.lt_succ_of_lt hk)
      rw [before, freeSuffix, if_pos here]

/-! ### The register -/

/-- What has been handed out. -/
structure Register where
  /-- The names handed out, the last one first. -/
  taken : List String := []
  /-- The suffix to look at next, for names that have been asked for again.  The first entry of a
  name counts. -/
  next : List (String × Nat) := []
  deriving DecidableEq, Repr

namespace Register

/-- The suffix at which a search for the name begins. -/
def start (r : Register) (name : String) : Nat := (r.next.lookup name).getD 1

/-- The name handed out for a request, and the register afterwards. -/
def give (r : Register) (name : String) : String × Register :=
  if name ∈ r.taken then
    let k := freeSuffix r.taken name (r.start name)
    (suffixed name k, ⟨suffixed name k :: r.taken, (name, k + 1) :: r.next⟩)
  else (name, { r with taken := name :: r.taken })

/-- The names handed out for a list of requests. -/
def giveAll (r : Register) : List String → List String
  | [] => []
  | name :: names =>
    let given := r.give name
    given.1 :: given.2.giveAll names

end Register

/-- The names handed out for a list of requests by a new register. -/
def distinctNames (names : List String) : List String := Register.giveAll {} names

/-! ### Searches from the first suffix on -/

/-- The name that is due for `name` when those in `taken` have been handed out: the name itself,
or else the one with the least suffix that is free. -/
def distinctName (taken : List String) (name : String) : String :=
  if name ∈ taken then suffixed name (freeSuffix taken name 1) else name

/-- The names that are due for a list of requests when those in `taken` have been handed out. -/
def distinctFrom (taken : List String) : List String → List String
  | [] => []
  | name :: names =>
    let given := distinctName taken name
    given :: distinctFrom (given :: taken) names

namespace Register

/-- Each search begins at `1` or behind it, and the suffixes before its start are taken. -/
structure IsSound (r : Register) : Prop where
  pos : ∀ name, 1 ≤ r.start name
  passed : ∀ name k, 1 ≤ k → k < r.start name → suffixed name k ∈ r.taken

theorem isSound_new : IsSound {} :=
  ⟨fun _ => Nat.le_refl 1, fun _ _ pos lt => absurd pos (Nat.not_le.mpr lt)⟩

/-- The start of a search does not change its end. -/
theorem IsSound.freeSuffix_start {r : Register} (h : r.IsSound) (name : String) :
    freeSuffix r.taken name (r.start name) = freeSuffix r.taken name 1 :=
  (freeSuffix_eq_of_taken (h.pos name) (h.passed name)).symm

theorem start_cons (given : List String) (next : List (String × Nat)) (name other : String)
    (k : Nat) : start ⟨given, (name, k) :: next⟩ other =
      if other = name then k else start ⟨given, next⟩ other := by
  unfold start
  rw [List.lookup_cons]
  split
  · next h => rw [if_pos (eq_of_beq h), Option.getD_some]
  · next h => rw [if_neg (ne_of_beq_false h)]

/-- More names may be handed out. -/
theorem IsSound.cons {r : Register} (h : r.IsSound) (given : String) :
    IsSound { r with taken := given :: r.taken } :=
  ⟨h.pos, fun name k pos lt => List.mem_cons_of_mem _ (h.passed name k pos lt)⟩

/-- A search may begin behind the suffix that the last one found. -/
theorem IsSound.found {r : Register} (h : r.IsSound) (name : String) :
    IsSound ⟨suffixed name (freeSuffix r.taken name 1) :: r.taken,
      (name, freeSuffix r.taken name 1 + 1) :: r.next⟩ := by
  have others := h.cons (suffixed name (freeSuffix r.taken name 1))
  constructor
  · intro other
    rw [start_cons]
    split
    · exact Nat.succ_pos _
    · exact others.pos other
  · intro other k pos lt
    rw [start_cons] at lt
    split at lt
    · next same =>
        subst same
        rcases Nat.lt_succ_iff_lt_or_eq.mp lt with before | rfl
        · exact List.mem_cons_of_mem _ (mem_of_lt_freeSuffix pos before)
        · exact List.mem_cons_self
    · exact others.passed other k pos lt

/-- **What one request does**: the name that is due is handed out and noted, and the register stays
sound. -/
theorem IsSound.give {r : Register} (h : r.IsSound) (name : String) :
    (r.give name).1 = distinctName r.taken name ∧
      (r.give name).2.taken = distinctName r.taken name :: r.taken ∧
      (r.give name).2.IsSound := by
  unfold Register.give distinctName
  rw [h.freeSuffix_start]
  split
  · exact ⟨rfl, rfl, h.found name⟩
  · exact ⟨rfl, rfl, h.cons name⟩

theorem IsSound.giveAll {r : Register} (h : r.IsSound) (names : List String) :
    r.giveAll names = distinctFrom r.taken names := by
  induction names generalizing r with
  | nil => rfl
  | cons name names ih =>
      obtain ⟨given, taken, sound⟩ := h.give name
      rw [Register.giveAll, distinctFrom, given, ih sound, taken]

end Register

/-- **The names handed out are those that are due** when each search begins at the suffix `1`. -/
theorem distinctNames_eq (names : List String) : distinctNames names = distinctFrom [] names :=
  Register.isSound_new.giveAll names

@[simp] theorem length_distinctFrom (taken names : List String) :
    (distinctFrom taken names).length = names.length := by
  induction names generalizing taken with
  | nil => rfl
  | cons name names ih => simp [distinctFrom, ih]

@[simp] theorem length_distinctNames (names : List String) :
    (distinctNames names).length = names.length := by
  rw [distinctNames_eq, length_distinctFrom]

/-- A name that is due was not taken. -/
theorem distinctName_not_mem (taken : List String) (name : String) :
    distinctName taken name ∉ taken := by
  unfold distinctName
  split
  · exact suffixed_freeSuffix_notMem
  · next free => exact free

theorem distinctFrom_nodup (taken names : List String) :
    (distinctFrom taken names).Nodup ∧ ∀ x ∈ distinctFrom taken names, x ∉ taken := by
  induction names generalizing taken with
  | nil => simp [distinctFrom]
  | cons name names ih =>
      obtain ⟨hnd, hdisj⟩ := ih (distinctName taken name :: taken)
      refine ⟨List.nodup_cons.mpr ⟨fun h => hdisj _ h (by simp), hnd⟩, fun x hx => ?_⟩
      rcases List.mem_cons.mp hx with rfl | hx
      · exact distinctName_not_mem taken name
      · exact fun h => hdisj x hx (List.mem_cons_of_mem _ h)

/-- **The names handed out for a list of requests differ from each other.** -/
theorem nodup_distinctNames (names : List String) : (distinctNames names).Nodup := by
  rw [distinctNames_eq]
  exact (distinctFrom_nodup [] names).1

end Subgraph.Text
