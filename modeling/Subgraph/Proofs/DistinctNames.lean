import Subgraph.Proofs.Tidy
import Subgraph.Text.Distinct

/-!
# DistinctNames — which name each request gets

A register begins the search for a suffix where the last search for the same name ended.  What it
hands out is nevertheless what a search through all suffixes would find.

* `IsDue`: the name that a request should get after others, with a bound for its suffix.
* `length_le_of_taken`: no more suffixes of a name are taken than names have been handed out.
* `distinctNames_due`: each request gets the name that is due, and no name is handed out twice.
* `mem_distinctNames_iff`: a name without digits is handed out just when it is asked for.
-/

namespace Subgraph.Text

/-- A name is due for a request when those in `earlier` have been handed out: the name that is asked
for, if it is new, and otherwise the one with the least suffix that makes it new.  The search ends
within as many suffixes as there are earlier names. -/
inductive IsDue (earlier : List String) (name : String) : String → Prop
  | itself (new : name ∉ earlier) : IsDue earlier name name
  | suffixed {k : Nat} (again : name ∈ earlier) (pos : 1 ≤ k) (bound : k ≤ earlier.length)
      (free : Text.suffixed name k ∉ earlier)
      (least : ∀ j, 1 ≤ j → j < k → Text.suffixed name j ∈ earlier) :
      IsDue earlier name (Text.suffixed name k)

theorem suffixed_ne (name : String) (k : Nat) : suffixed name k ≠ name := by
  intro h
  have none := congrArg String.toList h
  rw [suffixed, String.toList_append, List.append_right_eq_self] at none
  exact Nat.repr_ne_empty (String.toList_inj.mp none)

variable {taken : List String} {name : String} {k : Nat}

/-- If a name and its suffixes below `k` are taken, so many names are. -/
theorem length_le_of_taken (again : name ∈ taken) (pos : 1 ≤ k)
    (passed : ∀ j, 1 ≤ j → j < k → suffixed name j ∈ taken) : k ≤ taken.length := by
  have range : (List.range' 1 (k - 1)).Nodup := List.nodup_range'
  have suffixes : ((List.range' 1 (k - 1)).map (suffixed name)).Nodup :=
    List.pairwise_map.mpr (range.imp fun ne same => ne (suffixed_inj same))
  have distinct : (name :: (List.range' 1 (k - 1)).map (suffixed name)).Nodup := by
    refine List.nodup_cons.mpr ⟨fun h => ?_, suffixes⟩
    obtain ⟨j, -, same⟩ := List.mem_map.mp h
    exact suffixed_ne name j same
  have count := distinct.length_le_of_subset (List.cons_subset.mpr ⟨again, fun x hx => by
    obtain ⟨j, hj, rfl⟩ := List.mem_map.mp hx
    obtain ⟨pos, lt⟩ := List.mem_range'_1.mp hj
    exact passed j pos (by omega)⟩)
  rw [List.length_cons, List.length_map, List.length_range'] at count
  omega

theorem isDue_distinctName (taken : List String) (name : String) :
    IsDue taken name (distinctName taken name) := by
  unfold distinctName
  split
  · next again =>
      have passed : ∀ j, 1 ≤ j → j < freeSuffix taken name 1 → suffixed name j ∈ taken :=
        fun j pos lt => mem_of_lt_freeSuffix pos lt
      exact .suffixed again le_freeSuffix (length_le_of_taken again le_freeSuffix passed)
        suffixed_freeSuffix_notMem passed
  · next new => exact .itself new

/-- The order of the earlier names does not matter. -/
theorem IsDue.of_reverse {given : String} (h : IsDue taken.reverse name given) :
    IsDue taken name given := by
  cases h with
  | itself new => exact .itself (mt List.mem_reverse.mpr new)
  | suffixed again pos bound free least =>
      exact .suffixed (List.mem_reverse.mp again) pos (List.length_reverse ▸ bound)
        (mt List.mem_reverse.mpr free) fun j pos lt => List.mem_reverse.mp (least j pos lt)

theorem distinctFrom_append (taken before names : List String) :
    distinctFrom taken (before ++ names) = distinctFrom taken before ++
      distinctFrom ((distinctFrom taken before).reverse ++ taken) names := by
  induction before generalizing taken with
  | nil => rfl
  | cons name before ih =>
      rw [List.cons_append, distinctFrom, ih, distinctFrom, List.reverse_cons, List.append_assoc]
      rfl

/-- **Each request gets the name that is due**, whatever was asked for before it, and no name is
handed out twice. -/
theorem distinctNames_due (before : List String) (name : String) :
    (∃ given, distinctNames (before ++ [name]) = distinctNames before ++ [given] ∧
      IsDue (distinctNames before) name given) ∧
    (distinctNames (before ++ [name])).Nodup := by
  refine ⟨⟨distinctName (distinctNames before).reverse name, ?_, ?_⟩, nodup_distinctNames _⟩
  · rw [distinctNames_eq, distinctNames_eq, distinctFrom_append, List.append_nil]
    rfl
  · exact (isDue_distinctName _ name).of_reverse

/-- A suffix that a request asks for by name is passed over, or gets a suffix of its own. -/
example : distinctNames ["A1", "A", "A", "A", "A1"] = ["A1", "A", "A2", "A3", "A11"] := by
  decide +kernel

/-! ### Which names are handed out -/

theorem exists_isDigit_suffixed (name : String) (k : Nat) :
    ∃ c ∈ (suffixed name k).toList, c.isDigit = true := by
  obtain ⟨c, cs, digits⟩ := List.exists_cons_of_ne_nil fun none =>
    Nat.repr_ne_empty (String.toList_eq_nil_iff.mp none)
  have hc : c ∈ k.repr.toList := by rw [digits]; exact List.mem_cons_self
  refine ⟨c, by rw [suffixed, String.toList_append]; exact List.mem_append_right _ hc, ?_⟩
  rw [Nat.repr_eq_ofList_toDigits, String.toList_ofList] at hc
  exact Nat.isDigit_of_mem_toDigits (by decide) (by decide) hc

/-- A name that is asked for has been handed out, or is handed out now. -/
theorem mem_distinctFrom {names : List String} (h : name ∈ names) :
    name ∈ taken ∨ name ∈ distinctFrom taken names := by
  induction names generalizing taken with
  | nil => cases h
  | cons first names ih =>
      rw [distinctFrom]
      rcases List.mem_cons.mp h with rfl | h
      · by_cases again : name ∈ taken
        · exact .inl again
        · rw [distinctName, if_neg again]
          exact .inr List.mem_cons_self
      · rcases ih h with before | later
        · exact (List.mem_cons.mp before).elim (fun now => .inr (now ▸ List.mem_cons_self)) .inl
        · exact .inr (List.mem_cons_of_mem _ later)

/-- **A name without digits is handed out** just when it is asked for: what else is handed out has a
suffix. -/
theorem mem_distinctNames_iff {names : List String} (plain : name.toList.any Char.isDigit = false) :
    name ∈ distinctNames names ↔ name ∈ names := by
  constructor
  · have all : ∀ given ∈ distinctNames names, given ∈ names ∨ ∃ base k, given = suffixed base k :=
      Layout.forall_mem_distinctNames (fun k _ => .inr ⟨_, k, rfl⟩) fun given hg => .inl hg
    intro h
    rcases all name h with asked | ⟨base, k, rfl⟩
    · exact asked
    · rw [List.any_eq_true.mpr (exists_isDigit_suffixed base k)] at plain
      cases plain
  · intro h
    rw [distinctNames_eq]
    exact (mem_distinctFrom h).resolve_left List.not_mem_nil

end Subgraph.Text
