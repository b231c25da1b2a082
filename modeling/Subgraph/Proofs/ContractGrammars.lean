import Mathlib.Computability.RegularExpressions
import Mathlib.Data.Bool.AllAny
import Subgraph.Proofs.Contracts

/-!
# ContractGrammars — accounts by a pattern, addresses by their parts

`Proofs/Contracts` gives the checks of accounts and addresses by the texts that they accept.  Here
the characters are listed instead of tested, an account is a word of a pattern, and the parts of an
address are shown to be the only ones.

* `isSmallAlnum_iff`: the test for small letters and digits, as a list.
* `Near.mem_accountPattern_iff`: the words of `[a-z0-9]+([-_.][a-z0-9]+)*` are runs with a separator
  between two of them.
* `Near.noProblem_iff_matches`: the accounts are the words of that pattern with 2 to 64
  characters.
* `Cosmos.mem_dataAlphabet_iff`: the bech32 alphabet is what is left of the small letters and digits
  without `1`, `b`, `i` and `o`.
* `Cosmos.noProblem_iff_divided`: the addresses are the texts that can be divided, and
  there is one way to do it.
-/

namespace Subgraph

/-! ### Small letters and digits -/

/-- The small letters and the digits. -/
def smallAlnums : List Char := "abcdefghijklmnopqrstuvwxyz0123456789".toList

/-- What is found of all characters of ASCII holds of each of them. -/
theorem forall_ascii {p : Char → Prop} (h : ∀ n < 128, p (Char.ofNat n)) {c : Char}
    (hc : c.utf8Size = 1) : p c := by
  have small : c.toNat ≤ 127 := UInt32.le_iff_toNat_le.mp (Char.utf8Size_eq_one_iff.mp hc)
  have found := h c.toNat (by omega)
  rwa [Char.ofNat_toNat] at found

theorem isSmallAlnum_iff {c : Char} :
    (c.isLower || c.isDigit) = true ↔ c ∈ smallAlnums := by
  constructor
  · intro h
    have ascii : c.utf8Size = 1 :=
      (Bool.or_eq_true_iff.mp h).elim utf8Size_of_isLower utf8Size_of_isDigit
    have listed : ∀ n < 128, ((Char.ofNat n).isLower || (Char.ofNat n).isDigit) = true →
        Char.ofNat n ∈ smallAlnums := by decide
    exact forall_ascii (p := fun c => (c.isLower || c.isDigit) = true → c ∈ smallAlnums) listed
      ascii h
  · intro h
    have tested : smallAlnums.all (fun c => c.isLower || c.isDigit) = true := by decide
    exact List.all_eq_true.mp tested c h

/-! ### Accounts of NEAR -/

namespace Near

open RegularExpression

/-- One of some characters. -/
def oneOf (cs : List Char) : RegularExpression Char := (cs.map char).sum

/-- A pattern, once or several times in a row. -/
def repeated (r : RegularExpression Char) : RegularExpression Char := r * r.star

/-- The pattern `[a-z0-9]+([-_.][a-z0-9]+)*`. -/
def accountPattern : RegularExpression Char :=
  repeated (oneOf smallAlnums) * (oneOf ['-', '_', '.'] * repeated (oneOf smallAlnums)).star

theorem mem_oneOf_iff {cs word : List Char} :
    word ∈ (oneOf cs).matches' ↔ ∃ c ∈ cs, word = [c] := by
  induction cs with
  | nil => exact iff_of_false id (by simp)
  | cons c cs ih =>
      have step : (oneOf (c :: cs)).matches' = {[c]} + (oneOf cs).matches' := rfl
      rw [step, Language.mem_add, ih]
      exact (List.exists_mem_cons_iff (word = [·]) c cs).symm

theorem mem_star_oneOf_iff {cs word : List Char} :
    word ∈ (oneOf cs).star.matches' ↔ ∀ c ∈ word, c ∈ cs := by
  rw [matches'_star, Language.mem_kstar]
  constructor
  · rintro ⟨words, rfl, each⟩ c hc
    obtain ⟨w, hw, hc⟩ := List.mem_flatten.mp hc
    obtain ⟨d, hd, rfl⟩ := mem_oneOf_iff.mp (each w hw)
    rwa [List.mem_singleton.mp hc]
  · intro all
    have letters : word = (word.map ([·])).flatten := by
      rw [← List.flatMap_def, List.flatMap_singleton']
    refine ⟨word.map ([·]), letters, fun w hw => ?_⟩
    obtain ⟨c, hc, rfl⟩ := List.mem_map.mp hw
    exact mem_oneOf_iff.mpr ⟨c, all c hc, rfl⟩

theorem mem_repeated_oneOf_iff {cs word : List Char} :
    word ∈ (repeated (oneOf cs)).matches' ↔ word ≠ [] ∧ ∀ c ∈ word, c ∈ cs := by
  rw [repeated, matches'_mul, Language.mem_mul]
  constructor
  · rintro ⟨first, hf, rest, hr, rfl⟩
    obtain ⟨c, hc, rfl⟩ := mem_oneOf_iff.mp hf
    exact ⟨List.cons_ne_nil _ _, List.forall_mem_cons.mpr ⟨hc, mem_star_oneOf_iff.mp hr⟩⟩
  · rintro ⟨some, all⟩
    obtain ⟨c, rest, rfl⟩ := List.exists_cons_of_ne_nil some
    obtain ⟨hc, hr⟩ := List.forall_mem_cons.mp all
    exact ⟨[c], mem_oneOf_iff.mpr ⟨c, hc, rfl⟩, rest, mem_star_oneOf_iff.mpr hr, rfl⟩

/-- A run is a word of `[a-z0-9]+`. -/
theorem mem_run_iff {run : List Char} :
    run ∈ (repeated (oneOf smallAlnums)).matches' ↔ IsRun run := by
  rw [mem_repeated_oneOf_iff, IsRun]
  exact and_congr_right fun _ => forall₂_congr fun _ _ => isSmallAlnum_iff.symm

/-- A separator with a run behind it is a word of `[-_.][a-z0-9]+`. -/
theorem mem_part_iff {word : List Char} :
    word ∈ (oneOf ['-', '_', '.'] * repeated (oneOf smallAlnums)).matches' ↔
      ∃ separator run, isSeparator separator = true ∧ IsRun run ∧ word = separator :: run := by
  have separators (c : Char) : c ∈ ['-', '_', '.'] ↔ isSeparator c = true := by
    simp [isSeparator, or_assoc]
  rw [matches'_mul, Language.mem_mul]
  constructor
  · rintro ⟨first, hf, run, hr, rfl⟩
    obtain ⟨c, hc, rfl⟩ := mem_oneOf_iff.mp hf
    exact ⟨c, run, (separators c).mp hc, mem_run_iff.mp hr, rfl⟩
  · rintro ⟨c, run, hc, hr, rfl⟩
    exact ⟨[c], mem_oneOf_iff.mpr ⟨c, (separators c).mpr hc, rfl⟩, run, mem_run_iff.mpr hr, rfl⟩

/-- Any number of such words in a row are the characters of parts. -/
theorem mem_parts_iff {word : List Char} :
    word ∈ (oneOf ['-', '_', '.'] * repeated (oneOf smallAlnums)).star.matches' ↔
      ∃ parts, AreRuns parts ∧ word = chars parts := by
  rw [matches'_star, Language.mem_kstar]
  constructor
  · rintro ⟨words, rfl, each⟩
    induction words with
    | nil => exact ⟨[], nofun, rfl⟩
    | cons w words ih =>
        obtain ⟨hw, others⟩ := List.forall_mem_cons.mp each
        obtain ⟨separator, run, hs, hr, rfl⟩ := mem_part_iff.mp hw
        obtain ⟨parts, runs, eq⟩ := ih others
        refine ⟨(separator, run) :: parts, List.forall_mem_cons.mpr ⟨⟨hs, hr⟩, runs⟩, ?_⟩
        rw [List.flatten_cons, eq]
        rfl
  · rintro ⟨parts, runs, rfl⟩
    have words : chars parts = (parts.map fun part => part.1 :: part.2).flatten := List.flatMap_def
    refine ⟨_, words, fun w hw => ?_⟩
    obtain ⟨part, hp, rfl⟩ := List.mem_map.mp hw
    exact mem_part_iff.mpr ⟨part.1, part.2, (runs part hp).1, (runs part hp).2, rfl⟩

/-- **The words of the pattern** are runs with a separator between two of them. -/
theorem mem_accountPattern_iff {word : List Char} :
    word ∈ accountPattern.matches' ↔
      ∃ first parts, IsRun first ∧ AreRuns parts ∧ word = first ++ chars parts := by
  rw [accountPattern, matches'_mul, Language.mem_mul]
  constructor
  · rintro ⟨first, hf, rest, hr, rfl⟩
    obtain ⟨parts, runs, rfl⟩ := mem_parts_iff.mp hr
    exact ⟨first, parts, mem_run_iff.mp hf, runs, rfl⟩
  · rintro ⟨first, parts, run, runs, rfl⟩
    exact ⟨first, mem_run_iff.mpr run, _, mem_parts_iff.mpr ⟨parts, runs, rfl⟩, rfl⟩

/-- **The accounts are the words of a pattern** with 2 to 64 characters. -/
theorem noProblem_iff_matches (text : String) :
    accountProblem? text = none ↔
      2 ≤ text.length ∧ text.length ≤ 64 ∧ text.toList ∈ accountPattern.matches' := by
  rw [accountProblem?_eq_none_iff, IsAccount, mem_accountPattern_iff]

end Near

/-! ### Addresses of Cosmos chains -/

namespace Cosmos

/-- The bech32 alphabet: `1` ends the prefix, and `b`, `i` and `o` look like other characters. -/
theorem mem_dataAlphabet_iff {c : Char} :
    c ∈ dataAlphabet ↔ c ∈ smallAlnums ∧ c ∉ ['1', 'b', 'i', 'o'] := by
  have alphabet : dataAlphabet.Perm (smallAlnums.filter (· ∉ ['1', 'b', 'i', 'o'])) := by decide
  rw [alphabet.mem_iff, List.mem_filter, decide_eq_true_iff]

/-- A text is a prefix, a `1`, and a data part. -/
structure IsDivided (text head data : String) : Prop where
  parts : text = head ++ "1" ++ data
  named : head ≠ ""
  small : ∀ c ∈ head.toList, c ∈ smallAlnums
  long : 6 ≤ data.length
  known : ∀ c ∈ data.toList, c ∈ smallAlnums ∧ c ∉ ['1', 'b', 'i', 'o']

variable {text head data : String}

/-- An address is a text that can be divided. -/
theorem isAddress_iff_divided :
    IsAddress text ↔ text.length ≤ 90 ∧ ∃ head data, IsDivided text head data := by
  refine and_congr_right fun _ => ⟨?_, ?_⟩
  · rintro ⟨head, data, parts, some, small, long, known⟩
    refine ⟨String.ofList head, String.ofList data, ?_, ?_, ?_, ?_, ?_⟩
    · rw [← String.toList_inj]
      simpa using parts
    · simpa using some
    · simpa using fun c hc => isSmallAlnum_iff.mp (small c hc)
    · simpa using long
    · exact fun c hc => mem_dataAlphabet_iff.mp (known c (by simpa using hc))
  · rintro ⟨head, data, divided⟩
    refine ⟨head.toList, data.toList, ?_, ?_, ?_, ?_, ?_⟩
    · rw [divided.parts]
      simp
    · simpa using divided.named
    · exact fun c hc => isSmallAlnum_iff.mpr (divided.small c hc)
    · rw [String.length_toList]
      exact divided.long
    · exact fun c hc => mem_dataAlphabet_iff.mpr (divided.known c hc)

/-- The data part has no `1`, so a text is divided at the last one. -/
theorem IsDivided.split (h : IsDivided text head data) :
    splitLast? text.toList = some (head.toList, data.toList) := by
  refine splitLast?_eq_some_iff.mpr ⟨?_, fun one => ?_⟩
  · rw [h.parts]
    simp
  · exact (h.known '1' one).2 (.head _)

/-- **The addresses are the texts that can be divided** and have at most 90 characters.  There is
one way to divide a text, and it is the one of the check, also where the prefix has a `1`. -/
theorem noProblem_iff_divided (text : String) :
    (addressProblem? text = none ↔ text.length ≤ 90 ∧ ∃ head data, IsDivided text head data) ∧
    ∀ head data, IsDivided text head data →
      splitLast? text.toList = some (head.toList, data.toList) ∧
      ∀ head' data', IsDivided text head' data' → head' = head ∧ data' = data := by
  refine ⟨addressProblem?_eq_none_iff.trans isAddress_iff_divided, fun head data h => ?_⟩
  refine ⟨h.split, fun head' data' h' => ?_⟩
  have same := Option.some.inj (h'.split.symm.trans h.split)
  obtain ⟨heads, datas⟩ := Prod.mk.inj same
  exact ⟨String.toList_inj.mp heads, String.toList_inj.mp datas⟩

/-- A prefix with a `1` of its own: the text is divided at the last one and not at the first. -/
theorem noProblem_iff_divided_twoOnes :
    addressProblem? "a1b1qpzry9" = none ∧
    splitLast? "a1b1qpzry9".toList = some ("a1b".toList, "qpzry9".toList) ∧
    ¬ IsDivided "a1b1qpzry9" "a" "b1qpzry9" := by
  have divided : IsDivided "a1b1qpzry9" "a1b" "qpzry9" :=
    ⟨by decide, by decide, List.all_iff_forall_prop.mp (by decide), by decide,
      List.all_iff_forall_prop.mp (by decide)⟩
  obtain ⟨accepts, only⟩ := noProblem_iff_divided "a1b1qpzry9"
  obtain ⟨split, unique⟩ := only _ _ divided
  refine ⟨accepts.mpr ⟨by decide, _, _, divided⟩, split, fun first => ?_⟩
  have same : "a" = "a1b" := (unique _ _ first).1
  exact absurd same (by decide)

end Cosmos

end Subgraph
