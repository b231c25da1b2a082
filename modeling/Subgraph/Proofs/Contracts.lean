import Mathlib.Data.List.TakeWhile
import Subgraph.Contract

/-!
# Contracts — what identifies a contract, as a grammar

The checks of addresses and accounts go through a text and stop at the first thing that is wrong.
Here each is given by the texts it accepts.

* `Ethereum.addressProblem?_eq_none_iff`: `0x` and forty hexadecimal digits.
* `Near.accountProblem?_eq_none_iff`: 2 to 64 characters, runs of small letters and digits with a
  separator between two of them.
* `Cosmos.addressProblem?_eq_none_iff`: at most 90 characters, a prefix of small letters and
  digits, a `1`, and at least six characters of the bech32 alphabet.
* `Family.contractProblem?_eq_none_iff` puts them together.

The checks count octets and the grammars characters.  A text that passes is ASCII, so the two
numbers are one (`utf8ByteSize_eq_length`).
-/

namespace Subgraph

/-! ### Octets -/

/-- A text of which each character takes one octet takes as many octets as it has characters. -/
theorem utf8ByteSize_eq_length {text : String} (h : ∀ c ∈ text.toList, c.utf8Size = 1) :
    text.utf8ByteSize = text.length := by
  have key : ∀ cs : List Char, (∀ c ∈ cs, c.utf8Size = 1) →
      (String.ofList cs).utf8ByteSize = cs.length := by
    intro cs h
    induction cs with
    | nil => rfl
    | cons c cs ih =>
        have first : c.utf8Size = 1 := h c List.mem_cons_self
        have others := ih fun d hd => h d (List.mem_cons_of_mem _ hd)
        simp [String.ofList_cons, String.utf8ByteSize_append, first, others, Nat.add_comm]
  have octets := key text.toList h
  rwa [String.ofList_toList, String.length_toList] at octets

/-- A character up to the last one of ASCII takes one octet. -/
theorem utf8Size_of_le {c d : Char} (h : c ≤ d) (hd : d.val ≤ 127) : c.utf8Size = 1 :=
  Char.utf8Size_eq_one_iff.mpr (UInt32.le_trans h hd)

theorem utf8Size_of_isLower {c : Char} (h : c.isLower = true) : c.utf8Size = 1 := by
  have le := (Bool.and_eq_true_iff.mp h).2
  exact utf8Size_of_le (d := 'z') (of_decide_eq_true le) (by decide)

theorem utf8Size_of_isDigit {c : Char} (h : c.isDigit = true) : c.utf8Size = 1 := by
  simp only [Char.isDigit, Bool.and_eq_true, decide_eq_true_eq] at h
  exact utf8Size_of_le (d := '9') h.2 (by decide)

theorem utf8Size_of_isHexDigit {c : Char} (h : Text.isHexDigit c = true) : c.utf8Size = 1 := by
  simp only [Text.isHexDigit, Text.hexDigit?] at h
  split at h
  · next digit => exact utf8Size_of_le digit.2 (by decide)
  · split at h
    · next small => exact utf8Size_of_le small.2 (by decide)
    · split at h
      · next capital => exact utf8Size_of_le capital.2 (by decide)
      · cases h

/-! ### Addresses of Ethereum -/

namespace Ethereum

/-- A text is `0x` and forty hexadecimal digits. -/
def IsAddress (text : String) : Prop :=
  ∃ digits : List Char, text.toList = '0' :: 'x' :: digits ∧ digits.length = 40 ∧
    ∀ c ∈ digits, Text.isHexDigit c = true

/-- **Addresses of Ethereum.** -/
theorem addressProblem?_eq_none_iff {text : String} :
    addressProblem? text = none ↔ IsAddress text := by
  have size {digits : List Char} (hex : ∀ c ∈ digits, Text.isHexDigit c = true) :
      (String.ofList digits).utf8ByteSize = digits.length := by
    have octets : (String.ofList digits).utf8ByteSize = (String.ofList digits).length :=
      utf8ByteSize_eq_length fun c hc => utf8Size_of_isHexDigit (hex c (by simpa using hc))
    simpa using octets
  constructor
  · intro h
    simp only [addressProblem?] at h
    split at h
    · next digits chars =>
        by_cases hex : ∀ c ∈ digits, Text.isHexDigit c = true
        · refine ⟨digits, chars, ?_, hex⟩
          rw [size hex] at h
          by_contra long
          simp [long] at h
        · have some : digits.all Text.isHexDigit = false :=
            Bool.eq_false_iff.mpr fun all => hex (List.all_eq_true.mp all)
          split at h <;> simp [some] at h
    · cases h
  · rintro ⟨digits, chars, length, hex⟩
    have all : digits.all Text.isHexDigit = true := List.all_eq_true.mpr hex
    simp [addressProblem?, chars, size hex, length, all]

end Ethereum

/-! ### Accounts of NEAR -/

namespace Near

/-- Some small letters and digits, and at least one. -/
def IsRun (run : List Char) : Prop := run ≠ [] ∧ ∀ c ∈ run, isNameChar c = true

/-- Each of some parts is a separator with a run behind it. -/
def AreRuns (parts : List (Char × List Char)) : Prop :=
  ∀ part ∈ parts, isSeparator part.1 = true ∧ IsRun part.2

/-- The characters of some parts. -/
def chars (parts : List (Char × List Char)) : List Char :=
  parts.flatMap fun part => part.1 :: part.2

/-- A text is one run or several, with a separator between two of them. -/
def IsAccount (text : String) : Prop :=
  2 ≤ text.length ∧ text.length ≤ 64 ∧
    ∃ first parts, IsRun first ∧ AreRuns parts ∧ text.toList = first ++ chars parts

theorem isSeparator_of_isNameChar {c : Char} (h : isNameChar c = true) : isSeparator c = false := by
  have none : ∀ d ∈ ['-', '_', '.'], isNameChar d = false := by simp [isNameChar]
  rw [Bool.eq_false_iff]
  intro separator
  have mem : c ∈ ['-', '_', '.'] := by simpa [isSeparator, or_assoc] using separator
  rw [none c mem] at h
  cases h

theorem utf8Size_of_isNameChar {c : Char} (h : isNameChar c = true) : c.utf8Size = 1 :=
  (Bool.or_eq_true_iff.mp h).elim utf8Size_of_isLower utf8Size_of_isDigit

theorem utf8Size_of_isSeparator {c : Char} (h : isSeparator c = true) : c.utf8Size = 1 := by
  have ascii : ∀ d ∈ ['-', '_', '.'], d.utf8Size = 1 := by simp [Char.utf8Size]
  exact ascii c (by simpa [isSeparator, or_assoc] using h)

/-- What passes for the rest of a name is made of runs. -/
theorem exists_runs {start : Bool} {cs : List Char} (h : restProblem? start cs = none) :
    ∃ run parts, (start = true → run ≠ []) ∧ (∀ c ∈ run, isNameChar c = true) ∧
      AreRuns parts ∧ cs = run ++ chars parts := by
  induction cs generalizing start with
  | nil =>
      cases start with
      | true => cases h
      | false => exact ⟨[], [], nofun, nofun, nofun, rfl⟩
  | cons c cs ih =>
      by_cases separator : isSeparator c = true
      · cases start with
        | true => simp [restProblem?, separator] at h
        | false =>
            simp only [restProblem?, separator, if_true, Bool.false_eq_true, if_false] at h
            obtain ⟨run, parts, some, named, runs, rfl⟩ := ih h
            refine ⟨[], (c, run) :: parts, nofun, nofun, ?_, rfl⟩
            exact List.forall_mem_cons.mpr ⟨⟨separator, some rfl, named⟩, runs⟩
      · by_cases name : isNameChar c = true
        · simp only [restProblem?, separator, name, if_true, Bool.false_eq_true, if_false] at h
          obtain ⟨run, parts, -, named, runs, rfl⟩ := ih h
          exact ⟨c :: run, parts, nofun, List.forall_mem_cons.mpr ⟨name, named⟩, runs, rfl⟩
        · simp [restProblem?, separator, name] at h

/-- Behind a run it does not matter whether one was to begin. -/
theorem restProblem?_append {start : Bool} {run : List Char} (some : run ≠ [])
    (named : ∀ c ∈ run, isNameChar c = true) (rest : List Char) :
    restProblem? start (run ++ rest) = restProblem? false rest := by
  induction run generalizing start with
  | nil => exact absurd rfl some
  | cons c run ih =>
      obtain ⟨name, named⟩ := List.forall_mem_cons.mp named
      have first : restProblem? start (c :: (run ++ rest)) = restProblem? false (run ++ rest) := by
        simp [restProblem?, isSeparator_of_isNameChar name, name]
      rw [List.cons_append, first]
      cases run with
      | nil => rfl
      | cons d run => exact ih (List.cons_ne_nil d run) named

theorem restProblem?_chars {parts : List (Char × List Char)} (runs : AreRuns parts) :
    restProblem? false (chars parts) = none := by
  induction parts with
  | nil => rfl
  | cons part parts ih =>
      obtain ⟨⟨separator, some, named⟩, runs⟩ := List.forall_mem_cons.mp runs
      have first : restProblem? false (chars (part :: parts)) =
          restProblem? true (part.2 ++ chars parts) := by
        simp [chars, restProblem?, separator]
      rw [first, restProblem?_append some named, ih runs]

/-- **The rest of a name** is a run, which may be empty unless a run is to begin, and parts behind
it. -/
theorem restProblem?_eq_none_iff {start : Bool} {cs : List Char} :
    restProblem? start cs = none ↔
      ∃ run parts, (start = true → run ≠ []) ∧ (∀ c ∈ run, isNameChar c = true) ∧
        AreRuns parts ∧ cs = run ++ chars parts := by
  refine ⟨exists_runs, ?_⟩
  rintro ⟨run, parts, some, named, runs, rfl⟩
  by_cases none : run = []
  · subst none
    have inside : start = false := Bool.eq_false_iff.mpr fun h => some h rfl
    rw [inside, List.nil_append, restProblem?_chars runs]
  · rw [restProblem?_append none named, restProblem?_chars runs]

/-- **Accounts of NEAR.** -/
theorem accountProblem?_eq_none_iff {text : String} :
    accountProblem? text = none ↔ IsAccount text := by
  have shape : restProblem? true text.toList = none ↔
      ∃ first parts, IsRun first ∧ AreRuns parts ∧ text.toList = first ++ chars parts := by
    simp only [restProblem?_eq_none_iff, IsRun, forall_const, and_assoc]
  have size (h : restProblem? true text.toList = none) : text.utf8ByteSize = text.length := by
    obtain ⟨first, parts, ⟨-, named⟩, runs, eq⟩ := shape.mp h
    refine utf8ByteSize_eq_length fun c hc => ?_
    rw [eq] at hc
    rcases List.mem_append.mp hc with hc | hc
    · exact utf8Size_of_isNameChar (named c hc)
    · obtain ⟨part, hp, hc⟩ := List.mem_flatMap.mp hc
      obtain ⟨separator, -, named⟩ := runs part hp
      rcases List.mem_cons.mp hc with rfl | hc
      · exact utf8Size_of_isSeparator separator
      · exact utf8Size_of_isNameChar (named c hc)
  constructor
  · intro h
    simp only [accountProblem?] at h
    split at h
    · cases h
    · next short =>
        rw [size h] at short
        exact ⟨by omega, by omega, shape.mp h⟩
  · rintro ⟨long, short, runs⟩
    have rest := shape.mpr runs
    have octets := size rest
    rw [accountProblem?, if_neg (by omega), rest]

end Near

/-! ### Addresses of Cosmos chains -/

namespace Cosmos

/-- A text is a prefix, a `1`, and a data part. -/
def IsAddress (text : String) : Prop :=
  text.length ≤ 90 ∧ ∃ head data : List Char, text.toList = head ++ '1' :: data ∧
    head ≠ [] ∧ (∀ c ∈ head, isPrefixChar c = true) ∧ 6 ≤ data.length ∧
      ∀ c ∈ data, c ∈ dataAlphabet

/-- **The last `1` of a text** is the one behind which there is none. -/
theorem splitLast?_eq_some_iff {text head data : List Char} :
    splitLast? text = some (head, data) ↔ text = head ++ '1' :: data ∧ '1' ∉ data := by
  constructor
  · intro h
    simp only [splitLast?] at h
    split at h
    · next c before dropped =>
        obtain ⟨rfl, rfl⟩ := Prod.mk.inj (Option.some.inj h)
        have one : c = '1' := by
          have stop := List.head?_dropWhile_not (· != '1') text.reverse
          rw [dropped] at stop
          simpa using stop
        subst one
        refine ⟨?_, fun hm => ?_⟩
        · have whole := List.takeWhile_append_dropWhile (p := (· != '1')) (l := text.reverse)
          rw [dropped] at whole
          rw [← List.reverse_inj, List.reverse_append, List.reverse_cons, List.reverse_reverse,
            List.reverse_reverse, List.append_assoc]
          exact whole.symm
        · have ne := List.mem_takeWhile_imp (List.mem_reverse.mp hm)
          simp at ne
    · cases h
  · rintro ⟨rfl, free⟩
    have ne : ∀ c ∈ data.reverse, (c != '1') = true := fun c hc =>
      bne_iff_ne.mpr fun h => free (h ▸ List.mem_reverse.mp hc)
    have reversed : (head ++ '1' :: data).reverse = data.reverse ++ '1' :: head.reverse := by simp
    simp only [splitLast?, reversed, List.dropWhile_append_of_pos ne,
      List.takeWhile_append_of_pos ne]
    simp

theorem utf8Size_of_mem_dataAlphabet {c : Char} (h : c ∈ dataAlphabet) : c.utf8Size = 1 := by
  have ascii : dataAlphabet.all (·.utf8Size == 1) = true := rfl
  exact beq_iff_eq.mp (List.all_eq_true.mp ascii c h)

theorem utf8Size_of_isPrefixChar {c : Char} (h : isPrefixChar c = true) : c.utf8Size = 1 :=
  (Bool.or_eq_true_iff.mp h).elim utf8Size_of_isLower utf8Size_of_isDigit

/-- In an address and in its data part, octets and characters are the same. -/
theorem utf8ByteSizes_eq {text : String} {head data : List Char}
    (split : text.toList = head ++ '1' :: data) (small : ∀ c ∈ head, isPrefixChar c = true)
    (known : ∀ c ∈ data, c ∈ dataAlphabet) :
    text.utf8ByteSize = text.length ∧ (String.ofList data).utf8ByteSize = data.length := by
  constructor
  · refine utf8ByteSize_eq_length fun c hc => ?_
    rw [split] at hc
    rcases List.mem_append.mp hc with hc | hc
    · exact utf8Size_of_isPrefixChar (small c hc)
    · rcases List.mem_cons.mp hc with rfl | hc
      · decide
      · exact utf8Size_of_mem_dataAlphabet (known c hc)
  · have octets : (String.ofList data).utf8ByteSize = (String.ofList data).length :=
      utf8ByteSize_eq_length fun c hc =>
        utf8Size_of_mem_dataAlphabet (known c (by simpa using hc))
    simpa using octets

/-- **Addresses of Cosmos chains.**  The alphabet of the data has no `1`, so the last `1` is the
one between the parts. -/
theorem addressProblem?_eq_none_iff {text : String} :
    addressProblem? text = none ↔ IsAddress text := by
  constructor
  · intro h
    simp only [addressProblem?] at h
    split at h
    · cases h
    · next short =>
        split at h
        · cases h
        · next head data split =>
            obtain ⟨split, -⟩ := splitLast?_eq_some_iff.mp split
            split at h
            · cases h
            · next good =>
                split at h
                · cases h
                · next long =>
                    simp only [not_or, Bool.not_eq_true', Bool.not_eq_false,
                      List.all_eq_true] at good
                    have known : ∀ c ∈ data, c ∈ dataAlphabet := by
                      simpa using Option.map_eq_none_iff.mp h
                    obtain ⟨whole, part⟩ := utf8ByteSizes_eq split good.2 known
                    exact ⟨by omega, head, data, split, good.1, good.2, by omega, known⟩
  · rintro ⟨short, head, data, split, some, small, long, known⟩
    obtain ⟨whole, part⟩ := utf8ByteSizes_eq split small known
    have last : splitLast? text.toList = .some (head, data) :=
      splitLast?_eq_some_iff.mpr ⟨split, fun h => absurd (known '1' h) (by decide)⟩
    have all : head.all isPrefixChar = true := List.all_eq_true.mpr small
    have found : data.find? (fun c => !dataAlphabet.contains c) = none := by simpa using known
    rw [addressProblem?, if_neg (by omega), last]
    simp only [some, all, false_or, Bool.not_true, Bool.false_eq_true, if_false, part, found,
      Option.map_none]
    exact if_neg (by omega)

end Cosmos

/-! ### All families -/

/-- A text identifies a contract of a family. -/
def Family.IsContract : Family → String → Prop
  | .ethereum => Ethereum.IsAddress
  | .near => Near.IsAccount
  | .tendermint => Cosmos.IsAddress

theorem Family.contractProblem?_eq_none_iff {f : Family} {text : String} :
    f.contractProblem? text = none ↔ f.IsContract text := by
  cases f with
  | ethereum => exact Option.map_eq_none_iff.trans Ethereum.addressProblem?_eq_none_iff
  | near => exact Option.map_eq_none_iff.trans Near.accountProblem?_eq_none_iff
  | tendermint => exact Option.map_eq_none_iff.trans Cosmos.addressProblem?_eq_none_iff

end Subgraph
