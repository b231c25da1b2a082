import Mathlib.Data.List.Basic
import Subgraph.Proofs.Outlines

/-!
# Scanning — what a scanner finds in a text

A `Spot` is a place outside brackets at which no key has begun.  `Spot.Leads` relates it to a later
one, if a scanner at the first finds what one at the second finds; it is transitive.

There is a lemma for each part of an outline: a scanner passes over gaps (`leads_indentation`,
`leads_break`), finds a key and its colon (`leads_key`), a dash (`leads_dash`), a word
(`leads_plain`, `leads_quoted`) and a list without items (`leads_nothing`), and closes the blocks
that end (`leads_close`).

Lines and octets are counted only to tell whether a key is too far from its colon.  `Leads` leaves
them open, and so no lemma says where in the text its place lies.
-/

namespace Subgraph.Yaml

/-! ### Characters -/

theorem ne_of_isWordChar {c d : Char} (hc : Outline.isWordChar c = true)
    (hd : Outline.isWordChar d = false) : c ≠ d := by
  rintro rfl
  rw [hc] at hd
  cases hd

theorem isSpace_of_isWordChar {c : Char} (h : Outline.isWordChar c = true) : isSpace c = false := by
  simp [isSpace, ne_of_isWordChar h (d := ' ') (by decide),
    ne_of_isWordChar h (d := '\t') (by decide)]

theorem isBreak_of_isWordChar {c : Char} (h : Outline.isWordChar c = true) : isBreak c = false := by
  simp [isBreak, ne_of_isWordChar h (d := '\n') (by decide),
    ne_of_isWordChar h (d := '\u2028') (by decide), ne_of_isWordChar h (d := '\u2029') (by decide)]

theorem isWordChar_of_isAlphanum {c : Char} (h : c.isAlphanum = true) :
    Outline.isWordChar c = true := by
  rw [Outline.isWordChar, h]
  rfl

/-- A text that does not begin with a gap or a comment. -/
def IsContent (text : List Char) : Prop :=
  ∀ c ∈ text.head?, isGap c = false ∧ c ≠ '#' ∧ c ≠ byteOrderMark

theorem isContent_of_isWordChar {c : Char} (h : Outline.isWordChar c = true) (rest : List Char) :
    IsContent (c :: rest) := by
  rintro d ⟨⟩
  refine ⟨?_, ne_of_isWordChar h (by decide), ne_of_isWordChar h (by decide)⟩
  rw [isGap, isSpace_of_isWordChar h, isBreak_of_isWordChar h]
  rfl

theorem isContent_colon (rest : List Char) : IsContent (':' :: rest) := by
  rintro c ⟨⟩
  decide

/-- Letters and digits lie between the space and the tilde. -/
theorem toNat_of_isAlphanum {c : Char} (h : c.isAlphanum = true) :
    0x20 ≤ c.toNat ∧ c.toNat ≤ 0x7E := by
  change (decide (0x41 ≤ c.val ∧ c.val ≤ 0x5A) ||
    (decide (0x61 ≤ c.val) && decide (c.val ≤ 0x7A)) ||
    (decide (0x30 ≤ c.val) && decide (c.val ≤ 0x39))) = true at h
  simp only [Bool.or_eq_true, Bool.and_eq_true, decide_eq_true_eq, UInt32.le_iff_toNat_le,
    UInt32.reduceToNat] at h
  rw [Char.toNat]
  omega

/-- Letters and digits take an octet each. -/
theorem utf8Size_of_isAlphanum {c : Char} (h : c.isAlphanum = true) : c.utf8Size = 1 :=
  Char.utf8Size_eq_one_iff.mpr
    (UInt32.le_iff_toNat_le.mpr (Nat.le_succ_of_le (toNat_of_isAlphanum h).2))

namespace Scanner

/-! ### Skipping -/

theorem skip_of_nil {s : Scanner} (h : s.rest = []) (n : Nat) : s.skip n = s := by
  cases n with
  | zero => rfl
  | succ n => rw [skip, h]

theorem skip_add (m n : Nat) (s : Scanner) : s.skip (m + n) = (s.skip m).skip n := by
  induction m generalizing s with
  | zero => rw [Nat.zero_add]; rfl
  | succ m ih =>
      rw [Nat.add_right_comm, skip, skip]
      split
      · next h => rw [skip_of_nil h]
      · next c rest h => exact ih _

/-- The number of octets of some characters. -/
def octets : List Char → Nat
  | [] => 0
  | c :: text => c.utf8Size + octets text

theorem octets_of_utf8Size {x : List Char} (hx : ∀ c ∈ x, c.utf8Size = 1) :
    octets x = x.length := by
  induction x with
  | nil => rfl
  | cons c x ih =>
      obtain ⟨hc, hx⟩ := List.forall_mem_cons.mp hx
      rw [octets, hc, ih hx, List.length_cons, Nat.add_comm]

theorem octets_of_isAlphanum {x : List Char} (hx : ∀ c ∈ x, c.isAlphanum = true) :
    octets x = x.length :=
  octets_of_utf8Size fun c hc => utf8Size_of_isAlphanum (hx c hc)

theorem skip_word {s : Scanner} {x y : List Char} (hx : ∀ c ∈ x, isBreak c = false)
    (hs : s.rest = x ++ y) :
    s.skip x.length =
      { s with rest := y, column := s.column + x.length, offset := s.offset + octets x } := by
  induction x generalizing s with
  | nil =>
      cases s
      cases hs
      rfl
  | cons c x ih =>
      obtain ⟨hc, hx⟩ := List.forall_mem_cons.mp hx
      rw [List.length_cons, skip, hs]
      simp only [List.cons_append, hc, Bool.false_eq_true, if_false]
      rw [ih hx rfl]
      simp only [octets, Nat.add_assoc, Nat.add_comm 1]

theorem skip_break {s : Scanner} {y : List Char} (hs : s.rest = '\n' :: y) :
    s.skip 1 = { s with rest := y, line := s.line + 1, column := 0, offset := s.offset + 1 } := by
  rw [skip, hs]
  rfl

theorem skip_indentation {s : Scanner} {d : Nat} {y : List Char}
    (hs : s.rest = Outline.indentation d ++ y) :
    s.skip d = { s with rest := y, column := s.column + d, offset := s.offset + d } := by
  have spaces : ∀ c ∈ Outline.indentation d, isBreak c = false := by
    intro c hc
    rw [List.eq_of_mem_replicate hc]
    decide
  have size : octets (Outline.indentation d) = d := by
    refine (octets_of_utf8Size fun c hc => ?_).trans List.length_replicate
    rw [List.eq_of_mem_replicate hc]
    rfl
  have skipped := skip_word spaces hs
  rwa [size, Outline.indentation, List.length_replicate] at skipped

/-! ### Gaps -/

theorem gapFrom_content {y : List Char} (hy : IsContent y) (inFlow allowed : Bool) (column : Nat) :
    gapFrom inFlow false allowed column y = (0, allowed) := by
  cases y with
  | nil => rfl
  | cons c y =>
      obtain ⟨gap, comment, mark⟩ := hy c rfl
      obtain ⟨space, line⟩ := Bool.or_eq_false_iff.mp gap
      obtain ⟨blank, tab⟩ := Bool.or_eq_false_iff.mp space
      have mark : (c == byteOrderMark) = false := beq_eq_false_iff_ne.mpr mark
      rw [gapFrom]
      simp only [line, blank, tab, mark, comment, Bool.false_and, Bool.or_false, Bool.false_eq_true,
        if_false]

theorem gapFrom_indentation {y : List Char} (hy : IsContent y) (inFlow allowed : Bool)
    (column d : Nat) :
    gapFrom inFlow false allowed column (Outline.indentation d ++ y) = (d, allowed) := by
  induction d generalizing column with
  | zero => exact gapFrom_content hy inFlow allowed column
  | succ d ih =>
      have space : Outline.indentation (d + 1) ++ y = ' ' :: (Outline.indentation d ++ y) := rfl
      rw [space, gapFrom, ih]
      rfl

theorem gapFrom_break {y : List Char} (hy : IsContent y) (inFlow allowed : Bool)
    (column d : Nat) :
    gapFrom inFlow false allowed column ('\n' :: (Outline.indentation d ++ y)) =
      (d + 1, !inFlow || allowed) := by
  rw [gapFrom, gapFrom_indentation hy]
  rfl

section Gaps

variable {s : Scanner} {y : List Char} {d : Nat}

theorem skipGap_of {n : Nat} {allowed : Bool}
    (h : gapFrom s.inFlow false s.keyAllowed s.column s.rest = (n, allowed)) :
    s.skipGap = { s.skip n with keyAllowed := allowed } := by
  rw [skipGap, h]

theorem skipGap_content (hs : IsContent s.rest) : s.skipGap = s :=
  skipGap_of (gapFrom_content hs _ _ _)

theorem skipGap_indentation (hy : IsContent y) (hs : s.rest = Outline.indentation d ++ y) :
    s.skipGap = { s with rest := y, column := s.column + d, offset := s.offset + d } := by
  have gap := gapFrom_indentation hy s.inFlow s.keyAllowed s.column d
  rw [← hs] at gap
  rw [skipGap_of gap, skip_indentation hs]

theorem skipGap_break (hy : IsContent y) (flow : s.inFlow = false)
    (hs : s.rest = '\n' :: (Outline.indentation d ++ y)) :
    s.skipGap =
      { s with
        rest := y, line := s.line + 1, column := d, offset := s.offset + 1 + d
        keyAllowed := true } := by
  have skipped : s.skip (d + 1) =
      { s with rest := y, line := s.line + 1, column := d, offset := s.offset + 1 + d } := by
    rw [Nat.add_comm, skip_add, skip_break hs, skip_indentation rfl]
    simp only [Nat.zero_add]
  have gap := gapFrom_break hy s.inFlow s.keyAllowed s.column d
  rw [← hs] at gap
  rw [skipGap_of gap, skipped, flow]
  rfl

end Gaps

/-! ### The next token -/

theorem isTriple_of_ne {c mark : Char} (h : c ≠ mark) (rest : List Char) :
    isTriple mark (c :: rest) = false := by
  have first : (c == mark) = false := beq_eq_false_iff_ne.mpr h
  rcases rest with _ | ⟨b, _ | ⟨c', rest⟩⟩
  · rfl
  · rfl
  · simp only [isTriple, first, Bool.false_and]

/-- Other characters begin no marks of documents. -/
theorem not_isTriple {s : Scanner} {c : Char} {rest : List Char} (hs : s.rest = c :: rest)
    (dash : c ≠ '-') (dot : c ≠ '.') :
    isTriple '-' s.rest = false ∧ isTriple '.' s.rest = false := by
  rw [hs]
  exact ⟨isTriple_of_ne dash rest, isTriple_of_ne dot rest⟩

/-- A word begins a plain scalar. -/
theorem next_word {s : Scanner} {c : Char} {rest : List Char} (hs : s.rest = c :: rest)
    (hc : Outline.isWordChar c = true) (dash : c ≠ '-') (dot : s.column = 0 → c ≠ '.') :
    s.next c rest = s.plainScalar := by
  have other {d : Char} (hd : Outline.isWordChar d = false) : c ≠ d := ne_of_isWordChar hc hd
  have start : (s.column = 0 ∧ isTriple '-' s.rest = true) = False := by
    rw [hs, isTriple_of_ne dash]
    simp
  have finish : (s.column = 0 ∧ isTriple '.' s.rest = true) = False := by
    refine eq_false fun h => ?_
    rw [hs, isTriple_of_ne (dot h.1)] at h
    cases h.2
  have indicator : indicators.contains c = false := by
    have others : indicators.all (fun d => d == '-' || !Outline.isWordChar d) = true := by decide
    rw [List.contains_eq_mem, decide_eq_false_iff_not]
    intro hm
    have marked := List.all_eq_true.mp others c hm
    rw [hc, Bool.not_true, Bool.or_false, beq_iff_eq] at marked
    exact dash marked
  have gap : isGap c = false := by
    rw [isGap, isSpace_of_isWordChar hc, isBreak_of_isWordChar hc]
    rfl
  have plain : s.beginsPlain c rest = true := by
    rw [beginsPlain, indicator, gap]
    rfl
  simp only [next, start, finish, dash, other (d := '%') (by decide), other (d := '[') (by decide),
    other (d := '\x7b') (by decide), other (d := ']') (by decide), other (d := '\x7d') (by decide),
    other (d := ',') (by decide), other (d := '?') (by decide), other (d := ':') (by decide),
    other (d := '*') (by decide), other (d := '&') (by decide), other (d := '!') (by decide),
    other (d := '|') (by decide), other (d := '>') (by decide), other (d := '\x27') (by decide),
    other (d := '"') (by decide), plain, and_false, false_and, or_false, if_false, if_true]

/-- A colon before a gap is the mark of a value. -/
theorem next_colon {s : Scanner} {rest : List Char} (hs : s.rest = ':' :: rest)
    (gap : atGap rest = true) : s.next ':' rest = s.value := by
  simp [next, not_isTriple hs, gap]

/-- A quote begins a quoted scalar. -/
theorem next_quote {s : Scanner} {rest : List Char} (hs : s.rest = '"' :: rest) :
    s.next '"' rest = s.keyPart fun text => (readQuoted '"' text).map fun (text, rest) =>
      (.scalar .quoted (String.ofList text), rest) := by
  simp [next, not_isTriple hs]

theorem next_bracket {s : Scanner} {rest : List Char} (hs : s.rest = '[' :: rest) :
    s.next '[' rest = s.openFlow .flowSequence := by
  simp [next, not_isTriple hs]

theorem next_closing {s : Scanner} {rest : List Char} (hs : s.rest = ']' :: rest) :
    s.next ']' rest = s.closeFlow .flowSequenceEnd := by
  simp [next, not_isTriple hs]

/-- A dash before a space begins an entry. -/
theorem next_dash {s : Scanner} {rest : List Char} (hs : s.rest = '-' :: ' ' :: rest) :
    s.next '-' (' ' :: rest) = s.blockEntry := by
  have start : isTriple '-' s.rest = false := by
    rw [hs]
    rcases rest with _ | ⟨c, rest⟩ <;> rfl
  have finish : isTriple '.' s.rest = false := by rw [hs, isTriple_of_ne (by decide)]
  have gap : atGap (' ' :: rest) = true := rfl
  simp [next, start, finish, gap]

end Scanner

/-! ### Readers of words -/

section Words

variable {x y : List Char} {context : Context}

theorem readPlainFrom_word (flow : context.inFlow = false)
    (hx : ∀ c ∈ x, Outline.isWordChar c = true) :
    readPlainFrom context .none (x ++ y) =
      (readPlainFrom context .none y).map fun s => { s with text := x ++ s.text } := by
  induction x with
  | nil => exact (congrFun Option.map_id _).symm
  | cons c x ih =>
      obtain ⟨hc, hx⟩ := List.forall_mem_cons.mp hx
      have colon : (c == ':') = false := beq_eq_false_iff_ne.mpr (ne_of_isWordChar hc (by decide))
      have gap : endsAtGap context .none c (x ++ y) = false := rfl
      have bad : isBadColon context c (x ++ y) = false := by rw [isBadColon, flow]; rfl
      have ends : endsAtIndicator context c (x ++ y) = false := by
        rw [endsAtIndicator, colon, flow]
        rfl
      rw [List.cons_append, readPlainFrom]
      simp only [isSpace_of_isWordChar hc, isBreak_of_isWordChar hc, gap, bad, ends, ih hx,
        Bool.false_eq_true, if_false, Option.map_map]
      rfl

/-- A colon before a gap ends a word. -/
theorem readPlainFrom_colon (flow : context.inFlow = false) (hy : atGap y = true) :
    readPlainFrom context .none (':' :: y) = some ⟨[], false, ':' :: y⟩ := by
  have gap : endsAtGap context .none ':' y = false := rfl
  have bad : isBadColon context ':' y = false := by rw [isBadColon, flow]; rfl
  have ends : endsAtIndicator context ':' y = true := by
    rw [endsAtIndicator, hy]
    rfl
  rw [readPlainFrom]
  simp only [gap, bad, ends]
  rfl

theorem readPlainFrom_indentation (first : Option Char) (others : List Char) (column d : Nat) :
    readPlainFrom context (.lines first others column) (Outline.indentation d ++ y) =
      readPlainFrom context (.lines first others (column + d)) y := by
  induction d generalizing column with
  | zero => rfl
  | succ d ih =>
      have space : Outline.indentation (d + 1) ++ y = ' ' :: (Outline.indentation d ++ y) := rfl
      have tab : isBadTab context (.lines first others column) ' ' = false := Bool.and_false _
      rw [space, readPlainFrom, tab]
      exact (ih (column + 1)).trans (by rw [Nat.add_right_comm, Nat.add_assoc])

/-- A line that is not indented far enough ends a word. -/
theorem readPlainFrom_break {d : Nat} (flow : context.inFlow = false) (hy : IsContent y)
    (hd : y = [] ∨ d < context.column) :
    readPlainFrom context .none ('\n' :: (Outline.indentation d ++ y)) = some ⟨[], true, y⟩ := by
  have line : readPlainFrom context .none ('\n' :: (Outline.indentation d ++ y)) =
      readPlainFrom context (.lines (some '\n') [] 0) (Outline.indentation d ++ y) := by
    rw [readPlainFrom]
    rfl
  rw [line, readPlainFrom_indentation, Nat.zero_add]
  cases y with
  | nil => rfl
  | cons c y =>
      obtain ⟨space, line⟩ := Bool.or_eq_false_iff.mp (hy c rfl).1
      have near : d < context.column := hd.resolve_left (List.cons_ne_nil c y)
      have ends : endsAtGap context (.lines (some '\n') [] d) c y = true := by
        simp [endsAtGap, flow, near]
      rw [readPlainFrom]
      simp only [space, line, ends]
      rfl

theorem readQuotedFrom_word (hx : ∀ c ∈ x, Outline.isWordChar c = true) :
    readQuotedFrom '"' (.words .none) (x ++ '"' :: y) = some (x, y) := by
  induction x with
  | nil => rfl
  | cons c x ih =>
      obtain ⟨hc, hx⟩ := List.forall_mem_cons.mp hx
      rw [List.cons_append, readQuotedFrom]
      simp only [isSpace_of_isWordChar hc, isBreak_of_isWordChar hc,
        ne_of_isWordChar hc (d := '"') (by decide), ne_of_isWordChar hc (d := '\\') (by decide),
        Gap.isLineStart, Gap.none, Bool.false_and, Bool.false_eq_true, false_and, if_false]
      rw [← Gap.none, ih hx]
      rfl

end Words

namespace Scanner

/-! ### Blocks -/

theorem closeBlocks_of_le {column indent : Int} (h : indent ≤ column) (found : List Token)
    (outer : List Int) : closeBlocks column indent found outer = (found, indent, outer) := by
  cases outer with
  | nil => rfl
  | cons next outer => rw [closeBlocks, if_neg (Int.not_lt.mpr h)]

theorem unroll_of_le {s : Scanner} {column : Int} (h : s.indent ≤ column) :
    s.unroll column = s := by
  rw [unroll, closeBlocks_of_le h]
  split <;> rfl

/-! ### Steps -/

theorem skipTo_of_append {s : Scanner} {x y : List Char} (hs : s.rest = x ++ y) :
    s.skipTo y = s.skip x.length := by
  rw [skipTo, hs, List.length_append, Nat.add_sub_cancel]

/-- The place behind a word and the line end and the spaces that follow it. -/
theorem skipTo_of_line {s : Scanner} {x y : List Char} {d : Nat}
    (hx : ∀ c ∈ x, isBreak c = false) (hs : s.rest = x ++ '\n' :: (Outline.indentation d ++ y)) :
    s.skipTo y =
      { s with
        rest := y, line := s.line + 1, column := d, offset := s.offset + octets x + 1 + d } := by
  have whole : s.rest = (x ++ '\n' :: Outline.indentation d) ++ y := by
    rw [hs, List.append_assoc]
    rfl
  have length : (x ++ '\n' :: Outline.indentation d).length = x.length + (1 + d) := by
    rw [List.length_append, List.length_cons, Outline.indentation, List.length_replicate,
      Nat.add_comm d]
  rw [skipTo_of_append whole, length, skip_add, skip_word hx hs, skip_add, skip_break rfl,
    skip_indentation rfl]
  simp only [Nat.zero_add]

theorem plainScalar_of {s t : Scanner} {x y : List Char} {endsLine : Bool}
    (marked : s.markCandidate = some t)
    (read : readPlain ⟨t.inFlow, (t.indent + 1).toNat⟩ t.rest = some ⟨x, endsLine, y⟩) :
    s.plainScalar =
      some { (t.skipTo y).put (.scalar .plain (String.ofList x)) with keyAllowed := endsLine } := by
  rw [plainScalar, marked]
  simp only [Option.bind_eq_bind, Option.bind_some, read]
  rfl

theorem keyPart_of {s t : Scanner} {read : List Char → Option (Token × List Char)} {token : Token}
    {y : List Char} (marked : s.markCandidate = some t)
    (found : read t.rest.tail = some (token, y)) :
    s.keyPart read = some (({ t with keyAllowed := false }.skipTo y).put token) := by
  rw [keyPart, marked]
  simp only [Option.bind_eq_bind, Option.bind_some, readOn, found]
  rfl

/-- A token put in before the last one found. -/
theorem insertIdx_last (t a : Token) (found : List Token) :
    (t :: found).insertIdx ((t :: found).length - found.length) a = t :: a :: found := by
  rw [List.length_cons, Nat.add_sub_cancel_left]
  rfl

theorem insertIdx_last_two (t b a : Token) (found : List Token) :
    (t :: b :: found).insertIdx ((t :: b :: found).length - found.length) a =
      t :: b :: a :: found := by
  rw [List.length_cons, List.length_cons, Nat.add_assoc, Nat.add_sub_cancel_left]
  rfl

/-- The candidate becomes a key, and a block begins before it if it lies to the right. -/
theorem resolveKey_of {s : Scanner} {c : Candidate} {t : Token} {found : List Token}
    (flow : s.inFlow = false) (candidate : s.candidate? = some c) (place : c.place = found.length)
    (last : s.found = t :: found) :
    s.resolveKey = some
      (if (c.column : Int) ≤ s.indent then
        { s with found := t :: .key :: found, candidate? := none, keyAllowed := false }
      else
        { s with
          found := t :: .key :: .blockMapping :: found
          indent := c.column
          outer := s.indent :: s.outer
          candidate? := none
          keyAllowed := false }) := by
  have flow' : ({ s with found := t :: .key :: found } : Scanner).inFlow = false := flow
  rw [resolveKey, candidate]
  simp only [putAt, place, last, insertIdx_last, roll, flow', Bool.false_eq_true, false_or]
  by_cases inside : (c.column : Int) ≤ s.indent
  · simp only [inside, if_true]
  · simp only [inside, if_false, insertIdx_last_two]

/-- Gaps, and candidates that are left behind, do not count. -/
theorem run_of_settled {s t : Scanner} (h : s.skipGap.dropStale = t.skipGap.dropStale)
    (fuel : Nat) : run fuel s = run fuel t := by
  cases fuel with
  | zero => rfl
  | succ fuel => rw [run, run, h]

theorem dropStale_of_isFresh {s : Scanner} {c : Candidate} (candidate : s.candidate? = some c)
    (around : s.around = []) (fresh : s.isFresh c = true) : s.dropStale = some s := by
  have refreshed : s.refresh? s.candidate? = some s.candidate? := by
    rw [candidate, refresh?, if_pos fresh]
  have others : s.around.mapM s.refresh? = some s.around := by
    rw [around]
    rfl
  rw [dropStale, refreshed, others]
  rfl

/-- The ends of blocks are all that is found before the next token. -/
theorem run_of_unroll {s t : Scanner} (hs : IsContent s.rest) (ht : IsContent t.rest)
    (freshS : s.dropStale = some s) (freshT : t.dropStale = some t)
    (h : s.unroll s.column = t.unroll t.column) (fuel : Nat) : run fuel s = run fuel t := by
  cases fuel with
  | zero => rfl
  | succ fuel =>
      rw [run, run, skipGap_content hs, skipGap_content ht, freshS, freshT]
      simp only [Option.bind_eq_bind, Option.bind_some, h]

/-- One step of a run, from a place where no gap is left and no block ends. -/
theorem run_next {s t : Scanner} {c : Char} {rest : List Char} (hs : s.rest = c :: rest)
    (content : IsContent s.rest) (fresh : s.dropStale = some s) (deep : s.indent ≤ s.column)
    (next : s.next c rest = some t) (fuel : Nat) : run (fuel + 1) s = run fuel t := by
  rw [run, skipGap_content content, fresh]
  simp only [Option.bind_eq_bind, Option.bind_some, unroll_of_le deep]
  rw [hs]
  simp only [next, Option.bind_some]

end Scanner

/-! ### Places outside brackets -/

/-- A place outside brackets where no key has begun. -/
structure Spot where
  rest : List Char
  column : Nat
  found : List Token
  indent : Int
  outer : List Int
  keyAllowed : Bool

namespace Spot

/-- The scanner at a place. -/
def scanner (p : Spot) (line offset : Nat) : Scanner where
  rest := p.rest
  line := line
  column := p.column
  offset := offset
  found := p.found
  indent := p.indent
  outer := p.outer
  keyAllowed := p.keyAllowed

/-- What is found behind `p` is found behind `q`, by steps that take a character each. -/
def Leads (p q : Spot) : Prop :=
  ∀ line offset, ∃ line' offset' k, k + q.rest.length ≤ p.rest.length ∧
    ∀ fuel, Scanner.run (fuel + k) (p.scanner line offset) =
      Scanner.run fuel (q.scanner line' offset')

theorem Leads.trans {p q r : Spot} (h₁ : p.Leads q) (h₂ : q.Leads r) : p.Leads r := by
  intro line offset
  obtain ⟨line₁, offset₁, k₁, short₁, run₁⟩ := h₁ line offset
  obtain ⟨line₂, offset₂, k₂, short₂, run₂⟩ := h₂ line₁ offset₁
  refine ⟨line₂, offset₂, k₂ + k₁, by omega, fun fuel => ?_⟩
  rw [← Nat.add_assoc, run₁, run₂]

/-- With a block begun here, unless the innermost one lies at this column. -/
def opened (p : Spot) (t : Token) : Spot :=
  if (p.column : Int) ≤ p.indent then p
  else { p with found := t :: p.found, indent := p.column, outer := p.indent :: p.outer }

variable {p : Spot} {y : List Char} {d : Nat}

theorem dropStale_scanner (p : Spot) (line offset : Nat) :
    (p.scanner line offset).dropStale = some (p.scanner line offset) := rfl

theorem skipGap_scanner (content : IsContent p.rest) (line offset : Nat) :
    (p.scanner line offset).skipGap = p.scanner line offset := Scanner.skipGap_content content

/-- Spaces are passed over. -/
theorem leads_indentation (hy : IsContent y) (rest : p.rest = Outline.indentation d ++ y) :
    p.Leads { p with rest := y, column := p.column + d } := by
  intro line offset
  refine ⟨line, offset + d, 0, by simp [rest], fun fuel => Scanner.run_of_settled ?_ fuel⟩
  rw [Scanner.skipGap_indentation (s := p.scanner line offset) hy rest]
  rw [skipGap_scanner (p := { p with rest := y, column := p.column + d }) hy]
  rfl

/-- A line end and the spaces behind it are passed over, and a key may begin there. -/
theorem leads_break (hy : IsContent y) (rest : p.rest = '\n' :: (Outline.indentation d ++ y)) :
    p.Leads { p with rest := y, column := d, keyAllowed := true } := by
  intro line offset
  refine ⟨line + 1, offset + 1 + d, 0, ?_, fun fuel => Scanner.run_of_settled ?_ fuel⟩
  · simp only [rest, List.length_cons, List.length_append]
    omega
  · rw [Scanner.skipGap_break (s := p.scanner line offset) hy rfl rest]
    rw [skipGap_scanner (p := { p with rest := y, column := d, keyAllowed := true }) hy]
    rfl

/-- A block ends before a place to the left of it. -/
theorem leads_close {next : Int} {outer : List Int} (content : IsContent p.rest)
    (outside : p.outer = next :: outer) (left : (p.column : Int) < p.indent) :
    p.Leads { p with found := .blockEnd :: p.found, indent := next, outer := outer } := by
  intro line offset
  let q : Spot := { p with found := .blockEnd :: p.found, indent := next, outer := outer }
  have closed :
      (p.scanner line offset).unroll p.column = (q.scanner line offset).unroll p.column := by
    simp only [q, Scanner.unroll, scanner, Scanner.inFlow, outside, Scanner.closeBlocks, left,
      if_true]
    rfl
  exact ⟨line, offset, 0, Nat.le_of_eq (Nat.zero_add _),
    Scanner.run_of_unroll content content rfl rfl closed⟩

/-- A step to a place behind the gap that follows a token. -/
theorem leads_next {q : Spot} {c : Char} {rest : List Char} (hp : p.rest = c :: rest)
    (content : IsContent p.rest) (hq : IsContent q.rest) (deep : p.indent ≤ p.column)
    (short : q.rest.length ≤ rest.length)
    (next : ∀ line offset, ∃ t line' offset', (p.scanner line offset).next c rest = some t ∧
      t.skipGap.dropStale = some (q.scanner line' offset')) : p.Leads q := by
  intro line offset
  obtain ⟨t, line', offset', next, settled⟩ := next line offset
  refine ⟨line', offset', 1, by rw [hp, List.length_cons]; omega, fun fuel => ?_⟩
  rw [Scanner.run_next (s := p.scanner line offset) hp content rfl deep next]
  refine Scanner.run_of_settled (settled.trans ?_) fuel
  rw [skipGap_scanner hq]
  rfl

/-! ### Keys -/

/-- What may be a key here. -/
def candidate (p : Spot) (line offset : Nat) : Candidate :=
  ⟨p.found.length, line, p.column, offset, p.indent == p.column⟩

/-- What is remembered of this place. -/
def mark (p : Spot) (line offset : Nat) : Option Candidate :=
  if p.keyAllowed then some (p.candidate line offset) else none

theorem markCandidate_scanner (p : Spot) (line offset : Nat) :
    (p.scanner line offset).markCandidate =
      some { p.scanner line offset with candidate? := p.mark line offset } := by
  rw [Scanner.markCandidate, mark]
  cases allowed : p.keyAllowed <;>
    simp only [scanner, allowed] <;>
    rfl

/-- To the right of a block a candidate may be left behind. -/
theorem dropStale_of_mark {s : Scanner} {line offset : Nat} (deep : p.indent < p.column)
    (candidate : s.candidate? = p.mark line offset) (around : s.around = [])
    (behind : line < s.line) : s.dropStale = some { s with candidate? := none } := by
  have refreshed : s.refresh? s.candidate? = some none := by
    rw [candidate, mark]
    split
    · have stale : s.isFresh (p.candidate line offset) = false := by
        have other : ((p.candidate line offset).line == s.line) = false :=
          beq_eq_false_iff_ne.mpr (Nat.ne_of_lt behind)
        rw [Scanner.isFresh, other]
        rfl
      have free : (p.candidate line offset).required = false :=
        beq_eq_false_iff_ne.mpr (Int.ne_of_lt deep)
      simp only [Scanner.refresh?, stale, free, Bool.false_eq_true, if_false]
    · rfl
  have others : s.around.mapM s.refresh? = some s.around := by
    rw [around]
    rfl
  rw [Scanner.dropStale, refreshed, others]
  rfl

section

variable {key : String}

/-- The scanner behind a key: a plain scalar to it, with a candidate before it. -/
def behindKey (p : Spot) (key : String) (y : List Char) (line offset : Nat) : Scanner :=
  { p.scanner line offset with
    rest := ':' :: y
    column := p.column + key.length
    offset := offset + key.length
    found := .scalar .plain key :: p.found
    keyAllowed := false
    candidate? := some (p.candidate line offset) }

/-- The place behind a key and its colon, perhaps in a mapping that begins with it. -/
def behindColon (p : Spot) (key : String) (y : List Char) : Spot :=
  { p.opened .blockMapping with
    rest := y
    column := p.column + key.length + 1
    found := .value :: .scalar .plain key :: .key :: (p.opened .blockMapping).found
    keyAllowed := false }

theorem next_key {c : Char} {cs : List Char} (hkey : Outline.IsKey key)
    (chars : key.toList = c :: cs) (rest : p.rest = key.toList ++ ':' :: y) (gap : atGap y = true)
    (allowed : p.keyAllowed = true) (line offset : Nat) :
    (p.scanner line offset).next c (cs ++ ':' :: y) = some (p.behindKey key y line offset) := by
  have alnum : c.isAlphanum = true := hkey.chars c (by simp [chars])
  have word : ∀ c ∈ key.toList, Outline.isWordChar c = true := fun c hc =>
    isWordChar_of_isAlphanum (hkey.chars c hc)
  have first : p.rest = c :: (cs ++ ':' :: y) := by rw [rest, chars]; rfl
  have read (n : Nat) : readPlain ⟨false, n⟩ p.rest = some ⟨key.toList, false, ':' :: y⟩ := by
    rw [rest, readPlain, readPlainFrom_word rfl word, readPlainFrom_colon rfl gap]
    simp
  rw [Scanner.next_word (s := p.scanner line offset) first (isWordChar_of_isAlphanum alnum)
    (by rintro rfl; cases alnum) (fun _ => by rintro rfl; cases alnum)]
  rw [Scanner.plainScalar_of (markCandidate_scanner p line offset) (read _), mark, allowed]
  rw [Scanner.skipTo_of_append (x := key.toList) rest,
    Scanner.skip_word (fun c hc => isBreak_of_isWordChar (word c hc)) rest,
    Scanner.octets_of_isAlphanum hkey.chars, String.length_toList, String.ofList_toList]
  rfl

/-- A key is short enough for its candidate to be kept. -/
theorem dropStale_behindKey (hkey : Outline.IsKey key) (line offset : Nat) :
    (p.behindKey key y line offset).dropStale = some (p.behindKey key y line offset) := by
  have size : offset + key.length ≤ offset + 1024 := Nat.add_le_add_left hkey.length _
  exact Scanner.dropStale_of_isFresh rfl rfl
    (Bool.and_eq_true_iff.mpr ⟨beq_self_eq_true line, decide_eq_true size⟩)

/-- At the colon the candidate becomes a key. -/
theorem next_behindKey (gap : atGap y = true) (line offset : Nat) :
    (p.behindKey key y line offset).next ':' y =
      some ((p.behindColon key y).scanner line (offset + key.length + 1)) := by
  rw [Scanner.next_colon rfl gap, Scanner.value,
    Scanner.resolveKey_of (s := p.behindKey key y line offset) (c := p.candidate line offset)
      rfl rfl rfl rfl]
  by_cases inside : (p.column : Int) ≤ p.indent
  · simp only [candidate, behindKey, behindColon, scanner, opened, inside, if_true]
    rfl
  · simp only [candidate, behindKey, behindColon, scanner, opened, inside, if_false]
    rfl

/-- A key, its colon, and perhaps the begin of a mapping. -/
theorem leads_key (hkey : Outline.IsKey key) (rest : p.rest = key.toList ++ ':' :: y)
    (gap : atGap y = true) (allowed : p.keyAllowed = true) (deep : p.indent ≤ p.column) :
    p.Leads (p.behindColon key y) := by
  intro line offset
  obtain ⟨c, cs, chars⟩ : ∃ c cs, key.toList = c :: cs :=
    List.exists_cons_of_ne_nil (by simpa using hkey.some)
  have first : p.rest = c :: (cs ++ ':' :: y) := by rw [rest, chars]; rfl
  have content : IsContent p.rest := by
    rw [first]
    exact isContent_of_isWordChar (isWordChar_of_isAlphanum (hkey.chars c (by simp [chars]))) _
  have behind : p.indent ≤ (p.column + key.length : Nat) :=
    Int.le_trans deep (Int.ofNat_le.mpr (Nat.le_add_right ..))
  refine ⟨line, offset + key.length + 1, 2, ?_, fun fuel => ?_⟩
  · simp only [first, behindColon, List.length_append, List.length_cons]
    omega
  · rw [Scanner.run_next (s := p.scanner line offset) first content rfl deep
        (next_key hkey chars rest gap allowed line offset),
      Scanner.run_next (s := p.behindKey key y line offset) rfl (isContent_colon y)
        (dropStale_behindKey hkey line offset) behind (next_behindKey gap line offset)]

end

/-- Behind a line end no candidate is left. -/
theorem settled_of_break {s : Scanner} {line offset : Nat} (deep : p.indent < p.column)
    (candidate : s.candidate? = p.mark line offset) (around : s.around = []) (same : s.line = line)
    (hy : IsContent y) (hs : s.rest = '\n' :: (Outline.indentation d ++ y)) :
    s.skipGap.dropStale =
      some
        { s with
          rest := y, line := line + 1, column := d, offset := s.offset + 1 + d
          keyAllowed := true, candidate? := none } := by
  have flow : s.inFlow = false := by rw [Scanner.inFlow, around]; rfl
  rw [Scanner.skipGap_break hy flow hs, same]
  exact dropStale_of_mark (s := { s with
    rest := y, line := line + 1, column := d, offset := s.offset + 1 + d, keyAllowed := true })
    deep candidate around (Nat.lt_succ_self line)

/-! ### Values -/

/-- The place on the next line, behind some tokens. -/
def onNextLine (p : Spot) (found : List Token) (d : Nat) (y : List Char) : Spot :=
  { p with rest := y, column := d, found := found ++ p.found, keyAllowed := true }

/-- A plain word at the end of its line. -/
theorem leads_plain {text : String} (htext : Outline.IsWord text)
    (rest : p.rest = text.toList ++ '\n' :: (Outline.indentation d ++ y)) (hy : IsContent y)
    (hd : y = [] ∨ (d : Int) ≤ p.indent) (deep : p.indent < p.column) (right : 0 < p.column) :
    p.Leads (p.onNextLine [.scalar .plain text] d y) := by
  obtain ⟨c, cs, chars⟩ : ∃ c cs, text.toList = c :: cs :=
    List.exists_cons_of_ne_nil (by simpa using htext.some)
  have first : p.rest = c :: (cs ++ '\n' :: (Outline.indentation d ++ y)) := by
    rw [rest, chars]
    rfl
  have word : Outline.isWordChar c = true := htext.chars c (by simp [chars])
  have dash : c ≠ '-' := htext.head c (by simp [chars])
  have content : IsContent p.rest := by
    rw [first]
    exact isContent_of_isWordChar word _
  have unbroken : ∀ c ∈ text.toList, isBreak c = false := fun c hc =>
    isBreak_of_isWordChar (htext.chars c hc)
  have read : readPlain ⟨false, (p.indent + 1).toNat⟩ p.rest = some ⟨text.toList, true, y⟩ := by
    have near : y = [] ∨ d < (p.indent + 1).toNat := hd.imp id fun h => by omega
    rw [rest, readPlain, readPlainFrom_word rfl htext.chars, readPlainFrom_break rfl hy near]
    simp
  refine leads_next first content hy (Int.le_of_lt deep) ?_ fun line offset => ?_
  · simp only [onNextLine, List.length_append, List.length_cons]
    omega
  let t : Scanner :=
    { (p.onNextLine [.scalar .plain text] d y).scanner (line + 1)
        (offset + Scanner.octets text.toList + 1 + d) with candidate? := p.mark line offset }
  refine ⟨t, line + 1, offset + Scanner.octets text.toList + 1 + d, ?_, ?_⟩
  · rw [Scanner.next_word (s := p.scanner line offset) first word dash
        (fun h => absurd h (Nat.ne_of_gt right)),
      Scanner.plainScalar_of (markCandidate_scanner p line offset) read,
      Scanner.skipTo_of_line unbroken rest, String.ofList_toList]
    rfl
  · rw [Scanner.skipGap_content (s := t) hy]
    exact dropStale_of_mark (s := t) deep rfl rfl (Nat.lt_succ_self line)

/-- The scanner behind a value at the end of its line, where the mark made before it is kept. -/
def behindValue (p : Spot) (found : List Token) (width octets d : Nat) (y : List Char)
    (line offset : Nat) : Scanner :=
  { p.scanner line offset with
    rest := '\n' :: (Outline.indentation d ++ y)
    column := p.column + width
    offset := offset + octets
    found := found ++ p.found
    keyAllowed := false
    candidate? := p.mark line offset }

/-- On the next line the mark is gone. -/
theorem settled_behindValue (hy : IsContent y) (deep : p.indent < p.column) (found : List Token)
    (width octets line offset : Nat) :
    (p.behindValue found width octets d y line offset).skipGap.dropStale =
      some ((p.onNextLine found d y).scanner (line + 1) (offset + octets + 1 + d)) :=
  settled_of_break (s := p.behindValue found width octets d y line offset) deep rfl rfl rfl hy rfl

/-- A word in quotes at the end of its line. -/
theorem leads_quoted {text : String} (htext : Outline.IsWord text)
    (rest : p.rest = Outline.wordChars true text ++ '\n' :: (Outline.indentation d ++ y))
    (hy : IsContent y) (deep : p.indent < p.column) :
    p.Leads (p.onNextLine [.scalar .quoted text] d y) := by
  have first : p.rest = '"' :: (text.toList ++ '"' :: '\n' :: (Outline.indentation d ++ y)) := by
    rw [rest]
    simp [Outline.wordChars]
  have content : IsContent p.rest := by
    rw [first]
    rintro c ⟨⟩
    decide
  have unbroken : ∀ c ∈ Outline.wordChars true text, isBreak c = false := by
    intro c hc
    have hc : c = '"' ∨ c ∈ text.toList ∨ c = '"' := by simpa [Outline.wordChars] using hc
    rcases hc with rfl | hc | rfl
    · rfl
    · exact isBreak_of_isWordChar (htext.chars c hc)
    · rfl
  have read : readQuoted '"' p.rest.tail =
      some (text.toList, '\n' :: (Outline.indentation d ++ y)) := by
    rw [first]
    exact readQuotedFrom_word htext.chars
  have found := congrArg (Option.map fun (text, rest) =>
    (Token.scalar .quoted (String.ofList text), rest)) read
  refine leads_next first content hy (Int.le_of_lt deep) ?_ fun line offset =>
    ⟨_, _, _, ?_, settled_behindValue hy deep _ (Outline.wordChars true text).length
      (Scanner.octets (Outline.wordChars true text)) line offset⟩
  · simp only [onNextLine, List.length_append, List.length_cons]
    omega
  · rw [Scanner.next_quote (s := p.scanner line offset) first,
      Scanner.keyPart_of (markCandidate_scanner p line offset) found,
      Scanner.skipTo_of_append (x := Outline.wordChars true text) rest,
      Scanner.skip_word unbroken rest, String.ofList_toList]
    rfl

/-- The scanner between two brackets; what was marked before them lies around it. -/
def inBrackets (p : Spot) (d : Nat) (y : List Char) (line offset : Nat) : Scanner :=
  { p.scanner line offset with
    rest := ']' :: '\n' :: (Outline.indentation d ++ y)
    column := p.column + 1
    offset := offset + 1
    found := .flowSequence :: p.found
    keyAllowed := true
    around := [p.mark line offset] }

theorem next_brackets (rest : p.rest = '[' :: ']' :: '\n' :: (Outline.indentation d ++ y))
    (line offset : Nat) :
    (p.scanner line offset).next '[' (']' :: '\n' :: (Outline.indentation d ++ y)) =
      some (p.inBrackets d y line offset) := by
  rw [Scanner.next_bracket (s := p.scanner line offset) rest, Scanner.openFlow,
    markCandidate_scanner]
  simp only [Option.bind_eq_bind, Option.bind_some, Scanner.skip, scanner, rest]
  rfl

/-- One character behind it a mark is kept. -/
theorem dropStale_inBrackets (line offset : Nat) :
    (p.inBrackets d y line offset).dropStale = some (p.inBrackets d y line offset) := by
  have kept : (p.inBrackets d y line offset).refresh? (p.mark line offset) =
      some (p.mark line offset) := by
    rw [mark]
    split
    · have near : (p.inBrackets d y line offset).isFresh (p.candidate line offset) = true :=
        Bool.and_eq_true_iff.mpr ⟨beq_self_eq_true line, decide_eq_true (by
          show offset + 1 ≤ offset + 1024
          omega)⟩
      rw [Scanner.refresh?, if_pos near]
    · rfl
  have others : (p.inBrackets d y line offset).around.mapM
      (p.inBrackets d y line offset).refresh? = some (p.inBrackets d y line offset).around := by
    show [p.mark line offset].mapM (p.inBrackets d y line offset).refresh? =
      some [p.mark line offset]
    rw [List.mapM_cons, kept]
    rfl
  rw [Scanner.dropStale, others]
  rfl

theorem next_inBrackets (line offset : Nat) :
    (p.inBrackets d y line offset).next ']' ('\n' :: (Outline.indentation d ++ y)) =
      some (p.behindValue [.flowSequenceEnd, .flowSequence] 2 2 d y line offset) := by
  rw [Scanner.next_closing (s := p.inBrackets d y line offset) rfl]
  rfl

/-- A list without items at the end of its line. -/
theorem leads_nothing (rest : p.rest = '[' :: ']' :: '\n' :: (Outline.indentation d ++ y))
    (hy : IsContent y) (deep : p.indent < p.column) :
    p.Leads (p.onNextLine [.flowSequenceEnd, .flowSequence] d y) := by
  have opening : IsContent p.rest := by
    rw [rest]
    rintro c ⟨⟩
    decide
  have closing : IsContent (']' :: '\n' :: (Outline.indentation d ++ y)) := by
    rintro c ⟨⟩
    decide
  intro line offset
  have inside : p.indent ≤ (p.column + 1 : Nat) := by omega
  refine ⟨line + 1, offset + 2 + 1 + d, 2, ?_, fun fuel => ?_⟩
  · simp only [rest, onNextLine, List.length_append, List.length_cons]
    omega
  · rw [Scanner.run_next (s := p.scanner line offset) rest opening rfl (Int.le_of_lt deep)
        (next_brackets rest line offset),
      Scanner.run_next (s := p.inBrackets d y line offset) rfl closing
        (dropStale_inBrackets line offset) inside (next_inBrackets line offset)]
    refine Scanner.run_of_settled ((settled_behindValue hy deep _ 2 2 line offset).trans ?_) fuel
    rw [skipGap_scanner (p := p.onNextLine [.flowSequenceEnd, .flowSequence] d y) hy]
    rfl

/-- A block begins where a key may begin. -/
theorem rollHere_scanner (allowed : p.keyAllowed = true) (t : Token) (line offset : Nat) :
    (p.scanner line offset).rollHere t = some ((p.opened t).scanner line offset) := by
  have allowed' : (p.scanner line offset).keyAllowed = true := allowed
  have flow : (p.scanner line offset).inFlow = false := rfl
  rw [Scanner.rollHere, flow, allowed', opened]
  simp only [Bool.false_eq_true, if_false, if_true, Scanner.roll, flow, false_or, Scanner.putAt]
  by_cases inside : (p.column : Int) ≤ p.indent
  · simp only [scanner, inside, if_true]
  · simp only [scanner, inside, if_false, Nat.sub_self, List.insertIdx_zero]

/-- A dash, and perhaps the begin of a list. -/
theorem leads_dash (rest : p.rest = '-' :: ' ' :: y) (hy : IsContent y)
    (allowed : p.keyAllowed = true) (deep : p.indent ≤ p.column) :
    p.Leads
      { p.opened .blockSequence with
        rest := y
        column := p.column + 2
        found := .blockEntry :: (p.opened .blockSequence).found
        keyAllowed := true } := by
  have content : IsContent p.rest := by
    rw [rest]
    rintro c ⟨⟩
    decide
  -- behind the dash, before the space
  let q : Spot :=
    { p.opened .blockSequence with
      rest := Outline.indentation 1 ++ y
      column := p.column + 1
      found := .blockEntry :: (p.opened .blockSequence).found
      keyAllowed := true }
  have begun (line offset : Nat) : (p.scanner line offset).next '-' (' ' :: y) =
      some (q.scanner line (offset + 1)) := by
    have same : (p.opened .blockSequence).rest = p.rest ∧
        (p.opened .blockSequence).column = p.column := by
      rw [opened]
      split <;> exact ⟨rfl, rfl⟩
    rw [Scanner.next_dash (s := p.scanner line offset) rest, Scanner.blockEntry,
      rollHere_scanner allowed]
    simp only [Option.bind_eq_bind, Option.bind_some, Scanner.dropCandidate, scanner, Scanner.skip,
      same, rest, q]
    rfl
  refine leads_next rest content hy deep (Nat.le_succ _) fun line offset =>
    ⟨q.scanner line (offset + 1), line, offset + 1 + 1, begun line offset, ?_⟩
  rw [Scanner.skipGap_indentation (s := q.scanner line (offset + 1)) hy rfl]
  rfl

end Spot

end Subgraph.Yaml
